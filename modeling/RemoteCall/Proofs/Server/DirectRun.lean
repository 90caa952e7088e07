import RemoteCall.Proofs.Server.Event
import RemoteCall.Server.Handler

/-!
# What a handler does by itself

`Handler.Runs` runs a handler on its own: no transport, no scheduler and no waiting. Before it
lies a `Desk` with the requests that it has not read and with its context; every write is
accepted, and a request stream that was read to its end stays at its end. A run that comes to its
end tells a `Story`: what the handler read, and what it has to say to the client.

A handler that sleeps, waits to be cancelled or gives away what it was given has no such run.
-/

namespace RemoteCall.Server

variable {σ P Req Resp S : Type}

/-- The flags of a message that is written with a wish about compression. -/
def Context.flags (context : Context σ) (transport : Bool) (compression : Compression) :
    MessageFlags :=
  let allowed := transport && context.compression
  .compressed (allowed && compression.resolve allowed)

/-- The use of the context that a wish asks for, and how the handler goes on. -/
def Wish.use? : Wish σ Req Resp S → Option (Use σ × S)
  | stageHeader name value go => some (.stageHeader name value, go)
  | stageTrailer name value go => some (.stageTrailer name value, go)
  | allowCompression allowed go => some (.allowCompression allowed, go)
  | note update go => some (.note update, go)
  | _ => none

/-- What lies before a handler. -/
structure Desk (σ Req : Type) where
  /-- The requests that it has not read. -/
  unread : List Req
  context : Context σ
  /-- The headers of the response, once there was a part of it. -/
  opened : Option Metadata := none

namespace Desk

/-- The headers of the response: those staged before its first part. -/
def initial (d : Desk σ Req) : Metadata := d.opened.getD d.context.responseHeaders

/-- The desk after a part of the response. -/
def answered (d : Desk σ Req) : Desk σ Req :=
  match d.opened with
  | some _ => d
  | none =>
    { d with
      opened := some d.context.responseHeaders
      context := { d.context with responseHeaders := .empty } }

theorem opened_answered (d : Desk σ Req) : d.answered.opened = some d.initial := by
  unfold answered initial
  cases before : d.opened with
  | none => rfl
  | some m => exact before

/-- The desk after a read. -/
def turned (d : Desk σ Req) : Desk σ Req := { d with unread := d.unread.tail }

/-- The desk after a use of the context. -/
def used (d : Desk σ Req) (how : Use σ) : Desk σ Req :=
  { d with context := how.apply d.context }

end Desk

/-- What a handler read, and what it says to its client. -/
structure Story (Req Resp : Type) where
  /-- The answers to its reads; `none` says that the requests are at their end. -/
  reads : List (Option Req) := []
  /-- The headers staged before the first part of the response. -/
  initial : Metadata
  /-- The responses, in the order in which they were written. -/
  responses : List (Resp × MessageFlags) := []
  status : Status
  /-- The trailers staged before the end. -/
  trailers : Metadata
  /-- The number of its wishes. -/
  wishes : Nat

namespace Story

/-- The story of a handler that returns at once. -/
def ending (d : Desk σ Req) (status : Status) : Story Req Resp where
  initial := d.initial
  status := status
  trailers := d.context.trailers
  wishes := 1

/-- The story with one wish more at its start that leaves no trace. -/
def afterWish (story : Story Req Resp) : Story Req Resp :=
  { story with wishes := story.wishes + 1 }

/-- The story with one read more at its start. -/
def afterRead (story : Story Req Resp) (answer : Option Req) : Story Req Resp :=
  { story with reads := answer :: story.reads, wishes := story.wishes + 1 }

/-- The story with one response more at its start. -/
def afterWrite (story : Story Req Resp) (message : Resp) (flags : MessageFlags) :
    Story Req Resp :=
  { story with
    responses := (message, flags) :: story.responses
    wishes := story.wishes + 1 }

end Story

/-- A handler that finds this desk in a state comes to its end, with this story. -/
inductive Handler.Runs (shape : CallShape) (transport : Bool) (handler : Handler σ Req Resp S) :
    Desk σ Req → S → Story Req Resp → Prop where
  | read {d : Desk σ Req} {state : S} {story : Story Req Resp} {go : Result (Option Req) → S}
      (wish : handler.wish state = .pull go) (streams : shape.streamsRequests = true)
      (rest : Runs shape transport handler d.turned (go (.ok d.unread.head?)) story) :
      Runs shape transport handler d state (story.afterRead d.unread.head?)
  /-- Without a request stream there is nothing to read. -/
  | readNothing {d : Desk σ Req} {state : S} {story : Story Req Resp}
      {go : Result (Option Req) → S} (wish : handler.wish state = .pull go)
      (single : shape.streamsRequests = false)
      (rest : Runs shape transport handler d (go (.ok none)) story) :
      Runs shape transport handler d state story.afterWish
  | write {d : Desk σ Req} {state : S} {story : Story Req Resp} {message : Resp}
      {compression : Compression} {go : Result Unit → S}
      (wish : handler.wish state = .write message compression go)
      (streams : shape.streamsResponses = true)
      (rest : Runs shape transport handler d.answered (go (.ok ())) story) :
      Runs shape transport handler d state
        (story.afterWrite message (d.context.flags transport compression))
  | use {d : Desk σ Req} {state next : S} {story : Story Req Resp} {how : Use σ}
      (wish : (handler.wish state).use? = some (how, next))
      (rest : Runs shape transport handler (d.used how) next story) :
      Runs shape transport handler d state story.afterWish
  | observe {d : Desk σ Req} {state : S} {story : Story Req Resp} {go : View σ → S}
      (wish : handler.wish state = .observe go)
      (rest : Runs shape transport handler d (go d.context.view) story) :
      Runs shape transport handler d state story.afterWish
  /-- Returning the one response writes it. -/
  | respond {d : Desk σ Req} {state : S} {message : Resp}
      (wish : handler.wish state = .finish (.ok (some message)))
      (single : shape.streamsResponses = false) :
      Runs shape transport handler d state
        ((Story.ending d .success).afterWrite message (d.context.flags transport .deferred))
  | succeed {d : Desk σ Req} {state : S} (wish : handler.wish state = .finish (.ok none))
      (streams : shape.streamsResponses = true) :
      Runs shape transport handler d state (.ending d .success)
  | fail {d : Desk σ Req} {state : S} {e : CallError}
      (wish : handler.wish state = .finish (.error e)) (bad : e.toStatus.isOk = false) :
      Runs shape transport handler d state (.ending d e.toStatus)

namespace Story

def messages (story : Story Req Resp) : List Resp := story.responses.map Prod.fst

/-- What a client gets that takes one response. -/
def outcome (story : Story Req Resp) : Result Resp :=
  match story.messages with
  | message :: _ => .ok message
  | [] => .error (.status story.status)

/-- What a stream of the responses ends with. -/
def terminal (story : Story Req Resp) : Result Unit :=
  if story.status.isOk then .ok () else .error (.status story.status)

/-- The parts of the story for the client, given whether the response was opened before. -/
def parts (story : Story Req Resp) (opened : Bool) : List (ResponsePart Resp) :=
  (if opened then [] else [.headers story.initial]) ++
    story.responses.map (fun response => .message response.1 response.2) ++
    [.finish story.status story.trailers]

theorem parts_false (story : Story Req Resp) :
    story.parts false = .headers story.initial :: story.parts true := by
  simp [parts]

theorem parts_afterWrite (story : Story Req Resp) (message : Resp) (flags : MessageFlags)
    (opened : Bool) :
    (story.afterWrite message flags).parts opened =
      (if opened then [] else [.headers story.initial]) ++
        .message message flags :: story.parts true := by
  cases opened <;> simp [parts, afterWrite]

theorem parts_ending (d : Desk σ Req) (status : Status) (opened : Bool) :
    (ending d status : Story Req Resp).parts opened =
      (if opened then [] else [.headers d.initial]) ++ [.finish status d.context.trailers] := by
  cases opened <;> simp [parts, ending]

theorem ending_answered (d : Desk σ Req) (status : Status) :
    (ending d.answered status : Story Req Resp) = ending d status := by
  have initial : d.answered.initial = d.initial := by
    rw [Desk.initial, d.opened_answered, Option.getD_some]
  have trailers : d.answered.context.trailers = d.context.trailers := by
    unfold Desk.answered
    cases d.opened <;> rfl
  unfold ending
  rw [initial, trailers]

/-- Whether a shape that answers once got what it needs: one response with a success, none with a
failure. -/
def Fits (story : Story Req Resp) (shape : CallShape) : Prop :=
  shape.streamsResponses = false →
    (story.status.isOk = true ∧ ∃ response, story.responses = [response]) ∨
      (story.status.isOk = false ∧ story.responses = [])

end Story

/-- Reads take the unread requests in order, and then nothing. -/
theorem Handler.Runs.reads_prefix {story : Story Req Resp} {shape : CallShape}
    {transport : Bool} {handler : Handler σ Req Resp S} {d : Desk σ Req} {state : S}
    (runs : handler.Runs shape transport d state story) :
    ∃ taken ends, story.reads = (d.unread.take taken).map some ++ List.replicate ends none ∧
      (ends ≠ 0 → d.unread.length ≤ taken) := by
  induction runs with
  | readNothing wish single rest ih => exact ih
  | use wish rest ih => exact ih
  | observe wish rest ih => exact ih
  | respond wish single => exact ⟨0, 0, rfl, by simp⟩
  | succeed wish streams => exact ⟨0, 0, rfl, by simp⟩
  | fail wish bad => exact ⟨0, 0, rfl, by simp⟩
  | @write d state story message compression go wish streams rest ih =>
    have unread : d.answered.unread = d.unread := by
      unfold Desk.answered
      cases d.opened <;> rfl
    rw [unread] at ih
    exact ih
  | @read d state story go wish streams rest ih =>
    obtain ⟨taken, ends, reads, complete⟩ := ih
    simp only [Desk.turned] at reads complete
    cases unread : d.unread with
    | nil =>
      rw [unread] at reads
      refine ⟨0, ends + 1, ?_, by simp⟩
      simp only [Story.afterRead, reads, List.head?_nil, List.tail_nil, List.take_nil, List.map_nil,
        List.nil_append, List.replicate_succ]
    | cons request later =>
      rw [unread] at reads complete
      refine ⟨taken + 1, ends, ?_, fun some => ?_⟩
      · simp only [Story.afterRead, reads, List.head?_cons, List.tail_cons, List.take_succ_cons,
          List.map_cons, List.cons_append]
      · have bound := complete some
        simp only [List.tail_cons] at bound
        simp only [List.length_cons]
        omega

/-- Once the response is opened, its headers stay. -/
theorem Handler.Runs.initial_of_opened {story : Story Req Resp} {shape : CallShape}
    {transport : Bool} {handler : Handler σ Req Resp S} {d : Desk σ Req} {state : S}
    (runs : handler.Runs shape transport d state story) {m : Metadata}
    (opened : d.opened = some m) :
    story.initial = m := by
  have ending : d.initial = m := by rw [Desk.initial, opened, Option.getD_some]
  induction runs with
  | read wish streams rest ih => exact ih opened ending
  | readNothing wish single rest ih => exact ih opened ending
  | use wish rest ih => exact ih opened (by rw [Desk.initial, Desk.used, opened, Option.getD_some])
  | observe wish rest ih => exact ih opened ending
  | respond wish single => exact ending
  | succeed wish streams => exact ending
  | fail wish bad => exact ending
  | @write d state story message compression go wish streams rest ih =>
    have answered : d.answered = d := by rw [Desk.answered, opened]
    rw [answered] at ih
    exact ih opened ending

theorem Handler.Runs.fits {story : Story Req Resp} {shape : CallShape} {transport : Bool}
    {handler : Handler σ Req Resp S} {d : Desk σ Req} {state : S}
    (runs : handler.Runs shape transport d state story) :
    story.Fits shape := by
  induction runs with
  | read wish streams rest ih => exact ih
  | readNothing wish single rest ih => exact ih
  | use wish rest ih => exact ih
  | observe wish rest ih => exact ih
  | respond wish single => exact fun _ => Or.inl ⟨rfl, _, rfl⟩
  | fail wish bad => exact fun _ => Or.inr ⟨bad, rfl⟩
  | write wish streams rest ih => exact fun single => by simp [streams] at single
  | succeed wish streams => exact fun single => by simp [streams] at single

end RemoteCall.Server
