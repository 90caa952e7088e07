import RemoteCall.Proofs.Server.Steps

/-!
# What one step can do to a call

Every step of every operation of a call is a `Floor.Step`, of a kind that says where it is done.
What holds of all steps, or of a routine as soon as it holds of its parts, holds of the operations:
`Steps.covers_emitBehindGate`, `Steps.covers_emit` and `Event.covers_steps` go through their code
once for all such properties.
-/

namespace RemoteCall.Server

variable {σ P Req Resp : Type}

/-- Where a step is done. -/
inductive Place where
  /-- At any moment. -/
  | anywhere
  /-- In an attempt to end the call. -/
  | concluding
  /-- By the one who holds the outbound gate. -/
  | behindGate
  /-- In passing the gate. -/
  | atGate
  /-- Where the request side is closed. -/
  | closing
  /-- Where parts are handed to the transport. -/
  | atTransport

/-- What one step can do, and where. -/
inductive Floor.Step : Place → Floor σ P Req Resp → Floor σ P Req Resp → Prop where
  | look (floor : Floor σ P Req Resp) : Step .anywhere floor floor
  | start (request : Option Req) (floor : Floor σ P Req Resp) :
      Step .anywhere floor (floor.ask (.start request))
  | advance (streams : Bool) (part : RequestPart Req) (floor : Floor σ P Req Resp) :
      Step .anywhere floor ((floor.mapCall fun call => (Pass.advance streams call part).1).log
        (.arrives part))
  | suppress (floor : Floor σ P Req Resp) : Step .anywhere floor (floor.mapCall Call.suppress)
  | cancel (floor : Floor σ P Req Resp) : Step .anywhere floor (floor.mapCall Call.cancelScope)
  | takeTrailers (status : Status) (floor : Floor σ P Req Resp) :
      Step .concluding floor ((floor.mapCall fun call => call.takeTrailers.2).log
        (.takes status floor.call.takeTrailers.1))
  | note (update : σ → σ) (floor : Floor σ P Req Resp) :
      Step .anywhere floor (floor.mapCall fun call =>
        { call with context := { call.context with shared := update call.context.shared } })
  | use (how : Use σ) (floor : Floor σ P Req Resp) : Step .anywhere floor (floor.use how)
  | poll (floor : Floor σ P Req Resp) : Step .anywhere floor floor.poll
  | abandon (floor : Floor σ P Req Resp) :
      Step .anywhere floor (floor.mapCall fun call =>
        { call with requests := call.requests.abandon })
  | openHeaders (floor : Floor σ P Req Resp) :
      Step .behindGate floor (floor.mapCall fun call => call.openHeaders.2)
  | takeHeaders (floor : Floor σ P Req Resp) :
      Step .behindGate floor ((floor.mapCall fun call => call.takeHeaders.2).log
        (.opens floor.call.takeHeaders.1))
  | close (floor : Floor σ P Req Resp) : Step .behindGate floor (floor.mapCall Call.close)
  | gate (emitting : Bool) (floor : Floor σ P Req Resp) :
      Step .atGate floor (floor.setEmitting emitting)
  | refuse (floor : Floor σ P Req Resp) (shut : floor.isShut = true) : Step .atGate floor floor
  | pass (part : ResponsePart Resp) (floor : Floor σ P Req Resp) (isOpen : floor.isShut = false) :
      Step .atGate floor (floor.log (.passes part))
  | shut (floor : Floor σ P Req Resp) :
      Step .closing floor (floor.mapCall fun call => call.shutInbound.2)
  | failRequests (e : CallError) (floor : Floor σ P Req Resp) :
      Step .closing floor (floor.mapCall (Call.failRequests e))
  | allow (part : ResponsePart Resp) (floor : Floor σ P Req Resp) :
      Step .atTransport floor (floor.mapCall fun call => (call.allow part).2)
  | hand (encoded : ResponsePart P) (floor : Floor σ P Req Resp) :
      Step .atTransport floor
        ((floor.mapCall fun call => { call with sent := call.sent + 1 }).ask (.send encoded))

namespace Steps

open Routine

variable {holds : (α : Type) → On σ P Req Resp α → Prop} (method : Method σ P Req Resp)

section Anywhere

theorem covers_closeInbound (covers : Covers (Floor.Step .closing) holds) (e : CallError) :
    holds Unit (closeInbound e) := by
  refine covers.bind (covers.atomically .shut) fun streams => ?_
  cases streams with
  | true => exact covers.act (.failRequests e)
  | false => exact covers.value ()

variable (covers : Covers (Floor.Step .anywhere) holds) (closing : ∀ e, holds Unit (closeInbound e))

include covers closing

theorem covers_loseClient (e : CallError) : holds (List Receipt) (loseClient e) :=
  covers.bind (closing e) fun _ => covers.bind (covers.act .suppress) fun _ =>
    covers.bind (covers.act .cancel) fun _ => covers.value []

theorem covers_release : holds Bool release := by
  refine covers.bind (covers.single _ id _ .look) fun cancelled => ?_
  cases cancelled with
  | true => exact covers.value false
  | false => exact covers.bind (covers_loseClient covers closing _) fun _ => covers.value true

omit closing in
/-- What leaves the chain. -/
theorem covers_toTransport (handing : Covers (Floor.Step .atTransport) holds)
    (part : ResponsePart Resp) : holds (List Receipt) (toTransport method part) := by
  have writes : ∀ part, holds (List Receipt) (write method part) := by
    intro part
    unfold write
    cases part.tryMap method.responses.encode with
    | ok encoded => exact handing.atomically (.hand encoded)
    | error e => exact covers.value _
  have all : ∀ admitted, holds (List Receipt) (forEach (write method) admitted) := by
    intro admitted
    induction admitted with
    | nil => exact covers.value []
    | cons part rest ih => exact covers.andThen (writes part) ih
  refine covers.bind (handing.atomically (.allow part)) fun admitted =>
    covers.bind (all admitted) fun receipts => ?_
  split
  · exact covers.bind (covers.act .cancel) fun _ => covers.value receipts
  · exact covers.value receipts

omit closing in
theorem covers_start (request : Option Req) :
    holds (List Receipt) (do .act (·.ask (.start request)); return []) :=
  covers.bind (covers.act (.start request)) fun _ => covers.value []

variable (concluding : Covers (Floor.Step .concluding) holds)

include concluding

omit closing in
theorem covers_onRequestWhileEmitting (part : RequestPart Req) :
    holds (List Receipt) (onRequestWhileEmitting method part) := by
  refine covers.bind (covers.atomically (.advance method.shape.streamsRequests part)) ?_
  intro reaction
  cases reaction with
  | ignore => exact covers.value []
  | start request => exact covers_start covers request
  | reject reason =>
    exact covers.bind (concluding.atomically (.takeTrailers reason.status)) fun _ =>
      covers.single _ id _ .look

theorem covers_outboundEdges (arrival : Arrival (RequestPart Req)) :
    holds (List Receipt) ((outboundEdges method).arrive arrival) := by
  cases arrival with
  | part part => exact covers_onRequestWhileEmitting method covers concluding part
  | failure e => exact covers_loseClient covers closing e

/-- A part that is sent through the chain. -/
theorem covers_send (transports : ∀ part, holds (List Receipt) (toTransport method part))
    (part : ResponsePart Resp) : holds (List Receipt) (send method part) :=
  covers.bind (covers.single _ id _ .look) fun path =>
    Chain.sendSteps_in (covers.closes .note .look)
      (covers_outboundEdges method covers closing concluding) path transports method.chain part

omit closing concluding

variable (behind : Covers (Floor.Step .behindGate) holds)
  (sends : ∀ part, holds (List Receipt) (send method part))

include behind sends

/-- An emission that has passed the gate. -/
theorem covers_emitBehindGate (part : ResponsePart Resp) :
    holds (List Receipt) (emitBehindGate method part) := by
  have opens : holds (ResponsePart Resp × List Receipt) (openResponse method part) := by
    refine covers.bind (behind.atomically .openHeaders) fun opened => ?_
    cases opened with
    | true => exact covers.value (part, [])
    | false =>
      refine covers.bind (behind.atomically .takeHeaders) fun staged => ?_
      cases part with
      | headers m => exact covers.value _
      | message a flags => exact covers.bind (sends _) fun _ => covers.value _
      | finish status trailers => exact covers.bind (sends _) fun _ => covers.value _
  refine covers.bind opens fun opened => covers.bind ?_ fun _ =>
    covers.bind (sends _) fun _ => covers.value _
  unfold closeGate
  split
  · exact behind.act .close
  · exact covers.value ()

/-- A whole emission. -/
theorem covers_emit (gate : Covers (Floor.Step .atGate) holds) (part : ResponsePart Resp) :
    holds (Result (List Receipt)) (emit method part) := by
  have leaves := gate.act (Floor.Step.gate false)
  have knocks : ∀ floor : Floor σ P Req Resp,
      Floor.Step .atGate floor (if floor.isShut then floor else floor.log (.passes part)) := by
    intro floor
    split
    · next shut => exact .refuse floor shut
    · next isOpen => exact .pass part floor (eq_false_of_ne_true isOpen)
  refine covers.bind (gate.single _ _ _ (.gate true)) fun _ =>
    covers.bind (gate.atomically knocks) fun shut => ?_
  cases shut with
  | true => exact covers.bind leaves fun _ => covers.value _
  | false =>
    exact covers.bind (covers_emitBehindGate method covers behind sends part)
      fun _ => covers.bind leaves fun _ => covers.value _

omit behind sends

/-- An attempt to end the call. -/
theorem covers_finish (concluding : Covers (Floor.Step .concluding) holds) (status : Status)
    (emits : ∀ trailers, holds (Result (List Receipt)) (emit method (.finish status trailers))) :
    holds (List Receipt) (finish method status) :=
  covers.bind (concluding.atomically (.takeTrailers status)) fun _ =>
    covers.bind (emits _) fun _ => covers.value []

end Anywhere

end Steps

/-- Whether with such an event there may be an attempt to end the call with this status. -/
def Event.Attempts (method : Method σ P Req Resp) : Event σ P Req Resp → Status → Prop
  | receive part, status =>
    (∃ e, part.tryMap method.requests.decode = .error e ∧ status = e.toStatus) ∨
      ∃ reason : Pass.Rejection, status = reason.status
  | error _, status => ∃ reason : Pass.Rejection, status = reason.status
  | finish (.ok ()), status => status = .success
  | finish (.error e), status => status = e.toStatus
  | _, _ => False

/-- Whether the event is a write of this message. -/
def Event.Writes : Event σ P Req Resp → Resp → Prop
  | write _ message _, written => written = message
  | _, _ => False

/-- Whatever holds of the emissions of an event, and of what is handed to the transport unless only
emissions come there, holds of the event. -/
theorem Event.covers_steps {holds : (α : Type) → Steps.On σ P Req Resp α → Prop}
    (method : Method σ P Req Resp) (covers : Routine.Covers (Floor.Step .anywhere) holds)
    (closing : ∀ e, holds Unit (Steps.closeInbound e)) (event : Event σ P Req Resp)
    (writes : ∀ message flags, event.Writes message →
      holds _ (Steps.emit method (.message message flags)))
    (finishes : ∀ status, event.Attempts method status → holds _ (Steps.finish method status))
    (transports : method.chain.SendsNothingBack ∨
      ∀ part, holds _ (Steps.toTransport method part)) :
    holds Yield (event.steps method) := by
  have arrives : (∀ reason : Pass.Rejection, event.Attempts method reason.status) →
      ∀ arrival, holds (List Receipt) (Steps.arrive method arrival) := by
    intro rejects
    have edges : ∀ arrival, holds (List Receipt) ((Steps.inboundEdges method).arrive arrival) := by
      intro arrival
      cases arrival with
      | failure e => exact Steps.covers_loseClient covers closing e
      | part part =>
        refine covers.bind (covers.atomically (.advance method.shape.streamsRequests part)) ?_
        intro reaction
        cases reaction with
        | ignore => exact covers.value []
        | start request => exact Steps.covers_start covers request
        | reject reason => exact finishes reason.status (rejects reason)
    intro arrival
    refine covers.bind (covers.single _ id _ .look) fun path => ?_
    rcases transports with quiet | transports
    · exact Chain.Passes.arriveSteps_in (covers.closes .note .look) quiet
        (fun arrival _ => edges arrival) path trivial
    · exact Chain.arriveSteps_in (covers.closes .note .look) edges path transports
        method.chain arrival
  cases event with
  | receive part =>
    refine covers.bind ?_ fun _ => covers.value _
    unfold Steps.receive
    cases decodes : part.tryMap method.requests.decode with
    | ok decoded => exact arrives (fun reason => Or.inr ⟨reason, rfl⟩) (.part decoded)
    | error e =>
      exact covers.bind (closing e) fun _ => finishes e.toStatus (Or.inl ⟨e, decodes, rfl⟩)
  | error e =>
    exact covers.bind (covers.bind (arrives (fun reason => ⟨reason, rfl⟩) (.failure e)) fun _ =>
      Steps.covers_loseClient covers closing e) fun _ => covers.value _
  | release => exact covers.bind (Steps.covers_release covers closing) fun _ => covers.value _
  | write transport message compression =>
    exact covers.bind (covers.bind (covers.single _ id _ .look) fun _ => writes message _ rfl)
      fun _ => covers.value _
  | finish result =>
    refine covers.bind ?_ fun _ => covers.value _
    cases result with
    | ok u => exact finishes .success rfl
    | error e => exact finishes e.toStatus rfl
  | use how => exact covers.bind (covers.act (.use how)) fun _ => covers.value _
  | poll => exact covers.bind (covers.act .poll) fun _ => covers.value _
  | abandon => exact covers.bind (covers.act .abandon) fun _ => covers.value _

/-- What every step does, every event does, step by step. -/
theorem Event.keeps_steps {R : Floor σ P Req Resp → Floor σ P Req Resp → Prop}
    (steps : ∀ place floor floor', Floor.Step place floor floor' → R floor floor')
    (method : Method σ P Req Resp) (event : Event σ P Req Resp) :
    (event.steps method).Keeps (fun _ => True) R fun _ => True := by
  have covers : ∀ place, Routine.Covers (Floor.Step place) fun _ r =>
      Routine.Keeps (fun _ => True) R (fun _ => True) r := fun place =>
    Routine.covers_keeps (steps place)
  have transports := Steps.covers_toTransport method (covers .anywhere) (covers .atTransport)
  have closing := Steps.covers_closeInbound (covers .closing)
  have sends := Steps.covers_send method (covers .anywhere) closing (covers .concluding) transports
  have emits := Steps.covers_emit method (covers .anywhere) (covers .behindGate) sends
    (covers .atGate)
  exact Event.covers_steps method (covers .anywhere) closing event (fun _ _ _ => emits _)
    (fun status _ => Steps.covers_finish method (covers .anywhere) (covers .concluding) status
      fun _ => emits _)
    (Or.inr transports)

/-- Operations that overlap at a call. -/
abbrev Overlap (σ P Req Resp : Type) : Type := Crowd (Event σ P Req Resp) (Floor σ P Req Resp) Yield

namespace Overlap

/-- Nothing has arrived for the call. -/
def fresh (path : String) (shared : σ) : Overlap σ P Req Resp :=
  { state := { call := .fresh path shared } }

/-- What overlapping operations have done to a call that nothing had arrived for. -/
def run (method : Method σ P Req Resp) (path : String) (shared : σ)
    (turns : List (Crowd.Turn (Event σ P Req Resp))) : Overlap σ P Req Resp :=
  (fresh path shared).after (Event.steps method) turns

variable {method : Method σ P Req Resp} {path : String} {shared : σ}

theorem keep_fresh {I : Floor σ P Req Resp → Prop}
    {R : Floor σ P Req Resp → Floor σ P Req Resp → Prop}
    {Q : Nat → Event σ P Req Resp → Yield → Prop}
    (state : I (fresh path shared : Overlap σ P Req Resp).state) :
    (fresh path shared : Overlap σ P Req Resp).Keep I R Q :=
  ⟨state, fun _ _ _ found => by cases found⟩

theorem run_append (turns more : List (Crowd.Turn (Event σ P Req Resp))) :
    run method path shared (turns ++ more) =
      (run method path shared turns).after (Event.steps method) more :=
  Crowd.after_append turns more

/-- What every step keeps, the operations under way keep. -/
theorem keep_run {I : Floor σ P Req Resp → Prop}
    (steps : ∀ place floor floor', Floor.Step place floor floor' → I floor → I floor')
    (turns : List (Crowd.Turn (Event σ P Req Resp))) :
    (run method path shared turns).Keep (fun _ => True)
      (fun floor floor' => I floor → I floor') fun _ _ _ => True :=
  (Crowd.Keep.after (fun _ event => Event.keeps_steps steps method event)
    (fun _ _ _ _ => trivial) (keep_fresh trivial) (fun _ _ => id)
    (fun _ _ _ first second now => second (first now)) turns).1

/-- So it holds on. -/
theorem keeps_run {I : Floor σ P Req Resp → Prop}
    (steps : ∀ place floor floor', Floor.Step place floor floor' → I floor → I floor')
    (turns later : List (Crowd.Turn (Event σ P Req Resp)))
    (now : I (run method path shared turns).state) :
    I (run method path shared (turns ++ later)).state := by
  rw [run_append]
  exact ((keep_run steps turns).after (fun _ event => Event.keeps_steps steps method event)
    (fun _ _ _ _ => trivial) (fun _ _ => id)
    (fun _ _ _ first second now => second (first now)) later).2 now

end Overlap

end RemoteCall.Server
