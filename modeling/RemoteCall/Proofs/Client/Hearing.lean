import RemoteCall.Proofs.Client.Event
import RemoteCall.Proofs.MessageStream
import RemoteCall.Proofs.Server.DirectRun

/-!
# What a client hears of a story

While the parts of a story come in, a client without interceptors knows what it has heard so far
(`Hears`); behind the last part it knows all of it (`Heard`). Pulls of the response stream may
come in between: what they have shown and what still waits in the stream are together what came.
-/

namespace RemoteCall

def Poll.toList {α : Type} : Poll α → List α
  | pending => []
  | ready value => [value]

namespace Client

open Server (Story)

variable {σ P Req Resp : Type}

/-- What pulls show of messages. -/
def itemsOf (messages : List Resp) : List (Result (Option Resp)) :=
  messages.map fun message => .ok (some message)

theorem itemsOf_concat (messages : List Resp) (message : Resp) :
    itemsOf messages ++ [.ok (some message)] = itemsOf (messages ++ [message]) := by
  simp [itemsOf]

/-- While more may come, the response has gathered these messages, and pulls have shown that. -/
inductive Response.Gathers (shape : CallShape) :
    Response Resp → List Resp → List (Result (Option Resp)) → Prop where
  | single {messages : List Resp} (single : shape.streamsResponses = false) :
      Gathers shape (.single ⟨messages.head?.map .ok⟩ none) messages []
  | stream {s : MessageStream Resp} {taken waiting : List Resp}
      (streams : shape.streamsResponses = true) (holds : s.Holds waiting none) :
      Gathers shape (.stream s) (taken ++ waiting) (itemsOf taken)

/-- The response is that of the story, and pulls have shown that. -/
inductive Response.Tells (shape : CallShape) (story : Story Req Resp) :
    Response Resp → List (Result (Option Resp)) → Prop where
  | single (single : shape.streamsResponses = false) :
      Tells shape story (.single ⟨some story.outcome⟩ none) []
  | stream {s : MessageStream Resp} {taken waiting : List Resp}
      {ends : List (Result (Option Resp))} (streams : shape.streamsResponses = true)
      (messages : story.messages = taken ++ waiting)
      (holds : s.Holds waiting (some story.terminal))
      (seen : ∀ shown ∈ ends, shown = MessageStream.ofEnding story.terminal)
      (behind : ends = [] ∨ waiting = []) :
      Tells shape story (.stream s) (itemsOf taken ++ ends)

/-- With these parts still coming, the intake has taken what the story has before them. -/
inductive Hears (shape : CallShape) (story : Story Req Resp) :
    List (ResponsePart Resp) → Intake Resp → List (Result (Option Resp)) → Prop where
  | nothing {response : Response Resp} {shown : List (Result (Option Resp))}
      (gathers : response.Gathers shape [] shown) :
      Hears shape story (story.parts false) ⟨.fresh, ⟨{}, response⟩⟩ shown
  | opened {received coming : List (Resp × MessageFlags)} {response : Response Resp}
      {shown : List (Result (Option Resp))} (split : story.responses = received ++ coming)
      (gathers : response.Gathers shape (received.map Prod.fst) shown) :
      Hears shape story ({ story with responses := coming }.parts true)
        ⟨.streaming, ⟨{ initial := ⟨some (.ok story.initial)⟩ }, response⟩⟩ shown

/-- The intake has taken the whole story. -/
structure Heard (shape : CallShape) (story : Story Req Resp) (i : Intake Resp)
    (shown : List (Result (Option Resp))) : Prop where
  order : i.order = .ended
  initial : i.accumulator.outcome.initial.value? = some (.ok story.initial)
  trailing : i.accumulator.outcome.trailing.value? = some (.ok story.trailers)
  status : i.accumulator.outcome.status.value? = some story.status
  response : i.accumulator.response.Tells shape story shown

variable {shape : CallShape} {story : Story Req Resp}

theorem Response.gathers_fresh (shape : CallShape) :
    (if shape.streamsResponses then .freshStream else .freshSingle : Response Resp).Gathers
      shape [] [] := by
  cases streams : shape.streamsResponses with
  | false =>
    have nothing : Response.Gathers shape (.single ⟨([] : List Resp).head?.map .ok⟩ none) [] [] :=
      .single streams
    exact nothing
  | true =>
    have nothing : Response.Gathers shape (.stream .fresh) ([] ++ [] : List Resp) (itemsOf []) :=
      .stream streams MessageStream.holds_fresh
    exact nothing

theorem Response.Gathers.accept {response : Response Resp} {messages : List Resp}
    {shown : List (Result (Option Resp))} (gathers : response.Gathers shape messages shown)
    (first : shape.streamsResponses = false → messages = []) (outcome : Outcome) (message : Resp)
    (flags : MessageFlags) :
    ∃ response' : Response Resp,
      Accumulator.accept ⟨outcome, response⟩ (.message message flags) =
        (⟨outcome, response'⟩, false) ∧
      response'.Gathers shape (messages ++ [message]) shown := by
  cases gathers with
  | single single =>
    obtain rfl := first single
    have gathered : Response.Gathers shape (.single ⟨[message].head?.map .ok⟩ none) [message] [] :=
      .single single
    exact ⟨_, rfl, gathered⟩
  | @stream s taken waiting streams holds =>
    refine ⟨.stream (s.push message).2, rfl, ?_⟩
    rw [List.append_assoc]
    exact .stream streams (holds.push message)

/-- The end settles everything with the story. -/
theorem Response.Gathers.accept_finish {response : Response Resp} {messages : List Resp}
    {shown : List (Result (Option Resp))} (gathers : response.Gathers shape messages shown)
    (all : story.messages = messages) (fits : story.Fits shape) :
    Heard shape story
      ⟨.ended, (Accumulator.accept ⟨{ initial := ⟨some (.ok story.initial)⟩ }, response⟩
        (.finish story.status story.trailers)).1⟩ shown := by
  cases gathers with
  | single single =>
    rw [Accumulator.accept_single]
    simp only [Accumulator.finishSingle_eq]
    rcases fits single with ⟨ok, one, responses⟩ | ⟨bad, responses⟩
    · have one_message : story.messages = [one.1] := by rw [Story.messages, responses]; rfl
      have outcome : story.outcome = .ok one.1 := by rw [Story.outcome, one_message]
      rw [← all, one_message]
      refine ⟨rfl, rfl, rfl, rfl, ?_⟩
      have told : Response.Tells shape story (.single ⟨some story.outcome⟩ none) [] :=
        .single single
      rw [outcome] at told
      exact told
    · have no_message : story.messages = [] := by rw [Story.messages, responses]; rfl
      have outcome : story.outcome = .error (.status story.status) := by
        rw [Story.outcome, no_message]
      rw [← all, no_message]
      have missing : Accumulator.missing story.status = .status story.status := by
        rw [Accumulator.missing, bad]
        rfl
      have status : Accumulator.endStatus (⟨none⟩ : WriteOnce (Result Resp)) story.status =
          story.status := by
        rw [Accumulator.endStatus, bad]
        rfl
      refine ⟨rfl, rfl, rfl, ?_, ?_⟩
      · exact congrArg some status
      · have told : Response.Tells shape story (.single ⟨some story.outcome⟩ none) [] :=
          .single single
        rw [outcome, ← missing] at told
        exact told
  | @stream s taken waiting streams holds =>
    rw [Accumulator.accept_stream]
    refine ⟨rfl, rfl, rfl, rfl, ?_⟩
    rw [← List.append_nil (itemsOf taken)]
    exact .stream streams all (holds.finishWith story.terminal) (by simp) (Or.inl rfl)

/-- A part that passes the order filter goes into the accumulator. -/
theorem Pass.deliver_eq {call : Call σ Resp} (part : ResponsePart Resp) {order : ResponseOrder}
    {accumulator : Accumulator Resp} (passes : call.order.allow part = ([part], order))
    (accepts : call.accumulator.accept part = (accumulator, false)) :
    (deliver part (.start call) : Pass σ P Resp) =
      if part.isFinish then (start { call with accumulator, order }).abandon
      else start { call with accumulator, order } := by
  unfold deliver
  rw [show (start call : Pass σ P Resp).call.order.allow part = _ from passes]
  simp only [List.foldl_cons, List.foldl_nil, List.any_cons, List.any_nil, Bool.or_false,
    accumulate, start, accepts, Bool.false_eq_true, if_false]

/-- The next part of the story is heard, and nothing else happens unless it is the last. -/
theorem Hears.deliver {call : Call σ Resp} {part : ResponsePart Resp}
    {coming : List (ResponsePart Resp)} {shown : List (Result (Option Resp))}
    (hears : Hears shape story (part :: coming) call.intake shown) (fits : story.Fits shape)
    (more : part.isFinish = false) :
    ∃ accumulator order,
      (Pass.deliver part (.start call) : Pass σ P Resp) =
        .start { call with accumulator, order } ∧
      Hears shape story coming ⟨order, accumulator⟩ shown := by
  generalize next : part :: coming = parts at hears
  generalize taken : call.intake = i at hears
  have order := congrArg Intake.order taken
  have accumulator := congrArg Intake.accumulator taken
  simp only [Call.intake] at order accumulator
  cases hears with
  | @nothing response shown gathers =>
    rw [Story.parts_false] at next
    cases next
    have passes : call.order.allow (.headers story.initial : ResponsePart Resp) =
        ([.headers story.initial], .streaming) := by rw [order]; rfl
    have accepts : call.accumulator.accept (.headers story.initial) =
        (⟨{ initial := ⟨some (.ok story.initial)⟩ }, response⟩, false) := by rw [accumulator]; rfl
    exact ⟨_, _, Pass.deliver_eq _ passes accepts, .opened (List.nil_append _).symm gathers⟩
  | @opened received left response shown split gathers =>
    cases left with
    | nil =>
      cases next
      cases more
    | cons reply left =>
      cases next
      -- A shape that answers once has one response at most, so this is its first.
      have first : shape.streamsResponses = false → received.map Prod.fst = [] := by
        intro single
        rcases fits single with ⟨-, one, responses⟩ | ⟨-, responses⟩
        · rw [responses] at split
          have lengths := congrArg List.length split
          simp only [List.length_append, List.length_cons, List.length_nil] at lengths
          rw [List.eq_nil_of_length_eq_zero (show received.length = 0 by omega), List.map_nil]
        · rw [responses] at split
          cases received <;> cases split
      obtain ⟨response', accepted, gathered⟩ := gathers.accept first
        { initial := ⟨some (.ok story.initial)⟩ } reply.1 reply.2
      have accepts : call.accumulator.accept (.message reply.1 reply.2) =
          (⟨{ initial := ⟨some (.ok story.initial)⟩ }, response'⟩, false) := by
        rw [accumulator]
        exact accepted
      have passes : call.order.allow (.message reply.1 reply.2) =
          ([.message reply.1 reply.2], .streaming) := by rw [order]; rfl
      refine ⟨_, _, Pass.deliver_eq _ passes accepts, ?_⟩
      rw [← List.map_singleton, ← List.map_append] at gathered
      exact .opened (by rw [split, List.append_assoc]; rfl) gathered

/-- The last part of the story is heard, and the transport call is given up. -/
theorem Hears.deliver_last {call : Call σ Resp} {part : ResponsePart Resp}
    {coming : List (ResponsePart Resp)} {shown : List (Result (Option Resp))}
    (hears : Hears shape story (part :: coming) call.intake shown) (fits : story.Fits shape)
    (last : part.isFinish = true) (running : call.terminated = false) :
    ∃ accumulator order,
      (Pass.deliver part (.start call) : Pass σ P Resp) =
        { call := { call with accumulator, order, terminated := true }, ops := [.cancel] } ∧
      coming = [] ∧ Heard shape story ⟨order, accumulator⟩ shown := by
  generalize next : part :: coming = parts at hears
  generalize taken : call.intake = i at hears
  have order := congrArg Intake.order taken
  have accumulator := congrArg Intake.accumulator taken
  simp only [Call.intake] at order accumulator
  cases hears with
  | nothing gathers =>
    rw [Story.parts_false] at next
    cases next
    cases last
  | @opened received left response shown split gathers =>
    cases left with
    | cons reply left =>
      cases next
      cases last
    | nil =>
      cases next
      have all : story.messages = received.map Prod.fst := by
        rw [Story.messages, split, List.append_nil]
      have heard := gathers.accept_finish all fits
      have passes : call.order.allow (.finish story.status story.trailers : ResponsePart Resp) =
          ([.finish story.status story.trailers], .ended) := by rw [order]; rfl
      have accepts : call.accumulator.accept (.finish story.status story.trailers) =
          ((Accumulator.accept ⟨{ initial := ⟨some (.ok story.initial)⟩ }, response⟩
            (.finish story.status story.trailers)).1, false) := by
        rw [accumulator]
        cases response <;> rfl
      refine ⟨_, _, ?_, rfl, heard⟩
      rw [Pass.deliver_eq _ passes accepts, if_pos last]
      unfold Pass.abandon
      rw [if_neg (by simp [Pass.start, running])]
      rfl

/-! ### Pulls in between -/

def Response.pulled : Response Resp → Poll (Result (Option Resp))
  | single _ _ => .pending
  | stream messages => messages.pull.1

theorem Call.pull_fst (call : Call σ Resp) : call.pull.1 = call.accumulator.response.pulled := by
  unfold pull
  cases call.accumulator.response <;> rfl

theorem Call.intake_pull (call : Call σ Resp) :
    call.pull.2.intake =
      ⟨call.order, { call.accumulator with
        response := call.accumulator.response.mapStream fun s => s.pull.2 }⟩ := by
  rw [pull_snd, intake_mapStream]
  rfl

theorem Response.Gathers.pull {response : Response Resp} {messages : List Resp}
    {shown : List (Result (Option Resp))} (gathers : response.Gathers shape messages shown) :
    (response.mapStream fun s => s.pull.2).Gathers shape messages
      (shown ++ response.pulled.toList) := by
  cases gathers with
  | single single => exact .single single
  | @stream s taken waiting streams holds =>
    cases waiting with
    | nil =>
      obtain ⟨answer, later⟩ := holds.pull_nothing
      simp only [Response.pulled, answer, Poll.toList]
      rw [List.append_nil (itemsOf taken)]
      exact .stream streams later
    | cons item rest =>
      obtain ⟨answer, later⟩ := holds.pull_item
      simp only [Response.pulled, answer, Poll.toList]
      rw [List.append_cons, itemsOf_concat]
      exact .stream streams later

theorem Response.Tells.pull {response : Response Resp} {shown : List (Result (Option Resp))}
    (tells : response.Tells shape story shown) :
    (response.mapStream fun s => s.pull.2).Tells shape story
      (shown ++ response.pulled.toList) := by
  cases tells with
  | single single => exact .single single
  | @stream s taken waiting ends streams messages holds seen behind =>
    cases waiting with
    | nil =>
      obtain ⟨answer, later⟩ := holds.pull_ending
      simp only [Response.pulled, answer, Poll.toList, List.append_assoc]
      refine .stream streams messages later (fun last member => ?_) (Or.inr rfl)
      rcases List.mem_append.mp member with member | member
      · exact seen last member
      · exact List.mem_singleton.mp member
    | cons item rest =>
      obtain ⟨answer, later⟩ := holds.pull_item
      obtain rfl : ends = [] := behind.elim id fun h => by cases h
      simp only [Response.pulled, answer, Poll.toList, List.append_nil]
      rw [List.append_cons] at messages
      rw [itemsOf_concat, ← List.append_nil (itemsOf _)]
      exact .stream streams messages later (by simp) (Or.inl rfl)

theorem Hears.pull {call : Call σ Resp} {coming : List (ResponsePart Resp)}
    {shown : List (Result (Option Resp))}
    (hears : Hears shape story coming call.intake shown) :
    Hears shape story coming call.pull.2.intake (shown ++ call.pull.1.toList) := by
  rw [Call.intake_pull, Call.pull_fst]
  generalize taken : call.intake = i at hears
  have order := congrArg Intake.order taken
  have accumulator := congrArg Intake.accumulator taken
  simp only [Call.intake] at order accumulator
  rw [order, accumulator]
  cases hears with
  | nothing gathers => exact .nothing gathers.pull
  | opened split gathers => exact .opened split gathers.pull

theorem Heard.pull {call : Call σ Resp} {shown : List (Result (Option Resp))}
    (heard : Heard shape story call.intake shown) :
    Heard shape story call.pull.2.intake (shown ++ call.pull.1.toList) := by
  rw [Call.intake_pull, Call.pull_fst]
  exact ⟨heard.order, heard.initial, heard.trailing, heard.status, heard.response.pull⟩

/-! ### What the application gets -/

theorem Response.Tells.value? {response : Response Resp} {shown : List (Result (Option Resp))}
    (tells : response.Tells shape story shown) (single : shape.streamsResponses = false) :
    response.value? = some story.outcome := by
  cases tells with
  | single => rfl
  | stream streams =>
    rw [single] at streams
    cases streams

theorem flatMap_toList_ready (messages : List Resp) :
    (messages.map fun message =>
      (.ready (.ok (some message)) : Poll (Result (Option Resp)))).flatMap Poll.toList =
        itemsOf messages := by
  induction messages with
  | nil => rfl
  | cons message rest ih => exact congrArg (.ok (some message) :: ·) ih

/-- Whoever pulls on to the end gets the messages, and then the end as often as he asks. -/
theorem Heard.items {call : Call σ Resp} {shown : List (Result (Option Resp))}
    (heard : Heard shape story call.intake shown) (streams : shape.streamsResponses = true) :
    ∃ ends, shown ++ call.drain.1.flatMap Poll.toList =
      itemsOf story.messages ++
        List.replicate (ends + 1) (MessageStream.ofEnding story.terminal) := by
  have tells : call.accumulator.response.Tells shape story shown := heard.response
  unfold Call.drain
  generalize call.accumulator.response = response at tells
  cases tells with
  | single single =>
    rw [streams] at single
    cases single
  | @stream s taken waiting ends streams messages holds seen behind =>
    simp only [Response.stream?]
    rw [holds.drain, List.flatMap_append, flatMap_toList_ready, messages]
    have last : [(.ready (MessageStream.ofEnding story.terminal) :
        Poll (Result (Option Resp)))].flatMap Poll.toList =
          [MessageStream.ofEnding story.terminal] := rfl
    rw [last]
    rcases behind with rfl | rfl
    · refine ⟨0, ?_⟩
      simp [itemsOf]
    · refine ⟨ends.length, ?_⟩
      rw [List.eq_replicate_of_mem seen]
      simp [itemsOf, List.replicate_succ']

end Client

end RemoteCall
