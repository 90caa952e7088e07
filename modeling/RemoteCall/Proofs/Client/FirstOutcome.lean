import RemoteCall.Proofs.Client.Settlement

/-!
# The first outcome stays, but for a late message

With its status a call has everything it reports. What comes later, in any number and order, does
not touch the slots, and the polls of the response stream show what they would show alone. One
thing is not safe: a message that leaves the chain after the status counts as one too many for a
response that takes one, even if it is the first that ever came. So a single response that was
cancelled, expired or failed turns into a violation of the protocol (`late_message_spoils`).
`first_outcome_wins` says that this is the only change there is.
-/

namespace RemoteCall.Client

variable {σ P Req Resp : Type}

namespace Response

/-- Marks a single response as violated, unless it was before. -/
def spoil (spoiled : Bool) : Response Resp → Response Resp
  | single message violation =>
    single message (if spoiled then some (violation.getD Accumulator.manyMessages) else violation)
  | stream messages => stream messages

@[simp] theorem spoil_false (r : Response Resp) : r.spoil false = r := by
  cases r <;> rfl

theorem spoil_spoil (r : Response Resp) (first second : Bool) :
    (r.spoil first).spoil second = r.spoil (first || second) := by
  cases r with
  | stream messages => rfl
  | single message violation => cases first <;> cases second <;> rfl

@[simp] theorem isSettled_spoil (r : Response Resp) (spoiled : Bool) :
    (r.spoil spoiled).isSettled = r.isSettled := by
  cases r <;> rfl

/-- A settled response takes no failure. -/
theorem fail_of_isSettled {r : Response Resp} (h : r.isSettled = true) (e : CallError) :
    r.fail e = r := by
  cases r with
  | single message violation =>
    exact congrArg (fun slot => single slot violation) (WriteOnce.settle_of_isResolved h _)
  | stream messages =>
    exact congrArg (fun s => stream (Prod.snd s)) (MessageStream.finishWith_of_isFinished h _)

def polled (r : Response Resp) : Move P Req → Response Resp
  | .event _ => r
  | .pull => r.mapStream fun s => s.pull.2
  | .next => r.mapStream fun s => s.next.2

/-- What a poll of the response shows. -/
def glimpse? (r : Response Resp) : Move P Req → Option (Glimpse Resp)
  | .event _ => none
  | .pull => some (.pulled ((r.stream?.map fun s => s.pull.1).getD .pending))
  | .next => some (.shown ((r.stream?.map fun s => s.next.1).getD .pending))

/-- What polls of the response show, in order. -/
def glimpses : List (Move P Req) → Response Resp → List (Glimpse Resp)
  | [], _ => []
  | move :: rest, r => (r.glimpse? move).toList ++ glimpses rest (r.polled move)

theorem polled_spoil (r : Response Resp) (spoiled : Bool) (move : Move P Req) :
    (r.spoil spoiled).polled move = (r.polled move).spoil spoiled := by
  cases r <;> cases move <;> rfl

theorem foldl_polled_spoil (moves : List (Move P Req)) (r : Response Resp) (spoiled : Bool) :
    moves.foldl polled (r.spoil spoiled) = (moves.foldl polled r).spoil spoiled := by
  induction moves generalizing r with
  | nil => rfl
  | cons move rest ih => rw [List.foldl_cons, polled_spoil, ih, List.foldl_cons]

/-- Polls do not see a violation. -/
theorem glimpses_spoil (moves : List (Move P Req)) (r : Response Resp) (spoiled : Bool) :
    (r.spoil spoiled).glimpses moves = r.glimpses moves := by
  induction moves generalizing r with
  | nil => rfl
  | cons move rest ih =>
    have seen : (r.spoil spoiled).glimpse? move = r.glimpse? move := by
      cases r <;> cases move <;> rfl
    unfold glimpses
    rw [seen, polled_spoil, ih]

theorem glimpses_filter_isPoll (moves : List (Move P Req)) (r : Response Resp) :
    r.glimpses (moves.filter Move.isPoll) = r.glimpses moves := by
  induction moves generalizing r with
  | nil => rfl
  | cons move rest ih =>
    cases move with
    | event event => exact ih r
    | pull => exact congrArg _ (ih _)
    | next => exact congrArg _ (ih _)

theorem isSettled_polled {r : Response Resp} (move : Move P Req) :
    (r.polled move).isSettled = r.isSettled := by
  cases r with
  | single message violation => cases move <;> rfl
  | stream messages =>
    cases move with
    | event event => rfl
    | pull => exact MessageStream.isFinished_pull messages
    | next => exact MessageStream.isFinished_next messages

end Response

namespace Accumulator

/-- Everything is settled. -/
structure Complete (a : Accumulator Resp) : Prop where
  initial : a.outcome.initial.isResolved = true
  trailing : a.outcome.trailing.isResolved = true
  status : a.outcome.status.isResolved = true
  response : a.response.isSettled = true

theorem Whole.complete {a : Accumulator Resp} (whole : a.Whole) (h : a.isConcluded = true) :
    a.Complete where
  initial := whole.initial h
  trailing := whole.trailing.symm.trans h
  status := h
  response := whole.response h

def spoil (spoiled : Bool) (a : Accumulator Resp) : Accumulator Resp :=
  { a with response := a.response.spoil spoiled }

theorem Complete.spoil {a : Accumulator Resp} (complete : a.Complete) (spoiled : Bool) :
    (a.spoil spoiled).Complete where
  initial := complete.initial
  trailing := complete.trailing
  status := complete.status
  response := (Response.isSettled_spoil a.response spoiled).trans complete.response

theorem outcome_fail_of_complete {a : Accumulator Resp} (complete : a.Complete) (e : CallError) :
    a.outcome.fail e = a.outcome := by
  unfold Outcome.fail
  rw [WriteOnce.settle_of_isResolved complete.initial,
    WriteOnce.settle_of_isResolved complete.trailing,
    WriteOnce.settle_of_isResolved complete.status]

theorem outcome_finish_of_complete {a : Accumulator Resp} (complete : a.Complete)
    (status final : Status) (trailers : Metadata) :
    (a.outcome.finish status trailers).conclude final = a.outcome := by
  unfold Outcome.finish Outcome.conclude
  rw [WriteOnce.settle_of_isResolved complete.initial,
    WriteOnce.settle_of_isResolved complete.trailing,
    WriteOnce.settle_of_isResolved complete.status]

/-- A failure changes nothing any more. -/
theorem fail_of_complete {a : Accumulator Resp} (complete : a.Complete) (e : CallError) :
    a.fail e = a := by
  unfold fail
  rw [outcome_fail_of_complete complete, Response.fail_of_isSettled complete.response]

/-- A part changes nothing any more, but a message spoils a single response. -/
theorem accept_of_complete {a : Accumulator Resp} (complete : a.Complete)
    (part : ResponsePart Resp) : (a.accept part).1 = a.spoil part.isMessage := by
  have headers : ∀ m, a.outcome.headers m = a.outcome := fun m => by
    unfold Outcome.headers
    rw [WriteOnce.settle_of_isResolved complete.initial]
  have finish := outcome_finish_of_complete complete
  obtain ⟨outcome, response⟩ := a
  cases response with
  | single message violation =>
    have settled : message.isResolved = true := complete.response
    rw [accept_single]
    cases part with
    | headers m => exact congrArg (fun o => (⟨o, _⟩ : Accumulator Resp)) (headers m)
    | message m flags =>
      simp only [settled, if_true]
      exact fail_of_complete (complete.spoil true) manyMessages
    | finish status trailers =>
      simp only [finishSingle_eq, finish, WriteOnce.settle_of_isResolved settled]
      rfl
  | stream messages =>
    have finished : messages.isFinished = true := complete.response
    rw [accept_stream]
    cases part with
    | headers m => exact congrArg (fun o => (⟨o, _⟩ : Accumulator Resp)) (headers m)
    | message m flags =>
      simp only [MessageStream.push_of_isFinished finished]
      rfl
    | finish status trailers =>
      simp only [finishStream, finish, MessageStream.finishWith_of_isFinished finished]
      rfl

theorem acceptAll_of_complete {a : Accumulator Resp} (complete : a.Complete)
    (parts : List (ResponsePart Resp)) :
    a.acceptAll parts = a.spoil (parts.any ResponsePart.isMessage) := by
  induction parts generalizing a with
  | nil => simp [acceptAll, spoil]
  | cons part rest ih =>
    have accepted := accept_of_complete complete part
    show acceptAll (a.accept part).1 rest = _
    rw [accepted, ih (complete.spoil part.isMessage), List.any_cons]
    simp only [spoil, Response.spoil_spoil]

end Accumulator

/-- The messages that the order filter admits spoil a complete intake, and nothing else does. -/
theorem Intake.takeAll_of_complete {i : Intake Resp} (complete : i.accumulator.Complete)
    (arrivals : List (Arrival (ResponsePart Resp))) :
    i.takeAll arrivals =
      { order := i.order.after (arrivals.filterMap Arrival.part?)
        accumulator := i.accumulator.spoil
          ((i.order.allowAll (arrivals.filterMap Arrival.part?)).any ResponsePart.isMessage) } := by
  induction arrivals generalizing i with
  | nil => simp [ResponseOrder.allowAll, Accumulator.spoil]
  | cons arrival rest ih =>
    cases arrival with
    | failure e =>
      have failed : i.take (.failure e) = i := by
        show ({ i with accumulator := i.accumulator.fail e } : Intake Resp) = i
        rw [Accumulator.fail_of_complete complete]
      rw [takeAll_cons, failed, ih complete]
      rfl
    | part part =>
      have taken : i.take (.part part) =
          { order := (i.order.allow part).2
            accumulator :=
              i.accumulator.spoil ((i.order.allow part).1.any ResponsePart.isMessage) } := by
        show ({ order := _, accumulator := i.accumulator.acceptAll _ } : Intake Resp) = _
        rw [Accumulator.acceptAll_of_complete complete]
      have parts : (Arrival.part part :: rest).filterMap Arrival.part? =
          part :: rest.filterMap Arrival.part? := rfl
      rw [takeAll_cons, taken, ih (complete.spoil _), parts, ResponseOrder.allowAll,
        List.any_append]
      simp only [Accumulator.spoil, Response.spoil_spoil, ResponseOrder.after_cons]

/-- A call that sends one text for one text. -/
def greeting : Setup Unit String String String where
  path := "/echo.Echo/Test"
  shape := .unary
  requests := .verbatim
  responses := .verbatim

namespace Call

/-- What the application gets for the one message of a single response. -/
def value? (call : Call σ Resp) : Option (Result Resp) := call.accumulator.response.value?

/-- Whether the order filter admits a message among these parts. -/
def admitsMessage (call : Call σ Resp) (parts : List (ResponsePart Resp)) : Bool :=
  (call.order.allowAll parts).any ResponsePart.isMessage

theorem glimpse?_eq (call : Call σ Resp) (move : Move P Req) :
    call.glimpse? move = call.accumulator.response.glimpse? move := by
  cases move with
  | event event => rfl
  | pull =>
    unfold glimpse? pull Response.glimpse?
    cases call.accumulator.response.stream? <;> rfl
  | next =>
    unfold glimpse? next Response.glimpse?
    cases call.accumulator.response.stream? <;> rfl

/-- A move of a complete call polls its stream, and may spoil its response. -/
theorem intake_move_of_complete (setup : Setup σ P Req Resp) {call : Call σ Resp}
    (complete : call.accumulator.Complete) (move : Move P Req) :
    (call.move setup move).intake =
      { order := call.order.after ((call.moveArrivals setup move).filterMap Arrival.part?)
        accumulator :=
          { call.accumulator with
            response := (call.accumulator.response.polled move).spoil
              (call.admitsMessage
                ((call.moveArrivals setup move).filterMap Arrival.part?)) } } := by
  cases move with
  | event event =>
    show (event.pass setup call).call.intake = _
    rw [Event.intake_pass, Intake.takeAll_of_complete complete]
    rfl
  | pull =>
    show (call.pull.2).intake = _
    rw [pull_snd, intake_mapStream]
    simp [moveArrivals, admitsMessage, ResponseOrder.allowAll, Response.polled, intake]
  | next =>
    show (call.next.2).intake = _
    rw [next_snd, intake_mapStream]
    simp [moveArrivals, admitsMessage, ResponseOrder.allowAll, Response.polled, intake]

theorem complete_move (setup : Setup σ P Req Resp) {call : Call σ Resp}
    (complete : call.accumulator.Complete) (move : Move P Req) :
    (call.move setup move).accumulator.Complete := by
  have moved := congrArg Intake.accumulator (intake_move_of_complete setup complete move)
  simp only [intake] at moved
  rw [moved]
  refine ⟨complete.initial, complete.trailing, complete.status, ?_⟩
  show Response.isSettled (Response.spoil _ _) = true
  rw [Response.isSettled_spoil, Response.isSettled_polled]
  exact complete.response

/-- A run of a complete call polls its stream, and may spoil its response. -/
theorem accumulator_run_of_complete (setup : Setup σ P Req Resp) (moves : List (Move P Req))
    {call : Call σ Resp} (complete : call.accumulator.Complete) :
    (call.run setup moves).accumulator =
      { call.accumulator with
        response := (moves.foldl Response.polled call.accumulator.response).spoil
          (call.admitsMessage (call.departures setup moves)) } := by
  induction moves generalizing call with
  | nil => simp [departures, arrivals, admitsMessage, ResponseOrder.allowAll]
  | cons move rest ih =>
    have moved := intake_move_of_complete setup complete move
    have order := congrArg Intake.order moved
    have accumulator := congrArg Intake.accumulator moved
    simp only [intake] at order accumulator
    rw [run_cons, ih (complete_move setup complete move), accumulator, departures_cons]
    simp only [List.foldl_cons, Response.foldl_polled_spoil, Response.spoil_spoil, admitsMessage,
      order, ResponseOrder.allowAll_append, List.any_append]

/-- The polls of a run of a complete call show what they would show alone. -/
theorem glimpses_of_complete (setup : Setup σ P Req Resp) (moves : List (Move P Req))
    {call : Call σ Resp} (complete : call.accumulator.Complete) :
    call.glimpses setup moves = call.accumulator.response.glimpses moves := by
  induction moves generalizing call with
  | nil => rfl
  | cons move rest ih =>
    have moved := congrArg Intake.accumulator (intake_move_of_complete setup complete move)
    simp only [intake] at moved
    unfold glimpses Response.glimpses
    rw [ih (complete_move setup complete move), moved, glimpse?_eq]
    simp only [Response.glimpses_spoil]

/-- Polls change what is left to read of a stream, and nothing that a single response is. -/
theorem value?_foldl_polled (moves : List (Move P Req)) (r : Response Resp) :
    (moves.foldl Response.polled r).value? = r.value? := by
  induction moves generalizing r with
  | nil => rfl
  | cons move rest ih =>
    rw [List.foldl_cons, ih]
    cases r <;> cases move <;> rfl

/-- A settled single response that is spoiled gives a violation. -/
theorem value?_spoil {streams : Bool} {received : Nat} {a : Accumulator Resp}
    (sound : a.Sound streams received) (complete : a.Complete) (spoiled : Bool) :
    (a.response.spoil spoiled).value? =
      if (!streams && spoiled) = true then some (.error Accumulator.manyMessages)
      else a.response.value? := by
  have kind := sound.kind
  have many := sound.many
  have settled := complete.response
  obtain ⟨outcome, response⟩ := a
  cases response with
  | stream messages =>
    have streaming : streams = true := kind.symm
    subst streaming
    rfl
  | single message violation =>
    have single : streams = false := kind.symm
    subst single
    obtain ⟨value⟩ := message
    cases value with
    | none => cases settled
    | some value =>
      cases spoiled with
      | false => rfl
      | true =>
        cases violation with
        | none => rfl
        | some violation =>
          have spoiledBefore : violation = Accumulator.manyMessages := many _ violation rfl
          subst spoiledBefore
          rfl

/-- In a call that has its status, the slots stay and polls show what they would show without any
event in between. The value of a single response stays too, unless the order filter admits a
message that comes later: that makes it a violation, whatever it was. -/
theorem first_outcome_wins (setup : Setup σ P Req Resp) (shared : σ) (invocation : Result Unit)
    (request : Option Req) (before after : List (Move P Req)) :
    let call := (begin setup shared invocation request).run setup before
    let later := call.run setup after
    let spoils :=
      !setup.shape.streamsResponses && call.admitsMessage (call.departures setup after)
    call.status?.isSome = true →
      later.accumulator.outcome = call.accumulator.outcome ∧
      call.glimpses setup after = call.glimpses setup (after.filter Move.isPoll) ∧
      (later.value? = call.value? ↔
        (spoils = true → call.value? = some (.error Accumulator.manyMessages))) ∧
      (spoils = true → later.value? = some (.error Accumulator.manyMessages)) := by
  intro call later spoils concluded
  have sound : call.Sound _ _ :=
    sound_run setup (sound_begin setup shared invocation request) before
  have complete : call.accumulator.Complete := sound.intake.accumulator.whole.complete concluded
  have ran : later.accumulator = _ := accumulator_run_of_complete setup after complete
  have value : later.value? =
      if spoils = true then some (.error Accumulator.manyMessages) else call.value? := by
    show later.accumulator.response.value? = _
    rw [ran]
    show (Response.spoil _ _).value? = _
    rw [← Response.foldl_polled_spoil, value?_foldl_polled]
    exact value?_spoil sound.intake.accumulator complete _
  refine ⟨?_, ?_, ?_, ?_⟩
  · rw [ran]
  · rw [glimpses_of_complete setup after complete,
      glimpses_of_complete setup (after.filter Move.isPoll) complete,
      Response.glimpses_filter_isPoll]
  · rw [value]
    by_cases h : spoils = true
    · simp only [h, if_true, true_implies]
      exact eq_comm
    · simp [h]
  · intro h
    rw [value, if_pos h]

/-- An answer that came before the cancellation outlives an end and a failure of the transport
behind it. -/
theorem answer_outlives_cancellation :
    let call := (begin greeting () (.ok ()) (some "hello")).run greeting
      [.event (.part (.message "hi" {})), .event .cancel]
    let later := call.run greeting
      [.event (.part (.finish .success .empty)), .event (.error (.transport "reset"))]
    call.status?.isSome = true ∧ later.accumulator.outcome = call.accumulator.outcome ∧
      later.value? = some (.ok "hi") := by
  intro call later
  have wins := first_outcome_wins greeting () (.ok ()) (some "hello")
    [.event (.part (.message "hi" {})), .event .cancel]
    [.event (.part (.finish .success .empty)), .event (.error (.transport "reset"))] rfl
  have kept : later.value? = call.value? := wins.2.2.1.mpr fun spoils => nomatch spoils
  exact ⟨rfl, wins.1, kept⟩

/-- The first message that ever comes, but comes after the cancellation, turns the cancellation
into a violation: the value of the response is not the first outcome. -/
theorem late_message_spoils :
    let started := begin greeting () (.ok ()) (some "hello")
    let call := started.run greeting [.event .cancel]
    let later := call.run greeting [.event (.part (.message "late" {}))]
    call.status?.isSome = true ∧
      (startDepartures greeting () (.ok ()) (some "hello") ++
        started.departures greeting [.event .cancel, .event (.part (.message "late" {}))]).countP
          ResponsePart.isMessage = 1 ∧
      call.value? = some (.error .cancelled) ∧
      later.value? = some (.error Accumulator.manyMessages) ∧ later.value? ≠ call.value? := by
  refine ⟨rfl, rfl, rfl, rfl, ?_⟩
  intro h
  cases h

end Call

end RemoteCall.Client
