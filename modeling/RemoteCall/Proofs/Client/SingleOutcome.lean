import RemoteCall.Proofs.Client.FirstOutcome
import RemoteCall.Proofs.Client.History

/-!
# What the consumer of a single response gets

A response that is one message is undecided until it ends, fails, or brings a second message. The
`Verdict` on it is a function of what came before and of what decided it. The slots of the call
hold the verdict from then on, and so does the value of the response, unless a later message
spoils it.
-/

namespace RemoteCall.Client

variable {σ P Req Resp : Type}

/-- What a call reports once its response is decided. -/
structure Verdict (Resp : Type) where
  initial : Result Metadata
  trailing : Result Metadata
  status : Status
  response : Result Resp

/-- The slots that say so. -/
def Verdict.outcome (verdict : Verdict Resp) : Outcome :=
  ⟨⟨some verdict.initial⟩, ⟨some verdict.trailing⟩, ⟨some verdict.status⟩⟩

namespace History

/-- Nothing has ended the response yet, and at most one message came. -/
structure Undecided (history : History Resp) : Prop where
  still : history.ending? = none
  few : history.messages.length ≤ 1

/-- The headers that came, or what stands for them. -/
def initial (history : History Resp) (absent : Result Metadata) : Result Metadata :=
  (history.headers?.map .ok).getD absent

/-- The message that came, or why there is none. -/
def response (history : History Resp) (absent : CallError) : Result Resp :=
  (history.messages.head?.map .ok).getD (.error absent)

/-- The verdict on an undecided response when this arrives, if it decides. -/
def verdict? (before : History Resp) : Arrival (ResponsePart Resp) → Option (Verdict Resp)
  | .part (.headers _) => none
  | .part (.message _ _) =>
    if before.messages.isEmpty then none
    else some
      { initial := before.initial (.error Accumulator.manyMessages)
        trailing := .error Accumulator.manyMessages
        status := ⟨.failedPrecondition, Accumulator.manyMessages.text⟩
        response := .error Accumulator.manyMessages }
  | .part (.finish status trailers) => some
      { initial := before.initial (if status.isOk then .ok .empty else .error (.status status))
        trailing := .ok trailers
        status :=
          if before.messages.isEmpty && status.isOk then
            ⟨.failedPrecondition, Accumulator.noMessage.text⟩
          else status
        response :=
          before.response (if status.isOk then Accumulator.noMessage else .status status) }
  | .failure e => some
      { initial := before.initial (.error e)
        trailing := .error e
        status := e.toStatus
        response := before.response e }

/-- This is where the history is decided, and how. -/
structure Decided (before : History Resp) (event : Arrival (ResponsePart Resp))
    (verdict : Verdict Resp) : Prop where
  undecided : before.Undecided
  verdict : before.verdict? event = some verdict

variable {history : History Resp}

/-- A message that decides is one too many. -/
theorem Decided.of_message {event : Arrival (ResponsePart Resp)} {verdict : Verdict Resp}
    (decided : history.Decided event verdict) (message : event.message?.isSome = true) :
    verdict.response = .error Accumulator.manyMessages := by
  have told := decided.verdict
  cases event with
  | failure e => cases message
  | part part =>
    cases part with
    | headers m => cases message
    | finish status trailers => cases message
    | message m flags =>
      simp only [verdict?] at told
      cases several : history.messages.isEmpty with
      | true => simp [several] at told
      | false =>
        simp only [several] at told
        cases told
        rfl

theorem undecided_nil : Undecided ([] : History Resp) := ⟨rfl, Nat.zero_le 1⟩

/-- A message decides unless it is the first. -/
theorem verdict?_message {m : Resp} {flags : MessageFlags} :
    history.verdict? (.part (.message m flags)) = none ↔ history.messages = [] := by
  simp only [verdict?]
  cases history.messages with
  | nil => simp
  | cons first rest => simp

/-- What decides nothing leaves the response undecided. -/
theorem Undecided.append (undecided : history.Undecided) {arrival : Arrival (ResponsePart Resp)}
    (quiet : history.verdict? arrival = none) : Undecided (history ++ [arrival]) := by
  obtain ⟨ending, messages, -⟩ := append_of_open undecided.still arrival
  cases arrival with
  | failure e => cases quiet
  | part part =>
    cases part with
    | finish status trailers => cases quiet
    | headers m =>
      refine ⟨ending, ?_⟩
      rw [messages]
      simpa [Arrival.message?] using undecided.few
    | message m flags =>
      refine ⟨ending, ?_⟩
      rw [messages, verdict?_message.mp quiet]
      exact Nat.le_refl 1

/-- What an undecided response starts with is undecided. -/
theorem Undecided.start {later : History Resp} (undecided : Undecided (history ++ later)) :
    history.Undecided := by
  have still := open_of_append undecided.still
  have few := undecided.few
  refine ⟨still, ?_⟩
  rw [messages_of_open undecided.still, List.filterMap_append, List.length_append] at few
  rw [messages_of_open still]
  omega

/-- What comes on the way decides nothing. -/
theorem Undecided.quiet {arrival : Arrival (ResponsePart Resp)} {later : History Resp}
    (undecided : Undecided (history ++ arrival :: later)) : history.verdict? arrival = none := by
  have still := open_of_append undecided.still
  have quiet : arrival.ending? = none :=
    List.findSome?_eq_none_iff.mp undecided.still arrival (by simp)
  cases arrival with
  | failure e => cases quiet
  | part part =>
    cases part with
    | headers m => rfl
    | finish status trailers => cases quiet
    | message m flags =>
      have few := undecided.few
      rw [messages_of_open undecided.still, List.filterMap_append, ← messages_of_open still,
        List.length_append, List.filterMap_cons_some (show Arrival.message? _ = some m from rfl),
        List.length_cons] at few
      rw [verdict?_message]
      exact List.eq_nil_of_length_eq_zero (by omega)

/-- A history is undecided, or it was decided at some point. -/
theorem decision (history : History Resp) :
    history.Undecided ∨ ∃ before event after verdict,
      history = before ++ event :: after ∧ Decided before event verdict := by
  suffices reading : ∀ (later prior : History Resp), prior.Undecided →
      Undecided (prior ++ later) ∨ ∃ before event after verdict,
        prior ++ later = before ++ event :: after ∧ Decided before event verdict from
    reading history [] undecided_nil
  intro later
  induction later with
  | nil =>
    intro prior undecided
    left
    rw [List.append_nil]
    exact undecided
  | cons arrival rest ih =>
    intro prior undecided
    cases h : prior.verdict? arrival with
    | some verdict => exact Or.inr ⟨prior, arrival, rest, verdict, rfl, undecided, h⟩
    | none =>
      rw [List.append_cons]
      exact ih (prior ++ [arrival]) (undecided.append h)

end History

namespace Accumulator

/-- What is gathered of an undecided response. -/
def gathered (history : History Resp) : Accumulator Resp where
  outcome := { initial := ⟨history.headers?.map .ok⟩ }
  response := .single ⟨history.messages.head?.map .ok⟩ none

/-- The accumulator holds a verdict: the slots say it, and the response was resolved so or is
spoiled. -/
structure Reports (verdict : Verdict Resp) (a : Accumulator Resp) : Prop where
  outcome : a.outcome = verdict.outcome
  response : ∃ value spoiled, a.response = (Response.single ⟨some value⟩ none).spoil spoiled ∧
    verdict.response = if spoiled then .error manyMessages else value

variable {history : History Resp}

/-- A verdict on headers that may have come. -/
theorem settle_headers (history : History Resp) (absent : Result Metadata) :
    (gathered history).outcome.initial.settle absent = ⟨some (history.initial absent)⟩ := by
  unfold gathered WriteOnce.settle History.initial
  cases history.headers? <;> rfl

/-- A verdict on a message that may have come. -/
theorem settle_message (history : History Resp) (absent : CallError) :
    (⟨history.messages.head?.map .ok⟩ : WriteOnce (Result Resp)).settle (.error absent) =
      ⟨some (history.response absent)⟩ := by
  unfold WriteOnce.settle History.response
  cases history.messages.head? <;> rfl

/-- What decides nothing is gathered. -/
theorem take_quiet (undecided : history.Undecided) {arrival : Arrival (ResponsePart Resp)}
    (quiet : history.verdict? arrival = none) :
    (gathered history).take arrival = gathered (history ++ [arrival]) := by
  obtain ⟨-, messages, headers⟩ := History.append_of_open undecided.still arrival
  unfold gathered
  rw [messages, headers]
  cases arrival with
  | failure e => cases quiet
  | part part =>
    cases part with
    | finish status trailers => cases quiet
    | headers m =>
      cases h : history.headers? with
      | none =>
        simp [take, accept, Outcome.headers, WriteOnce.settle, Arrival.headers?, Arrival.message?]
      | some first =>
        simp [take, accept, Outcome.headers, WriteOnce.settle, Arrival.headers?, Arrival.message?]
    | message m flags =>
      have first := History.verdict?_message.mp quiet
      simp [take, accept, first, WriteOnce.isResolved, WriteOnce.settle, Arrival.headers?,
        Arrival.message?]

/-- A failure leaves its verdict. -/
theorem reports_fail (history : History Resp) (e : CallError) :
    ((gathered history).fail e).Reports
      { initial := history.initial (.error e)
        trailing := .error e
        status := e.toStatus
        response := history.response e } := by
  have initial := settle_headers history (.error e)
  have message := settle_message history e
  refine ⟨?_, history.response e, false, ?_, rfl⟩
  · unfold fail Outcome.fail Verdict.outcome
    rw [initial]
    rfl
  · exact congrArg (fun slot => Response.single slot none) message

/-- An end leaves its verdict. -/
theorem reports_finish (history : History Resp) (status : Status) (trailers : Metadata) :
    ((gathered history).accept (.finish status trailers)).1.Reports
      { initial := history.initial (if status.isOk then .ok .empty else .error (.status status))
        trailing := .ok trailers
        status :=
          if history.messages.isEmpty && status.isOk then
            ⟨.failedPrecondition, noMessage.text⟩
          else status
        response := history.response (missing status) } := by
  have initial := settle_headers history
    (if status.isOk then .ok .empty else .error (.status status))
  have message := settle_message history (missing status)
  have final : endStatus ⟨history.messages.head?.map .ok⟩ status =
      if history.messages.isEmpty && status.isOk then ⟨.failedPrecondition, noMessage.text⟩
      else status := by
    unfold endStatus
    cases history.messages with
    | nil => cases status.isOk <;> rfl
    | cons first rest => rfl
  show (finishSingle _ _ none status trailers).Reports _
  rw [finishSingle_eq, message, final]
  refine ⟨?_, history.response (missing status), false, rfl, rfl⟩
  unfold Outcome.finish Outcome.conclude Verdict.outcome
  rw [initial]
  rfl

/-- A second message leaves its verdict. -/
theorem reports_second {first : Resp} {rest : List Resp}
    (several : history.messages = first :: rest)
    (m : Resp) (flags : MessageFlags) :
    ((gathered history).accept (.message m flags)).1.Reports
      { initial := history.initial (.error manyMessages)
        trailing := .error manyMessages
        status := ⟨.failedPrecondition, manyMessages.text⟩
        response := .error manyMessages } := by
  have initial := settle_headers history (.error manyMessages)
  unfold gathered
  rw [several, accept_single]
  refine ⟨?_, .ok first, true, rfl, rfl⟩
  show (gathered history).outcome.fail manyMessages = _
  unfold Outcome.fail Verdict.outcome
  rw [initial]
  rfl

/-- What decides leaves the verdict. -/
theorem take_decided {event : Arrival (ResponsePart Resp)} {verdict : Verdict Resp}
    (decided : history.Decided event verdict) :
    ((gathered history).take event).Reports verdict := by
  have told := decided.verdict
  cases event with
  | failure e =>
    cases told
    exact reports_fail history e
  | part part =>
    cases part with
    | headers m => cases told
    | finish status trailers =>
      cases told
      exact reports_finish history status trailers
    | message m flags =>
      cases several : history.messages with
      | nil =>
        rw [History.verdict?_message.mpr several] at told
        cases told
      | cons first rest =>
        simp only [History.verdict?, several] at told
        cases told
        exact reports_second several m flags

/-- An undecided history is gathered as a whole. -/
theorem takeAll_of_undecided {history : History Resp} (undecided : history.Undecided) :
    ({ response := .freshSingle } : Accumulator Resp).takeAll history = gathered history := by
  suffices reading : ∀ later prior : History Resp, History.Undecided (prior ++ later) →
      (gathered prior).takeAll later = gathered (prior ++ later) from reading history [] undecided
  intro later
  induction later with
  | nil =>
    intro prior _
    rw [List.append_nil]
    rfl
  | cons arrival rest ih =>
    intro prior undecided
    have quiet := undecided.quiet
    have taken := take_quiet undecided.start quiet
    rw [List.append_cons] at undecided ⊢
    rw [takeAll_cons, taken]
    exact ih (prior ++ [arrival]) undecided

theorem takeAll_of_decided {event : Arrival (ResponsePart Resp)} {verdict : Verdict Resp}
    (decided : history.Decided event verdict) :
    (({ response := .freshSingle } : Accumulator Resp).takeAll (history ++ [event])).Reports
      verdict := by
  rw [takeAll_append, takeAll_of_undecided decided.undecided]
  exact take_decided decided

variable {a : Accumulator Resp} {verdict : Verdict Resp}

theorem Reports.complete (reports : a.Reports verdict) : a.Complete := by
  obtain ⟨slots, value, spoiled, response, -⟩ := reports
  refine ⟨?_, ?_, ?_, ?_⟩
  · rw [slots]
    rfl
  · rw [slots]
    rfl
  · rw [slots]
    rfl
  · rw [response]
    exact Response.isSettled_spoil _ spoiled

theorem Reports.value? (reports : a.Reports verdict) :
    a.response.value? = some verdict.response := by
  obtain ⟨-, value, spoiled, response, told⟩ := reports
  rw [response, told]
  cases spoiled <;> rfl

/-- A complete accumulator takes nothing more, but a message spoils a single response. -/
theorem takeAll_of_complete (complete : a.Complete) (later : History Resp) :
    a.takeAll later = a.spoil (later.any fun arrival => arrival.message?.isSome) := by
  induction later generalizing a with
  | nil => exact (congrArg (Accumulator.mk a.outcome) (Response.spoil_false a.response)).symm
  | cons arrival rest ih =>
    have taken : a.take arrival = a.spoil arrival.message?.isSome := by
      cases arrival with
      | failure e =>
        have failed : a.take (.failure e) = a := fail_of_complete complete e
        rw [failed]
        exact (congrArg (Accumulator.mk a.outcome) (Response.spoil_false a.response)).symm
      | part part =>
        have accepted : a.take (.part part) = _ := accept_of_complete complete part
        rw [accepted]
        cases part <;> rfl
    rw [takeAll_cons, taken, ih (complete.spoil _), List.any_cons]
    simp only [Accumulator.spoil, Response.spoil_spoil]

/-- A message that comes later turns the verdict into a violation, and nothing else changes. -/
theorem Reports.takeAll (reports : a.Reports verdict) (later : History Resp) :
    (a.takeAll later).outcome = verdict.outcome ∧
      (a.takeAll later).response.value? =
        some (if later.any fun arrival => arrival.message?.isSome then .error manyMessages
          else verdict.response) := by
  rw [takeAll_of_complete reports.complete]
  obtain ⟨slots, value, spoiled, response, told⟩ := reports
  refine ⟨slots, ?_⟩
  unfold Accumulator.spoil
  rw [response, Response.spoil_spoil, told]
  cases spoiled <;> cases later.any _ <;> rfl

end Accumulator

namespace Call

/-- Polls leave a single response alone, so its accumulator has taken the history and nothing
else. -/
theorem accumulator_run_of_single (setup : Setup σ P Req Resp) (moves : List (Move P Req))
    {call : Call σ Resp} (single : call.accumulator.response.stream? = none) :
    (call.run setup moves).accumulator = call.accumulator.takeAll (call.admitted setup moves) := by
  induction moves generalizing call with
  | nil => rfl
  | cons move rest ih =>
    have moved : (call.move setup move).accumulator =
        call.accumulator.takeAll (call.order.sift (call.moveArrivals setup move)) := by
      cases move with
      | event event => exact congrArg Intake.accumulator (intake_event setup event call)
      | pull =>
        show call.pull.2.accumulator = _
        rw [pull_snd, mapStream_of_stream?_eq_none single]
        rfl
      | next =>
        show call.next.2.accumulator = _
        rw [next_snd, mapStream_of_stream?_eq_none single]
        rfl
    have still : (call.move setup move).accumulator.response.stream? = none := by
      rw [moved]
      exact Accumulator.stream?_takeAll single _
    rw [run_cons, admitted_cons, ih still, moved, Accumulator.takeAll_append]

/-- A started call with a single response has taken its history. -/
theorem accumulator_begin_run (setup : Setup σ P Req Resp) (shared : σ)
    (invocation : Result Unit) (request : Option Req) (moves : List (Move P Req))
    (single : setup.shape.streamsResponses = false) :
    ((begin setup shared invocation request).run setup moves).accumulator =
      ({ response := .freshSingle } : Accumulator Resp).takeAll
        (Call.history setup shared invocation request moves) := by
  have fresh : (fresh setup.shape shared : Call σ Resp).accumulator =
      { response := .freshSingle } := by
    simp [Call.fresh, single]
  have started := accumulator_begin setup shared invocation request
  rw [fresh] at started
  have still : (begin setup shared invocation request).accumulator.response.stream? = none := by
    rw [started]
    exact Accumulator.stream?_takeAll rfl _
  rw [accumulator_run_of_single setup moves still, started, ← Accumulator.takeAll_append]
  rfl

/-- What a call with a single response reports is a function of its history. Until the response
is decided there is no status, and the value is the first message. What decides it, be it an end,
a failure or a second message, leaves the verdict; and the slots keep that for ever, as the value
does, unless a later message spoils it. A second message that decides is a violation for ever. -/
theorem verdict_follows_history (setup : Setup σ P Req Resp) (shared : σ)
    (invocation : Result Unit) (request : Option Req) (moves : List (Move P Req))
    (single : setup.shape.streamsResponses = false) :
    let call := (begin setup shared invocation request).run setup moves
    let history := Call.history setup shared invocation request moves
    (history.Undecided →
      call.status? = none ∧ call.value? = history.messages.head?.map .ok) ∧
    (history.Undecided ∨ ∃ (before : History Resp) (event : _) (after : _) (verdict : _),
      history = before ++ event :: after ∧ before.Decided event verdict) ∧
    ∀ (before : History Resp) event after verdict, history = before ++ event :: after →
      before.Decided event verdict →
      let decided := (fresh setup.shape shared : Call σ Resp).accumulator.takeAll
        (before ++ [event])
      decided.outcome = verdict.outcome ∧
      decided.response.value? = some verdict.response ∧
      call.accumulator.outcome = verdict.outcome ∧
      call.value? = some
        (if after.any fun arrival => arrival.message?.isSome then
          .error Accumulator.manyMessages
        else verdict.response) ∧
      (event.message?.isSome = true → call.value? = some (.error Accumulator.manyMessages)) := by
  intro call history
  have fresh : (fresh setup.shape shared : Call σ Resp).accumulator =
      { response := .freshSingle } := by
    simp [Call.fresh, single]
  have taken : call.accumulator = _ :=
    accumulator_begin_run setup shared invocation request moves single
  refine ⟨?_, History.decision history, ?_⟩
  · intro undecided
    rw [Accumulator.takeAll_of_undecided undecided] at taken
    refine ⟨?_, ?_⟩
    · show call.accumulator.outcome.status.value? = none
      rw [taken]
      rfl
    · show call.accumulator.response.value? = _
      rw [taken]
      show (Response.single ⟨history.messages.head?.map .ok⟩ none).value? = _
      cases history.messages.head? <;> rfl
  · intro before event after verdict split decides decided
    have reports : decided.Reports verdict := by
      show Accumulator.Reports verdict (Accumulator.takeAll _ _)
      rw [fresh]
      exact Accumulator.takeAll_of_decided decides
    have since : call.accumulator = decided.takeAll after := by
      show _ = Accumulator.takeAll (Accumulator.takeAll _ _) _
      rw [taken, fresh, ← Accumulator.takeAll_append, ← List.append_cons, ← split]
    obtain ⟨slots, value⟩ := reports.takeAll after
    rw [← since] at slots value
    refine ⟨reports.outcome, reports.value?, slots, value, ?_⟩
    intro second
    rw [decides.of_message second, ite_self] at value
    exact value

/-- An answer that came before an end with a failure is the value, and the status is the
failure. -/
theorem answer_outlives_failed_end :
    let moves : List (Move String String) :=
      [.event (.part (.message "hi" {})), .event (.part (.finish ⟨.notFound, none⟩ .empty))]
    let call := (begin greeting () (.ok ()) (some "hello")).run greeting moves
    greeting.shape.streamsResponses = false ∧
      call.status? = some ⟨.notFound, none⟩ ∧ call.value? = some (.ok "hi") := by
  intro moves call
  obtain ⟨-, -, decides⟩ :=
    verdict_follows_history greeting () (.ok ()) (some "hello") moves rfl
  obtain ⟨-, -, slots, value, -⟩ :=
    decides [.part (.headers .empty), .part (.message "hi" {})]
      (.part (.finish ⟨.notFound, none⟩ .empty)) [] _ rfl ⟨⟨rfl, Nat.le_refl 1⟩, rfl⟩
  have status : call.status? = _ :=
    congrArg (fun outcome : Outcome => outcome.status.value?) slots
  exact ⟨rfl, status, value⟩

end Call

end RemoteCall.Client
