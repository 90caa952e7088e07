import RemoteCall.Proofs.Client.Release

/-!
# What terminates a client call

A call is terminated by the application, by its deadline, by a payload that cannot be decoded, and
by what leaves its chain: the first end, or a message where the one response is there already
(`Intake.Ends`). Nothing else does, and what has terminated a call has done so for good:
`Call.terminated_run_iff` finds the event that did it in the history of the call, whether it came
from outside or from a hook in the middle of something else.
-/

namespace RemoteCall.Client

variable {σ P Req Resp : Type}

/-- An arrival that ends the call: the first end, or one message too many. -/
inductive Intake.Ends (i : Intake Resp) : Arrival (ResponsePart Resp) → Prop where
  | finish (open_ : i.order ≠ .ended) (status : Status) (trailers : Metadata) :
      Ends i (.part (.finish status trailers))
  | violation (open_ : i.order ≠ .ended) {first : WriteOnce (Result Resp)}
      {earlier : Option CallError} (single : i.accumulator.response = .single first earlier)
      (taken : first.isResolved = true) (message : Resp) (flags : MessageFlags) :
      Ends i (.part (.message message flags))

namespace Intake

variable {i : Intake Resp}

theorem not_ends_failure (e : CallError) : ¬i.Ends (.failure e) := nofun

/-- One of these arrivals, as they come, ends the call. -/
def EndsWithin : List (Arrival (ResponsePart Resp)) → Intake Resp → Prop
  | [], _ => False
  | arrival :: rest, i => i.Ends arrival ∨ EndsWithin rest (i.take arrival)

theorem endsWithin_append (first second : List (Arrival (ResponsePart Resp))) (i : Intake Resp) :
    EndsWithin (first ++ second) i ↔
      EndsWithin first i ∨ EndsWithin second (i.takeAll first) := by
  induction first generalizing i with
  | nil => exact (false_or _).symm.to_iff
  | cons arrival rest ih =>
    rw [List.cons_append, EndsWithin, ih, EndsWithin, takeAll_cons, or_assoc]

theorem endsWithin_concat_failure (arrivals : List (Arrival (ResponsePart Resp)))
    (e : CallError) (i : Intake Resp) :
    EndsWithin (arrivals ++ [.failure e]) i ↔ EndsWithin arrivals i := by
  rw [endsWithin_append]
  refine or_iff_left ?_
  rintro (ends | none)
  · exact not_ends_failure e ends
  · exact none

end Intake

@[simp] theorem Accumulator.accept_headers_snd (a : Accumulator Resp) (m : Metadata) :
    (a.accept (.headers m)).2 = false := rfl

/-- The accumulator objects to a message where its one response is there already, and to nothing
else. -/
theorem Accumulator.accept_snd_iff (a : Accumulator Resp) (part : ResponsePart Resp) :
    (a.accept part).2 = true ↔
      part.isMessage = true ∧
        ∃ first earlier, a.response = .single first earlier ∧ first.isResolved = true := by
  obtain ⟨outcome, response⟩ := a
  cases part with
  | headers m => simp [accept, ResponsePart.isMessage]
  | finish status trailers => cases response <;> simp [accept, ResponsePart.isMessage]
  | message m flags =>
    cases response with
    | stream messages => simp [accept]
    | single first earlier =>
      cases taken : first.isResolved <;> simp [accept, ResponsePart.isMessage, taken]

/-- Of the parts that leave the chain, an open intake ends with the ends and with those messages
that the accumulator objects to. -/
theorem Intake.ends_part_iff (i : Intake Resp) (part : ResponsePart Resp) :
    i.Ends (.part part) ↔
      i.order ≠ .ended ∧ (part.isFinish = true ∨ (i.accumulator.accept part).2 = true) := by
  rw [Accumulator.accept_snd_iff]
  constructor
  · rintro (⟨open_, -, -⟩ | ⟨open_, single, taken, -, -⟩)
    · exact ⟨open_, Or.inl rfl⟩
    · exact ⟨open_, Or.inr ⟨rfl, _, _, single, taken⟩⟩
  · rintro ⟨open_, finish | ⟨message, first, earlier, single, taken⟩⟩
    · cases part with
      | headers m => cases finish
      | message m flags => cases finish
      | finish status trailers => exact .finish open_ status trailers
    · cases part with
      | headers m => cases message
      | finish status trailers => cases message
      | message m flags => exact .violation open_ single taken m flags

/-- An open intake ends with the first end that arrives at the latest. -/
theorem Intake.endsWithin_of_finish {i : Intake Resp} (open_ : i.order ≠ .ended)
    {arrivals : List (Arrival (ResponsePart Resp))} {status : Status} {trailers : Metadata}
    (member : .part (.finish status trailers) ∈ arrivals) : i.EndsWithin arrivals := by
  induction arrivals generalizing i with
  | nil => cases member
  | cons arrival rest ih =>
    by_cases ends : i.Ends arrival
    · exact .inl ends
    · have still : (i.take arrival).order ≠ .ended := by
        cases arrival with
        | failure e => exact open_
        | part part =>
          intro ended
          have finish := ResponseOrder.finish_of_allow_ended open_ ended
          exact ends ((Intake.ends_part_iff i part).mpr ⟨open_, .inl finish⟩)
      rcases List.mem_cons.mp member with rfl | later
      · exact absurd (.finish open_ status trailers) ends
      · exact .inr (ih still later)

namespace Pass

theorem terminated_accumulate (p : Pass σ P Resp) (part : ResponsePart Resp) :
    (p.accumulate part).call.terminated =
      (p.call.terminated || (p.call.accumulator.accept part).2) := by
  unfold accumulate
  by_cases violated : (p.call.accumulator.accept part).2 = true
  · simp [violated]
  · simp [violated]

/-- The headers that are put ahead of a message do not change how it is taken. -/
theorem accept_accumulate_headers (p : Pass σ P Resp) (m : Metadata)
    (part : ResponsePart Resp) :
    ((p.accumulate (.headers m)).call.accumulator.accept part).2 =
      (p.call.accumulator.accept part).2 := by
  rw [Bool.eq_iff_iff, Accumulator.accept_snd_iff, Accumulator.accept_snd_iff]
  simp [accumulate, Accumulator.accept]

/-- A part that leaves the chain terminates the call if it ends it, and not otherwise. -/
theorem terminated_deliver (part : ResponsePart Resp) (p : Pass σ P Resp) :
    (deliver part p).call.terminated = true ↔
      p.call.terminated = true ∨ p.call.intake.Ends (.part part) := by
  rw [Intake.ends_part_iff]
  simp only [Call.intake]
  cases order : p.call.order with
  | ended => simp [deliver, order]
  | fresh =>
    cases part with
    | headers m =>
      simp [deliver, order, ResponseOrder.allow, terminated_accumulate, ResponsePart.isFinish]
    | message m flags =>
      simp [deliver, order, ResponseOrder.allow, terminated_accumulate, accept_accumulate_headers,
        ResponsePart.isFinish]
    | finish status trailers =>
      simp [deliver, order, ResponseOrder.allow, ResponsePart.isFinish]
  | streaming =>
    cases part with
    | headers m => simp [deliver, order, ResponseOrder.allow, ResponsePart.isFinish]
    | message m flags =>
      simp [deliver, order, ResponseOrder.allow, terminated_accumulate, ResponsePart.isFinish]
    | finish status trailers =>
      simp [deliver, order, ResponseOrder.allow, ResponsePart.isFinish]

/-- At the edges of the chain, only arrivals terminate a call. -/
theorem terminated_act (setup : Setup σ P Req Resp)
    (action : EdgeAction σ (RequestPart Req) (ResponsePart Resp)) (p : Pass σ P Resp) :
    ((edges setup).act action p).call.terminated = true ↔
      p.call.terminated = true ∨ p.call.intake.EndsWithin action.arrival?.toList := by
  cases action with
  | note update => exact (or_iff_left id).symm
  | transport part =>
    have kept : (toTransport setup part p).call.terminated = p.call.terminated := by
      unfold toTransport
      cases part.tryMap setup.requests.encode <;> rfl
    rw [← kept]
    exact (or_iff_left id).symm
  | arrive arrival =>
    have once : p.call.intake.EndsWithin [arrival] ↔ p.call.intake.Ends arrival := or_iff_left id
    refine Iff.trans ?_ (or_congr_right once.symm)
    cases arrival with
    | part part => exact terminated_deliver part p
    | failure e => exact (or_iff_left (Intake.not_ends_failure e)).symm

theorem terminated_replay (setup : Setup σ P Req Resp)
    (actions : List (EdgeAction σ (RequestPart Req) (ResponsePart Resp))) (p : Pass σ P Resp) :
    ((edges setup).replay actions p).call.terminated = true ↔
      p.call.terminated = true ∨
        p.call.intake.EndsWithin (actions.filterMap EdgeAction.arrival?) := by
  induction actions generalizing p with
  | nil => exact (or_iff_left id).symm
  | cons action rest ih =>
    have arrived : (action :: rest).filterMap EdgeAction.arrival? =
        action.arrival?.toList ++ rest.filterMap EdgeAction.arrival? := by
      cases h : action.arrival? with
      | none => rw [List.filterMap_cons_none h]; rfl
      | some arrival => rw [List.filterMap_cons_some h]; rfl
    rw [Edges.replay_cons, ih, terminated_act, intake_act, arrived, Intake.endsWithin_append,
      or_assoc]

theorem terminated_send (setup : Setup σ P Req Resp) (part : RequestPart Req)
    (p : Pass σ P Resp) :
    (send setup part p).call.terminated = true ↔
      p.call.terminated = true ∨ p.call.intake.EndsWithin (sendArrivals setup part p) := by
  unfold send sendArrivals
  rw [← Chain.replay_sendTrace, terminated_replay]

theorem terminated_arrive (setup : Setup σ P Req Resp) (arrival : Arrival (ResponsePart Resp))
    (p : Pass σ P Resp) :
    (setup.chain.arrive (edges setup) setup.path arrival p).call.terminated = true ↔
      p.call.terminated = true ∨ p.call.intake.EndsWithin (chainArrivals setup arrival p) := by
  unfold chainArrivals
  rw [← Chain.replay_arriveTrace, terminated_replay]

/-- One part enters the chain: the end closes the request side first. -/
def enter (setup : Setup σ P Req Resp) (part : RequestPart Req) (p : Pass σ P Resp) :
    Pass σ P Resp :=
  send setup part { p with call := { p.call with closed := part.kind == .finish } }

/-- What reaches the intake while one part enters the chain. -/
def enterArrivals (setup : Setup σ P Req Resp) (part : RequestPart Req) (p : Pass σ P Resp) :
    List (Arrival (ResponsePart Resp)) :=
  sendArrivals setup part { p with call := { p.call with closed := part.kind == .finish } }

theorem intake_enter (setup : Setup σ P Req Resp) (part : RequestPart Req) (p : Pass σ P Resp) :
    (enter setup part p).call.intake = p.call.intake.takeAll (enterArrivals setup part p) :=
  intake_send setup part _

theorem terminated_enter (setup : Setup σ P Req Resp) (part : RequestPart Req)
    (p : Pass σ P Resp) :
    (enter setup part p).call.terminated = true ↔
      p.call.terminated = true ∨ p.call.intake.EndsWithin (enterArrivals setup part p) :=
  terminated_send setup part _

/-- Why the next part would be refused: the end is looked at first. -/
def refusal? (p : Pass σ P Resp) : Option CallError :=
  if p.call.closed then some .streamAlreadyClosed
  else if p.call.terminated then some .cancelled
  else none

theorem refusal?_eq_none_iff {p : Pass σ P Resp} :
    p.refusal? = none ↔ p.call.closed = false ∧ p.call.terminated = false := by
  unfold refusal?
  cases p.call.closed <;> cases p.call.terminated <;> simp

theorem enqueue_of_refusal {setup : Setup σ P Req Resp} {part : RequestPart Req}
    {rest : List (RequestPart Req)} {p : Pass σ P Resp} {e : CallError}
    (refused : p.refusal? = some e) :
    enqueue setup (part :: rest) p = (.error e, p) ∧
      enqueueArrivals setup (part :: rest) p = [] := by
  unfold refusal? at refused
  unfold enqueue enqueueArrivals
  by_cases closed : p.call.closed = true
  · rw [if_pos closed] at refused
    cases refused
    simp [closed]
  · rw [if_neg closed] at refused
    obtain ⟨terminated, same⟩ := Option.ite_none_right_eq_some.mp refused
    cases same
    simp [closed, terminated]

theorem enqueue_of_free {setup : Setup σ P Req Resp} {part : RequestPart Req}
    {rest : List (RequestPart Req)} {p : Pass σ P Resp} (free : p.refusal? = none) :
    enqueue setup (part :: rest) p = enqueue setup rest (enter setup part p) ∧
      enqueueArrivals setup (part :: rest) p =
        enterArrivals setup part p ++ enqueueArrivals setup rest (enter setup part p) := by
  obtain ⟨open_, running⟩ := refusal?_eq_none_iff.mp free
  constructor
  · rw [enqueue, open_, running, if_neg Bool.false_ne_true, if_neg Bool.false_ne_true]
    rfl
  · rw [enqueueArrivals, open_, running, if_neg (by decide)]
    rfl

theorem terminated_enqueue (setup : Setup σ P Req Resp) (parts : List (RequestPart Req))
    (p : Pass σ P Resp) :
    (enqueue setup parts p).2.call.terminated = true ↔
      p.call.terminated = true ∨ p.call.intake.EndsWithin (enqueueArrivals setup parts p) := by
  induction parts generalizing p with
  | nil => exact (or_iff_left id).symm
  | cons part rest ih =>
    cases refused : p.refusal? with
    | some e =>
      rw [(enqueue_of_refusal refused).1, (enqueue_of_refusal refused).2]
      exact (or_iff_left id).symm
    | none =>
      rw [(enqueue_of_free refused).1, (enqueue_of_free refused).2, ih, terminated_enter,
        intake_enter, Intake.endsWithin_append, or_assoc]

end Pass

theorem Call.terminated_send (setup : Setup σ P Req Resp) (parts : List (RequestPart Req))
    (call : Call σ Resp) :
    (call.send setup parts).2.call.terminated = true ↔
      call.terminated = true ∨
        call.intake.EndsWithin (Pass.enqueueArrivals setup parts (.start call)) := by
  refine Iff.trans ?_ (Pass.terminated_enqueue setup parts (.start call))
  unfold send
  split
  · next p h => rw [h]
  · next e p h => rw [h]

namespace Event

/-- An event that ends the call if it is still running: it gives up on the transport, or what
leaves the chain on its account ends the call. -/
def Ends (setup : Setup σ P Req Resp) (event : Event P Req) (call : Call σ Resp) : Prop :=
  event.givesUp setup call = true ∨ call.intake.EndsWithin (event.arrivals setup call)

/-- After an event the call is terminated if it was before, or if the event ends it. -/
theorem terminated_pass (setup : Setup σ P Req Resp) (event : Event P Req) (call : Call σ Resp) :
    (event.pass setup call).call.terminated = true ↔
      call.terminated = true ∨ event.Ends setup call := by
  unfold Ends
  by_cases givesUp : event.givesUp setup call = true
  · exact iff_of_true (terminated_of_givesUp givesUp) (Or.inr (Or.inl givesUp))
  · rw [or_iff_right givesUp]
    cases event with
    | cancel => exact absurd rfl givesUp
    | send parts => exact Call.terminated_send setup parts call
    | error e =>
      simp only [arrivals, Intake.endsWithin_concat_failure]
      exact Pass.terminated_arrive setup (.failure e) (.start call)
    | expire =>
      cases status : call.status? with
      | none => simp [Event.givesUp, status] at givesUp
      | some s =>
        simp only [pass, Call.expire, arrivals, status]
        exact (or_iff_left id).symm
    | part p =>
      cases decoded : p.tryMap setup.responses.decode with
      | error e => simp [Event.givesUp, decoded] at givesUp
      | ok part =>
        simp only [pass, Call.onPart, arrivals, decoded]
        exact Pass.terminated_arrive setup (.part part) (.start call)

end Event

namespace Call

/-- One of these moves, where it happens in the run, ends the call. -/
def EndedBy (setup : Setup σ P Req Resp) (moves : List (Move P Req)) (call : Call σ Resp) :
    Prop :=
  ∃ before event after, moves = before ++ .event event :: after ∧
    event.Ends setup (call.run setup before)

theorem not_endedBy_nil (setup : Setup σ P Req Resp) (call : Call σ Resp) :
    ¬call.EndedBy setup [] := by
  rintro ⟨before, event, after, split, -⟩
  cases before <;> cases split

theorem endedBy_cons (setup : Setup σ P Req Resp) (move : Move P Req) (rest : List (Move P Req))
    (call : Call σ Resp) :
    call.EndedBy setup (move :: rest) ↔
      (∃ event, move = .event event ∧ event.Ends setup call) ∨
        (call.move setup move).EndedBy setup rest := by
  constructor
  · rintro ⟨before, event, after, split, ends⟩
    cases before with
    | nil =>
      cases split
      exact Or.inl ⟨event, rfl, ends⟩
    | cons first before =>
      cases split
      exact Or.inr ⟨before, event, after, rfl, ends⟩
  · rintro (⟨event, rfl, ends⟩ | ⟨before, event, after, rfl, ends⟩)
    · exact ⟨[], event, rest, rfl, ends⟩
    · exact ⟨move :: before, event, after, rfl, ends⟩

theorem terminated_move (setup : Setup σ P Req Resp) (move : Move P Req) (call : Call σ Resp) :
    (call.move setup move).terminated = true ↔
      call.terminated = true ∨ ∃ event, move = .event event ∧ event.Ends setup call := by
  cases move with
  | event event => simpa [Call.move] using Event.terminated_pass setup event call
  | pull => simp [Call.move, pull_snd, mapStream]
  | next => simp [Call.move, next_snd, mapStream]

/-- After a run the call is terminated if it was before, or if one of the moves ended it. -/
theorem terminated_run_iff (setup : Setup σ P Req Resp) (moves : List (Move P Req))
    (call : Call σ Resp) :
    (call.run setup moves).terminated = true ↔
      call.terminated = true ∨ call.EndedBy setup moves := by
  induction moves generalizing call with
  | nil => exact (or_iff_left (not_endedBy_nil setup call)).symm
  | cons move rest ih => rw [run_cons, ih, terminated_move, endedBy_cons, or_assoc]

end Call

end RemoteCall.Client
