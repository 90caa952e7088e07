import RemoteCall.Proofs.Client.Event

/-!
# Every call settles completely

`Intake.Sound` ties what a call reports to the parts that left its chain, and `Call.Sound` adds
that a call is terminated only with its status. Every move keeps both, so they hold in every
reachable state: what ends a call gives it a status, and with the status come all other slots.
-/

namespace RemoteCall.Client

variable {σ P Req Resp : Type}

/-- How many messages the order filter admits. -/
def admittedMessages (departed : List (ResponsePart Resp)) : Nat :=
  (ResponseOrder.fresh.allowAll departed).countP ResponsePart.isMessage

namespace Intake

/-- What holds of an intake after these parts have left the chain. -/
structure Sound (streams : Bool) (departed : List (ResponsePart Resp)) (i : Intake Resp) :
    Prop where
  accumulator : i.accumulator.Sound streams (admittedMessages departed)
  order : i.order = ResponseOrder.fresh.after departed
  ended : i.order = .ended → i.accumulator.isConcluded = true

theorem isConcluded_take {i : Intake Resp} (h : i.accumulator.isConcluded = true)
    (arrival : Arrival (ResponsePart Resp)) : (i.take arrival).accumulator.isConcluded = true := by
  cases arrival with
  | failure e => exact Accumulator.isConcluded_fail _ e
  | part part => exact Accumulator.isConcluded_acceptAll h _

theorem status_take {i : Intake Resp} (h : i.accumulator.isConcluded = true)
    (arrival : Arrival (ResponsePart Resp)) :
    (i.take arrival).accumulator.outcome.status = i.accumulator.outcome.status := by
  cases arrival with
  | failure e => exact Accumulator.status_fail h e
  | part part => exact Accumulator.status_acceptAll h _

theorem status_takeAll {i : Intake Resp} (h : i.accumulator.isConcluded = true)
    (arrivals : List (Arrival (ResponsePart Resp))) :
    (i.takeAll arrivals).accumulator.outcome.status = i.accumulator.outcome.status := by
  induction arrivals generalizing i with
  | nil => rfl
  | cons arrival rest ih =>
    exact (ih (isConcluded_take h arrival)).trans (status_take h arrival)

theorem sound_take {streams : Bool} {departed : List (ResponsePart Resp)} {i : Intake Resp}
    (sound : i.Sound streams departed) (arrival : Arrival (ResponsePart Resp)) :
    (i.take arrival).Sound streams (departed ++ arrival.part?.toList) := by
  cases arrival with
  | failure e =>
    simp only [Arrival.part?, Option.toList_none, List.append_nil]
    exact
      { accumulator := Accumulator.sound_fail sound.accumulator e
        order := sound.order
        ended := fun _ => Accumulator.isConcluded_fail _ e }
  | part part =>
    have admitted : admittedMessages (departed ++ [part]) =
        admittedMessages departed + (i.order.allow part).1.countP ResponsePart.isMessage := by
      unfold admittedMessages
      rw [ResponseOrder.allowAll_append, ← sound.order, List.countP_append]
      simp [ResponseOrder.allowAll]
    refine ⟨?_, ?_, fun ended => ?_⟩
    · show (i.accumulator.acceptAll _).Sound streams (admittedMessages (departed ++ [part]))
      rw [admitted]
      exact Accumulator.sound_acceptAll sound.accumulator _
    · show (i.order.allow part).2 = ResponseOrder.fresh.after (departed ++ [part])
      rw [ResponseOrder.after_append, ← sound.order]
      rfl
    · by_cases open_ : i.order = .ended
      · exact Accumulator.isConcluded_acceptAll (sound.ended open_) _
      · -- The filter has closed just now, so this part is an end and was admitted.
        have finish := ResponseOrder.finish_of_allow_ended open_ ended
        exact Accumulator.isConcluded_acceptAll_of_finish
          (ResponseOrder.allow_of_finish open_ finish) _

theorem sound_takeAll {streams : Bool} {departed : List (ResponsePart Resp)} {i : Intake Resp}
    (sound : i.Sound streams departed) (arrivals : List (Arrival (ResponsePart Resp))) :
    (i.takeAll arrivals).Sound streams (departed ++ arrivals.filterMap Arrival.part?) := by
  induction arrivals generalizing i departed with
  | nil => simpa using sound
  | cons arrival rest ih =>
    have taken := ih (sound_take sound arrival)
    rw [List.append_assoc] at taken
    cases h : arrival.part? with
    | none =>
      rw [h] at taken
      rw [List.filterMap_cons_none h]
      exact taken
    | some part =>
      rw [h] at taken
      rw [List.filterMap_cons_some h]
      exact taken

end Intake

namespace Pass

/-- A call is terminated only with its status. -/
def Held (p : Pass σ P Resp) : Prop :=
  p.call.terminated = true → p.call.accumulator.isConcluded = true

theorem held_of_isConcluded {p : Pass σ P Resp}
    (h : p.call.accumulator.isConcluded = true) : p.Held := fun _ => h

theorem isConcluded_failWith (e : CallError) (p : Pass σ P Resp) :
    (failWith e p).call.accumulator.isConcluded = true :=
  Accumulator.isConcluded_fail p.call.accumulator e

theorem held_accumulate {p : Pass σ P Resp} (held : p.Held) (part : ResponsePart Resp) :
    (p.accumulate part).Held := by
  unfold accumulate
  by_cases violated : (p.call.accumulator.accept part).2 = true
  · simp only [violated, if_true]
    apply held_of_isConcluded
    rw [accumulator_abandon]
    exact Accumulator.isConcluded_of_violation violated
  · simp only [violated]
    exact fun terminated => Accumulator.isConcluded_accept (held terminated) part

theorem held_foldl_accumulate {p : Pass σ P Resp} (held : p.Held)
    (parts : List (ResponsePart Resp)) : (parts.foldl accumulate p).Held := by
  induction parts generalizing p with
  | nil => exact held
  | cons part rest ih => exact ih (held_accumulate held part)

theorem held_deliver {p : Pass σ P Resp} (held : p.Held) (part : ResponsePart Resp) :
    (deliver part p).Held := by
  unfold deliver
  by_cases finish : (p.call.order.allow part).1.any ResponsePart.isFinish = true
  · simp only [finish, if_true]
    apply held_of_isConcluded
    have taken := congrArg Intake.accumulator (intake_foldl_accumulate (p.call.order.allow part).1
      { p with call := { p.call with order := (p.call.order.allow part).2 } })
    rw [accumulator_abandon]
    exact (congrArg Accumulator.isConcluded taken).trans
      (Accumulator.isConcluded_acceptAll_of_finish finish _)
  · simp only [finish, Bool.false_eq_true, if_false]
    have ordered : ({ p with call := { p.call with order := (p.call.order.allow part).2 } } :
        Pass σ P Resp).Held := held
    exact held_foldl_accumulate ordered _

theorem held_act (setup : Setup σ P Req Resp)
    (action : EdgeAction σ (RequestPart Req) (ResponsePart Resp)) (p : Pass σ P Resp)
    (held : p.Held) : ((edges setup).act action p).Held := by
  cases action with
  | note update => exact held
  | transport part =>
    show (toTransport setup part p).Held
    unfold toTransport
    cases part.tryMap setup.requests.encode <;> exact held
  | arrive arrival =>
    cases arrival with
    | part part => exact held_deliver held part
    | failure e => exact held_of_isConcluded (isConcluded_failWith e p)

theorem held_enqueue (setup : Setup σ P Req Resp) (parts : List (RequestPart Req))
    {p : Pass σ P Resp} (held : p.Held) : (enqueue setup parts p).2.Held := by
  induction parts generalizing p with
  | nil => exact held
  | cons part rest ih =>
    unfold enqueue
    by_cases hclosed : p.call.closed = true
    · simpa only [hclosed, if_true] using held
    · by_cases hterminated : p.call.terminated = true
      · simpa only [hclosed, hterminated, Bool.false_eq_true, if_false, if_true] using held
      · rw [if_neg hclosed, if_neg hterminated]
        have opened : ({ p with call := { p.call with closed := part.kind == .finish } } :
            Pass σ P Resp).Held := held
        exact ih (Chain.send_keeps (held_act setup) setup.chain setup.path part opened)

end Pass

namespace Call

theorem held_send (setup : Setup σ P Req Resp) (parts : List (RequestPart Req))
    {call : Call σ Resp} (held : (Pass.start call : Pass σ P Resp).Held) :
    (call.send setup parts).2.Held := by
  have enqueued := Pass.held_enqueue setup parts held
  unfold send
  split
  · next p h => rwa [h] at enqueued
  · next e p h => rwa [h] at enqueued

/-- A termination concludes, the first because it fails everything and a later one because the
first did. -/
theorem isConcluded_terminate (setup : Setup σ P Req Resp) (e : CallError) {call : Call σ Resp}
    (held : (Pass.start call : Pass σ P Resp).Held) :
    (call.terminate setup e).2.call.accumulator.isConcluded = true := by
  unfold terminate
  by_cases h : call.terminated = true
  · simp only [h, if_true]
    exact held h
  · simp only [h, Bool.false_eq_true, if_false]
    exact Pass.isConcluded_failWith e _

end Call

namespace Event

/-- Whether an event ends the call, whatever its chain does about it. -/
def isEnding (setup : Setup σ P Req Resp) : Event P Req → Bool
  | send _ => false
  | cancel => true
  | expire => true
  | part p =>
    match p.tryMap setup.responses.decode with
    | .ok _ => false
    | .error _ => true
  | error _ => true

theorem isConcluded_pass {setup : Setup σ P Req Resp} {event : Event P Req}
    (ending : event.isEnding setup = true) {call : Call σ Resp}
    (held : (Pass.start call : Pass σ P Resp).Held) :
    (event.pass setup call).call.accumulator.isConcluded = true := by
  cases event with
  | send parts => cases ending
  | cancel => exact Call.isConcluded_terminate setup .cancelled held
  | error e => exact Pass.isConcluded_failWith e _
  | expire =>
    simp only [pass, Call.expire]
    cases h : call.status? with
    | none => exact Call.isConcluded_terminate setup .deadlineExceeded held
    | some status => exact Option.isSome_iff_exists.mpr ⟨status, h⟩
  | part p =>
    simp only [isEnding] at ending
    simp only [pass, Call.onPart]
    cases h : p.tryMap setup.responses.decode with
    | ok decoded =>
      rw [h] at ending
      cases ending
    | error e =>
      show (Pass.abandon _).call.accumulator.isConcluded = true
      rw [Pass.accumulator_abandon]
      exact Pass.isConcluded_failWith e _

theorem held_pass (setup : Setup σ P Req Resp) (event : Event P Req) {call : Call σ Resp}
    (held : (Pass.start call : Pass σ P Resp).Held) : (event.pass setup call).Held := by
  by_cases ending : event.isEnding setup = true
  · exact Pass.held_of_isConcluded (isConcluded_pass ending held)
  · cases event with
    | send parts => exact Call.held_send setup parts held
    | cancel => exact absurd rfl ending
    | expire => exact absurd rfl ending
    | error e => exact absurd rfl ending
    | part p =>
      simp only [isEnding] at ending
      simp only [pass, Call.onPart]
      cases h : p.tryMap setup.responses.decode with
      | error e =>
        rw [h] at ending
        exact absurd rfl ending
      | ok decoded =>
        exact Chain.arrive_keeps (Pass.held_act setup) setup.chain setup.path (.part decoded) held

end Event

namespace Call

/-- What holds of a call between events, after these parts have left its chain. -/
structure Sound (streams : Bool) (departed : List (ResponsePart Resp)) (call : Call σ Resp) :
    Prop where
  intake : call.intake.Sound streams departed
  terminated : call.terminated = true → call.accumulator.isConcluded = true

theorem Sound.held {streams : Bool} {departed : List (ResponsePart Resp)} {call : Call σ Resp}
    (sound : call.Sound streams departed) : (Pass.start call : Pass σ P Resp).Held :=
  sound.terminated

theorem sound_fresh (shape : CallShape) (shared : σ) :
    (fresh shape shared : Call σ Resp).Sound shape.streamsResponses [] where
  intake :=
    { accumulator := Accumulator.sound_fresh shape.streamsResponses
      order := rfl
      ended := fun h => nomatch h }
  terminated := fun h => nomatch h

theorem sound_begin (setup : Setup σ P Req Resp) (shared : σ) (invocation : Result Unit)
    (request : Option Req) :
    (begin setup shared invocation request).Sound setup.shape.streamsResponses
      (startDepartures setup shared invocation request) where
  intake := by
    show ((fresh setup.shape shared).start setup invocation request).call.intake.Sound _ _
    rw [intake_start]
    exact Intake.sound_takeAll (sound_fresh setup.shape shared).intake _
  terminated := by
    show ((fresh setup.shape shared).start setup invocation request).Held
    cases invocation with
    | error e => exact Pass.held_of_isConcluded (Pass.isConcluded_failWith e _)
    | ok u => exact held_send setup _ (sound_fresh setup.shape shared).held

/-- A call whose invocation fails is over at once. -/
theorem isConcluded_begin_of_failed (setup : Setup σ P Req Resp) (shared : σ) (e : CallError)
    (request : Option Req) :
    (begin setup shared (.error e) request).accumulator.isConcluded = true :=
  Accumulator.isConcluded_fail _ e

theorem sound_mapStream {streams : Bool} {departed : List (ResponsePart Resp)}
    {call : Call σ Resp} (sound : call.Sound streams departed)
    {f : MessageStream Resp → MessageStream Resp}
    (hf : ∀ s, (f s).isFinished = s.isFinished) : (call.mapStream f).Sound streams departed where
  intake :=
    { accumulator := Accumulator.sound_mapStream sound.intake.accumulator hf
      order := sound.intake.order
      ended := sound.intake.ended }
  terminated := sound.terminated

theorem sound_move (setup : Setup σ P Req Resp) {streams : Bool}
    {departed : List (ResponsePart Resp)} {call : Call σ Resp}
    (sound : call.Sound streams departed) (move : Move P Req) :
    (call.move setup move).Sound streams
      (departed ++ (call.moveArrivals setup move).filterMap Arrival.part?) := by
  cases move with
  | event event =>
    refine ⟨?_, Event.held_pass setup event sound.held⟩
    show (event.pass setup call).call.intake.Sound _ _
    rw [Event.intake_pass]
    exact Intake.sound_takeAll sound.intake _
  | pull =>
    show (call.pull.2).Sound streams (departed ++ [])
    rw [pull_snd, List.append_nil]
    exact sound_mapStream sound MessageStream.isFinished_pull
  | next =>
    show (call.next.2).Sound streams (departed ++ [])
    rw [next_snd, List.append_nil]
    exact sound_mapStream sound MessageStream.isFinished_next

theorem sound_run (setup : Setup σ P Req Resp) {streams : Bool}
    {departed : List (ResponsePart Resp)} {call : Call σ Resp}
    (sound : call.Sound streams departed) (moves : List (Move P Req)) :
    (call.run setup moves).Sound streams (departed ++ call.departures setup moves) := by
  induction moves generalizing call departed with
  | nil => simpa [departures, arrivals] using sound
  | cons move rest ih =>
    rw [run_cons, departures_cons, ← List.append_assoc]
    exact ih (sound_move setup sound move)

theorem status?_move (setup : Setup σ P Req Resp) {call : Call σ Resp}
    (h : call.status?.isSome = true) (move : Move P Req) :
    (call.move setup move).status? = call.status? := by
  cases move with
  | event event =>
    have taken := congrArg Intake.accumulator (Event.intake_pass setup event call)
    have kept := Intake.status_takeAll (i := call.intake) h (event.arrivals setup call)
    exact congrArg WriteOnce.value?
      ((congrArg (fun a => a.outcome.status) taken).trans kept)
  | pull =>
    show (call.pull.2).status? = call.status?
    rw [pull_snd]
    rfl
  | next =>
    show (call.next.2).status? = call.status?
    rw [next_snd]
    rfl

/-- A status that is there stays. -/
theorem status?_run (setup : Setup σ P Req Resp) {call : Call σ Resp}
    (h : call.status?.isSome = true) (moves : List (Move P Req)) :
    (call.run setup moves).status? = call.status? := by
  induction moves generalizing call with
  | nil => rfl
  | cons move rest ih =>
    have kept := status?_move setup h move
    rw [run_cons, ih (by rw [kept]; exact h), kept]

/-- An ending event leaves a call with its status, then and for ever. -/
theorem isSome_status?_run_of_ending (setup : Setup σ P Req Resp) {streams : Bool}
    {departed : List (ResponsePart Resp)} {call : Call σ Resp}
    (sound : call.Sound streams departed) {moves : List (Move P Req)} {event : Event P Req}
    (member : .event event ∈ moves) (ending : event.isEnding setup = true) :
    (call.run setup moves).status?.isSome = true := by
  obtain ⟨before, behind, rfl⟩ := List.append_of_mem member
  have concluded : ((call.run setup before).move setup (.event event)).status?.isSome = true :=
    Event.isConcluded_pass ending (sound_run setup sound before).held
  rw [run_append, run_cons, status?_run setup concluded]
  exact concluded

/-- Every call settles completely. A failed invocation, an ending event, an end that leaves the
chain and a second message for a single response all give it a status. At any time the trailers
are there exactly with the status, and then so are the headers and the response; and the status
stays. -/
theorem settles_completely (setup : Setup σ P Req Resp) (shared : σ) (invocation : Result Unit)
    (request : Option Req) (moves : List (Move P Req)) :
    let started := begin setup shared invocation request
    let call := started.run setup moves
    let departed :=
      startDepartures setup shared invocation request ++ started.departures setup moves
    (∀ e, invocation = .error e → call.status?.isSome = true) ∧
    (∀ event, .event event ∈ moves → event.isEnding setup = true →
      call.status?.isSome = true) ∧
    (departed.any ResponsePart.isFinish = true → call.status?.isSome = true) ∧
    (setup.shape.streamsResponses = false → 2 ≤ admittedMessages departed →
      call.status?.isSome = true) ∧
    (call.status?.isSome = call.accumulator.outcome.trailing.isResolved) ∧
    (call.status?.isSome = true →
      call.accumulator.outcome.initial.isResolved = true ∧
      call.accumulator.response.isSettled = true) ∧
    (∀ later, call.status?.isSome = true → (call.run setup later).status? = call.status?) := by
  intro started call departed
  have first : started.Sound _ _ := sound_begin setup shared invocation request
  have sound : call.Sound setup.shape.streamsResponses departed := sound_run setup first moves
  refine ⟨?_, ?_, ?_, ?_, ?_, ?_, ?_⟩
  · rintro e rfl
    have failed : started.status?.isSome = true :=
      isConcluded_begin_of_failed setup shared e request
    rw [status?_run setup failed]
    exact failed
  · intro event member ending
    exact isSome_status?_run_of_ending setup first member ending
  · intro finish
    apply sound.intake.ended
    rw [sound.intake.order]
    exact ResponseOrder.after_of_finish finish .fresh
  · intro hsingle hmany
    exact sound.intake.accumulator.second hsingle hmany
  · exact sound.intake.accumulator.whole.trailing
  · intro concluded
    have whole := sound.intake.accumulator.whole
    exact ⟨whole.initial concluded, whole.response concluded⟩
  · intro later concluded
    exact status?_run setup concluded later

end Call

end RemoteCall.Client
