import RemoteCall.Proofs.Client.FirstOutcome

/-!
# A call gives up on its transport once

What a call asks of its transport in a run is `Call.requests`. A call is terminated exactly when
it has asked to cancel, and it asks that once. An end that is admitted, a second message, a part
that cannot be decoded, a cancellation and the deadline all lead there. A failure that a hook
makes up while a part runs through the chain does not: it gives the call its status and leaves
the transport as it is (`hook_failure_keeps_transport`), and then not even the deadline gives up
on it. `released_unless_hook_failed` says that there is no other way to a status without giving
up, as long as the transport does not fail itself.
-/

namespace RemoteCall

namespace Client

variable {σ P Req Resp : Type}

def TransportOp.isCancel : TransportOp P → Bool
  | send _ => false
  | cancel => true

namespace Pass

/-- The transport was cancelled since if the call was terminated since, and not otherwise. -/
def Counts (before : Bool) (p : Pass σ P Resp) : Prop :=
  p.ops.countP TransportOp.isCancel + before.toNat = p.call.terminated.toNat

theorem counts_start (call : Call σ Resp) :
    (Pass.start call : Pass σ P Resp).Counts call.terminated := by
  unfold Counts
  exact Nat.zero_add _

variable {before : Bool} {p : Pass σ P Resp}

/-- What was terminated stays so. -/
theorem Counts.terminated (counts : p.Counts true) : p.call.terminated = true := by
  unfold Counts at counts
  cases h : p.call.terminated with
  | true => rfl
  | false =>
    rw [h] at counts
    cases counts

@[simp] theorem terminated_abandon (p : Pass σ P Resp) : p.abandon.call.terminated = true := by
  unfold abandon
  by_cases h : p.call.terminated = true
  · rw [if_pos h]
    exact h
  · rw [if_neg h]

theorem Counts.abandon (counts : p.Counts before) : p.abandon.Counts before := by
  unfold Pass.abandon
  by_cases h : p.call.terminated = true
  · rw [if_pos h]
    exact counts
  · rw [if_neg h]
    have running : p.call.terminated = false := Bool.eq_false_iff.mpr h
    unfold Counts at counts ⊢
    rw [running, Bool.toNat_false] at counts
    simp only [List.countP_append, List.countP_singleton, TransportOp.isCancel, if_true,
      Bool.toNat_true]
    omega

theorem Counts.accumulate (counts : p.Counts before) (part : ResponsePart Resp) :
    (p.accumulate part).Counts before := by
  unfold Pass.accumulate
  have taken : ({ p with call := { p.call with
      accumulator := (p.call.accumulator.accept part).1 } } : Pass σ P Resp).Counts before := counts
  by_cases violated : (p.call.accumulator.accept part).2 = true
  · simp only [violated, if_true]
    exact taken.abandon
  · simp only [violated]
    exact taken

theorem Counts.foldl_accumulate (counts : p.Counts before) (parts : List (ResponsePart Resp)) :
    (parts.foldl Pass.accumulate p).Counts before := by
  induction parts generalizing p with
  | nil => exact counts
  | cons part rest ih => exact ih (counts.accumulate part)

theorem counts_act (setup : Setup σ P Req Resp)
    (action : EdgeAction σ (RequestPart Req) (ResponsePart Resp)) (p : Pass σ P Resp)
    (counts : p.Counts before) : ((edges setup).act action p).Counts before := by
  cases action with
  | note update => exact counts
  | transport part =>
    show (toTransport setup part p).Counts before
    unfold toTransport
    cases part.tryMap setup.requests.encode with
    | error e => exact counts
    | ok encoded =>
      unfold Counts at counts ⊢
      simpa [List.countP_append, TransportOp.isCancel] using counts
  | arrive arrival =>
    cases arrival with
    | failure e => exact counts
    | part part =>
      show (deliver part p).Counts before
      have ordered : ({ p with call := { p.call with order := (p.call.order.allow part).2 } } :
          Pass σ P Resp).Counts before := counts
      have folded := ordered.foldl_accumulate (p.call.order.allow part).1
      unfold deliver
      by_cases finish : (p.call.order.allow part).1.any ResponsePart.isFinish = true
      · simp only [finish, if_true]
        exact folded.abandon
      · simp only [finish, Bool.false_eq_true, if_false]
        exact folded

theorem counts_send (setup : Setup σ P Req Resp) (part : RequestPart Req)
    (counts : p.Counts before) : (send setup part p).Counts before :=
  Chain.send_keeps (counts_act setup) setup.chain setup.path part counts

theorem counts_arrive (setup : Setup σ P Req Resp) (arrival : Arrival (ResponsePart Resp))
    (counts : p.Counts before) :
    (setup.chain.arrive (edges setup) setup.path arrival p).Counts before :=
  Chain.arrive_keeps (counts_act setup) setup.chain setup.path arrival counts

theorem counts_enqueue (setup : Setup σ P Req Resp) (parts : List (RequestPart Req))
    (counts : p.Counts before) : (enqueue setup parts p).2.Counts before := by
  induction parts generalizing p with
  | nil => exact counts
  | cons part rest ih =>
    unfold enqueue
    by_cases hclosed : p.call.closed = true
    · rw [if_pos hclosed]
      exact counts
    · rw [if_neg hclosed]
      by_cases hterminated : p.call.terminated = true
      · rw [if_pos hterminated]
        exact counts
      · rw [if_neg hterminated]
        have opened : ({ p with call := { p.call with closed := part.kind == .finish } } :
            Pass σ P Resp).Counts before := counts
        exact ih (counts_send setup part opened)

end Pass

namespace Call

theorem counts_send (setup : Setup σ P Req Resp) (parts : List (RequestPart Req))
    (call : Call σ Resp) : (call.send setup parts).2.Counts call.terminated := by
  have enqueued := Pass.counts_enqueue setup parts (Pass.counts_start call)
  unfold send
  split
  · next p h => rwa [h] at enqueued
  · next e p h => rwa [h] at enqueued

/-- A termination cancels, unless that was done. -/
theorem counts_terminate (setup : Setup σ P Req Resp) (e : CallError) (call : Call σ Resp) :
    (call.terminate setup e).2.Counts call.terminated ∧
      (call.terminate setup e).2.call.terminated = true := by
  unfold terminate
  by_cases h : call.terminated = true
  · rw [if_pos h]
    exact ⟨Pass.counts_start call, h⟩
  · rw [if_neg h]
    have running : call.terminated = false := Bool.eq_false_iff.mpr h
    -- The flag is set before the chain runs, so nothing in the chain cancels.
    have failed := Pass.counts_arrive (P := P) setup (.failure e)
      (Pass.counts_start { call with terminated := true })
    have given := failed.terminated
    refine ⟨?_, given⟩
    unfold Pass.Counts at failed ⊢
    rw [running]
    simp only [Pass.failWith, Pass.mapAccumulator, Pass.fail, Chain.fail, List.countP_append]
    rw [given, Bool.toNat_true] at failed ⊢
    simp only [List.countP_singleton, TransportOp.isCancel, if_true, Bool.toNat_false]
    omega

end Call

namespace Event

/-- An event cancels the transport if it terminates the call, and not otherwise. -/
theorem counts_pass (setup : Setup σ P Req Resp) (event : Event P Req) (call : Call σ Resp) :
    (event.pass setup call).Counts call.terminated := by
  cases event with
  | send parts => exact Call.counts_send setup parts call
  | cancel => exact (Call.counts_terminate setup .cancelled call).1
  | error e => exact Pass.counts_arrive setup (.failure e) (Pass.counts_start call)
  | expire =>
    simp only [pass, Call.expire]
    cases call.status? with
    | some status => exact Pass.counts_start call
    | none => exact (Call.counts_terminate setup .deadlineExceeded call).1
  | part p =>
    simp only [pass, Call.onPart]
    cases p.tryMap setup.responses.decode with
    | ok decoded => exact Pass.counts_arrive setup (.part decoded) (Pass.counts_start call)
    | error e =>
      have failed := Pass.counts_arrive setup (.failure e) (Pass.counts_start call)
      have settled : (Pass.failWith e (Pass.fail setup e (.start call))).Counts call.terminated :=
        failed
      exact settled.abandon

/-- Whether an event gives up on the transport, unless that was done. -/
def givesUp (setup : Setup σ P Req Resp) (event : Event P Req) (call : Call σ Resp) : Bool :=
  match event with
  | cancel => true
  | expire => call.status?.isNone
  | part p =>
    match p.tryMap setup.responses.decode with
    | .ok _ => false
    | .error _ => true
  | _ => false

theorem terminated_of_givesUp {setup : Setup σ P Req Resp} {event : Event P Req}
    {call : Call σ Resp} (givesUp : event.givesUp setup call = true) :
    (event.pass setup call).call.terminated = true := by
  cases event with
  | send parts => cases givesUp
  | error e => cases givesUp
  | cancel => exact (Call.counts_terminate setup .cancelled call).2
  | expire =>
    simp only [Event.givesUp] at givesUp
    simp only [pass, Call.expire]
    cases h : call.status? with
    | some status =>
      rw [h] at givesUp
      cases givesUp
    | none => exact (Call.counts_terminate setup .deadlineExceeded call).2
  | part p =>
    simp only [Event.givesUp] at givesUp
    simp only [pass, Call.onPart]
    cases h : p.tryMap setup.responses.decode with
    | ok decoded =>
      rw [h] at givesUp
      cases givesUp
    | error e => exact Pass.terminated_abandon _

/-- The failures that hooks make up while an event is handled that brings none itself. -/
def hookFailures (setup : Setup σ P Req Resp) (event : Event P Req) (call : Call σ Resp) :
    List CallError :=
  if event.isEnding setup then [] else (event.arrivals setup call).filterMap Arrival.failure?

end Event

namespace Pass

variable {p : Pass σ P Resp}

/-- The status these failures lead to, if there is none before. -/
def concludedBy (status? : Option Status) (failures : List CallError) : Option Status :=
  status?.or (failures.head?.map CallError.toStatus)

theorem concludedBy_append (status? : Option Status) (first second : List CallError) :
    concludedBy (concludedBy status? first) second = concludedBy status? (first ++ second) := by
  unfold concludedBy
  cases status? with
  | some status => rfl
  | none => cases first <;> rfl

/-- Unless the call was terminated since, its status is what these failures lead to. -/
def Follows (status? : Option Status) (failures : List CallError) (p : Pass σ P Resp) : Prop :=
  p.call.terminated = false → p.call.status? = concludedBy status? failures

theorem follows_start (call : Call σ Resp) :
    (Pass.start call : Pass σ P Resp).Follows call.status? [] := by
  intro _
  unfold concludedBy
  exact (Option.or_none).symm

theorem follows_of_terminated {status? : Option Status} {failures : List CallError}
    (h : p.call.terminated = true) : p.Follows status? failures := by
  intro running
  rw [h] at running
  cases running

end Pass

/-- Apart from an end, a part that violates nothing leaves the status alone. -/
theorem Accumulator.status_accept_of_body {a : Accumulator Resp} {part : ResponsePart Resp}
    (body : part.isFinish = false) (fits : (a.accept part).2 = false) :
    (a.accept part).1.outcome.status = a.outcome.status := by
  obtain ⟨outcome, response⟩ := a
  cases part with
  | headers m => rfl
  | finish status trailers => cases body
  | message m flags =>
    cases response with
    | stream messages => rfl
    | single message violation =>
      by_cases h : message.isResolved = true
      · simp only [accept, h, if_true] at fits
        cases fits
      · simp only [accept, h]
        rfl

namespace Pass

variable {p : Pass σ P Resp}

/-- A part other than an end either terminates the call or leaves its status alone. -/
theorem status?_accumulate {part : ResponsePart Resp} (body : part.isFinish = false)
    (running : (p.accumulate part).call.terminated = false) :
    p.call.terminated = false ∧ (p.accumulate part).call.status? = p.call.status? := by
  unfold accumulate at running ⊢
  by_cases violated : (p.call.accumulator.accept part).2 = true
  · simp only [violated, if_true, terminated_abandon] at running
    cases running
  · simp only [violated] at running ⊢
    have kept := Accumulator.status_accept_of_body body (Bool.eq_false_iff.mpr violated)
    exact ⟨running, congrArg WriteOnce.value? kept⟩

theorem status?_foldl_accumulate {parts : List (ResponsePart Resp)}
    (body : parts.any ResponsePart.isFinish = false)
    (running : (parts.foldl accumulate p).call.terminated = false) :
    p.call.terminated = false ∧ (parts.foldl accumulate p).call.status? = p.call.status? := by
  induction parts generalizing p with
  | nil => exact ⟨running, rfl⟩
  | cons part rest ih =>
    rw [List.any_cons, Bool.or_eq_false_iff] at body
    obtain ⟨between, later⟩ := ih body.2 running
    obtain ⟨start, first⟩ := status?_accumulate body.1 between
    exact ⟨start, later.trans first⟩

/-- So does a part that leaves the chain; an end that is admitted terminates the call. -/
theorem status?_deliver {part : ResponsePart Resp}
    (running : (deliver part p).call.terminated = false) :
    p.call.terminated = false ∧ (deliver part p).call.status? = p.call.status? := by
  unfold deliver at running ⊢
  by_cases finish : (p.call.order.allow part).1.any ResponsePart.isFinish = true
  · simp only [finish, if_true, terminated_abandon] at running
    cases running
  · simp only [finish, Bool.false_eq_true, if_false] at running ⊢
    exact status?_foldl_accumulate (Bool.eq_false_iff.mpr finish) running

theorem follows_act (setup : Setup σ P Req Resp)
    (action : EdgeAction σ (RequestPart Req) (ResponsePart Resp)) {status? : Option Status}
    {failures : List CallError} (follows : p.Follows status? failures) :
    ((edges setup).act action p).Follows status?
      (failures ++ action.arrival?.toList.filterMap Arrival.failure?) := by
  cases action with
  | note update =>
    rw [show EdgeAction.arrival? (.note update) = none from rfl, Option.toList_none,
      List.filterMap_nil, List.append_nil]
    exact follows
  | transport part =>
    show (toTransport setup part p).Follows status? (failures ++ [])
    rw [List.append_nil]
    unfold toTransport
    cases part.tryMap setup.requests.encode <;> exact follows
  | arrive arrival =>
    cases arrival with
    | part part =>
      show (deliver part p).Follows status? (failures ++ [])
      intro running
      obtain ⟨start, kept⟩ := status?_deliver running
      rw [List.append_nil, kept]
      exact follows start
    | failure e =>
      show (failWith e p).Follows status? (failures ++ [e])
      intro running
      have before : p.call.status? = concludedBy status? failures := follows running
      rw [← concludedBy_append, ← before]
      show (p.call.accumulator.outcome.status.settle e.toStatus).value? = _
      unfold WriteOnce.settle concludedBy Call.status?
      cases h : p.call.accumulator.outcome.status.value? with
      | none => rfl
      | some status => exact h

/-- Running things through the chain, the failures that leave it are what gives a status without
terminating. -/
theorem follows_replay (setup : Setup σ P Req Resp)
    (actions : List (EdgeAction σ (RequestPart Req) (ResponsePart Resp)))
    {status? : Option Status} {failures : List CallError} (follows : p.Follows status? failures) :
    ((edges setup).replay actions p).Follows status?
      (failures ++ (actions.filterMap EdgeAction.arrival?).filterMap Arrival.failure?) := by
  induction actions generalizing p failures with
  | nil =>
    rw [List.filterMap_nil, List.filterMap_nil, List.append_nil]
    exact follows
  | cons action rest ih =>
    have acted := ih (follows_act setup action follows)
    rw [List.append_assoc, ← List.filterMap_append] at acted
    rw [Edges.replay_cons]
    cases h : action.arrival? with
    | none =>
      rw [h] at acted
      rw [List.filterMap_cons_none h]
      exact acted
    | some arrival =>
      rw [h] at acted
      rw [List.filterMap_cons_some h]
      exact acted

theorem follows_send (setup : Setup σ P Req Resp) (part : RequestPart Req)
    {status? : Option Status} {failures : List CallError} (follows : p.Follows status? failures) :
    (send setup part p).Follows status?
      (failures ++ (sendArrivals setup part p).filterMap Arrival.failure?) := by
  unfold send sendArrivals
  rw [← Chain.replay_sendTrace]
  exact follows_replay setup _ follows

theorem follows_receive (setup : Setup σ P Req Resp) (part : ResponsePart Resp)
    {status? : Option Status} {failures : List CallError} (follows : p.Follows status? failures) :
    (receive setup part p).Follows status?
      (failures ++ (chainArrivals setup (.part part) p).filterMap Arrival.failure?) := by
  unfold receive chainArrivals Chain.receive
  rw [← Chain.replay_arriveTrace]
  exact follows_replay setup _ follows

theorem follows_enqueue (setup : Setup σ P Req Resp) (parts : List (RequestPart Req))
    {status? : Option Status} {failures : List CallError} (follows : p.Follows status? failures) :
    (enqueue setup parts p).2.Follows status?
      (failures ++ (enqueueArrivals setup parts p).filterMap Arrival.failure?) := by
  induction parts generalizing p failures with
  | nil =>
    show p.Follows status? (failures ++ [])
    rw [List.append_nil]
    exact follows
  | cons part rest ih =>
    unfold enqueue enqueueArrivals
    by_cases hclosed : p.call.closed = true
    · simpa [hclosed] using follows
    · by_cases hterminated : p.call.terminated = true
      · simpa [hclosed, hterminated] using follows
      · have accepted : ¬(p.call.closed || p.call.terminated) = true := by
          simp [hclosed, hterminated]
        rw [if_neg hclosed, if_neg hterminated, if_neg accepted]
        have opened : ({ p with call := { p.call with closed := part.kind == .finish } } :
            Pass σ P Resp).Follows status? failures := follows
        show Follows _ (failures ++ List.filterMap Arrival.failure? (_ ++ _)) _
        rw [List.filterMap_append, ← List.append_assoc]
        exact ih (follows_send setup part opened)

end Pass

namespace Event

/-- An event that is no failure of the transport terminates the call, or its hooks give the
status if anything does. -/
theorem follows_pass {setup : Setup σ P Req Resp} {event : Event P Req}
    (quiet : ∀ e, event ≠ .error e) (call : Call σ Resp) :
    (event.pass setup call).Follows call.status? (event.hookFailures setup call) := by
  cases event with
  | error e => exact absurd rfl (quiet e)
  | cancel => exact Pass.follows_of_terminated (terminated_of_givesUp rfl)
  | send parts =>
    have enqueued := Pass.follows_enqueue setup parts (Pass.follows_start (P := P) call)
    show (call.send setup parts).2.Follows _ _
    unfold Call.send
    split
    · next p h => rwa [h] at enqueued
    · next e p h => rwa [h] at enqueued
  | expire =>
    cases h : call.status? with
    | none => exact Pass.follows_of_terminated (terminated_of_givesUp (by simp [givesUp, h]))
    | some status =>
      show (call.expire setup).2.Follows (some status) []
      unfold Call.expire
      rw [h]
      intro _
      exact h
  | part p =>
    cases h : p.tryMap setup.responses.decode with
    | error e => exact Pass.follows_of_terminated (terminated_of_givesUp (by simp [givesUp, h]))
    | ok decoded =>
      have received := Pass.follows_receive setup decoded (Pass.follows_start (P := P) call)
      have failures : (Event.part p : Event P Req).hookFailures setup call =
          (Pass.chainArrivals setup (.part decoded) (.start call)).filterMap Arrival.failure? := by
        simp [hookFailures, isEnding, arrivals, h]
      have same : (Event.part p : Event P Req).pass setup call =
          Pass.receive setup decoded (.start call) := by
        simp [pass, Call.onPart, h]
      rw [failures, same]
      exact received

end Event

/-! ### An end that passes the filter -/

namespace Pass

/-- An end has passed the filter only if the call was terminated. -/
def Closed (p : Pass σ P Resp) : Prop := p.call.order = .ended → p.call.terminated = true

variable {p : Pass σ P Resp}

theorem closed_act (setup : Setup σ P Req Resp)
    (action : EdgeAction σ (RequestPart Req) (ResponsePart Resp)) (p : Pass σ P Resp)
    (closed : p.Closed) : ((edges setup).act action p).Closed := by
  cases action with
  | note update => exact closed
  | transport part =>
    show (toTransport setup part p).Closed
    unfold toTransport
    cases part.tryMap setup.requests.encode <;> exact closed
  | arrive arrival =>
    cases arrival with
    | failure e => exact closed
    | part part =>
      show (deliver part p).Closed
      intro ended
      cases running : (deliver part p).call.terminated with
      | true => rfl
      | false =>
        obtain ⟨start, -⟩ := status?_deliver running
        have order : (p.call.order.allow part).2 = .ended :=
          (congrArg Intake.order (intake_deliver part p)).symm.trans ended
        by_cases before : p.call.order = .ended
        · rw [closed before] at start
          cases start
        · -- The filter has closed just now, so this part is an end and was admitted.
          have finish := ResponseOrder.allow_of_finish before
            (ResponseOrder.finish_of_allow_ended before order)
          unfold deliver at running
          simp only [finish, if_true, terminated_abandon] at running
          cases running

theorem closed_enqueue (setup : Setup σ P Req Resp) (parts : List (RequestPart Req))
    (closed : p.Closed) : (enqueue setup parts p).2.Closed := by
  induction parts generalizing p with
  | nil => exact closed
  | cons part rest ih =>
    unfold enqueue
    by_cases hclosed : p.call.closed = true
    · rw [if_pos hclosed]
      exact closed
    · rw [if_neg hclosed]
      by_cases hterminated : p.call.terminated = true
      · rw [if_pos hterminated]
        exact closed
      · rw [if_neg hterminated]
        have opened : ({ p with call := { p.call with closed := part.kind == .finish } } :
            Pass σ P Resp).Closed := closed
        exact ih (Chain.send_keeps (closed_act setup) setup.chain setup.path part opened)

end Pass

/-- An event keeps the filter and the flag in step. -/
theorem Event.closed_pass (setup : Setup σ P Req Resp) (event : Event P Req) {call : Call σ Resp}
    (closed : (Pass.start call : Pass σ P Resp).Closed) : (event.pass setup call).Closed := by
  have arrives : ∀ arrival : Arrival (ResponsePart Resp),
      (setup.chain.arrive (Pass.edges setup) setup.path arrival (.start call)).Closed :=
    fun arrival => Chain.arrive_keeps (Pass.closed_act setup) setup.chain setup.path arrival closed
  by_cases givesUp : event.givesUp setup call = true
  · exact fun _ => terminated_of_givesUp givesUp
  · cases event with
    | cancel => exact absurd rfl givesUp
    | error e => exact arrives (.failure e)
    | send parts =>
      have enqueued := Pass.closed_enqueue setup parts closed
      show (call.send setup parts).2.Closed
      unfold Call.send
      split
      · next p h => rwa [h] at enqueued
      · next e p h => rwa [h] at enqueued
    | expire =>
      simp only [pass, Call.expire]
      cases h : call.status? with
      | some status => exact closed
      | none => simp [Event.givesUp, h] at givesUp
    | part p =>
      simp only [pass, Call.onPart]
      cases h : p.tryMap setup.responses.decode with
      | ok decoded => exact arrives (.part decoded)
      | error e => simp [Event.givesUp, h] at givesUp

namespace Call

/-- What a move asks of the transport. -/
def moveRequests (setup : Setup σ P Req Resp) (call : Call σ Resp) :
    Move P Req → List (TransportOp P)
  | .event event => (event.pass setup call).ops
  | _ => []

/-- What a run asks of the transport. -/
def requests (setup : Setup σ P Req Resp) :
    List (Move P Req) → Call σ Resp → List (TransportOp P)
  | [], _ => []
  | move :: rest, call => call.moveRequests setup move ++ requests setup rest (call.move setup move)

def moveFailures (setup : Setup σ P Req Resp) (call : Call σ Resp) :
    Move P Req → List CallError
  | .event event => event.hookFailures setup call
  | _ => []

/-- The failures that hooks make up in a run. -/
def hookFailures (setup : Setup σ P Req Resp) : List (Move P Req) → Call σ Resp → List CallError
  | [], _ => []
  | move :: rest, call =>
    call.moveFailures setup move ++ hookFailures setup rest (call.move setup move)

theorem counts_move (setup : Setup σ P Req Resp) (move : Move P Req) (call : Call σ Resp) :
    (call.moveRequests setup move).countP TransportOp.isCancel + call.terminated.toNat =
      (call.move setup move).terminated.toNat := by
  cases move with
  | event event => exact Event.counts_pass setup event call
  | pull =>
    show 0 + _ = call.pull.2.terminated.toNat
    rw [pull_snd, Nat.zero_add]
    rfl
  | next =>
    show 0 + _ = call.next.2.terminated.toNat
    rw [next_snd, Nat.zero_add]
    rfl

/-- A run cancels the transport if it terminates the call, and not otherwise. -/
theorem counts_run (setup : Setup σ P Req Resp) (moves : List (Move P Req)) (call : Call σ Resp) :
    (call.requests setup moves).countP TransportOp.isCancel + call.terminated.toNat =
      (call.run setup moves).terminated.toNat := by
  induction moves generalizing call with
  | nil => exact Nat.zero_add _
  | cons move rest ih =>
    have moved := counts_move setup move call
    have ran := ih (call.move setup move)
    rw [run_cons, requests, List.countP_append]
    omega

theorem terminated_run (setup : Setup σ P Req Resp) (moves : List (Move P Req))
    {call : Call σ Resp} (h : call.terminated = true) :
    (call.run setup moves).terminated = true := by
  have counts := counts_run setup moves call
  cases later : (call.run setup moves).terminated with
  | true => rfl
  | false =>
    rw [h, later, Bool.toNat_true, Bool.toNat_false] at counts
    omega

/-- In a run that does not terminate the call and in which the transport does not fail, the
failures of hooks are what gives a status. -/
theorem status?_run_of_running (setup : Setup σ P Req Resp) (moves : List (Move P Req))
    {call : Call σ Resp} (quiet : ∀ e, .event (.error e) ∉ moves)
    (running : (call.run setup moves).terminated = false) :
    (call.run setup moves).status? =
      Pass.concludedBy call.status? (call.hookFailures setup moves) := by
  induction moves generalizing call with
  | nil => exact Option.or_none.symm
  | cons move rest ih =>
    have between : (call.move setup move).terminated = false := by
      cases ended : (call.move setup move).terminated with
      | false => rfl
      | true =>
        rw [run_cons, terminated_run setup rest ended] at running
        cases running
    have moved : (call.move setup move).status? =
        Pass.concludedBy call.status? (call.moveFailures setup move) := by
      cases move with
      | event event =>
        have single : ∀ e, event ≠ .error e := by
          rintro e rfl
          exact quiet e List.mem_cons_self
        exact Event.follows_pass single call between
      | pull =>
        show call.pull.2.status? = _
        rw [pull_snd]
        exact Option.or_none.symm
      | next =>
        show call.next.2.status? = _
        rw [next_snd]
        exact Option.or_none.symm
    have rested : ∀ e, .event (.error e) ∉ rest := by
      intro e member
      exact quiet e (List.mem_cons_of_mem _ member)
    rw [run_cons, ih rested running, moved, Pass.concludedBy_append]
    rfl

theorem closed_run (setup : Setup σ P Req Resp) (moves : List (Move P Req)) {call : Call σ Resp}
    (closed : (Pass.start call : Pass σ P Resp).Closed) :
    (Pass.start (call.run setup moves) : Pass σ P Resp).Closed := by
  induction moves generalizing call with
  | nil => exact closed
  | cons move rest ih =>
    apply ih
    cases move with
    | event event => exact Event.closed_pass setup event closed
    | pull =>
      show (Pass.start call.pull.2 : Pass σ P Resp).Closed
      rw [pull_snd]
      exact closed
    | next =>
      show (Pass.start call.next.2 : Pass σ P Resp).Closed
      rw [next_snd]
      exact closed

/-- An end that leaves the chain terminates the call, whoever sent it. -/
theorem terminated_of_finish (setup : Setup σ P Req Resp) (shared : σ) (request : Option Req)
    (moves : List (Move P Req)) :
    let started := begin setup shared (.ok ()) request
    (startDepartures setup shared (.ok ()) request ++ started.departures setup moves).any
      ResponsePart.isFinish = true →
    (started.run setup moves).terminated = true := by
  intro started finish
  have sound := sound_run setup (sound_begin setup shared (.ok ()) request) moves
  have fresh : (Pass.start (fresh setup.shape shared) : Pass σ P Resp).Closed := by
    intro ended
    cases ended
  have closed : (Pass.start (started.run setup moves) : Pass σ P Resp).Closed :=
    closed_run setup (.event (.send (opening setup request)) :: moves) fresh
  apply closed
  exact sound.intake.order.trans (ResponseOrder.after_of_finish finish .fresh)

/-- The moves of a call from its opening on. -/
def fromOpening (setup : Setup σ P Req Resp) (request : Option Req) (moves : List (Move P Req)) :
    List (Move P Req) :=
  .event (.send (opening setup request)) :: moves

/-- A call gives up on its transport at most once, and is terminated exactly then. It does when
it is cancelled, when its deadline passes before there is a status, when a part cannot be decoded,
and when an end leaves the chain. Unless the transport itself fails, a call that has not given up
has the status of the first failure that a hook made up: so a status that comes of anything else
means that the transport was given up. -/
theorem released_unless_hook_failed (setup : Setup σ P Req Resp) (shared : σ)
    (request : Option Req) (moves : List (Move P Req)) (quiet : ∀ e, .event (.error e) ∉ moves) :
    let start : Call σ Resp := fresh setup.shape shared
    let started := begin setup shared (.ok ()) request
    let call := started.run setup moves
    let asked := start.requests setup (fromOpening setup request moves)
    let failures := start.hookFailures setup (fromOpening setup request moves)
    asked.countP TransportOp.isCancel = call.terminated.toNat ∧
    (call.terminated = false → call.status? = failures.head?.map CallError.toStatus) ∧
    (call.status?.isSome = true → failures = [] → .cancel ∈ asked) ∧
    (∀ before event after, moves = before ++ .event event :: after →
      event.givesUp setup (started.run setup before) = true → .cancel ∈ asked) ∧
    ((startDepartures setup shared (.ok ()) request ++ started.departures setup moves).any
      ResponsePart.isFinish = true → .cancel ∈ asked) := by
  intro start started call asked failures
  have counts : asked.countP TransportOp.isCancel = call.terminated.toNat :=
    counts_run setup (fromOpening setup request moves) start
  have cancelled : call.terminated = true → .cancel ∈ asked := by
    intro terminated
    rw [terminated] at counts
    have some : 0 < asked.countP TransportOp.isCancel := by
      rw [counts]
      exact Nat.one_pos
    obtain ⟨op, member, isCancel⟩ := List.countP_pos_iff.mp some
    cases op with
    | send part => cases isCancel
    | cancel => exact member
  have running : call.terminated = false →
      call.status? = failures.head?.map CallError.toStatus := by
    intro running
    have silent : ∀ e, .event (.error e) ∉ fromOpening setup request moves := by
      intro e member
      rcases List.mem_cons.mp member with same | later
      · cases same
      · exact quiet e later
    exact status?_run_of_running setup _ silent running
  refine ⟨counts, running, ?_, ?_, ?_⟩
  · intro concluded none
    cases h : call.terminated with
    | true => exact cancelled h
    | false =>
      rw [running h, none] at concluded
      cases concluded
  · rintro before event after rfl givesUp
    apply cancelled
    show (started.run setup _).terminated = true
    rw [run_append, run_cons]
    exact terminated_run setup after (Event.terminated_of_givesUp givesUp)
  · intro finish
    exact cancelled (terminated_of_finish setup shared request moves finish)

/-- An answered call has given up on its transport. -/
theorem answered_call_released :
    let moves : List (Move String String) :=
      [.event (.part (.message "hi" {})), .event (.part (.finish .success .empty))]
    let call := (begin greeting () (.ok ()) (some "hello")).run greeting moves
    (∀ e, .event (.error e) ∉ moves) ∧ call.status? = some .success ∧
      .cancel ∈ (fresh greeting.shape () : Call Unit String).requests greeting
        (fromOpening greeting (some "hello") moves) := by
  intro moves call
  have quiet : ∀ e, .event (.error e) ∉ moves := by
    intro e member
    simp [moves] at member
  obtain ⟨-, -, released, -⟩ :=
    released_unless_hook_failed greeting () (some "hello") moves quiet
  exact ⟨quiet, rfl, released rfl rfl⟩

end Call

/-- The greeting behind a hook that refuses every message. -/
def refusing : Setup Unit String String String :=
  { greeting with
    chain := { interceptors := [{ inbound := fun _ part =>
      match part with
      | .message _ _ => .fail (.status ⟨.internal, "bad"⟩) .done
      | part => .receive part .done }] } }

namespace Call

/-- A hook that fails a call gives it its status, and the transport is never told; not even the
deadline changes that. -/
theorem hook_failure_keeps_transport :
    let moves : List (Move String String) := [.event (.part (.message "hi" {}))]
    let started := begin refusing () (.ok ()) (some "hello")
    let start : Call Unit String := fresh refusing.shape ()
    (started.run refusing moves).status? = some ⟨.internal, "bad"⟩ ∧
      .cancel ∉ start.requests refusing (fromOpening refusing (some "hello") moves) ∧
      .cancel ∉ start.requests refusing
        (fromOpening refusing (some "hello") (moves ++ [.event .expire])) := by
  refine ⟨rfl, ?_, ?_⟩
  · decide
  · decide

end Call

end Client

end RemoteCall
