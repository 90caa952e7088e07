import RemoteCall.Proofs.Chain.Trace
import RemoteCall.Proofs.Server.Event

/-!
# A served call that has lost its client

Once the transport has reported that the client is gone, the call is cancelled and says nothing
more, whoever still writes to it and whatever the handler does; and the task of the handler comes
to its end.
-/

namespace RemoteCall.Server

variable {σ P Req Resp S : Type}

/-- The client is gone: the scope is cancelled, and nothing goes out any more. -/
structure Call.IsLost (call : Call σ Req) : Prop where
  suppressed : call.suppressed = true
  cancelled : call.isCancelled = true

namespace Call

/-- However the chain takes the failure, the call is lost. -/
theorem isLost_receiveError (method : Method σ P Req Resp) (e : CallError) (call : Call σ Req) :
    (call.receiveError method e).call.IsLost :=
  ⟨rfl, rfl⟩

/-- A chain that only passes the failure on lets nothing out meanwhile. -/
theorem parts_receiveError {method : Method σ P Req Resp} (only : method.chain.OnlyFails)
    (e : CallError) (call : Call σ Req) : (call.receiveError method e).parts = [] := by
  have nothing : (method.chain.fail (Pass.inboundEdges method) call.context.path e
      (.start call)).ops = [] :=
    only.fail_keeps (P := fun p : Pass σ P Req => p.ops = []) (fun _ _ ops => ops)
      (fun _ _ ops => ops) _ e rfl
  unfold receiveError Pass.parts
  rw [show (Pass.mapCall _ _ : Pass σ P Req).ops = _ from nothing]
  rfl

variable {method : Method σ P Req Resp} {call : Call σ Req}

/-- What is written is refused, and so is the end. -/
theorem IsLost.emit {p : Pass σ P Req} (lost : p.call.IsLost) (part : ResponsePart Resp) :
    Pass.emit method part p = (.error .streamAlreadyClosed, p) := by
  unfold Pass.emit
  rw [if_pos]
  simp [lost.suppressed]

theorem IsLost.release (lost : call.IsLost) : call.release = call := by
  unfold Call.release
  rw [if_pos lost.cancelled]

/-- The server's own events say nothing, and change neither. -/
theorem IsLost.event (lost : call.IsLost) {event : Event σ P Req Resp}
    (own : event.isOwn = true) :
    (event.pass method call).call.IsLost ∧ (event.pass method call).parts = [] := by
  have finishes : ∀ status, (Pass.finish method status (.start call)).call.IsLost ∧
      (Pass.finish method status (.start call)).parts = [] := by
    intro status
    have staged : ((Pass.start call : Pass σ P Req).mapCall fun call =>
        { call with context := { call.context with trailers := .empty } }).call.IsLost :=
      ⟨lost.suppressed, lost.cancelled⟩
    have refused : Pass.finish method status (.start call) = _ :=
      congrArg Prod.snd (staged.emit (.finish status call.context.trailers))
    rw [refused]
    exact ⟨staged, rfl⟩
  cases event with
  | receive part => cases own
  | error e => cases own
  | release => cases own
  | poll => exact ⟨⟨lost.suppressed, lost.cancelled⟩, rfl⟩
  | abandon => exact ⟨⟨lost.suppressed, lost.cancelled⟩, rfl⟩
  | use how => cases how <;> exact ⟨⟨lost.suppressed, lost.cancelled⟩, rfl⟩
  | write transport message compression =>
    have start : (Pass.start call : Pass σ P Req).call.IsLost := lost
    simp only [Event.pass, write]
    rw [start.emit]
    exact ⟨lost, rfl⟩
  | finish result =>
    cases result with
    | ok u => exact finishes .success
    | error e => exact finishes e.toStatus

theorem IsLost.acts (lost : call.IsLost) {call' : Call σ Req} {parts : List (ResponsePart P)}
    (acts : Acts method call call' parts) : call'.IsLost ∧ parts = [] := by
  obtain ⟨events, own, rfl, rfl⟩ := acts
  induction events generalizing call with
  | nil => exact ⟨lost, rfl⟩
  | cons event rest ih =>
    obtain ⟨first, later⟩ := List.forall_mem_cons.mp own
    obtain ⟨left, silent⟩ := lost.event first
    obtain ⟨stays, quiet⟩ := ih left later
    refine ⟨stays, ?_⟩
    rw [outputs, silent, quiet]
    rfl

end Call

namespace Serving

variable {s : Serving σ P Req Resp S}

/-- A call that is lost stays lost and silent, but for what the transport delivers. -/
theorem isLost_perform (lost : s.call.IsLost) {move : Move σ P Req Resp}
    (quiet : move.isTransport = true → move = .release) :
    (s.perform move).1.call.IsLost ∧ (s.perform move).2 = [] := by
  cases own : move.isTransport with
  | false => exact lost.acts (acts_perform s own).call
  | true =>
    obtain rfl := quiet own
    have same : (s.perform .release).1.call = s.call := lost.release
    rw [same]
    exact ⟨lost, rfl⟩

theorem isLost_run {moves : List (Move σ P Req Resp)} (lost : s.call.IsLost)
    (quiet : ∀ move ∈ moves, move.isTransport = true → move = .release) :
    (s.run moves).call.IsLost ∧ s.outputs moves = [] := by
  induction moves generalizing s with
  | nil => exact ⟨lost, rfl⟩
  | cons move rest ih =>
    obtain ⟨first, later⟩ := List.forall_mem_cons.mp quiet
    obtain ⟨left, silent⟩ := isLost_perform lost first
    obtain ⟨stays, nothing⟩ := ih left later
    refine ⟨stays, ?_⟩
    rw [outputs, silent, nothing]
    rfl

/-- A handler that is not in a poll when its call is cancelled is dropped when it is polled next. -/
theorem moveTask?_of_asleep (cancelled : s.isCancelled = true) (asleep : s.task.isPolled = false)
    (now : Nat) (signals : Nat → Signal) :
    s.moveTask? now signals = if s.task.isAlive then some (s.withTask .gone, []) else none := by
  unfold moveTask?
  cases h : s.task with
  | absent => rfl
  | gone => rfl
  | spawned request =>
    simp only
    rw [if_pos cancelled]
    rfl
  | waiting wait =>
    simp only
    rw [if_pos cancelled]
    rfl
  | awake state => rw [h] at asleep; cases asleep
  | checking wait => rw [h] at asleep; cases asleep

/-- Once the call is cancelled, a task that cannot go on is at its end. -/
theorem isAlive_of_still (cancelled : s.isCancelled = true) {now : Nat} {signals : Nat → Signal}
    (still : s.moveTask? now signals = none) : s.task.isAlive = false := by
  unfold moveTask? at still
  cases h : s.task with
  | absent => rfl
  | gone => rfl
  | spawned request => simp [h, cancelled] at still
  | awake state => simp [h] at still
  | waiting wait => simp [h, cancelled] at still
  | checking wait =>
    simp only [h] at still
    cases resumed : wait.resume? now signals s.call with
    | none =>
      rw [resumed] at still
      cases still
    | some r =>
      rw [resumed] at still
      cases still

end Serving

end RemoteCall.Server
