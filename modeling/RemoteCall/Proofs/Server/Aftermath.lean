import RemoteCall.Proofs.Server.Attendance

/-!
# After the end of a served call

The transport may still deliver what the client sent, report its cancellation and let go of the
call. None of that brings the handler back or is answered.
-/

namespace RemoteCall.Server

variable {σ P Req Resp S : Type}

/-- The call is over, its handler is gone, and nobody else is at work on it. -/
structure Serving.IsOver (s : Serving σ P Req Resp S) : Prop where
  plain : s.method.chain = .empty
  atEnd : s.call.IsOver
  gone : s.task = .gone
  idle : s.errands = []

variable {s : Serving σ P Req Resp S}

/-- A pass that only changes the call leaves no trace elsewhere. -/
theorem Serving.IsOver.settle (isOver : s.IsOver) {p : Pass σ P Req} (atEnd : p.call.IsOver)
    (silent : p.ops = []) : (s.settle p).1.IsOver ∧ (s.settle p).2 = [] := by
  unfold Serving.settle
  rw [silent]
  exact ⟨⟨isOver.plain, atEnd, isOver.gone, isOver.idle⟩, rfl⟩

theorem Call.IsOver.loseClient {call : Call σ Req} (atEnd : call.IsOver) (e : CallError) :
    (call.loseClient e).IsOver := by
  unfold Call.loseClient Call.closeInbound Call.cancelScope
  cases call.inbound with
  | idle => exact ⟨atEnd.ended, rfl⟩
  | awaiting => exact ⟨atEnd.ended, rfl⟩
  | holding message => exact ⟨atEnd.ended, rfl⟩
  | streaming => exact ⟨atEnd.ended, rfl⟩
  | running => exact ⟨atEnd.ended, rfl⟩
  | closed => exact ⟨atEnd.ended, rfl⟩

theorem Call.IsOver.closeInbound {call : Call σ Req} (atEnd : call.IsOver) (e : CallError) :
    (call.closeInbound e).IsOver :=
  ⟨(atEnd.loseClient e).ended, (atEnd.loseClient e).past⟩

theorem Serving.IsOver.receive (isOver : s.IsOver) (part : RequestPart P) :
    (s.receive part).1.IsOver ∧ (s.receive part).2 = [] := by
  unfold Serving.receive
  cases decoded : part.tryMap s.method.requests.decode with
  | ok request =>
    rw [Call.receive_plain isOver.plain decoded]
    obtain ⟨ignores, past, ended, -⟩ :=
      Pass.advance_of_isPast isOver.atEnd.past s.method.shape.streamsRequests request
    have advances : Pass.advance s.method.shape.streamsRequests s.call request =
        ((Pass.advance s.method.shape.streamsRequests s.call request).1, .ignore) :=
      Prod.ext rfl ignores
    unfold Pass.onRequest
    simp only [Pass.start]
    rw [advances]
    exact isOver.settle ⟨ended.trans isOver.atEnd.ended, past⟩ rfl
  | error e =>
    have closed := isOver.atEnd.closeInbound e
    unfold Call.receive
    rw [decoded]
    simp only [Pass.finish_of_ended (show (Pass.start (s.call.closeInbound e) :
      Pass σ P Req).call.ended = true from closed.ended)]
    exact isOver.settle ⟨closed.ended, closed.past⟩ rfl

theorem Serving.IsOver.receiveError (isOver : s.IsOver) (e : CallError) :
    (s.receiveError e).1.IsOver ∧ (s.receiveError e).2 = [] := by
  unfold Serving.receiveError Call.receiveError
  rw [isOver.plain]
  exact isOver.settle ((isOver.atEnd.loseClient e).loseClient e) rfl

theorem Serving.IsOver.release (isOver : s.IsOver) : s.release.IsOver := by
  refine ⟨isOver.plain, ?_, isOver.gone, isOver.idle⟩
  unfold Serving.release Call.release
  split
  · exact isOver.atEnd
  · exact isOver.atEnd.loseClient _

theorem Serving.IsOver.dissolve? (isOver : s.IsOver) {s' : Serving σ P Req Resp S}
    (dissolved : s.dissolve? = some s') : s'.IsOver := by
  obtain ⟨-, taken⟩ := Option.ite_none_left_eq_some.mp dissolved
  cases taken
  exact ⟨isOver.plain, ⟨isOver.atEnd.ended, isOver.atEnd.past⟩, isOver.gone, isOver.idle⟩

theorem Serving.IsOver.moveTask?_eq_none (isOver : s.IsOver) (now : Nat)
    (signals : Nat → Signal) : s.moveTask? now signals = none := by
  unfold Serving.moveTask?
  rw [isOver.gone]

theorem Serving.IsOver.moveErrand?_eq_none (isOver : s.IsOver) (signals : Nat → Signal) :
    s.moveErrand? signals = none := by
  unfold Serving.moveErrand?
  rw [isOver.idle]
  rfl

theorem Serving.IsOver.tick (isOver : s.IsOver) (now : Nat) : s.tick now = s := by
  unfold Serving.tick
  rw [isOver.gone]

theorem Service.Attends.isOver {x : Service σ P Req Resp S} {call : Call σ Req}
    {task : Task Req S} {coming : List (RequestPart Req)} {left : List (Sight Req)} {effort : Nat}
    (attends : x.Attends call task coming [] left effort) :
    (x.serving call task).IsOver ∧ left = [] := by
  generalize none : ([] : List (ResponsePart Resp)) = future at attends
  cases attends with
  | @idle headers input story fits runs => cases story; cases none
  | awaiting single runs => cases none
  | holding single runs => cases none
  | begun faces tells => simp [Story.parts] at none
  | ended atEnd => exact ⟨⟨x.plain, atEnd, rfl, rfl⟩, rfl⟩

end RemoteCall.Server
