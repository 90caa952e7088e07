import RemoteCall.Proofs.Client.Direct
import RemoteCall.Proofs.Loopback.Conversation
import RemoteCall.Proofs.Server.Event

/-!
# Runs of a call in one process

Both ends of a call over a link take turns with the pumps between them, in any order. A
`Loopback.Step` is one such turn, labelled with what the client asks of the link and with the moves
of the served call. The client does what it wants, whenever it wants: it sends, cancels, waits and
polls; and so do the handler and whoever got hold of something of the call. `Loopback.Runs` are
such steps in a row.
-/

namespace RemoteCall

open Client (Active Event TransportOp)

variable {τ σ P Req Resp S : Type}

/-- What the serving pump hands to the served call in its next step. -/
def FarEnd.handed (far : FarEnd σ P Req Resp S) : List (Server.Move σ P Req Resp) :=
  match far.link.serve? with
  | some (.part part _, _) => [.receive part]
  | some (.cancel _, _) => [.error .cancelled]
  | some (.release, _) => [.release]
  | _ => []

namespace Loopback

/-- What the client asks of the link when it takes what the delivering pump has next. -/
def answers (l : Loopback τ σ P Req Resp S) : List (TransportOp P) :=
  match l.far.link.deliver? with
  | some (.part part _, _) => (l.near.onPart part).2
  | some (.error, _) => (l.near.onError Link.noStatus).2
  | none => []

/-- One turn: of the client, of a pump, or of somebody at the served call. -/
inductive Step (l : Loopback τ σ P Req Resp S) :
    List (TransportOp P) → List (Server.Move σ P Req Resp) → Loopback τ σ P Req Resp S → Prop where
  /-- The client does something by itself. -/
  | act {out : Active τ P Req Resp × List (TransportOp P)} (acts : l.near.Acts out) :
      Step l out.2 [] (l.request out)
  /-- The client takes what the delivering pump has. -/
  | deliver {l' : Loopback τ σ P Req Resp S} (moved : l.deliver? = some l') : Step l l.answers [] l'
  /-- The server takes what the serving pump has. -/
  | serve {far : FarEnd σ P Req Resp S} (moved : l.far.serve? = some far) :
      Step l [] l.far.handed { l with far }
  /-- The handler goes on, or whoever got hold of something of the call, with any acceptances and
  at any time. -/
  | work {s : Server.Serving σ P Req Resp S} (move : Server.Move σ P Req Resp)
      (serving : l.far.serving = some s) (own : move.isTransport = false) :
      Step l [] [move] { l with far := l.far.respond (s.perform move) }
  /-- The server lets go of the link. -/
  | dissolve {far : FarEnd σ P Req Resp S} (moved : l.far.dissolve? = some far) :
      Step l [] [.dissolve] { l with far }

/-- What the client asks of the link in a run, and the moves of the served call. -/
inductive Runs : Loopback τ σ P Req Resp S → List (TransportOp P) →
    List (Server.Move σ P Req Resp) → Loopback τ σ P Req Resp S → Prop where
  | refl (l : Loopback τ σ P Req Resp S) : Runs l [] [] l
  | step {l mid last : Loopback τ σ P Req Resp S} {ops asked : List (TransportOp P)}
      {now moves : List (Server.Move σ P Req Resp)} (first : l.Step ops now mid)
      (rest : Runs mid asked moves last) : Runs l (ops ++ asked) (now ++ moves) last

theorem Runs.trans {l mid last : Loopback τ σ P Req Resp S} {ops asked : List (TransportOp P)}
    {moves performed : List (Server.Move σ P Req Resp)} (first : l.Runs ops moves mid)
    (second : mid.Runs asked performed last) :
    l.Runs (ops ++ asked) (moves ++ performed) last := by
  induction first with
  | refl l => exact second
  | step step rest ih =>
    rw [List.append_assoc, List.append_assoc]
    exact .step step (ih second)

/-- The client gives up on the call by itself: it is cancelled by whoever may do so, or its
deadline passes. -/
inductive Stops (l : Loopback τ σ P Req Resp S) (cause : CallError) :
    List (TransportOp P) → Loopback τ σ P Req Resp S → Prop where
  | mk {near : Active τ P Req Resp} (event : Event P Req) (is : event.cause? = some cause)
      (setup : near.setup = l.near.setup)
      (call : near.call = (event.pass l.near.setup l.near.call).call) :
      Stops l cause (event.pass l.near.setup l.near.call).ops
        (l.request (near, (event.pass l.near.setup l.near.call).ops))

variable {l l' : Loopback τ σ P Req Resp S}

theorem Stops.step {cause : CallError} {ops : List (TransportOp P)} (stops : l.Stops cause ops l') :
    l.Step ops [] l' := by
  obtain ⟨event, is, setup, call⟩ := stops
  exact .act (.pass (.event event (Event.isOwn_of_cause? is)) setup call)

/-- The client has its status then: the cause, or the one it had before. -/
theorem Stops.terminated {cause : CallError} {ops : List (TransportOp P)}
    (stops : l.Stops cause ops l') (plain : l.near.setup.chain = .empty)
    (steady : l.near.call.Steady) :
    l'.near.call.terminated = true ∧
      l'.near.call.status? = some (l.near.call.status?.getD cause.toStatus) := by
  obtain ⟨event, is, setup, call⟩ := stops
  have given := steady.stops plain is
  rwa [← call] at given

/-! ### The moves of a loopback -/

/-- The client cancels at once. -/
def cancel (l : Loopback τ σ P Req Resp S) : Loopback τ σ P Req Resp S :=
  l.request (l.near.settle (l.near.call.cancel l.near.setup).2)

theorem stops_cancel (l : Loopback τ σ P Req Resp S) :
    l.Stops .cancelled (l.near.call.cancel l.near.setup).2.ops l.cancel :=
  .mk .cancel rfl rfl rfl

/-- The watchdog gives up on the call. -/
theorem stops_of_expire? {now : Nat} (moved : l.expire? now = some l') :
    ∃ ops, l.Stops .deadlineExceeded ops l' := by
  obtain ⟨out, expired, rfl⟩ := Option.map_eq_some_iff.mp moved
  obtain ⟨setup, call, ops⟩ := Active.expire?_eq expired
  obtain ⟨near, asked⟩ := out
  subst ops
  exact ⟨_, .mk .expire rfl setup call⟩

/-- What the served call does, and sends to the client, is a step. -/
theorem step_of_respond {g : Server.Serving σ P Req Resp S →
      Option (Server.Serving σ P Req Resp S × List (ResponsePart P))}
    {move : Server.Move σ P Req Resp} (own : move.isTransport = false)
    (performs : ∀ s out, g s = some out → s.perform move = out) {far : FarEnd σ P Req Resp S}
    (moved : (l.far.serving.bind fun s => (g s).map l.far.respond) = some far) :
    l.Step [] [move] { l with far } := by
  obtain ⟨s, serving, moved⟩ := Option.bind_eq_some_iff.mp moved
  obtain ⟨out, went, rfl⟩ := Option.map_eq_some_iff.mp moved
  rw [← performs s out went]
  exact .work move serving own

theorem step_of_moveTask? {now : Nat} {far : FarEnd σ P Req Resp S}
    (moved : l.far.moveTask? now = some far) :
    l.Step [] [.task now l.far.responseSignals] { l with far } := by
  have bound : (l.far.serving.bind fun s =>
      (s.moveTask? now l.far.responseSignals).map l.far.respond) = some far := by
    rw [← moved, FarEnd.moveTask?]
    cases l.far.serving <;> rfl
  refine step_of_respond rfl (fun s out went => ?_) bound
  rw [Server.Serving.perform, went, Option.getD_some]

theorem step_of_farErrand? {far : FarEnd σ P Req Resp S} (moved : l.far.moveErrand? = some far) :
    l.Step [] [.errand l.far.responseSignals] { l with far } := by
  have bound : (l.far.serving.bind fun s =>
      (s.moveErrand? l.far.responseSignals).map l.far.respond) = some far := by
    rw [← moved, FarEnd.moveErrand?]
    cases l.far.serving <;> rfl
  refine step_of_respond rfl (fun s out went => ?_) bound
  rw [Server.Serving.perform, went, Option.getD_some]

/-- What happens in a conversation is a step. -/
theorem step_of_move {c c' : Conversation τ σ P Req Resp S} (move : c.Move c') :
    ∃ ops moves, c.loop.Step ops moves c'.loop := by
  cases move with
  | submit next some => exact ⟨_, [], .act (.pass (.event (.send _) rfl) rfl rfl)⟩
  | serve moved => exact ⟨[], _, .serve moved⟩
  | task moved => exact ⟨[], _, step_of_moveTask? moved⟩
  | farErrand moved => exact ⟨[], _, step_of_farErrand? moved⟩
  | farDissolve moved => exact ⟨[], _, .dissolve moved⟩
  | deliver moved => exact ⟨_, [], .deliver moved⟩
  | nearErrand moved =>
    obtain ⟨out, went, moved⟩ := Option.map_eq_some_iff.mp moved
    subst moved
    exact ⟨_, [], .act (Active.acts_moveErrand? went)⟩
  | expire moved =>
    obtain ⟨ops, stops⟩ := stops_of_expire? moved
    exact ⟨ops, [], stops.step⟩
  | nearDissolve moved =>
    obtain ⟨near, went, moved⟩ := Option.map_eq_some_iff.mp moved
    subst moved
    exact ⟨[], [], .act (Active.acts_dissolve? went)⟩

/-- Every move of a loopback is a step. -/
theorem step_of_move? {now : Nat} (moved : l.move? now = some l') :
    ∃ ops moves, l.Step ops moves l' := by
  let c : Conversation τ σ P Req Resp S := { loop := l, unsent := [] }
  have went : ∃ c', c.move? now = some c' ∧ c'.loop = l' := by
    unfold Conversation.move?
    rw [show c.loop.move? now = some l' from moved]
    exact ⟨_, rfl, rfl⟩
  obtain ⟨c', went, rfl⟩ := went
  exact step_of_move (Conversation.move_of_move? went)

/-- Moves until nothing can move are a run. -/
theorem runs_settleWithin (now moves : Nat) (l : Loopback τ σ P Req Resp S) :
    ∃ asked performed, l.Runs asked performed (settleWithin (move? · now) moves l) := by
  induction moves generalizing l with
  | zero => exact ⟨[], [], .refl l⟩
  | succ moves ih =>
    unfold settleWithin
    cases moved : l.move? now with
    | none => exact ⟨[], [], .refl l⟩
    | some mid =>
      obtain ⟨ops, performed, first⟩ := step_of_move? moved
      obtain ⟨asked, later, rest⟩ := ih mid
      exact ⟨ops ++ asked, performed ++ later, .step first rest⟩

end Loopback

end RemoteCall
