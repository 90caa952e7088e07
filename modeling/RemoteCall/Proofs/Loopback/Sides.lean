import RemoteCall.Proofs.Client.Isolation
import RemoteCall.Proofs.Loopback.Invocation

/-!
# Both sides of a loopback

In a run of a loopback, the client cancels exactly when its call is terminated
(`Loopback.Runs.counts`), and an end has passed its filter only then (`Loopback.Runs.closed`). The
served call goes through the moves of the run (`Loopback.Runs.attends`).
-/

namespace RemoteCall

open Client (Active Event Setup TransportOp)
open Server (Serving)

variable {τ σ P Req Resp S : Type}

/-! ### The client's side -/

namespace Loopback

variable {l l' : Loopback τ σ P Req Resp S}

/-- A step asks for a cancellation if it terminates the client's call, and not otherwise. -/
theorem Step.counts {ops : List (TransportOp P)} {moves : List (Server.Move σ P Req Resp)}
    (step : l.Step ops moves l') :
    ops.countP TransportOp.isCancel + l.near.call.terminated.toNat =
      l'.near.call.terminated.toNat := by
  cases step with
  | act acts => exact acts.counts
  | deliver moved =>
    unfold deliver? at moved
    unfold answers
    split at moved
    · cases moved
    · next step link next =>
      rw [next]
      cases moved
      cases step with
      | part part ticket => exact Event.counts_pass l.near.setup (.part part) l.near.call
      | error => exact Event.counts_pass l.near.setup (.error Link.noStatus) l.near.call
  | serve | work | dissolve => exact Nat.zero_add _

theorem Runs.counts {asked : List (TransportOp P)} {moves : List (Server.Move σ P Req Resp)}
    (runs : l.Runs asked moves l') :
    asked.countP TransportOp.isCancel + l.near.call.terminated.toNat =
      l'.near.call.terminated.toNat := by
  induction runs with
  | refl l => exact Nat.zero_add _
  | step first rest ih =>
    have counts := first.counts
    rw [List.countP_append]
    omega

/-- An end has passed the filter of the client only if its call is terminated. -/
def Closed (l : Loopback τ σ P Req Resp S) : Prop :=
  l.near.call.order = .ended → l.near.call.terminated = true

theorem Step.closed {ops : List (TransportOp P)} {moves : List (Server.Move σ P Req Resp)}
    (step : l.Step ops moves l') (closed : l.Closed) : l'.Closed := by
  cases step with
  | @act out acts =>
    unfold Closed
    cases acts with
    | @pass b p own setup call =>
      rw [show (l.request (b, p.ops)).near.call = p.call from call]
      cases own with
      | rest => exact closed
      | event event => exact Event.closed_pass l.near.setup event closed
    | @poll b f setup call =>
      rw [show (l.request (b, [])).near.call = l.near.call.mapStream f from call]
      exact closed
  | deliver moved =>
    unfold deliver? at moved
    split at moved
    · cases moved
    · next step link next =>
      cases moved
      cases step with
      | part part ticket => exact Event.closed_pass l.near.setup (.part part : Event P Req) closed
      | error => exact Event.closed_pass l.near.setup (.error Link.noStatus : Event P Req) closed
  | serve | work | dissolve => exact closed

theorem Runs.closed {asked : List (TransportOp P)} {moves : List (Server.Move σ P Req Resp)}
    (runs : l.Runs asked moves l') (closed : l.Closed) : l'.Closed := by
  induction runs with
  | refl l => exact closed
  | step first rest ih => exact ih (first.closed closed)

theorem closed_start (setup : Setup τ P Req Resp) (shared : τ) (now : Nat)
    {far : FarEnd σ P Req Resp S} (unused : far.link = {}) (request : Option Req) :
    (start setup shared now far request).Closed := by
  unfold start Closed
  rw [unused]
  exact Event.closed_pass setup (.send (Client.Call.opening setup request) : Event P Req) nofun

end Loopback

/-! ### The server's side -/

namespace FarEnd

/-- The served call has gone through these moves, or is still to be dispatched. -/
inductive Attends (served : Serving σ P Req Resp S) (far : FarEnd σ P Req Resp S) :
    List (Server.Move σ P Req Resp) → Prop where
  | waiting {target : Target σ P Req Resp S} (starting : far.link.serving = .starting)
      (unserved : far.serving = none) (found : far.target = some target)
      (fresh : Serving.fresh target.method target.handler far.compression far.path far.shared =
        served) : Attends served far []
  | working {moves : List (Server.Move σ P Req Resp)} (begun : far.link.serving ≠ .starting)
      (serving : far.serving = some (served.run moves)) : Attends served far moves

variable {served s : Serving σ P Req Resp S} {far far' : FarEnd σ P Req Resp S}
  {moves : List (Server.Move σ P Req Resp)}

theorem Attends.of_link (attends : far.Attends served moves) {link : Link P}
    (pump : link.serving = far.link.serving) : { far with link }.Attends served moves := by
  cases attends with
  | waiting starting unserved found fresh =>
    exact .waiting (pump.trans starting) unserved found fresh
  | working begun serving => exact .working (pump ▸ begun) serving

/-- A move of the served call. -/
theorem Attends.perform (attends : far.Attends served moves) (serving : far.serving = some s)
    (move : Server.Move σ P Req Resp) {link : Link P} (pump : link.serving ≠ .starting) :
    { far with serving := some (s.perform move).1, link }.Attends served (moves ++ [move]) := by
  cases attends with
  | waiting _ unserved => cases unserved.symm.trans serving
  | working begun here =>
    cases here.symm.trans serving
    exact .working pump (congrArg some (Serving.run_concat served moves move).symm)

theorem Attends.begun (attends : far.Attends served moves) (serving : far.serving = some s) :
    far.link.serving ≠ .starting := by
  cases attends with
  | waiting _ unserved => cases unserved.symm.trans serving
  | working begun => exact begun

theorem Attends.serving (attends : far.Attends served moves)
    (begun : far.link.serving ≠ .starting) : far.serving = some (served.run moves) := by
  cases attends with
  | waiting starting => exact absurd starting begun
  | working _ here => exact here

end FarEnd

namespace Link

@[simp] theorem serving_respondAll (link : Link P) (parts : List (ResponsePart P)) :
    (parts.foldl Link.respond link).serving = link.serving :=
  congrArg Upstream.serving (upstream_foldl_respond link parts)

@[simp] theorem serving_requests (link : Link P) (ops : List (TransportOp P)) :
    (ops.foldl Loopback.apply link).serving = link.serving := by
  induction ops generalizing link with
  | nil => rfl
  | cons op rest ih =>
    rw [List.foldl_cons, ih]
    cases op with
    | send part =>
      show (link.send part).serving = _
      unfold Link.send
      split <;> rfl
    | cancel =>
      show link.cancel.serving = _
      unfold Link.cancel
      split <;> rfl

theorem serving_acceptResponse (link : Link P) (part : ResponsePart P) (ticket : Nat) :
    (link.acceptResponse part ticket).serving = link.serving := by
  unfold acceptResponse
  dsimp only
  split <;> rfl

end Link

namespace FarEnd

variable {served : Serving σ P Req Resp S} {far far' : FarEnd σ P Req Resp S}
  {moves : List (Server.Move σ P Req Resp)}

/-- The serving pump dispatches once, and then hands over what it takes. -/
theorem Attends.serve (attends : far.Attends served moves) (moved : far.serve? = some far') :
    far'.Attends served (moves ++ far.handed) := by
  unfold serve? at moved
  unfold handed
  cases next : far.link.serve? with
  | none =>
    rw [next] at moved
    cases moved
  | some out =>
    obtain ⟨step, link⟩ := out
    simp only [next, Option.some.injEq] at moved
    subst moved
    cases attends with
    | waiting starting unserved found fresh =>
      cases Link.serves_of_serve? next with
      | dispatch =>
        simp only [dispatch, found, fresh]
        exact .working (fun starting => by cases starting) rfl
      | part running | cancel running | release running => cases starting.symm.trans running
    | working begun here =>
      cases Link.serves_of_serve? next with
      | dispatch starting => exact absurd starting begun
      | part running =>
        simp only [onServing, here, respond]
        refine .working ?_ (congrArg some (Serving.run_concat served moves (.receive _)).symm)
        show (List.foldl Link.respond _ _).serving ≠ _
        rw [Link.serving_respondAll]
        exact begun
      | cancel running =>
        simp only [onServing, here, respond]
        refine .working ?_ (congrArg some (Serving.run_concat served moves (.error _)).symm)
        show (List.foldl Link.respond _ _).serving ≠ _
        rw [Link.serving_respondAll]
        exact begun
      | release running =>
        simp only [onServing, here, respond]
        exact .working (fun starting => by cases starting)
          (congrArg some (Serving.run_concat served moves .release).symm)

end FarEnd

namespace Loopback

variable {l l' : Loopback τ σ P Req Resp S} {served : Serving σ P Req Resp S}
  {ops : List (TransportOp P)} {moves now : List (Server.Move σ P Req Resp)}

theorem Step.attends (step : l.Step ops now l') (attends : l.far.Attends served moves) :
    l'.far.Attends served (moves ++ now) := by
  cases step with
  | act acts =>
    rw [List.append_nil]
    exact attends.of_link (Link.serving_requests _ _)
  | deliver moved =>
    rw [List.append_nil]
    unfold deliver? at moved
    split at moved
    · cases moved
    · next step link next =>
      cases moved
      have pump := congrArg Link.Upstream.serving (Link.upstream_of_deliver? next)
      cases step with
      | part part ticket =>
        exact attends.of_link ((Link.serving_acceptResponse _ _ _).trans
          ((Link.serving_requests _ _).trans pump))
      | error => exact attends.of_link ((Link.serving_requests _ _).trans pump)
  | serve moved => exact attends.serve moved
  | @work s move serving own =>
    refine attends.perform serving move ?_
    rw [Link.serving_respondAll]
    exact attends.begun serving
  | dissolve moved =>
    unfold FarEnd.dissolve? at moved
    split at moved
    · cases moved
    · next s serving =>
      obtain ⟨s', dissolved, rfl⟩ := Option.map_eq_some_iff.mp moved
      have performed : (s.perform .dissolve).1 = s' := by
        rw [Serving.perform, dissolved, Option.getD_some]
      rw [← performed]
      exact attends.perform serving .dissolve (attends.begun serving)

theorem Runs.attends {asked : List (TransportOp P)} (runs : l.Runs asked now l')
    (attends : l.far.Attends served moves) : l'.far.Attends served (moves ++ now) := by
  induction runs generalizing moves with
  | refl l =>
    rw [List.append_nil]
    exact attends
  | step first rest ih =>
    rw [← List.append_assoc]
    exact ih (first.attends attends)

theorem attends_start (setup : Setup τ P Req Resp) (shared : τ) (now : Nat)
    {far : FarEnd σ P Req Resp S} {target : Target σ P Req Resp S} (unused : far.link = {})
    (unserved : far.serving = none) (found : far.target = some target) (request : Option Req) :
    (start setup shared now far request).far.Attends
      (.fresh target.method target.handler far.compression far.path far.shared) [] := by
  refine .waiting ?_ unserved found rfl
  unfold start
  rw [unused]
  exact Link.serving_requests _ _

end Loopback

end RemoteCall
