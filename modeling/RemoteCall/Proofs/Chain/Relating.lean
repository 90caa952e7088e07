import RemoteCall.Interceptor

/-!
# Two runs through one chain

A chain sees the states at its edges only through the edges. So if what is done at two pairs of
edges keeps two states related, and the hooks see the same of both, then a part that is sent through
the chain over either of them keeps the states related, and so does what arrives
(`Chain.send_related`, `Chain.arrive_related`), whatever the hooks do.
-/

namespace RemoteCall

variable {σ Out In W W' : Type}

/-- What happens at the edges keeps two states related, of which the hooks see the same. -/
structure Edges.Relates (R : W → W' → Prop) (edges : Edges σ Out In W)
    (edges' : Edges σ Out In W') : Prop where
  transport : ∀ part w w', R w w' → R (edges.transport part w) (edges'.transport part w')
  arrive : ∀ arrival w w', R w w' → R (edges.arrive arrival w) (edges'.arrive arrival w')
  note : ∀ update w w', R w w' → R (edges.note update w) (edges'.note update w')
  shared : ∀ w w', R w w' → edges.shared w = edges'.shared w'

section

variable {R : W → W' → Prop} {edges : Edges σ Out In W} {edges' : Edges σ Out In W'}

theorem Hook.run_related (relates : edges.Relates R edges') {below : Out → W → W}
    {below' : Out → W' → W'} {above : Arrival In → W → W} {above' : Arrival In → W' → W'}
    (sends : ∀ part w w', R w w' → R (below part w) (below' part w'))
    (passes : ∀ arrival w w', R w w' → R (above arrival w) (above' arrival w'))
    (hook : Hook σ Out In) {w : W} {w' : W'} (start : R w w') :
    R (hook.run edges below above w) (hook.run edges' below' above' w') := by
  induction hook generalizing w w' with
  | done => exact start
  | send part rest ih => exact ih (sends part w w' start)
  | receive part rest ih => exact ih (passes (.part part) w w' start)
  | fail e rest ih => exact ih (passes (.failure e) w w' start)
  | note update rest ih => exact ih (relates.note update w w' start)
  | look rest ih =>
    unfold run
    rw [relates.shared w w' start]
    exact ih (edges'.shared w') start

namespace Chain

/-- Two ways of answering keep the states related. -/
def AnswersRelated (R : W → W' → Prop)
    (answer : (below above : List (Interceptor σ Out In)) → Out → W → W)
    (answer' : (below above : List (Interceptor σ Out In)) → Out → W' → W') : Prop :=
  ∀ below above part w w', R w w' → R (answer below above part w) (answer' below above part w')

variable (relates : edges.Relates R edges') (path : String)

include relates

/-- Going inward the recursion is on the interceptors above. -/
theorem inward_related {answer : (below above : List (Interceptor σ Out In)) → Out → W → W}
    {answer' : (below above : List (Interceptor σ Out In)) → Out → W' → W'}
    (answers : AnswersRelated R answer answer') (below above : List (Interceptor σ Out In))
    (arrival : Arrival In) {w : W} {w' : W'} (start : R w w') :
    R (inward edges path answer below above arrival w)
      (inward edges' path answer' below above arrival w') := by
  induction above generalizing below arrival w w' with
  | nil => exact relates.arrive arrival w w' start
  | cons i above ih =>
    exact Hook.run_related relates (answers below (i :: above))
      (fun arrival w w' start => ih (i :: below) arrival start) _ start

/-- Going outward the recursion is on the interceptors below. -/
theorem outward_related {answer : (below above : List (Interceptor σ Out In)) → Out → W → W}
    {answer' : (below above : List (Interceptor σ Out In)) → Out → W' → W'}
    (answers : AnswersRelated R answer answer') :
    AnswersRelated R (outward edges path answer) (outward edges' path answer') := by
  intro below
  induction below with
  | nil => exact fun _ => relates.transport
  | cons i below ih =>
    intro above part w w' start
    exact Hook.run_related relates (ih (i :: above))
      (fun arrival w w' start =>
        inward_related relates path answers (i :: below) above arrival start) _ start

theorem answer_related (turns : Nat) :
    AnswersRelated R (answer edges path turns) (answer edges' path turns) := by
  induction turns with
  | zero => exact fun _ _ _ _ _ start => start
  | succ turns ih => exact outward_related relates path ih

theorem send_related (chain : Chain σ Out In) (part : Out) {w : W} {w' : W'} (start : R w w') :
    R (chain.send edges path part w) (chain.send edges' path part w') :=
  outward_related relates path (answer_related relates path chain.turns) _ [] part w w' start

theorem arrive_related (chain : Chain σ Out In) (arrival : Arrival In) {w : W} {w' : W'}
    (start : R w w') :
    R (chain.arrive edges path arrival w) (chain.arrive edges' path arrival w') :=
  inward_related relates path (answer_related relates path chain.turns) [] _ arrival start

end Chain

end

end RemoteCall
