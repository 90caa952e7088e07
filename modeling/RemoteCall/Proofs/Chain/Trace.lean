import RemoteCall.Interceptor

/-!
# What a chain does at its edges

The hooks of a chain reach the state of a call only through its edges. So a run through a chain
is, for the state it started from, a list of `EdgeAction`s, and the state it leads to is the
replay of that list (`Chain.replay_sendTrace`, `Chain.replay_arriveTrace`). What holds of every
list of edge actions holds of every chain, however its hooks nest, multiply, drop or answer. Of a
chain whose hooks make up no parts (`Chain.Passes`), or none but some (`Chain.SendsOnly`), more is
known: there only the actions that remain possible have to be looked at.
-/

namespace RemoteCall

/-- One thing that happens at an edge of a chain. -/
inductive EdgeAction (σ Out In : Type) where
  /-- A part leaves the chain toward the transport. -/
  | transport (part : Out)
  /-- A part or a failure leaves the chain toward the application. -/
  | arrive (arrival : Arrival In)
  /-- A hook changes the shared state. -/
  | note (update : σ → σ)

/-- The arrival of an action toward the application. -/
def EdgeAction.arrival? {σ Out In : Type} : EdgeAction σ Out In → Option (Arrival In)
  | .arrive arrival => some arrival
  | _ => none

/-- The part that leaves toward the transport. -/
def EdgeAction.departure? {σ Out In : Type} : EdgeAction σ Out In → Option Out
  | .transport part => some part
  | _ => none

def Arrival.part? {In : Type} : Arrival In → Option In
  | .part p => some p
  | .failure _ => none

def Arrival.failure? {In : Type} : Arrival In → Option CallError
  | .part _ => none
  | .failure e => some e

namespace Edges

variable {σ Out In W : Type}

def act (edges : Edges σ Out In W) : EdgeAction σ Out In → W → W
  | .transport part => edges.transport part
  | .arrive arrival => edges.arrive arrival
  | .note update => edges.note update

/-- Does actions one after the other. -/
def replay (edges : Edges σ Out In W) (actions : List (EdgeAction σ Out In)) (w : W) : W :=
  actions.foldl (fun w action => edges.act action w) w

@[simp] theorem replay_nil (edges : Edges σ Out In W) (w : W) : edges.replay [] w = w := rfl

@[simp] theorem replay_cons (edges : Edges σ Out In W) (action : EdgeAction σ Out In)
    (rest : List (EdgeAction σ Out In)) (w : W) :
    edges.replay (action :: rest) w = edges.replay rest (edges.act action w) := rfl

theorem replay_append (edges : Edges σ Out In W) (first second : List (EdgeAction σ Out In))
    (w : W) : edges.replay (first ++ second) w = edges.replay second (edges.replay first w) := by
  unfold replay
  rw [List.foldl_append]

/-- What each action keeps, a replay keeps. -/
theorem replay_keeps {edges : Edges σ Out In W} {P : W → Prop}
    (step : ∀ action w, P w → P (edges.act action w)) (actions : List (EdgeAction σ Out In))
    {w : W} (start : P w) : P (edges.replay actions w) := by
  induction actions generalizing w with
  | nil => exact start
  | cons action rest ih => exact ih (step action w start)

/-- Actions one after the other, each with the state that it finds. -/
def scenes (edges : Edges σ Out In W) :
    List (EdgeAction σ Out In) → W → List (EdgeAction σ Out In × W)
  | [], _ => []
  | action :: rest, w => (action, w) :: edges.scenes rest (edges.act action w)

/-- What each action keeps, every action of a replay finds. -/
theorem scenes_keep {edges : Edges σ Out In W} {P : W → Prop}
    (step : ∀ action w, P w → P (edges.act action w)) {actions : List (EdgeAction σ Out In)}
    {w : W} (start : P w) : ∀ scene ∈ edges.scenes actions w, P scene.2 := by
  induction actions generalizing w with
  | nil => exact List.forall_mem_nil _
  | cons action rest ih => exact List.forall_mem_cons.mpr ⟨start, ih (step action w start)⟩

/-- The same edges with a log of what happens at them. -/
def traced (edges : Edges σ Out In W) : Edges σ Out In (W × List (EdgeAction σ Out In)) where
  transport part w := (edges.transport part w.1, w.2 ++ [.transport part])
  application part w := (edges.application part w.1, w.2 ++ [.arrive (.part part)])
  failure e w := (edges.failure e w.1, w.2 ++ [.arrive (.failure e)])
  shared w := edges.shared w.1
  note update w := (edges.note update w.1, w.2 ++ [.note update])

/-- `g` does what `f` does and logs it: the entries it adds do not depend on the log so far, and
replay to what `f` does. -/
def Records (edges : Edges σ Out In W) (f : W → W)
    (g : W × List (EdgeAction σ Out In) → W × List (EdgeAction σ Out In)) : Prop :=
  ∀ w, ∃ actions, f w = edges.replay actions w ∧ ∀ log, g (w, log) = (f w, log ++ actions)

theorem records_id (edges : Edges σ Out In W) : Records edges id id :=
  fun _ => ⟨[], rfl, fun log => by simp⟩

theorem Records.comp {edges : Edges σ Out In W} {f₁ f₂ : W → W}
    {g₁ g₂ : W × List (EdgeAction σ Out In) → W × List (EdgeAction σ Out In)}
    (first : Records edges f₁ g₁) (second : Records edges f₂ g₂) :
    Records edges (fun w => f₂ (f₁ w)) (fun w => g₂ (g₁ w)) := by
  intro w
  obtain ⟨actions₁, done₁, logged₁⟩ := first w
  obtain ⟨actions₂, done₂, logged₂⟩ := second (f₁ w)
  refine ⟨actions₁ ++ actions₂, ?_, fun log => ?_⟩
  · rw [replay_append, ← done₁]
    exact done₂
  · show g₂ (g₁ (w, log)) = _
    rw [logged₁, logged₂, List.append_assoc]

theorem records_transport (edges : Edges σ Out In W) (part : Out) :
    Records edges (edges.transport part) (edges.traced.transport part) :=
  fun _ => ⟨[.transport part], rfl, fun _ => rfl⟩

theorem records_arrive (edges : Edges σ Out In W) (arrival : Arrival In) :
    Records edges (edges.arrive arrival) (edges.traced.arrive arrival) := by
  intro w
  refine ⟨[.arrive arrival], rfl, fun log => ?_⟩
  cases arrival <;> rfl

theorem records_note (edges : Edges σ Out In W) (update : σ → σ) :
    Records edges (edges.note update) (edges.traced.note update) :=
  fun _ => ⟨[.note update], rfl, fun _ => rfl⟩

end Edges

open Edges

variable {σ Out In W : Type} {edges : Edges σ Out In W}

theorem Hook.records_run {below : Out → W → W} {above : Arrival In → W → W}
    {below' : Out → W × List (EdgeAction σ Out In) → W × List (EdgeAction σ Out In)}
    {above' : Arrival In → W × List (EdgeAction σ Out In) → W × List (EdgeAction σ Out In)}
    (hbelow : ∀ part, Records edges (below part) (below' part))
    (habove : ∀ arrival, Records edges (above arrival) (above' arrival))
    (hook : Hook σ Out In) :
    Records edges (hook.run edges below above) (hook.run edges.traced below' above') := by
  induction hook with
  | done => exact records_id edges
  | send part rest ih => exact (hbelow part).comp ih
  | receive part rest ih => exact (habove (.part part)).comp ih
  | fail e rest ih => exact (habove (.failure e)).comp ih
  | note update rest ih => exact (records_note edges update).comp ih
  | look rest ih => exact fun w => ih (edges.shared w) w

namespace Chain

/-- How a chain answers toward the transport is recorded. -/
def RecordsAnswers (edges : Edges σ Out In W)
    (answer : (below above : List (Interceptor σ Out In)) → Out → W → W)
    (answer' : (below above : List (Interceptor σ Out In)) → Out →
      W × List (EdgeAction σ Out In) → W × List (EdgeAction σ Out In)) : Prop :=
  ∀ below above part, Records edges (answer below above part) (answer' below above part)

/-- Going inward the recursion is on the interceptors above. -/
theorem records_inward (path : String)
    {answer : (below above : List (Interceptor σ Out In)) → Out → W → W}
    {answer' : (below above : List (Interceptor σ Out In)) → Out →
      W × List (EdgeAction σ Out In) → W × List (EdgeAction σ Out In)}
    (answers : RecordsAnswers edges answer answer')
    (below above : List (Interceptor σ Out In)) (arrival : Arrival In) :
    Records edges (inward edges path answer below above arrival)
      (inward edges.traced path answer' below above arrival) := by
  induction above generalizing below arrival with
  | nil => exact records_arrive edges arrival
  | cons i above ih =>
    unfold inward
    exact Hook.records_run (fun part => answers below (i :: above) part)
      (fun arrival => ih (i :: below) arrival) _

/-- Going outward the recursion is on the interceptors below. -/
theorem records_outward (path : String)
    {answer : (below above : List (Interceptor σ Out In)) → Out → W → W}
    {answer' : (below above : List (Interceptor σ Out In)) → Out →
      W × List (EdgeAction σ Out In) → W × List (EdgeAction σ Out In)}
    (answers : RecordsAnswers edges answer answer')
    (below above : List (Interceptor σ Out In)) (part : Out) :
    Records edges (outward edges path answer below above part)
      (outward edges.traced path answer' below above part) := by
  induction below generalizing above part with
  | nil => exact records_transport edges part
  | cons i below ih =>
    unfold outward
    exact Hook.records_run (fun part => ih (i :: above) part)
      (fun arrival => records_inward path answers (i :: below) above arrival) _

theorem records_answer (path : String) (turns : Nat) :
    RecordsAnswers edges (answer edges path turns) (answer edges.traced path turns) := by
  induction turns with
  | zero => exact fun _ _ _ => records_id edges
  | succ turns ih => exact fun below above part => records_outward path ih below above part

/-- What happens at the edges while a part of the application runs through the chain. -/
def sendTrace (chain : Chain σ Out In) (edges : Edges σ Out In W) (path : String) (part : Out)
    (w : W) : List (EdgeAction σ Out In) :=
  (chain.send edges.traced path part (w, [])).2

/-- What happens at the edges while an arrival runs through the chain. -/
def arriveTrace (chain : Chain σ Out In) (edges : Edges σ Out In W) (path : String)
    (arrival : Arrival In) (w : W) : List (EdgeAction σ Out In) :=
  (chain.arrive edges.traced path arrival (w, [])).2

/-- A recorded function is the replay of the log it starts. -/
theorem replay_of_records {f : W → W}
    {g : W × List (EdgeAction σ Out In) → W × List (EdgeAction σ Out In)}
    (h : Records edges f g) (w : W) : edges.replay (g (w, [])).2 w = f w := by
  obtain ⟨actions, done, logged⟩ := h w
  rw [logged, done, List.nil_append]

theorem replay_sendTrace (chain : Chain σ Out In) (path : String) (part : Out) (w : W) :
    edges.replay (chain.sendTrace edges path part w) w = chain.send edges path part w :=
  replay_of_records (records_outward path (records_answer path chain.turns) _ _ part) w

theorem replay_arriveTrace (chain : Chain σ Out In) (path : String) (arrival : Arrival In)
    (w : W) :
    edges.replay (chain.arriveTrace edges path arrival w) w = chain.arrive edges path arrival w :=
  replay_of_records (records_inward path (records_answer path chain.turns) _ _ arrival) w

/-- What each action at the edges keeps, a part sent through the chain keeps. -/
theorem send_keeps {P : W → Prop} (step : ∀ action w, P w → P (edges.act action w))
    (chain : Chain σ Out In) (path : String) (part : Out) {w : W} (start : P w) :
    P (chain.send edges path part w) := by
  rw [← replay_sendTrace]
  exact replay_keeps step _ start

/-- What each action at the edges keeps, an arrival that runs through the chain keeps. -/
theorem arrive_keeps {P : W → Prop} (step : ∀ action w, P w → P (edges.act action w))
    (chain : Chain σ Out In) (path : String) (arrival : Arrival In) {w : W} (start : P w) :
    P (chain.arrive edges path arrival w) := by
  rw [← replay_arriveTrace]
  exact replay_keeps step _ start

end Chain

/-! ### Chains that send nothing back -/

/-- Whether a hook passes on such arrivals at most, and makes up no part for the transport. -/
def Hook.Passes (allowed : Arrival In → Prop) : Hook σ Out In → Prop
  | done => True
  | send _ _ => False
  | receive part rest => allowed (.part part) ∧ rest.Passes allowed
  | fail e rest => allowed (.failure e) ∧ rest.Passes allowed
  | note _ rest => rest.Passes allowed
  | look rest => ∀ shared, (rest shared).Passes allowed

/-- Whatever the hooks of a chain do about such arrivals, they are answered by such arrivals at
most. -/
def Chain.Passes (allowed : Arrival In → Prop) (chain : Chain σ Out In) : Prop :=
  ∀ i ∈ chain.interceptors, ∀ site arrival, allowed arrival → (i.arrive site arrival).Passes allowed

/-- The hooks for what arrives send nothing toward the transport. -/
def Chain.SendsNothingBack (chain : Chain σ Out In) : Prop := chain.Passes fun _ => True

section Passes

variable {P : W → Prop} {allowed : Arrival In → Prop}

theorem Hook.Passes.run_keeps {below : Out → W → W} {above : Arrival In → W → W}
    (passes : ∀ arrival w, allowed arrival → P w → P (above arrival w))
    (notes : ∀ update w, P w → P (edges.note update w)) {hook : Hook σ Out In}
    (only : hook.Passes allowed) {w : W} (start : P w) : P (hook.run edges below above w) := by
  induction hook generalizing w with
  | done => exact start
  | send part rest ih => exact absurd only id
  | receive part rest ih => exact ih only.2 (passes _ w only.1 start)
  | fail e rest ih => exact ih only.2 (passes _ w only.1 start)
  | note update rest ih => exact ih only (notes update w start)
  | look rest ih => exact ih (edges.shared w) (only (edges.shared w)) start

/-- What such arrivals and notes keep, such a chain keeps when it is given one of them. -/
theorem Chain.Passes.arrive_keeps {chain : Chain σ Out In} (only : chain.Passes allowed)
    (arrives : ∀ arrival w, allowed arrival → P w → P (edges.arrive arrival w))
    (notes : ∀ update w, P w → P (edges.note update w)) (path : String) {arrival : Arrival In}
    (isAllowed : allowed arrival) {w : W} (start : P w) :
    P (chain.arrive edges path arrival w) := by
  have inward_keeps : ∀ answer : List (Interceptor σ Out In) → List (Interceptor σ Out In) →
      Out → W → W, ∀ above below : List (Interceptor σ Out In),
      (∀ i ∈ above, ∀ site arrival, allowed arrival → (i.arrive site arrival).Passes allowed) →
        ∀ arrival w, allowed arrival → P w →
          P (inward edges path answer below above arrival w) := by
    intro answer above
    induction above with
    | nil => exact fun _ _ => arrives
    | cons i above ih =>
      intro below all arrival w isAllowed start
      obtain ⟨first, later⟩ := List.forall_mem_cons.mp all
      exact (first _ arrival isAllowed).run_keeps (ih (i :: below) later) notes start
  exact inward_keeps _ _ _ only arrival w isAllowed start

end Passes

/-- Whether a hook passes on failures at most, and makes up no part in either direction. -/
def Hook.OnlyFails : Hook σ Out In → Prop
  | done => True
  | send _ _ => False
  | receive _ _ => False
  | fail _ rest => rest.OnlyFails
  | note _ rest => rest.OnlyFails
  | look rest => ∀ shared, (rest shared).OnlyFails

/-- Whatever the hooks of a chain do about failures, they are answered by failures at most. -/
def Chain.OnlyFails (chain : Chain σ Out In) : Prop :=
  ∀ i ∈ chain.interceptors, ∀ site e, (i.failure site e).OnlyFails

theorem Hook.OnlyFails.passes {hook : Hook σ Out In} (only : hook.OnlyFails) :
    hook.Passes fun arrival => arrival.part? = none := by
  induction hook with
  | done => exact trivial
  | send part rest ih => exact only
  | receive part rest ih => exact absurd only id
  | fail e rest ih => exact ⟨rfl, ih only⟩
  | note update rest ih => exact ih only
  | look rest ih => exact fun shared => ih shared (only shared)

theorem Chain.OnlyFails.passes {chain : Chain σ Out In} (only : chain.OnlyFails) :
    chain.Passes fun arrival => arrival.part? = none := by
  intro i mem site arrival failure
  cases arrival with
  | part part => cases failure
  | failure e => exact (only i mem site e).passes

/-- What failures and notes keep, such a chain keeps when it is given a failure. -/
theorem Chain.OnlyFails.fail_keeps {P : W → Prop} {chain : Chain σ Out In}
    (only : chain.OnlyFails) (failure : ∀ e w, P w → P (edges.failure e w))
    (notes : ∀ update w, P w → P (edges.note update w)) (path : String) (e : CallError) {w : W}
    (start : P w) : P (chain.fail edges path e w) := by
  have fails : ∀ (arrival : Arrival In) w, arrival.part? = none → P w →
      P (edges.arrive arrival w) := by
    intro arrival w isFailure
    cases arrival with
    | part part => cases isFailure
    | failure e => exact failure e w
  exact only.passes.arrive_keeps fails notes path rfl start

/-! ### Chains that make up only such parts -/

/-- Whether a hook sends at most such parts toward the transport. -/
def Hook.SendsOnly (allowed : Out → Prop) : Hook σ Out In → Prop
  | done => True
  | send part rest => allowed part ∧ rest.SendsOnly allowed
  | receive _ rest => rest.SendsOnly allowed
  | fail _ rest => rest.SendsOnly allowed
  | note _ rest => rest.SendsOnly allowed
  | look rest => ∀ shared, (rest shared).SendsOnly allowed

/-- Whether an interceptor sends at most such parts, given such a part or an arrival. -/
structure Interceptor.SendsOnly (allowed : Out → Prop) (i : Interceptor σ Out In) : Prop where
  outbound : ∀ site part, allowed part → (i.outbound site part).SendsOnly allowed
  arrive : ∀ site arrival, (i.arrive site arrival).SendsOnly allowed

/-- Such parts stay such parts in the chain, and its hooks make up no others. -/
def Chain.SendsOnly (allowed : Out → Prop) (chain : Chain σ Out In) : Prop :=
  ∀ i ∈ chain.interceptors, i.SendsOnly allowed

section SendsOnly

variable {P : W → Prop} {allowed : Out → Prop}

theorem Hook.SendsOnly.run_keeps {below : Out → W → W} {above : Arrival In → W → W}
    (sends : ∀ part w, allowed part → P w → P (below part w))
    (passes : ∀ arrival w, P w → P (above arrival w))
    (notes : ∀ update w, P w → P (edges.note update w)) {hook : Hook σ Out In}
    (only : hook.SendsOnly allowed) {w : W} (start : P w) : P (hook.run edges below above w) := by
  induction hook generalizing w with
  | done => exact start
  | send part rest ih => exact ih only.2 (sends part w only.1 start)
  | receive part rest ih => exact ih only (passes _ w start)
  | fail e rest ih => exact ih only (passes _ w start)
  | note update rest ih => exact ih only (notes update w start)
  | look rest ih => exact ih (edges.shared w) (only (edges.shared w)) start

namespace Chain

/-- Such a part that is sent as an answer keeps what such parts keep at the edges. -/
def AnswersKeep (P : W → Prop) (allowed : Out → Prop)
    (answer : (below above : List (Interceptor σ Out In)) → Out → W → W) : Prop :=
  ∀ below above, (∀ i ∈ below, i.SendsOnly allowed) → (∀ i ∈ above, i.SendsOnly allowed) →
    ∀ part w, allowed part → P w → P (answer below above part w)

variable (transports : ∀ part w, allowed part → P w → P (edges.transport part w))
  (arrives : ∀ arrival w, P w → P (edges.arrive arrival w))
  (notes : ∀ update w, P w → P (edges.note update w)) (path : String)

include arrives notes

theorem inward_keeps {answer : (below above : List (Interceptor σ Out In)) → Out → W → W}
    (answers : AnswersKeep P allowed answer) {below above : List (Interceptor σ Out In)}
    (passed : ∀ i ∈ below, i.SendsOnly allowed) (ahead : ∀ i ∈ above, i.SendsOnly allowed)
    (arrival : Arrival In) (w : W) (start : P w) :
    P (inward edges path answer below above arrival w) := by
  induction above generalizing below arrival w with
  | nil => exact arrives arrival w start
  | cons i above ih =>
    obtain ⟨first, later⟩ := List.forall_mem_cons.mp ahead
    have through : ∀ j ∈ i :: below, j.SendsOnly allowed := List.forall_mem_cons.mpr ⟨first, passed⟩
    exact (first.arrive _ arrival).run_keeps (answers below (i :: above) passed ahead)
      (ih through later) notes start

include transports

theorem outward_keeps {answer : (below above : List (Interceptor σ Out In)) → Out → W → W}
    (answers : AnswersKeep P allowed answer) :
    AnswersKeep P allowed (outward edges path answer) := by
  intro below
  induction below with
  | nil => exact fun _ _ _ => transports
  | cons i below ih =>
    intro above ahead passed part w isAllowed start
    obtain ⟨first, later⟩ := List.forall_mem_cons.mp ahead
    have through : ∀ j ∈ i :: above, j.SendsOnly allowed := List.forall_mem_cons.mpr ⟨first, passed⟩
    exact (first.outbound _ part isAllowed).run_keeps (ih (i :: above) later through)
      (inward_keeps arrives notes path answers ahead passed) notes start

theorem answer_keeps (turns : Nat) :
    AnswersKeep P allowed (answer edges path turns) := by
  induction turns with
  | zero => exact fun _ _ _ _ _ _ _ start => start
  | succ turns ih => exact outward_keeps transports arrives notes path ih

variable {chain : Chain σ Out In}

/-- What such parts, arrivals and notes keep at the edges, such a chain keeps when it is given
such a part. -/
theorem SendsOnly.send_keeps (only : chain.SendsOnly allowed) {part : Out}
    (isAllowed : allowed part) {w : W} (start : P w) : P (chain.send edges path part w) :=
  outward_keeps transports arrives notes path (answer_keeps transports arrives notes path _) _ []
    (fun i mem => only i (List.mem_reverse.mp mem)) (List.forall_mem_nil _) part w isAllowed start

/-- It keeps the same when it is given an arrival. -/
theorem SendsOnly.arrive_keeps (only : chain.SendsOnly allowed) (arrival : Arrival In) {w : W}
    (start : P w) : P (chain.arrive edges path arrival w) :=
  inward_keeps arrives notes path (answer_keeps transports arrives notes path _)
    (List.forall_mem_nil _) only arrival w start

end Chain

end SendsOnly

end RemoteCall
