import RemoteCall.Proofs.Chain.Trace

/-!
# How interceptors nest

A chain whose hooks send nothing back for what arrives is an onion. `Walks` says what happens in it
in terms of indices: a part goes down from one stage to the next, an arrival goes up, and a stage
acts by one action of its hook after the other. There is no rule for a stage that is not there, so a
walk that comes to its end never left the chain. Every walk ends, in one way (`Chain.Nests.sends`,
`Chain.Nests.arrives`), and the trail to each stop on it goes down, or down to the stage that
answered and up from there.

Two chains, one above the other, are one chain (`Chain.nests`): to the upper one the lower one is
its transport, and to the lower one the upper one is its application.
-/

namespace RemoteCall

variable {σ Out In W : Type}

/-- Whether an interceptor does the same wherever it stands. -/
def Interceptor.IsUniform (i : Interceptor σ Out In) : Prop :=
  ∀ path here there, i.outbound ⟨here, path⟩ = i.outbound ⟨there, path⟩ ∧
    i.arrive ⟨here, path⟩ = i.arrive ⟨there, path⟩

namespace Edges

/-- The edges of a chain that stands below another one: what leaves it toward the application runs
through the other one. -/
def under (edges : Edges σ Out In W) (above : Chain σ Out In) (path : String) :
    Edges σ Out In W :=
  { edges with
    application := above.receive edges path
    failure := above.fail edges path }

/-- The edges of a chain that stands above another one: what leaves it toward the transport runs
through the other one. -/
def atop (edges : Edges σ Out In W) (below above : Chain σ Out In) (path : String) :
    Edges σ Out In W :=
  { edges with transport := below.send (edges.under above path) path }

/-- Whether hooks share the same state through both edges. -/
structure SharesWith (edges edges' : Edges σ Out In W) : Prop where
  shared : edges.shared = edges'.shared
  note : edges.note = edges'.note

theorem sharesWith_self (edges : Edges σ Out In W) : edges.SharesWith edges := ⟨rfl, rfl⟩

theorem sharesWith_under (edges : Edges σ Out In W) (above : Chain σ Out In) (path : String) :
    edges.SharesWith (edges.under above path) := ⟨rfl, rfl⟩

theorem sharesWith_atop (edges : Edges σ Out In W) (below above : Chain σ Out In)
    (path : String) : edges.SharesWith (edges.atop below above path) := ⟨rfl, rfl⟩

theorem arrive_under (edges : Edges σ Out In W) (above : Chain σ Out In) (path : String)
    (arrival : Arrival In) :
    (edges.under above path).arrive arrival = above.arrive edges path arrival := by
  cases arrival <;> rfl

theorem arrive_atop (edges : Edges σ Out In W) (below above : Chain σ Out In) (path : String)
    (arrival : Arrival In) :
    (edges.atop below above path).arrive arrival = edges.arrive arrival := by
  cases arrival <;> rfl

end Edges

/-! ### Walks -/

/-- Where something on its way through a chain arrives. -/
inductive Stop (Out In : Type) where
  | stage (index : Nat)
  | transport (part : Out)
  | application (arrival : Arrival In)

/-- A stop, and the stages that were passed on the way to it, in order. -/
structure Visit (Out In : Type) where
  trail : List Nat
  stop : Stop Out In

/-- What is still to be walked. -/
inductive Leg (σ Out In : Type) where
  /-- A part goes down, with so many stages below it. -/
  | outward (below : Nat) (part : Out)
  /-- An arrival goes up, to the stage of this index. -/
  | inward (index : Nat) (arrival : Arrival In)
  /-- What is left for a stage to do. -/
  | acts (index : Nat) (hook : Hook σ Out In)

/-- A leg, at the end of a trail, is walked from one state to another by way of these visits. -/
inductive Walks (edges : Edges σ Out In W) (path : String)
    (stages : List (Interceptor σ Out In)) :
    List Nat → Leg σ Out In → W → List (Visit Out In) → W → Prop where
  | transport {trail : List Nat} {part : Out} {w : W} :
      Walks edges path stages trail (.outward 0 part) w [⟨trail, .transport part⟩]
        (edges.transport part w)
  | outbound {trail : List Nat} {index : Nat} {part : Out} {i : Interceptor σ Out In} {w w' : W}
      {log : List (Visit Out In)} (stage : stages[index]? = some i)
      (acts : Walks edges path stages (trail ++ [index])
        (.acts index (i.outbound ⟨index, path⟩ part)) w log w') :
      Walks edges path stages trail (.outward (index + 1) part) w (⟨trail, .stage index⟩ :: log) w'
  | application {trail : List Nat} {index : Nat} {arrival : Arrival In} {w : W}
      (last : index = stages.length) :
      Walks edges path stages trail (.inward index arrival) w [⟨trail, .application arrival⟩]
        (edges.arrive arrival w)
  | inbound {trail : List Nat} {index : Nat} {arrival : Arrival In} {i : Interceptor σ Out In}
      {w w' : W} {log : List (Visit Out In)} (stage : stages[index]? = some i)
      (acts : Walks edges path stages (trail ++ [index])
        (.acts index (i.arrive ⟨index, path⟩ arrival)) w log w') :
      Walks edges path stages trail (.inward index arrival) w (⟨trail, .stage index⟩ :: log) w'
  | done {trail : List Nat} {index : Nat} {w : W} :
      Walks edges path stages trail (.acts index .done) w [] w
  | send {trail : List Nat} {index : Nat} {part : Out} {hook : Hook σ Out In} {w w₁ w₂ : W}
      {log₁ log₂ : List (Visit Out In)}
      (first : Walks edges path stages trail (.outward index part) w log₁ w₁)
      (rest : Walks edges path stages trail (.acts index hook) w₁ log₂ w₂) :
      Walks edges path stages trail (.acts index (.send part hook)) w (log₁ ++ log₂) w₂
  | receive {trail : List Nat} {index : Nat} {part : In} {hook : Hook σ Out In} {w w₁ w₂ : W}
      {log₁ log₂ : List (Visit Out In)}
      (first : Walks edges path stages trail (.inward (index + 1) (.part part)) w log₁ w₁)
      (rest : Walks edges path stages trail (.acts index hook) w₁ log₂ w₂) :
      Walks edges path stages trail (.acts index (.receive part hook)) w (log₁ ++ log₂) w₂
  | fail {trail : List Nat} {index : Nat} {e : CallError} {hook : Hook σ Out In} {w w₁ w₂ : W}
      {log₁ log₂ : List (Visit Out In)}
      (first : Walks edges path stages trail (.inward (index + 1) (.failure e)) w log₁ w₁)
      (rest : Walks edges path stages trail (.acts index hook) w₁ log₂ w₂) :
      Walks edges path stages trail (.acts index (.fail e hook)) w (log₁ ++ log₂) w₂
  | note {trail : List Nat} {index : Nat} {update : σ → σ} {hook : Hook σ Out In} {w w' : W}
      {log : List (Visit Out In)}
      (rest : Walks edges path stages trail (.acts index hook) (edges.note update w) log w') :
      Walks edges path stages trail (.acts index (.note update hook)) w log w'
  | look {trail : List Nat} {index : Nat} {hook : σ → Hook σ Out In} {w w' : W}
      {log : List (Visit Out In)}
      (rest : Walks edges path stages trail (.acts index (hook (edges.shared w))) w log w') :
      Walks edges path stages trail (.acts index (.look hook)) w log w'

section Walks

variable {edges : Edges σ Out In W} {path : String} {stages : List (Interceptor σ Out In)}

/-- A walk leaves nothing open. -/
theorem Walks.unique {trail : List Nat} {leg : Leg σ Out In} {w w' w'' : W}
    {log log' : List (Visit Out In)} (first : Walks edges path stages trail leg w log w')
    (second : Walks edges path stages trail leg w log' w'') : log' = log ∧ w'' = w' := by
  induction first generalizing log' w'' with
  | transport =>
    cases second
    exact ⟨rfl, rfl⟩
  | outbound stage acts ih =>
    cases second with
    | outbound stage' acts' =>
      cases stage.symm.trans stage'
      obtain ⟨rfl, rfl⟩ := ih acts'
      exact ⟨rfl, rfl⟩
  | application last =>
    cases second with
    | application => exact ⟨rfl, rfl⟩
    | inbound stage' => simp [last] at stage'
  | inbound stage acts ih =>
    cases second with
    | application last => simp [last] at stage
    | inbound stage' acts' =>
      cases stage.symm.trans stage'
      obtain ⟨rfl, rfl⟩ := ih acts'
      exact ⟨rfl, rfl⟩
  | done =>
    cases second
    exact ⟨rfl, rfl⟩
  | send first rest ihFirst ihRest =>
    cases second with
    | send first' rest' =>
      obtain ⟨rfl, rfl⟩ := ihFirst first'
      obtain ⟨rfl, rfl⟩ := ihRest rest'
      exact ⟨rfl, rfl⟩
  | receive first rest ihFirst ihRest =>
    cases second with
    | receive first' rest' =>
      obtain ⟨rfl, rfl⟩ := ihFirst first'
      obtain ⟨rfl, rfl⟩ := ihRest rest'
      exact ⟨rfl, rfl⟩
  | fail first rest ihFirst ihRest =>
    cases second with
    | fail first' rest' =>
      obtain ⟨rfl, rfl⟩ := ihFirst first'
      obtain ⟨rfl, rfl⟩ := ihRest rest'
      exact ⟨rfl, rfl⟩
  | note rest ih =>
    cases second with
    | note rest' => exact ih rest'
  | look rest ih =>
    cases second with
    | look rest' => exact ih rest'

/-! ### Every walk ends -/

theorem Hook.sendsOnly_true (hook : Hook σ Out In) : hook.SendsOnly fun _ => True := by
  induction hook with
  | done => trivial
  | send part rest ih => exact ⟨trivial, ih⟩
  | receive part rest ih => exact ih
  | fail e rest ih => exact ih
  | note update rest ih => exact ih
  | look rest ih => exact ih

theorem Hook.Passes.sendsOnly {allowed : Arrival In → Prop} {hook : Hook σ Out In}
    (only : hook.Passes allowed) : hook.SendsOnly fun _ => False := by
  induction hook with
  | done => trivial
  | send part rest ih => exact only.elim
  | receive part rest ih => exact ih only.2
  | fail e rest ih => exact ih only.2
  | note update rest ih => exact ih only
  | look rest ih => exact fun shared => ih shared (only shared)

/-- A stage acts to its end, if what it gives out goes to its end. -/
theorem Hook.walks {allowed : Out → Prop} {trail : List Nat} {index : Nat}
    {below : Out → W → W} {above : Arrival In → W → W}
    (sends : ∀ part w, allowed part →
      ∃ log, Walks edges path stages trail (.outward index part) w log (below part w))
    (passes : ∀ arrival w,
      ∃ log, Walks edges path stages trail (.inward (index + 1) arrival) w log (above arrival w))
    {hook : Hook σ Out In} (only : hook.SendsOnly allowed) (w : W) :
    ∃ log, Walks edges path stages trail (.acts index hook) w log
      (hook.run edges below above w) := by
  induction hook generalizing w with
  | done => exact ⟨_, .done⟩
  | send part rest ih =>
    obtain ⟨log₁, first⟩ := sends part w only.1
    obtain ⟨log₂, later⟩ := ih only.2 (below part w)
    exact ⟨_, .send first later⟩
  | receive part rest ih =>
    obtain ⟨log₁, first⟩ := passes (.part part) w
    obtain ⟨log₂, later⟩ := ih only (above (.part part) w)
    exact ⟨_, .receive first later⟩
  | fail e rest ih =>
    obtain ⟨log₁, first⟩ := passes (.failure e) w
    obtain ⟨log₂, later⟩ := ih only (above (.failure e) w)
    exact ⟨_, .fail first later⟩
  | note update rest ih =>
    obtain ⟨log, later⟩ := ih only (edges.note update w)
    exact ⟨_, .note later⟩
  | look rest ih =>
    obtain ⟨log, later⟩ := ih (edges.shared w) (only (edges.shared w)) w
    exact ⟨_, .look later⟩

/-- The hooks of these stages send nothing back for what arrives. -/
def OnlyPassUp (stages : List (Interceptor σ Out In)) : Prop :=
  ∀ i ∈ stages, ∀ site arrival, (i.arrive site arrival).Passes fun _ => True

theorem getElem?_split (below above : List (Interceptor σ Out In)) (i : Interceptor σ Out In) :
    (below.reverse ++ i :: above)[below.length]? = some i := by
  simp

/-- An arrival goes up to the application. The induction is on the stages above. -/
theorem Chain.walks_inward
    {answer : (below above : List (Interceptor σ Out In)) → Out → W → W}
    (below : List (Interceptor σ Out In)) {above : List (Interceptor σ Out In)}
    (only : OnlyPassUp above) (trail : List Nat) (arrival : Arrival In) (w : W) :
    ∃ log, Walks edges path (below.reverse ++ above) trail (.inward below.length arrival) w log
      (inward edges path answer below above arrival w) := by
  induction above generalizing below trail arrival w with
  | nil =>
    refine ⟨_, .application ?_⟩
    simp
  | cons i above ih =>
    obtain ⟨first, later⟩ := List.forall_mem_cons.mp only
    have passes : ∀ arrival w, ∃ log, Walks edges path (below.reverse ++ i :: above)
        (trail ++ [below.length]) (.inward (below.length + 1) arrival) w log
        (inward edges path answer (i :: below) above arrival w) := by
      intro arrival w
      have up := ih (i :: below) later (trail ++ [below.length]) arrival w
      rwa [List.reverse_cons, List.append_assoc] at up
    have sends : ∀ part w, False → ∃ log, Walks edges path (below.reverse ++ i :: above)
        (trail ++ [below.length]) (.outward below.length part) w log
        (answer below (i :: above) part w) := fun _ _ => False.elim
    obtain ⟨log, acts⟩ :=
      Hook.walks sends passes (first ⟨below.length, path⟩ arrival).sendsOnly w
    exact ⟨_, .inbound (getElem?_split below above i) acts⟩

/-- A part goes down to the transport. The induction is on the stages below. -/
theorem Chain.walks_outward
    {answer : (below above : List (Interceptor σ Out In)) → Out → W → W}
    (below above : List (Interceptor σ Out In)) (only : OnlyPassUp (below.reverse ++ above))
    (trail : List Nat) (part : Out) (w : W) :
    ∃ log, Walks edges path (below.reverse ++ above) trail (.outward below.length part) w log
      (outward edges path answer below above part w) := by
  induction below generalizing above trail part w with
  | nil => exact ⟨_, .transport⟩
  | cons i below ih =>
    have split : (i :: below).reverse ++ above = below.reverse ++ i :: above := by simp
    rw [split] at only ⊢
    have sends : ∀ part w, True → ∃ log, Walks edges path (below.reverse ++ i :: above)
        (trail ++ [below.length]) (.outward below.length part) w log
        (outward edges path answer below (i :: above) part w) :=
      fun part w _ => ih (i :: above) only _ part w
    have passes : ∀ arrival w, ∃ log, Walks edges path (below.reverse ++ i :: above)
        (trail ++ [below.length]) (.inward (below.length + 1) arrival) w log
        (inward edges path answer (i :: below) above arrival w) := by
      intro arrival w
      have above_only : OnlyPassUp above := by
        intro j member
        exact only j (List.mem_append_right _ (List.mem_cons_of_mem _ member))
      obtain ⟨log, up⟩ := walks_inward (i :: below) above_only (trail ++ [below.length]) arrival w
      rw [split] at up
      exact ⟨log, up⟩
    obtain ⟨log, acts⟩ := Hook.walks sends passes
      (i.outbound ⟨below.length, path⟩ part).sendsOnly_true w
    exact ⟨_, .outbound (getElem?_split below above i) acts⟩

/-! ### Trails -/

/-- The stages from the top down to this one, with so many on top. -/
def descent (top last : Nat) : List Nat := (List.range' last (top - last)).reverse

/-- The stages from this one up, as far as the one below `stop`. -/
def ascent (first stop : Nat) : List Nat := List.range' first (stop - first)

theorem descent_concat {top last : Nat} (below : last < top) :
    descent top (last + 1) ++ [last] = descent top last := by
  have more : top - last = (top - (last + 1)) + 1 := by omega
  unfold descent
  rw [more, List.range'_succ, List.reverse_cons]

theorem ascent_concat {first stop : Nat} (from_ : first ≤ stop) :
    ascent first stop ++ [stop] = ascent first (stop + 1) := by
  have more : stop + 1 - first = (stop - first) + 1 := by omega
  have last : first + 1 * (stop - first) = stop := by omega
  unfold ascent
  rw [more, List.range'_concat, last]

@[simp] theorem descent_self (top : Nat) : descent top top = [] := by simp [descent]

@[simp] theorem ascent_self (first : Nat) : ascent first first = [] := by simp [ascent]

/-- A visit of what goes up from the stage `first`, behind a trail that led there. -/
inductive Visit.Ascends (top : Nat) (before : List Nat) (first : Nat) : Visit Out In → Prop where
  | stage {index : Nat} (from_ : first ≤ index) (below : index < top) :
      Ascends top before first ⟨before ++ ascent first index, .stage index⟩
  | application (arrival : Arrival In) :
      Ascends top before first ⟨before ++ ascent first top, .application arrival⟩

/-- A visit of what goes down from the application, through all stages to the transport, or of an
answer that some stage gives: it goes up from the next one to the application. -/
inductive Visit.Descends (top : Nat) : Visit Out In → Prop where
  | stage {index : Nat} (below : index < top) :
      Descends top ⟨descent top (index + 1), .stage index⟩
  | transport (part : Out) : Descends top ⟨descent top 0, .transport part⟩
  | answer {turn : Nat} {visit : Visit Out In} (below : turn < top)
      (ascends : visit.Ascends top (descent top turn) (turn + 1)) : Descends top visit

/-- Where a leg may be on the way up. -/
def Leg.Ascends (before : List Nat) (first : Nat) (trail : List Nat) : Leg σ Out In → Prop
  | outward _ _ => False
  | inward index _ => first ≤ index ∧ trail = before ++ ascent first index
  | acts index hook =>
    first ≤ index ∧ trail = before ++ ascent first (index + 1) ∧ hook.Passes fun _ => True

theorem lt_length_of_getElem? {index : Nat} {i : Interceptor σ Out In}
    (stage : stages[index]? = some i) : index < stages.length := by
  obtain ⟨below, -⟩ := List.getElem?_eq_some_iff.mp stage
  exact below

/-- What goes up is seen by every stage on its way, and by nobody else. -/
theorem Walks.ascends (only : OnlyPassUp stages) {before : List Nat} {first : Nat}
    {trail : List Nat} {leg : Leg σ Out In} {w w' : W} {log : List (Visit Out In)}
    (walks : Walks edges path stages trail leg w log w') (up : leg.Ascends before first trail) :
    ∀ visit ∈ log, visit.Ascends stages.length before first := by
  induction walks with
  | transport => exact up.elim
  | outbound stage acts ih => exact up.elim
  | application last =>
    obtain ⟨from_, rfl⟩ := up
    intro visit member
    rw [List.mem_singleton.mp member, last]
    exact .application _
  | @inbound trail index arrival i w w' log stage acts ih =>
    obtain ⟨from_, rfl⟩ := up
    have passes := only i (List.mem_of_getElem? stage) ⟨index, path⟩ arrival
    have further :
        before ++ ascent first index ++ [index] = before ++ ascent first (index + 1) := by
      rw [List.append_assoc, ascent_concat from_]
    refine List.forall_mem_cons.mpr ⟨?_, ?_⟩
    · exact .stage from_ (lt_length_of_getElem? stage)
    · exact ih ⟨from_, further, passes⟩
  | done => exact List.forall_mem_nil _
  | send first rest ihFirst ihRest => exact up.2.2.elim
  | receive first rest ihFirst ihRest =>
    obtain ⟨from_, trail, -, passes⟩ := up
    refine List.forall_mem_append.mpr ⟨ihFirst ⟨by omega, trail⟩, ihRest ⟨from_, trail, passes⟩⟩
  | fail first rest ihFirst ihRest =>
    obtain ⟨from_, trail, -, passes⟩ := up
    refine List.forall_mem_append.mpr ⟨ihFirst ⟨by omega, trail⟩, ihRest ⟨from_, trail, passes⟩⟩
  | note rest ih => exact ih up
  | look rest ih => exact ih ⟨up.1, up.2.1, up.2.2 _⟩

/-- Where a leg may be on the way down. -/
def Leg.Descends (top : Nat) (trail : List Nat) : Leg σ Out In → Prop
  | outward below _ => trail = descent top below
  | inward _ _ => False
  | acts index _ => index < top ∧ trail = descent top index

/-- What goes down is seen by every stage on its way, and turns up at most once. -/
theorem Walks.descends (only : OnlyPassUp stages) {trail : List Nat} {leg : Leg σ Out In}
    {w w' : W} {log : List (Visit Out In)} (walks : Walks edges path stages trail leg w log w')
    (down : leg.Descends stages.length trail) : ∀ visit ∈ log, visit.Descends stages.length := by
  -- What a stage answers goes up from the next one.
  have answered : ∀ {index : Nat} {arrival : Arrival In} {w w' : W} {log : List (Visit Out In)},
      index < stages.length → Walks edges path stages (descent stages.length index)
        (.inward (index + 1) arrival) w log w' → ∀ visit ∈ log, visit.Descends stages.length := by
    intro index arrival w w' log below walks visit member
    have here : descent stages.length index =
        descent stages.length index ++ ascent (index + 1) (index + 1) := by simp
    exact .answer below (walks.ascends only ⟨Nat.le_refl _, here⟩ visit member)
  induction walks with
  | transport =>
    cases down
    intro visit member
    rw [List.mem_singleton.mp member]
    exact .transport _
  | outbound stage acts ih =>
    have below := lt_length_of_getElem? stage
    cases down
    refine List.forall_mem_cons.mpr ⟨?_, ?_⟩
    · exact .stage below
    · exact ih ⟨below, descent_concat below⟩
  | application last => exact down.elim
  | inbound stage acts ih => exact down.elim
  | done => exact List.forall_mem_nil _
  | send first rest ihFirst ihRest =>
    refine List.forall_mem_append.mpr ⟨ihFirst down.2, ihRest down⟩
  | receive first rest ihFirst ihRest =>
    obtain ⟨below, rfl⟩ := down
    refine List.forall_mem_append.mpr ⟨answered below first, ihRest ⟨below, rfl⟩⟩
  | fail first rest ihFirst ihRest =>
    obtain ⟨below, rfl⟩ := down
    refine List.forall_mem_append.mpr ⟨answered below first, ihRest ⟨below, rfl⟩⟩
  | note rest ih => exact ih down
  | look rest ih => exact ih down

end Walks

/-! ### One chain above the other -/

section Nesting

variable {edges edges' : Edges σ Out In W} {path : String}

/-- What a hook does depends on the edges only through what it can reach of them. -/
theorem Hook.SendsOnly.run_congr {allowed : Out → Prop} {below below' : Out → W → W}
    {above above' : Arrival In → W → W} (shares : edges.SharesWith edges')
    (sends : ∀ part, allowed part → below part = below' part)
    (passes : ∀ arrival, above arrival = above' arrival) {hook : Hook σ Out In}
    (only : hook.SendsOnly allowed) :
    hook.run edges below above = hook.run edges' below' above' := by
  funext w
  induction hook generalizing w with
  | done => rfl
  | send part rest ih =>
    unfold run
    rw [sends part only.1]
    exact ih only.2 _
  | receive part rest ih =>
    unfold run
    rw [passes (.part part)]
    exact ih only _
  | fail e rest ih =>
    unfold run
    rw [passes (.failure e)]
    exact ih only _
  | note update rest ih =>
    unfold run
    rw [shares.note]
    exact ih only _
  | look rest ih =>
    unfold run
    rw [shares.shared]
    exact ih (edges'.shared w) (only (edges'.shared w)) w

namespace Chain

variable {answer answer' : (below above : List (Interceptor σ Out In)) → Out → W → W}

/-- What goes up through uniform stages does not depend on what stands below them. -/
theorem inward_congr (shares : edges.SharesWith edges')
    (arrives : ∀ arrival, edges.arrive arrival = edges'.arrive arrival)
    {above : List (Interceptor σ Out In)} (only : OnlyPassUp above)
    (uniform : ∀ i ∈ above, i.IsUniform) (below below' : List (Interceptor σ Out In))
    (arrival : Arrival In) :
    inward edges path answer below above arrival =
      inward edges' path answer' below' above arrival := by
  induction above generalizing below below' arrival with
  | nil => exact arrives arrival
  | cons i above ih =>
    obtain ⟨first, later⟩ := List.forall_mem_cons.mp only
    obtain ⟨same, others⟩ := List.forall_mem_cons.mp uniform
    have site := (same path below.length below'.length).2
    unfold inward
    rw [site]
    apply (first ⟨below'.length, path⟩ arrival).sendsOnly.run_congr shares
    · intro part none
      exact none.elim
    · exact ih later others (i :: below) (i :: below')

/-- What goes up through a chain below another one goes on in the other one. -/
theorem inward_append (turns : Nat) {above : List (Interceptor σ Out In)}
    (aboveOnly : OnlyPassUp above) (uniform : ∀ i ∈ above, i.IsUniform)
    {between : List (Interceptor σ Out In)} (only : OnlyPassUp between)
    (below : List (Interceptor σ Out In)) (arrival : Arrival In) :
    inward edges path answer below (between ++ above) arrival =
      inward (edges.under ⟨above, turns⟩ path) path answer' below between arrival := by
  induction between generalizing below arrival with
  | nil =>
    have last : inward (edges.under ⟨above, turns⟩ path) path answer' below [] arrival =
        (⟨above, turns⟩ : Chain σ Out In).arrive edges path arrival :=
      edges.arrive_under _ path arrival
    rw [List.nil_append, last]
    exact inward_congr edges.sharesWith_self (fun _ => rfl) aboveOnly uniform below [] arrival
  | cons i between ih =>
    obtain ⟨first, later⟩ := List.forall_mem_cons.mp only
    rw [List.cons_append]
    unfold inward
    apply (first ⟨below.length, path⟩ arrival).sendsOnly.run_congr (edges.sharesWith_under _ path)
    · intro part none
      exact none.elim
    · exact ih later (i :: below)

/-- What goes down through a chain below another one, or is answered there. -/
theorem outward_append_above (turns : Nat) {above : List (Interceptor σ Out In)}
    (aboveOnly : OnlyPassUp above) (uniform : ∀ i ∈ above, i.IsUniform)
    (below between : List (Interceptor σ Out In)) (only : OnlyPassUp (below.reverse ++ between))
    (part : Out) :
    outward edges path answer below (between ++ above) part =
      outward (edges.under ⟨above, turns⟩ path) path answer' below between part := by
  induction below generalizing between part with
  | nil => rfl
  | cons i below ih =>
    rw [List.reverse_cons, List.append_assoc] at only
    have upper : OnlyPassUp between := by
      intro j member
      exact only j (List.mem_append_right _ (List.mem_cons_of_mem _ member))
    unfold outward
    apply (i.outbound ⟨below.length, path⟩ part).sendsOnly_true.run_congr
      (edges.sharesWith_under _ path)
    · intro part _
      exact ih (i :: between) only part
    · exact inward_append turns aboveOnly uniform upper (i :: below)

/-- What goes down through a chain above another one goes on in the other one. -/
theorem outward_append_below (turns : Nat) {below : List (Interceptor σ Out In)}
    {above between passed : List (Interceptor σ Out In)} (only : OnlyPassUp (below ++ above))
    (split : between.reverse ++ passed = above) (uniform : ∀ i ∈ above, i.IsUniform)
    (part : Out) :
    outward edges path answer (between ++ below.reverse) passed part =
      outward (edges.atop ⟨below, turns⟩ ⟨above, turns⟩ path) path answer' between passed part := by
  have aboveOnly : OnlyPassUp above := fun i member => only i (List.mem_append_right _ member)
  induction between generalizing passed part with
  | nil =>
    have belowOnly : OnlyPassUp (below.reverse.reverse ++ []) := by
      rw [List.reverse_reverse, List.append_nil]
      exact fun i member => only i (List.mem_append_left _ member)
    have start : passed = [] ++ above := split
    rw [start]
    exact outward_append_above turns aboveOnly uniform below.reverse [] belowOnly part
  | cons i between ih =>
    have split' : between.reverse ++ i :: passed = above := by
      rw [← split, List.reverse_cons, List.append_assoc]
      rfl
    have same : i.IsUniform := uniform i (split' ▸ by simp)
    have upper : ∀ j ∈ passed, j ∈ above := by
      intro j member
      rw [← split']
      exact List.mem_append_right _ (List.mem_cons_of_mem _ member)
    have site := (same path (between ++ below.reverse).length between.length).1
    rw [List.cons_append]
    unfold outward
    rw [site]
    have shares := edges.sharesWith_atop ⟨below, turns⟩ ⟨above, turns⟩ path
    have arrives : ∀ arrival, edges.arrive arrival =
        (edges.atop ⟨below, turns⟩ ⟨above, turns⟩ path).arrive arrival := by
      intro arrival
      rw [edges.arrive_atop]
    apply (i.outbound ⟨between.length, path⟩ part).sendsOnly_true.run_congr shares
    · intro part _
      exact ih split' part
    · apply inward_congr shares arrives
      · exact fun j member => aboveOnly j (upper j member)
      · exact fun j member => uniform j (upper j member)

/-- How two chains, one above the other, are one chain. -/
structure Nests (edges : Edges σ Out In W) (path : String) (turns : Nat)
    (below above : List (Interceptor σ Out In)) : Prop where
  /-- A part of the application is walked down in one way, and all that comes of it goes down to the
  transport, or down to a stage that answers and up from there. -/
  sends : ∀ part w, ∃ log,
    (∀ log' w', Walks edges path (below ++ above) [] (.outward (below ++ above).length part) w
        log' w' ↔
      log' = log ∧ w' = (⟨below ++ above, turns⟩ : Chain σ Out In).send edges path part w) ∧
    ∀ visit ∈ log, visit.Descends (below ++ above).length
  /-- An arrival from the transport is walked up in one way, and all that comes of it goes up. -/
  arrives : ∀ arrival w, ∃ log,
    (∀ log' w', Walks edges path (below ++ above) [] (.inward 0 arrival) w log' w' ↔
      log' = log ∧ w' = (⟨below ++ above, turns⟩ : Chain σ Out In).arrive edges path arrival w) ∧
    ∀ visit ∈ log, visit.Ascends (below ++ above).length [] 0
  /-- To the upper chain, the lower one is the transport. -/
  send_eq : ∀ part, (⟨below ++ above, turns⟩ : Chain σ Out In).send edges path part =
    (⟨above, turns⟩ : Chain σ Out In).send (edges.atop ⟨below, turns⟩ ⟨above, turns⟩ path) path part
  /-- To the lower chain, the upper one is the application. -/
  arrive_eq : ∀ arrival, (⟨below ++ above, turns⟩ : Chain σ Out In).arrive edges path arrival =
    (⟨below, turns⟩ : Chain σ Out In).arrive (edges.under ⟨above, turns⟩ path) path arrival

/-- Chains nest, if their hooks send nothing back for what arrives, and those of the upper one do
not depend on where they stand. -/
theorem nests (edges : Edges σ Out In W) (path : String) (turns : Nat)
    (below above : List (Interceptor σ Out In))
    (only : (⟨below ++ above, turns⟩ : Chain σ Out In).SendsNothingBack)
    (uniform : ∀ i ∈ above, i.IsUniform) : Nests edges path turns below above := by
  have passes : OnlyPassUp (below ++ above) := by
    intro i member site arrival
    exact only i member site arrival trivial
  have belowOnly : OnlyPassUp below := fun i member => passes i (List.mem_append_left _ member)
  have aboveOnly : OnlyPassUp above := fun i member => passes i (List.mem_append_right _ member)
  constructor
  · intro part w
    have all : OnlyPassUp ((below ++ above).reverse.reverse ++ []) := by simpa using passes
    obtain ⟨log, walks⟩ := walks_outward (below ++ above).reverse [] all [] part w
    rw [List.reverse_reverse, List.append_nil, List.length_reverse] at walks
    refine ⟨log, ?_, ?_⟩
    · intro log' w'
      constructor
      · exact fun other => walks.unique other
      · rintro ⟨rfl, rfl⟩
        exact walks
    · exact walks.descends passes (descent_self _).symm
  · intro arrival w
    obtain ⟨log, walks⟩ := walks_inward [] passes [] arrival w
    refine ⟨log, ?_, ?_⟩
    · intro log' w'
      constructor
      · exact fun other => walks.unique other
      · rintro ⟨rfl, rfl⟩
        exact walks
    · exact walks.ascends passes ⟨Nat.le_refl 0, rfl⟩
  · intro part
    unfold send
    rw [List.reverse_append]
    apply outward_append_below turns passes _ uniform
    rw [List.reverse_reverse, List.append_nil]
  · exact inward_append turns aboveOnly uniform belowOnly []

end Chain

end Nesting

/-! ### Three stages -/

/-- Edges that log the numbers that leave a chain, those toward the transport on the left. -/
def countingEdges : Edges Unit Nat Nat (List (Nat ⊕ Nat)) where
  transport n log := log ++ [.inl n]
  application n log := log ++ [.inr n]
  failure _ log := log
  shared _ := ()
  note _ log := log

/-- Sends each part twice. -/
def sendingTwice : Interceptor Unit Nat Nat where
  outbound _ n := .send n (.send n .done)

/-- Answers zero. -/
def answeringZero : Interceptor Unit Nat Nat where
  outbound _ n := if n = 0 then .receive n .done else .send n .done

/-- Adds one to what arrives. -/
def countingUp : Interceptor Unit Nat Nat where
  inbound _ n := .receive (n + 1) .done

def counting : Chain Unit Nat Nat := ⟨[sendingTwice, answeringZero, countingUp], 256⟩

theorem sendsNothingBack_counting : counting.SendsNothingBack := by
  intro i member site arrival _
  rcases List.mem_cons.mp member with rfl | member
  · cases arrival <;> exact ⟨trivial, trivial⟩
  rcases List.mem_cons.mp member with rfl | member
  · cases arrival <;> exact ⟨trivial, trivial⟩
  · rw [List.mem_singleton.mp member]
    cases arrival <;> exact ⟨trivial, trivial⟩

theorem isUniform_countingUp : countingUp.IsUniform := by
  intro path here there
  refine ⟨rfl, ?_⟩
  funext arrival
  cases arrival <;> rfl

/-- The answer of the middle stage passes the upper one, and neither the lower one nor the
transport sees anything of it. -/
theorem nests_counting :
    counting.SendsNothingBack ∧ (∀ i ∈ [countingUp], i.IsUniform) ∧
      Chain.Nests countingEdges "/p/S/M" 256 [sendingTwice, answeringZero] [countingUp] ∧
      counting.send countingEdges "/p/S/M" 3 [] = [.inl 3, .inl 3] ∧
      counting.send countingEdges "/p/S/M" 0 [] = [.inr 1] ∧
      counting.receive countingEdges "/p/S/M" 0 [] = [.inr 1] := by
  have uniform : ∀ i ∈ [countingUp], i.IsUniform :=
    List.forall_mem_singleton.mpr isUniform_countingUp
  refine ⟨sendsNothingBack_counting, uniform, ?_, rfl, rfl, rfl⟩
  exact Chain.nests countingEdges "/p/S/M" 256 [sendingTwice, answeringZero] [countingUp]
    sendsNothingBack_counting uniform

end RemoteCall
