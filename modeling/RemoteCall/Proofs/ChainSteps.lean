import RemoteCall.ChainSteps
import RemoteCall.Proofs.Chain.Trace
import RemoteCall.Proofs.Routine

/-!
# Chains step by step, and chains as a whole

What holds of the routines at the edges of a chain, and of two routines in a row as soon as it
holds of both, holds of every run through the chain (`Chain.sendSteps_in`,
`Chain.arriveSteps_in`), whatever its hooks do. And a run of which nobody else takes notice does
what `Chain.send` and `Chain.arrive` do, if that is so at the edges (`Chain.renders_send`,
`Chain.renders_arrive`).
-/

namespace RemoteCall

variable {σ Out In W V ρ : Type}

/-! ### Properties of routines -/

/-- A property of routines that a hook cannot break by what it does itself. -/
structure EdgeRoutines.Closes (edges : EdgeRoutines σ Out In W ρ)
    (P : Routine W (List ρ) → Prop) : Prop where
  nothing : P (return [])
  andThen : ∀ r s : Routine W (List ρ), P r → P s → P (r.andThen s)
  note : ∀ update r, P r → P (do .act (edges.note update); r)
  look : ∀ f : σ → Routine W (List ρ), (∀ shared, P (f shared)) →
    P (do let shared ← .read edges.shared; f shared)

theorem Routine.Covers.closes {kind : W → W → Prop} {holds : (α : Type) → Routine W α → Prop}
    (covers : Routine.Covers kind holds) {edges : EdgeRoutines σ Out In W ρ}
    (note : ∀ update w, kind w (edges.note update w)) (look : ∀ w, kind w w) :
    edges.Closes (holds (List ρ)) where
  nothing := covers.value []
  andThen _ _ := covers.andThen
  note update _ rest := covers.bind (covers.act (note update)) fun _ => rest
  look _ rest := covers.bind (covers.single _ id edges.shared look) rest

section Closes

variable {edges : EdgeRoutines σ Out In W ρ} {P : Routine W (List ρ) → Prop}
  (closes : edges.Closes P)

include closes

theorem Hook.steps_in {below : Out → Routine W (List ρ)} {above : Arrival In → Routine W (List ρ)}
    (sends : ∀ part, P (below part)) (passes : ∀ arrival, P (above arrival))
    (hook : Hook σ Out In) : P (hook.steps edges below above) := by
  induction hook with
  | done => exact closes.nothing
  | send part rest ih => exact closes.andThen _ _ (sends part) ih
  | receive part rest ih => exact closes.andThen _ _ (passes (.part part)) ih
  | fail e rest ih => exact closes.andThen _ _ (passes (.failure e)) ih
  | note update rest ih => exact closes.note update _ ih
  | look rest ih => exact closes.look _ ih

theorem Hook.Passes.steps_in {allowed : Arrival In → Prop} {below : Out → Routine W (List ρ)}
    {above : Arrival In → Routine W (List ρ)}
    (passes : ∀ arrival, allowed arrival → P (above arrival)) {hook : Hook σ Out In}
    (only : hook.Passes allowed) : P (hook.steps edges below above) := by
  induction hook with
  | done => exact closes.nothing
  | send part rest ih => exact absurd only id
  | receive part rest ih => exact closes.andThen _ _ (passes _ only.1) (ih only.2)
  | fail e rest ih => exact closes.andThen _ _ (passes _ only.1) (ih only.2)
  | note update rest ih => exact closes.note update _ (ih only)
  | look rest ih => exact closes.look _ fun shared => ih shared (only shared)

namespace Chain

variable (arrives : ∀ arrival, P (edges.arrive arrival)) (path : String)

include arrives

theorem inwardSteps_in
    {answer : (below above : List (Interceptor σ Out In)) → Out → Routine W (List ρ)}
    (answers : ∀ below above part, P (answer below above part))
    (below above : List (Interceptor σ Out In)) (arrival : Arrival In) :
    P (inwardSteps edges path answer below above arrival) := by
  induction above generalizing below arrival with
  | nil => exact arrives arrival
  | cons i above ih =>
    exact Hook.steps_in closes (answers below (i :: above)) (ih (i :: below)) _

theorem outwardSteps_in (transports : ∀ part, P (edges.transport part))
    {answer : (below above : List (Interceptor σ Out In)) → Out → Routine W (List ρ)}
    (answers : ∀ below above part, P (answer below above part))
    (below above : List (Interceptor σ Out In)) (part : Out) :
    P (outwardSteps edges path answer below above part) := by
  induction below generalizing above part with
  | nil => exact transports part
  | cons i below ih =>
    exact Hook.steps_in closes (ih (i :: above))
      (inwardSteps_in closes arrives path answers (i :: below) above) _

theorem answerSteps_in (transports : ∀ part, P (edges.transport part)) (turns : Nat)
    (below above : List (Interceptor σ Out In)) (part : Out) :
    P (answerSteps edges path turns below above part) := by
  induction turns generalizing below above part with
  | zero => exact closes.nothing
  | succ turns ih => exact outwardSteps_in closes arrives path transports ih below above part

/-- What holds at both edges holds of a part that is sent through the chain. -/
theorem sendSteps_in (transports : ∀ part, P (edges.transport part)) (chain : Chain σ Out In)
    (part : Out) : P (chain.sendSteps edges path part) :=
  outwardSteps_in closes arrives path transports
    (answerSteps_in closes arrives path transports chain.turns) _ [] part

/-- What holds at both edges holds of an arrival that runs through the chain. -/
theorem arriveSteps_in (transports : ∀ part, P (edges.transport part)) (chain : Chain σ Out In)
    (arrival : Arrival In) : P (chain.arriveSteps edges path arrival) :=
  inwardSteps_in closes arrives path
    (answerSteps_in closes arrives path transports chain.turns) [] _ arrival

end Chain

/-- If the hooks send nothing back, what holds at the edge of the application is enough. -/
theorem Chain.Passes.arriveSteps_in {allowed : Arrival In → Prop} {chain : Chain σ Out In}
    (only : chain.Passes allowed) (arrives : ∀ arrival, allowed arrival → P (edges.arrive arrival))
    (path : String) {arrival : Arrival In} (isAllowed : allowed arrival) :
    P (chain.arriveSteps edges path arrival) := by
  have inward : ∀ answer : List (Interceptor σ Out In) → List (Interceptor σ Out In) → Out →
      Routine W (List ρ), ∀ above below : List (Interceptor σ Out In),
      (∀ i ∈ above, ∀ site arrival, allowed arrival → (i.arrive site arrival).Passes allowed) →
        ∀ arrival, allowed arrival → P (inwardSteps edges path answer below above arrival) := by
    intro answer above
    induction above with
    | nil => exact fun _ _ => arrives
    | cons i above ih =>
      intro below all arrival isAllowed
      obtain ⟨first, later⟩ := List.forall_mem_cons.mp all
      exact (first _ arrival isAllowed).steps_in closes (ih (i :: below) later)
  exact inward _ _ [] only arrival isAllowed

end Closes

/-! ### Nothing in between -/

/-- Left alone, a routine does what `f` does: from related states it comes to related states, and
its value is what `f` adds to the notes. This is only said of an `f` that leaves its state `sound`,
which was sound before then. -/
structure Renders (rel : W → V → Prop) (notes : V → List ρ) (sound : V → Prop)
    (r : Routine W (List ρ)) (f : V → V) : Prop where
  before : ∀ v, sound (f v) → sound v
  runs : ∀ w v, rel w v → sound (f v) →
    ∃ more w', r.alone? w = some (more, w') ∧ rel w' (f v) ∧ notes (f v) = notes v ++ more

section Renders

variable {rel : W → V → Prop} {notes : V → List ρ} {sound : V → Prop}

theorem renders_nothing : Renders rel notes sound (return []) id where
  before _ := id
  runs w v related _ := ⟨[], w, rfl, related, (List.append_nil (notes v)).symm⟩

theorem Renders.andThen {r s : Routine W (List ρ)} {f g : V → V}
    (first : Renders rel notes sound r f) (second : Renders rel notes sound s g) :
    Renders rel notes sound (r.andThen s) fun v => g (f v) where
  before v isSound := first.before v (second.before (f v) isSound)
  runs w v related isSound := by
    have between := second.before (f v) isSound
    obtain ⟨found, w', begins, related', noted⟩ := first.runs w v related between
    obtain ⟨more, w'', ends, related'', grown⟩ := second.runs w' (f v) related' isSound
    refine ⟨found ++ more, w'', ?_, related'', ?_⟩
    · simp [Routine.andThen, begins, ends]
    · rw [grown, noted, List.append_assoc]

/-- The routines at the edges do what the edges do. -/
structure EdgeRoutines.Renders (routines : EdgeRoutines σ Out In W ρ) (edges : Edges σ Out In V)
    (rel : W → V → Prop) (notes : V → List ρ) (sound : V → Prop) : Prop where
  transport : ∀ part,
    RemoteCall.Renders rel notes sound (routines.transport part) (edges.transport part)
  arrive : ∀ arrival,
    RemoteCall.Renders rel notes sound (routines.arrive arrival) (edges.arrive arrival)
  shared : ∀ w v, rel w v → edges.shared v = routines.shared w
  note : ∀ update w v, rel w v → rel (routines.note update w) (edges.note update v)
  notes_note : ∀ update v, notes (edges.note update v) = notes v
  sound_note : ∀ update v, sound (edges.note update v) → sound v

variable {routines : EdgeRoutines σ Out In W ρ} {edges : Edges σ Out In V}
  (renders : routines.Renders edges rel notes sound)

include renders

theorem Hook.renders_run {below : Out → V → V} {above : Arrival In → V → V}
    {below' : Out → Routine W (List ρ)} {above' : Arrival In → Routine W (List ρ)}
    (sends : ∀ part, Renders rel notes sound (below' part) (below part))
    (passes : ∀ arrival, Renders rel notes sound (above' arrival) (above arrival))
    (hook : Hook σ Out In) :
    Renders rel notes sound (hook.steps routines below' above') (hook.run edges below above) := by
  induction hook with
  | done => exact renders_nothing
  | send part rest ih => exact (sends part).andThen ih
  | receive part rest ih => exact (passes (.part part)).andThen ih
  | fail e rest ih => exact (passes (.failure e)).andThen ih
  | note update rest ih =>
    refine ⟨fun v isSound => renders.sound_note update v (ih.before _ isSound), ?_⟩
    intro w v related isSound
    obtain ⟨more, w', ends, related', grown⟩ :=
      ih.runs _ (edges.note update v) (renders.note update w v related) isSound
    refine ⟨more, w', ?_, related', ?_⟩
    · simp only [steps, Routine.alone?_bind, Routine.alone?_act, Option.bind_some]
      exact ends
    · rw [renders.notes_note] at grown
      exact grown
  | look rest ih =>
    refine ⟨fun v isSound => (ih (edges.shared v)).before v isSound, ?_⟩
    intro w v related isSound
    simp only [steps, Routine.alone?_bind, Routine.alone?_read, Option.bind_some]
    rw [← renders.shared w v related]
    exact (ih (edges.shared v)).runs w v related isSound

namespace Chain

variable (path : String)

theorem renders_inward {answer : (below above : List (Interceptor σ Out In)) → Out → V → V}
    {answer' : (below above : List (Interceptor σ Out In)) → Out → Routine W (List ρ)}
    (answers : ∀ below above part,
      Renders rel notes sound (answer' below above part) (answer below above part))
    (below above : List (Interceptor σ Out In)) (arrival : Arrival In) :
    Renders rel notes sound (inwardSteps routines path answer' below above arrival)
      (inward edges path answer below above arrival) := by
  induction above generalizing below arrival with
  | nil => exact renders.arrive arrival
  | cons i above ih =>
    exact Hook.renders_run renders (answers below (i :: above)) (ih (i :: below)) _

theorem renders_outward {answer : (below above : List (Interceptor σ Out In)) → Out → V → V}
    {answer' : (below above : List (Interceptor σ Out In)) → Out → Routine W (List ρ)}
    (answers : ∀ below above part,
      Renders rel notes sound (answer' below above part) (answer below above part))
    (below above : List (Interceptor σ Out In)) (part : Out) :
    Renders rel notes sound (outwardSteps routines path answer' below above part)
      (outward edges path answer below above part) := by
  induction below generalizing above part with
  | nil => exact renders.transport part
  | cons i below ih =>
    exact Hook.renders_run renders (ih (i :: above))
      (renders_inward renders path answers (i :: below) above) _

theorem renders_answer (turns : Nat) (below above : List (Interceptor σ Out In)) (part : Out) :
    Renders rel notes sound (answerSteps routines path turns below above part)
      (answer edges path turns below above part) := by
  induction turns generalizing below above part with
  | zero => exact renders_nothing
  | succ turns ih => exact renders_outward renders path ih below above part

/-- Left alone, a part goes through the chain as in `Chain.send`. -/
theorem renders_send (chain : Chain σ Out In) (part : Out) :
    Renders rel notes sound (chain.sendSteps routines path part) (chain.send edges path part) :=
  renders_outward renders path (renders_answer renders path chain.turns) _ [] part

/-- Left alone, an arrival goes through the chain as in `Chain.arrive`. -/
theorem renders_arrive (chain : Chain σ Out In) (arrival : Arrival In) :
    Renders rel notes sound (chain.arriveSteps routines path arrival)
      (chain.arrive edges path arrival) :=
  renders_inward renders path (renders_answer renders path chain.turns) [] _ arrival

end Chain

end Renders

end RemoteCall
