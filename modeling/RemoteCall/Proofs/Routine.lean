import RemoteCall.Routine
import Mathlib.Data.List.Basic

/-!
# What routines keep, however they overlap

A property of a crowd is proved of its routines one by one. `Routine.Keeps` says what every step of
a routine does; what all of them keep, the crowd keeps in any order of turns (`Crowd.Keep.after`).
`Routine.Owes` says of a routine that it does not return before it has reached a goal, and
`Routine.Prompts` that a step which gives the cue leaves the goal to be reached. `Routine.Heeds`
says what the steps of a routine are as long as others do nothing but what it relies on.

A `Discipline` is about one lock. `Routine.Stands` says that a routine outside of it leaves alone
what it guards, and takes it before it does anything else; and that whoever is inside may count
on that, and leaves everything in order. Then the guarded state is in order at every moment, and
at rest whenever nobody is inside (`Crowd.Guarded.after`).
-/

namespace RemoteCall

namespace Routine

variable {W α β ρ : Type}

/-! ### Alone -/

@[simp] theorem alone?_pure (a : α) (w : W) : (pure a : Routine W α).alone? w = some (a, w) := rfl

@[simp] theorem alone?_bind (r : Routine W α) (f : α → Routine W β) (w : W) :
    (r >>= f).alone? w = (r.alone? w).bind fun out => (f out.1).alone? out.2 := by
  induction r generalizing w with
  | done a => rfl
  | step ready change next ih =>
    show (step ready change fun w => next w >>= f).alone? w = _
    simp only [alone?]
    by_cases h : ready w = true
    · rw [if_pos h, if_pos h, ih]
    · rw [if_neg h, if_neg h]
      rfl

@[simp] theorem alone?_atomically (f : W → α × W) (w : W) : (atomically f).alone? w = some (f w) :=
  rfl

@[simp] theorem alone?_act (change : W → W) (w : W) :
    (act change).alone? w = some ((), change w) := rfl

@[simp] theorem alone?_read (get : W → α) (w : W) : (read get).alone? w = some (get w, w) := rfl

@[simp] theorem alone?_await (ready : W → Bool) (change : W → W) (w : W) :
    (await ready change).alone? w = if ready w then some ((), change w) else none := rfl

/-! ### What every step keeps -/

/-- In states of the kind `I`, every step is one of `R`, and the value at the end is one of `Q`. -/
def Keeps (I : W → Prop) (R : W → W → Prop) (Q : α → Prop) : Routine W α → Prop
  | done a => Q a
  | step ready change next =>
    ∀ w, I w → ready w = true → R w (change w) ∧ (next w).Keeps I R Q

section Keeps

variable {I : W → Prop} {R : W → W → Prop} {Q : α → Prop} {Q' : β → Prop}

theorem Keeps.bind {r : Routine W α} (keeps : r.Keeps I R Q) {f : α → Routine W β}
    (further : ∀ a, Q a → (f a).Keeps I R Q') : (r >>= f).Keeps I R Q' := by
  induction r with
  | done a => exact further a keeps
  | step ready change next ih =>
    intro w calm isReady
    obtain ⟨first, rest⟩ := keeps w calm isReady
    exact ⟨first, ih w rest⟩

theorem Keeps.mono {r : Routine W α} (keeps : r.Keeps I R Q) {J : W → Prop}
    {S : W → W → Prop} {T : α → Prop} (states : ∀ w, J w → I w)
    (steps : ∀ w w', J w → R w w' → S w w') (values : ∀ a, Q a → T a) : r.Keeps J S T := by
  induction r with
  | done a => exact values a keeps
  | step ready change next ih =>
    intro w calm isReady
    obtain ⟨first, rest⟩ := keeps w (states w calm) isReady
    exact ⟨steps w _ calm first, ih w rest⟩

theorem keeps_atomically {f : W → α × W} (step : ∀ w, I w → R w (f w).2 ∧ Q (f w).1) :
    (atomically f).Keeps I R Q :=
  fun w calm _ => step w calm

theorem keeps_act {change : W → W} (step : ∀ w, I w → R w (change w)) :
    (act change).Keeps I R fun _ => True :=
  fun w calm _ => ⟨step w calm, trivial⟩

end Keeps

/-! ### What a routine has yet to do -/

/-- The routine reaches the goal before it returns with one of `Q`. -/
def Attains (goal : W → Prop) (Q : α → Prop) : Routine W α → Prop
  | done a => ¬Q a
  | step ready change next => ∀ w, ready w = true → goal (change w) ∨ (next w).Attains goal Q

/-- The routine reaches the goal before it returns. -/
abbrev Owes (goal : W → Prop) (r : Routine W α) : Prop := r.Attains goal fun _ => True

/-- Whenever a step gives the cue, the goal is reached, or the routine has yet to reach it. -/
def Prompts (cue goal : W → Prop) : Routine W α → Prop
  | done _ => True
  | step ready change next => ∀ w, ready w = true →
    (cue (change w) → cue w ∨ goal (change w) ∨ (next w).Owes goal) ∧ (next w).Prompts cue goal

section Goals

variable {goal cue : W → Prop} {Q : α → Prop} {Q' : β → Prop}

/-- Nothing is to be reached by a routine that returns with none of `Q` anyway. -/
theorem attains_of_none (none : ∀ a, ¬Q a) (r : Routine W α) : r.Attains goal Q := by
  induction r with
  | done a => exact none a
  | step ready change next ih => exact fun w _ => Or.inr (ih w)

theorem Attains.bind {r : Routine W α} (attains : r.Attains goal Q) {f : α → Routine W β}
    (further : ∀ a, ¬Q a → (f a).Attains goal Q') : (r >>= f).Attains goal Q' := by
  induction r with
  | done a => exact further a attains
  | step ready change next ih => exact fun w isReady => (attains w isReady).imp_right (ih w)

theorem Owes.bind {r : Routine W α} (owes : r.Owes goal) (f : α → Routine W β) :
    (r >>= f).Attains goal Q' :=
  Attains.bind owes fun _ none => absurd trivial none

theorem Attains.behind (r : Routine W α) {f : α → Routine W β}
    (attains : ∀ a, (f a).Attains goal Q') : (r >>= f).Attains goal Q' :=
  (attains_of_none (fun _ : α => id) r).bind fun a _ => attains a

theorem owes_act {change : W → W} (reached : ∀ w, goal (change w)) : (act change).Owes goal :=
  fun w _ => Or.inl (reached w)

theorem Prompts.bind {r : Routine W α} (prompts : r.Prompts cue goal) {f : α → Routine W β}
    (further : ∀ a, (f a).Prompts cue goal) : (r >>= f).Prompts cue goal := by
  induction r with
  | done a => exact further a
  | step ready change next ih =>
    intro w isReady
    obtain ⟨first, rest⟩ := prompts w isReady
    exact ⟨fun given => (first given).imp_right (Or.imp_right fun owes => owes.bind f), ih w rest⟩

/-- A routine that reaches the goal at its end may give the cue before. -/
theorem Prompts.of_owes (r : Routine W α) {f : α → Routine W β} (owes : ∀ a, (f a).Owes goal)
    (further : ∀ a, (f a).Prompts cue goal) : (r >>= f).Prompts cue goal := by
  induction r with
  | done a => exact further a
  | step ready change next ih =>
    exact fun w _ => ⟨fun _ => Or.inr (Or.inr (Attains.behind (next w) owes)), ih w⟩

/-- A routine of which no step gives the cue. -/
theorem Keeps.prompts {r : Routine W α}
    (keeps : r.Keeps (fun _ => True) (fun w w' => cue w' → cue w ∨ goal w') Q) :
    r.Prompts cue goal := by
  induction r with
  | done a => exact trivial
  | step ready change next ih =>
    intro w isReady
    obtain ⟨first, rest⟩ := keeps w trivial isReady
    exact ⟨fun given => (first given).imp_right Or.inl, ih w rest⟩

theorem Prompts.andThen {r s : Routine W (List ρ)} (first : r.Prompts cue goal)
    (second : s.Prompts cue goal) : (r.andThen s).Prompts cue goal :=
  first.bind fun _ => second.bind fun _ => trivial

end Goals

/-! ### What a routine goes by -/

/-- From a state on, as long as others do nothing but `rely`, every step is one of `R`. -/
def Heeds (rely R : W → W → Prop) : Routine W α → W → Prop
  | done _, _ => True
  | step ready change next, w =>
    ∀ w', rely w w' → ready w' = true → R w' (change w') ∧ (next w').Heeds rely R (change w')

section Heeds

variable {rely R : W → W → Prop}

theorem Heeds.bind {r : Routine W α} {w : W} (heeds : r.Heeds rely R w) {f : α → Routine W β}
    (further : ∀ a w, (f a).Heeds rely R w) : (r >>= f).Heeds rely R w := by
  induction r generalizing w with
  | done a => exact further a w
  | step ready change next ih =>
    intro w' others isReady
    obtain ⟨first, rest⟩ := heeds w' others isReady
    exact ⟨first, ih w' rest⟩

theorem Heeds.later {r : Routine W α} {w w' : W} (heeds : r.Heeds rely R w)
    (trans : ∀ u v w, rely u v → rely v w → rely u w) (others : rely w w') :
    r.Heeds rely R w' := by
  cases r with
  | done a => exact trivial
  | step ready change next => exact fun u further => heeds u (trans w w' u others further)

end Heeds

/-! ### What holds of a routine as soon as it holds of its parts -/

/-- A property of routines that holds of one as soon as it holds of its parts, and holds of every
single step of a kind. -/
structure Covers (kind : W → W → Prop) (holds : (α : Type) → Routine W α → Prop) : Prop where
  value : ∀ {α : Type} (a : α), holds α (pure a)
  bind : ∀ {α β : Type} {r : Routine W α} {f : α → Routine W β}, holds α r →
    (∀ a, holds β (f a)) → holds β (r >>= f)
  single : ∀ {α : Type} (ready : W → Bool) (change : W → W) (value : W → α),
    (∀ w, kind w (change w)) → holds α (step ready change fun w => done (value w))

section Covers

variable {kind R : W → W → Prop} {cue goal : W → Prop} {holds : (α : Type) → Routine W α → Prop}

theorem Covers.mono (covers : Covers kind holds) {kind' : W → W → Prop}
    (fewer : ∀ w w', kind' w w' → kind w w') : Covers kind' holds :=
  ⟨covers.value, covers.bind, fun ready change value step =>
    covers.single ready change value fun w => fewer w _ (step w)⟩

theorem Covers.atomically {α : Type} (covers : Covers kind holds) {f : W → α × W}
    (step : ∀ w, kind w (f w).2) : holds α (Routine.atomically f) :=
  covers.single _ _ (fun w => (f w).1) step

theorem Covers.act (covers : Covers kind holds) {change : W → W} (step : ∀ w, kind w (change w)) :
    holds Unit (Routine.act change) :=
  covers.single _ change (fun _ => ()) step

theorem Covers.andThen {r s : Routine W (List ρ)} (covers : Covers kind holds)
    (first : holds _ r) (second : holds _ s) : holds _ (r.andThen s) :=
  covers.bind first fun _ => covers.bind second fun _ => covers.value _

theorem covers_keeps (steps : ∀ w w', kind w w' → R w w') :
    Covers kind fun _ r => r.Keeps (fun _ => True) R fun _ => True where
  value _ := trivial
  bind first further := first.bind fun a _ => further a
  single _ _ _ step := fun w _ _ => ⟨steps w _ (step w), trivial⟩

theorem covers_prompts (steps : ∀ w w', kind w w' → cue w' → cue w ∨ goal w') :
    Covers kind fun _ r => r.Prompts cue goal where
  value _ := trivial
  bind first further := first.bind further
  single _ _ _ step := fun w _ =>
    ⟨fun given => (steps w _ (step w) given).imp_right Or.inl, trivial⟩

theorem covers_heeds {rely : W → W → Prop} (steps : ∀ w w', kind w w' → R w w') :
    Covers kind fun _ r => ∀ w, r.Heeds rely R w where
  value _ _ := trivial
  bind first further w := (first w).bind further
  single _ _ _ step := fun _ w' _ _ => ⟨steps w' _ (step w'), trivial⟩

end Covers

end Routine

/-! ### A lock -/

/-- A lock, and how those inside and those outside of it treat the state. -/
structure Discipline (W : Type) where
  /-- Somebody is inside. -/
  held : W → Bool
  /-- What may happen to the state by those outside. -/
  outer : W → W → Prop
  /-- What holds at every moment. -/
  fair : W → Prop
  /-- What holds as long as nobody is inside. -/
  rests : W → Prop
  /-- In such states those outside do nothing but `still`. -/
  calm : W → Prop
  still : W → W → Prop
  outer_refl : ∀ w, outer w w
  outer_trans : ∀ u v w, outer u v → outer v w → outer u w
  fair_rests : ∀ w, rests w → fair w
  fair_outer : ∀ w w', fair w → outer w w' → fair w'
  rests_outer : ∀ w w', rests w → outer w w' → rests w'

namespace Routine

variable {W α β ρ : Type} {D : Discipline W}

/-- The routine keeps the discipline, from outside the lock (`none`), or from inside, where it has
left the state as it was at some moment (`some w`), and others may have done something since. -/
def Stands (D : Discipline W) : Routine W α → Option W → Prop
  | done _, none => True
  | done _, some _ => False
  | step ready change next, none =>
    (step ready change next).Keeps D.calm D.still (fun _ => True) ∧
    ∀ w, ready w = true → D.outer w (change w) ∧
      ((D.held (change w) = D.held w ∧ (next w).Stands D none) ∨
        (D.held w = false ∧ D.held (change w) = true ∧
          (D.rests w → (next w).Stands D (some (change w)))))
  | step ready change next, some w =>
    ∀ w', D.outer w w' → D.held w' = true → ready w' = true → D.fair (change w') ∧
      ((D.held (change w') = true ∧ (next w').Stands D (some (change w'))) ∨
        (D.held (change w') = false ∧ D.rests (change w') ∧ (next w').Stands D none))

/-- The routine stays inside the lock, from a state on, and comes to one of `Q` at its end. -/
def During (D : Discipline W) (Q : α → W → Prop) : Routine W α → W → Prop
  | done a, w => Q a w
  | step ready change next, w =>
    ∀ w', D.outer w w' → D.held w' = true → ready w' = true →
      D.fair (change w') ∧ D.held (change w') = true ∧ (next w').During D Q (change w')

theorem Stands.keeps {r : Routine W α} (stands : r.Stands D none) :
    r.Keeps D.calm D.still fun _ => True := by
  cases r with
  | done a => exact trivial
  | step ready change next => exact stands.1

/-- What others do in the meantime does not matter to the one inside. -/
theorem Stands.outer {r : Routine W α} {w w' : W} (stands : r.Stands D (some w))
    (others : D.outer w w') : r.Stands D (some w') := by
  cases r with
  | done a => exact stands
  | step ready change next =>
    exact fun u further => stands u (D.outer_trans w w' u others further)

theorem Stands.bind {r : Routine W α} {place : Option W} (stands : r.Stands D place)
    {f : α → Routine W β} (further : ∀ a, (f a).Stands D none) : (r >>= f).Stands D place := by
  induction r generalizing place with
  | done a =>
    cases place with
    | none => exact further a
    | some w => exact absurd stands id
  | step ready change next ih =>
    cases place with
    | none =>
      refine ⟨stands.1.bind fun a _ => (further a).keeps, fun w isReady => ?_⟩
      obtain ⟨outer, rest⟩ := stands.2 w isReady
      exact ⟨outer, rest.imp (And.imp_right (ih w))
        (And.imp_right (And.imp_right fun inside rests => ih w (inside rests)))⟩
    | some w =>
      intro w' others held isReady
      obtain ⟨fair, rest⟩ := stands w' others held isReady
      exact ⟨fair, rest.imp (And.imp_right (ih w')) (And.imp_right (And.imp_right (ih w')))⟩

theorem During.bind {r : Routine W α} {w : W} {Q : β → W → Prop} {f : α → Routine W β}
    (during : r.During D (fun a w' => (f a).During D Q w') w) : (r >>= f).During D Q w := by
  induction r generalizing w with
  | done a => exact during
  | step ready change next ih =>
    intro w' others held isReady
    obtain ⟨fair, still, rest⟩ := during w' others held isReady
    exact ⟨fair, still, ih w' rest⟩

theorem During.mono {r : Routine W α} {w : W} {Q Q' : α → W → Prop} (during : r.During D Q w)
    (weaker : ∀ a w', Q a w' → Q' a w') : r.During D Q' w := by
  induction r generalizing w with
  | done a => exact weaker a w during
  | step ready change next ih =>
    intro w' others held isReady
    obtain ⟨fair, still, rest⟩ := during w' others held isReady
    exact ⟨fair, still, ih w' rest⟩

theorem During.stands {r : Routine W α} {w : W} {Q : α → W → Prop} (during : r.During D Q w)
    {f : α → Routine W β} (further : ∀ a w', Q a w' → (f a).Stands D (some w')) :
    (r >>= f).Stands D (some w) := by
  induction r generalizing w with
  | done a => exact further a w during
  | step ready change next ih =>
    intro w' others held isReady
    obtain ⟨fair, still, rest⟩ := during w' others held isReady
    exact ⟨fair, Or.inl ⟨still, ih w' rest⟩⟩

section Covers

variable {kind : W → W → Prop}

theorem covers_stands (steps : ∀ w w', kind w w' →
      D.outer w w' ∧ D.held w' = D.held w ∧ (D.calm w → D.still w w')) :
    Covers kind fun _ r => r.Stands D none where
  value _ := trivial
  bind first further := first.bind further
  single _ _ _ step := by
    refine ⟨fun w calm _ => ⟨(steps w _ (step w)).2.2 calm, trivial⟩, fun w _ => ?_⟩
    exact ⟨(steps w _ (step w)).1, Or.inl ⟨(steps w _ (step w)).2.1, trivial⟩⟩

/-- Inside the lock, what those outside may do as well changes nothing about being at rest. -/
theorem covers_during (steps : ∀ w w', kind w w' → D.outer w w' ∧ D.held w' = D.held w) :
    Covers kind fun _ r => ∀ w, D.rests w → r.During D (fun _ => D.rests) w where
  value _ _ := id
  bind first further w rests := During.bind ((first w rests).mono fun a w' => further a w')
  single _ _ _ step w rests w' others held _ := by
    obtain ⟨outer, same⟩ := steps w' _ (step w')
    have rests := D.rests_outer _ _ (D.rests_outer _ _ rests others) outer
    exact ⟨D.fair_rests _ rests, same.trans held, rests⟩

end Covers

end Routine

/-! ### Crowds -/

namespace Crowd

open Routine

variable {Op W α : Type} {routine : Op → Routine W α} {c : Crowd Op W α}

/-- Every operation that was begun has returned. -/
def Settled (c : Crowd Op W α) : Prop := ∀ entry ∈ c.routines, ∃ value, entry.2 = .done value

theorem after_append (first second : List (Turn Op)) :
    c.after routine (first ++ second) = (c.after routine first).after routine second :=
  List.foldl_append

/-- All that a turn can do. -/
theorem turn_cases (routine : Op → Routine W α) (c : Crowd Op W α) (t : Turn Op) :
    c.turn routine t = c ∨
    (∃ op, c.turn routine t = { c with routines := c.routines ++ [(op, routine op)] }) ∨
    ∃ i op ready change next, c.routines[i]? = some (op, .step ready change next) ∧
      ready c.state = true ∧
      c.turn routine t =
        { state := change c.state, routines := c.routines.set i (op, next c.state) } := by
  cases t with
  | begin op => exact Or.inr (Or.inl ⟨op, rfl⟩)
  | go i =>
    simp only [turn]
    cases found : c.routines[i]? with
    | none => exact Or.inl rfl
    | some entry =>
      obtain ⟨op, r⟩ := entry
      cases r with
      | done a => exact Or.inl rfl
      | step ready change next =>
        by_cases isReady : ready c.state = true
        · refine Or.inr (Or.inr ⟨i, op, ready, change, next, found, isReady, ?_⟩)
          simp only [next?, if_pos isReady]
        · refine Or.inl ?_
          simp only [next?, if_neg isReady]

/-- All routines of a crowd keep to `R` in states of the kind `I`, and the crowd is in one. What
they may come back with can depend on when they were begun. -/
structure Keep (I : W → Prop) (R : W → W → Prop) (Q : Nat → Op → α → Prop)
    (c : Crowd Op W α) : Prop where
  state : I c.state
  routines : ∀ i op (r : Routine W α), c.routines[i]? = some (op, r) → r.Keeps I R (Q i op)

/-- Whatever holds of the entries of a crowd and of a new one holds with the new one. -/
theorem forall_getElem?_begin {c : Crowd Op W α} {P : Nat → Op → Routine W α → Prop}
    (all : ∀ i op r, c.routines[i]? = some (op, r) → P i op r) {op : Op} {r : Routine W α}
    (new : P c.routines.length op r) :
    ∀ i op' r', (c.routines ++ [(op, r)])[i]? = some (op', r') → P i op' r' := by
  intro i op' r' found
  rcases Nat.lt_or_ge i c.routines.length with old | behind
  · rw [List.getElem?_append_left old] at found
    exact all i op' r' found
  · rw [List.getElem?_append_right behind, List.getElem?_singleton] at found
    obtain ⟨zero, same⟩ := Option.ite_none_right_eq_some.mp found
    cases same
    obtain rfl : i = c.routines.length := by omega
    exact new

section Keep

variable {I : W → Prop} {R : W → W → Prop} {Q : Nat → Op → α → Prop}
  (begins : ∀ i op, (routine op).Keeps I R (Q i op)) (stays : ∀ w w', I w → R w w' → I w')

include begins stays

theorem Keep.turn (keep : c.Keep I R Q) (t : Turn Op) :
    (c.turn routine t).Keep I R Q ∧
      ((c.turn routine t).state = c.state ∨ R c.state (c.turn routine t).state) := by
  rcases turn_cases routine c t with
    same | ⟨op, same⟩ | ⟨i, op, ready, change, next, found, isReady, same⟩ <;> rw [same]
  · exact ⟨keep, Or.inl rfl⟩
  · exact ⟨⟨keep.state, forall_getElem?_begin keep.routines (begins _ op)⟩, Or.inl rfl⟩
  · obtain ⟨first, rest⟩ := keep.routines i op _ found c.state keep.state isReady
    refine ⟨⟨stays _ _ keep.state first, fun j op' r' found' => ?_⟩, Or.inr first⟩
    by_cases other : i = j
    · subst other
      rw [List.getElem?_set_self (List.getElem?_eq_some_iff.mp found).1] at found'
      cases found'
      exact rest
    · rw [List.getElem?_set_ne other] at found'
      exact keep.routines j op' r' found'

/-- What every step keeps, a crowd keeps however its routines overlap. -/
theorem Keep.after (keep : c.Keep I R Q) (refl : ∀ w, I w → R w w)
    (trans : ∀ u v w, R u v → R v w → R u w) (turns : List (Turn Op)) :
    (c.after routine turns).Keep I R Q ∧ R c.state (c.after routine turns).state := by
  induction turns generalizing c with
  | nil => exact ⟨keep, refl c.state keep.state⟩
  | cons t rest ih =>
    obtain ⟨next, moved⟩ := keep.turn begins stays t
    obtain ⟨last, later⟩ := ih next
    refine ⟨last, trans _ _ _ ?_ later⟩
    rcases moved with same | moved
    · rw [same]
      exact refl c.state keep.state
    · exact moved

end Keep

/-! ### What everybody goes by -/

/-- The operations that were begun. -/
def ops (c : Crowd Op W α) : List Op := c.routines.map Prod.fst

/-- What the routines of the crowd rely on, and what they do, each by its operation. -/
def Heeding (rely : W → W → Prop) (R : Op → W → W → Prop) (c : Crowd Op W α) : Prop :=
  ∀ entry ∈ c.routines, entry.2.Heeds rely (R entry.1) c.state

section Heeding

variable {rely : W → W → Prop} {R : Op → W → W → Prop} {I : List Op → W → Prop}
  (begins : ∀ ops op w, I ops w → (routine op).Heeds rely (R op) w) (refl : ∀ w, rely w w)
  (trans : ∀ u v w, rely u v → rely v w → rely u w) (within : ∀ op w w', R op w w' → rely w w')
  (more : ∀ ops op w, I ops w → I (ops ++ [op]) w)
  (stays : ∀ ops op w w', op ∈ ops → R op w w' → I ops w → I ops w')

include begins refl trans within more stays

theorem Heeding.turn (heeding : c.Heeding rely R) (now : I c.ops c.state) (t : Turn Op) :
    (c.turn routine t).Heeding rely R ∧ I (c.turn routine t).ops (c.turn routine t).state := by
  rcases turn_cases routine c t with
    same | ⟨op, same⟩ | ⟨i, op, ready, change, next, found, isReady, same⟩ <;> rw [same]
  · exact ⟨heeding, now⟩
  · have new := begins c.ops op c.state now
    refine ⟨List.forall_mem_append.mpr ⟨heeding, List.forall_mem_singleton.mpr new⟩, ?_⟩
    show I ((c.routines ++ [(op, routine op)]).map Prod.fst) c.state
    rw [List.map_append]
    exact more c.ops op c.state now
  · have mem := List.mem_of_getElem? found
    obtain ⟨first, rest⟩ := heeding _ mem c.state (refl c.state) isReady
    refine ⟨fun entry mem' => ?_, ?_⟩
    · rcases List.mem_or_eq_of_mem_set mem' with old | rfl
      · exact (heeding entry old).later trans (within op _ _ first)
      · exact rest
    · have same : (c.routines.set i (op, next c.state)).map Prod.fst = c.ops := by
        refine List.ext_getElem? fun j => ?_
        unfold ops
        rw [List.getElem?_map, List.getElem?_map]
        by_cases here : i = j
        · subst here
          rw [List.getElem?_set_self (List.getElem?_eq_some_iff.mp found).1, found]
          rfl
        · rw [List.getElem?_set_ne here]
      show I ((c.routines.set i (op, next c.state)).map Prod.fst) (change c.state)
      rw [same]
      exact stays c.ops op _ _ (List.mem_map.mpr ⟨_, mem, rfl⟩) first now

theorem Heeding.after (heeding : c.Heeding rely R) (now : I c.ops c.state)
    (turns : List (Turn Op)) : (c.after routine turns).Heeding rely R ∧
      I (c.after routine turns).ops (c.after routine turns).state := by
  induction turns generalizing c with
  | nil => exact ⟨heeding, now⟩
  | cons t rest ih =>
    obtain ⟨next, holds⟩ := heeding.turn begins refl trans within more stays now t
    exact ih next holds

end Heeding

/-! ### Goals of a crowd -/

section Goals

variable {cue goal : W → Prop} {ops : Op → α → Prop}

/-- No step of a routine of the crowd undoes the goal. -/
abbrev Spares (goal : W → Prop) (c : Crowd Op W α) : Prop :=
  c.Keep (fun _ => True) (fun w w' => goal w → goal w') fun _ _ _ => True

/-- As long as the goal is not reached, each routine has yet to reach it that comes back with such a
value. -/
structure Bound (ops : Op → α → Prop) (goal : W → Prop) (c : Crowd Op W α) : Prop where
  spares : c.Spares goal
  owes : goal c.state ∨ ∀ entry ∈ c.routines, entry.2.Attains goal (ops entry.1)

/-- Whoever gives the cue in the crowd sees to it that the goal is reached. -/
structure Prompting (cue goal : W → Prop) (c : Crowd Op W α) : Prop where
  spares : c.Spares goal
  prompts : ∀ entry ∈ c.routines, entry.2.Prompts cue goal

/-- Since the cue was given, the goal is reached, or a routine under way has yet to reach it. -/
structure Pending (cue goal : W → Prop) (c : Crowd Op W α) : Prop
    extends c.Prompting cue goal where
  owes : cue c.state → goal c.state ∨ ∃ entry ∈ c.routines, entry.2.Owes goal

variable
  (spares : ∀ op, (routine op).Keeps (fun _ => True) (fun w w' => goal w → goal w') fun _ => True)

include spares

theorem Spares.turn (kept : c.Spares goal) (t : Turn Op) : (c.turn routine t).Spares goal :=
  (Keep.turn (fun _ op => spares op) (fun _ _ _ _ => trivial) kept t).1

theorem Bound.turn (begins : ∀ op, (routine op).Attains goal (ops op)) (bound : c.Bound ops goal)
    (t : Turn Op) : (c.turn routine t).Bound ops goal := by
  refine ⟨Spares.turn spares bound.spares t, ?_⟩
  rcases turn_cases routine c t with
    same | ⟨op, same⟩ | ⟨i, op, ready, change, next, found, isReady, same⟩ <;> rw [same]
  · exact bound.owes
  · refine bound.owes.imp_right fun owes => List.forall_mem_append.mpr ⟨owes, ?_⟩
    exact List.forall_mem_singleton.mpr (begins op)
  · have step := bound.spares.routines i op _ found c.state trivial isReady
    rcases bound.owes with reached | owes
    · exact Or.inl (step.1 reached)
    · by_cases reached : goal (change c.state)
      · exact Or.inl reached
      · refine Or.inr fun entry mem => ?_
        rcases List.mem_or_eq_of_mem_set mem with old | rfl
        · exact owes entry old
        · exact (owes _ (List.mem_of_getElem? found) c.state isReady).resolve_left reached

theorem Bound.after (begins : ∀ op, (routine op).Attains goal (ops op)) (bound : c.Bound ops goal)
    (turns : List (Turn Op)) : (c.after routine turns).Bound ops goal := by
  induction turns generalizing c with
  | nil => exact bound
  | cons t rest ih => exact ih (bound.turn spares begins t)

theorem Prompting.turn (begins : ∀ op, (routine op).Prompts cue goal)
    (prompting : c.Prompting cue goal) (t : Turn Op) :
    (c.turn routine t).Prompting cue goal := by
  refine ⟨Spares.turn spares prompting.spares t, ?_⟩
  rcases turn_cases routine c t with
    same | ⟨op, same⟩ | ⟨i, op, ready, change, next, found, isReady, same⟩ <;> rw [same]
  · exact prompting.prompts
  · exact List.forall_mem_append.mpr ⟨prompting.prompts, List.forall_mem_singleton.mpr (begins op)⟩
  · intro entry mem
    rcases List.mem_or_eq_of_mem_set mem with old | rfl
    · exact prompting.prompts entry old
    · exact (prompting.prompts _ (List.mem_of_getElem? found) c.state isReady).2

theorem Prompting.after (begins : ∀ op, (routine op).Prompts cue goal)
    (prompting : c.Prompting cue goal) (turns : List (Turn Op)) :
    (c.after routine turns).Prompting cue goal := by
  induction turns generalizing c with
  | nil => exact prompting
  | cons t rest ih => exact ih (prompting.turn spares begins t)

theorem Pending.turn (begins : ∀ op, (routine op).Prompts cue goal) (pending : c.Pending cue goal)
    (t : Turn Op) : (c.turn routine t).Pending cue goal := by
  refine ⟨pending.toPrompting.turn spares begins t, ?_⟩
  rcases turn_cases routine c t with
    same | ⟨op, same⟩ | ⟨i, op, ready, change, next, found, isReady, same⟩ <;> rw [same]
  · exact pending.owes
  · refine fun given => (pending.owes given).imp_right fun ⟨entry, mem, owes⟩ => ?_
    exact ⟨entry, List.mem_append_left _ mem, owes⟩
  · have here : (op, next c.state) ∈ c.routines.set i (op, next c.state) :=
      List.mem_set (List.getElem?_eq_some_iff.mp found).1 _
    intro given
    rcases (pending.prompts _ (List.mem_of_getElem? found) c.state isReady).1 given with
      before | reached | owes
    · rcases pending.owes before with reached | ⟨entry, mem, owes⟩
      · exact Or.inl ((pending.spares.routines i op _ found c.state trivial isReady).1 reached)
      · obtain ⟨j, found'⟩ := List.mem_iff_getElem?.mp mem
        by_cases same : i = j
        · subst same
          obtain rfl := Option.some.inj (found.symm.trans found')
          exact (owes c.state isReady).imp_right fun owes => ⟨_, here, owes⟩
        · refine Or.inr ⟨entry, List.mem_iff_getElem?.mpr ⟨j, ?_⟩, owes⟩
          rw [List.getElem?_set_ne same, found']
    · exact Or.inl reached
    · exact Or.inr ⟨_, here, owes⟩

theorem Pending.after (begins : ∀ op, (routine op).Prompts cue goal)
    (pending : c.Pending cue goal) (turns : List (Turn Op)) :
    (c.after routine turns).Pending cue goal := by
  induction turns generalizing c with
  | nil => exact pending
  | cons t rest ih => exact ih (pending.turn spares begins t)

omit spares

/-- A routine that has come back with such a value has reached the goal. -/
theorem Bound.returned (bound : c.Bound ops goal) {op : Op} {value : α}
    (returned : c.Returned op value) (isOne : ops op value) : goal c.state :=
  bound.owes.resolve_right fun owes => owes _ returned isOne

/-- Once everybody has returned, the goal is reached. -/
theorem Pending.settled (pending : c.Pending cue goal) (settled : c.Settled)
    (given : cue c.state) : goal c.state := by
  refine (pending.owes given).resolve_right fun ⟨entry, mem, owes⟩ => ?_
  obtain ⟨value, returned⟩ := settled entry mem
  rw [returned] at owes
  exact owes trivial

end Goals

/-! ### A crowd around a lock -/

variable {D : Discipline W}

/-- The lock is held by the routine with this index, or by nobody, and everybody keeps the
discipline. -/
structure HeldBy (D : Discipline W) (holder : Option Nat) (c : Crowd Op W α) : Prop where
  fair : D.fair c.state
  held : D.held c.state = holder.isSome
  rests : holder = none → D.rests c.state
  lt : ∀ i, holder = some i → i < c.routines.length
  stands : ∀ i op (r : Routine W α), c.routines[i]? = some (op, r) →
    r.Stands D (if holder = some i then some c.state else none)

/-- Everybody keeps the discipline, and at most one of them is inside. -/
def Guarded (D : Discipline W) (c : Crowd Op W α) : Prop := ∃ holder, c.HeldBy D holder

theorem HeldBy.nobody {holder : Option Nat} (heldBy : c.HeldBy D holder)
    (free : D.held c.state = false) : holder = none := by
  cases holder with
  | none => rfl
  | some i => cases heldBy.held.symm.trans free

theorem HeldBy.begin {holder : Option Nat} (heldBy : c.HeldBy D holder) {op : Op}
    {r : Routine W α} (stands : r.Stands D none) :
    HeldBy D holder { c with routines := c.routines ++ [(op, r)] } := by
  refine ⟨heldBy.fair, heldBy.held, heldBy.rests, fun i is => ?_, fun i op' r' found => ?_⟩
  · exact Nat.lt_of_lt_of_le (heldBy.lt i is) (by simp)
  · rcases Nat.lt_or_ge i c.routines.length with old | new
    · rw [List.getElem?_append_left old] at found
      exact heldBy.stands i op' r' found
    · have apart : holder ≠ some i := fun is => absurd (heldBy.lt i is) (Nat.not_lt.mpr new)
      rw [List.getElem?_append_right new, List.getElem?_singleton] at found
      rw [if_neg apart]
      obtain ⟨-, same⟩ := Option.ite_none_right_eq_some.mp found
      cases same
      exact stands

/-- One routine has gone on to `rest`, and the state to `w`: whoever holds the lock now, the others
are not disturbed. -/
theorem HeldBy.go {holder holder' : Option Nat} (heldBy : c.HeldBy D holder) {i : Nat} {op : Op}
    {rest : Routine W α} {w : W} (lt : i < c.routines.length) (fair : D.fair w)
    (held : D.held w = holder'.isSome) (rests : holder' = none → D.rests w)
    (others : ∀ j, j ≠ i → (holder' = some j ↔ holder = some j))
    (outer : holder ≠ some i → D.outer c.state w)
    (stands : rest.Stands D (if holder' = some i then some w else none)) :
    HeldBy D holder' { state := w, routines := c.routines.set i (op, rest) } := by
  refine ⟨fair, held, rests, fun j is => ?_, fun j op' r' found => ?_⟩
  · rw [List.length_set]
    by_cases same : j = i
    · rw [same]
      exact lt
    · exact heldBy.lt j ((others j same).mp is)
  · by_cases same : j = i
    · subst same
      rw [List.getElem?_set_self lt] at found
      cases found
      exact stands
    · rw [List.getElem?_set_ne (Ne.symm same)] at found
      have before := heldBy.stands j op' r' found
      by_cases is : holder = some j
      · have apart : holder ≠ some i := fun other => same (Option.some.inj (is.symm.trans other))
        rw [if_pos is] at before
        rw [if_pos ((others j same).mpr is)]
        exact before.outer (outer apart)
      · rw [if_neg is] at before
        rw [if_neg (mt (others j same).mp is)]
        exact before

theorem Guarded.turn (begins : ∀ op, (routine op).Stands D none) (guarded : c.Guarded D)
    (t : Turn Op) : (c.turn routine t).Guarded D := by
  obtain ⟨holder, heldBy⟩ := guarded
  rcases turn_cases routine c t with
    same | ⟨op, same⟩ | ⟨i, op, ready, change, next, found, isReady, same⟩ <;> rw [same]
  · exact ⟨holder, heldBy⟩
  · exact ⟨holder, heldBy.begin (begins op)⟩
  · have lt : i < c.routines.length := (List.getElem?_eq_some_iff.mp found).1
    have stands := heldBy.stands i op _ found
    by_cases inside : holder = some i
    · rw [if_pos inside] at stands
      have held : D.held c.state = true := by rw [heldBy.held, inside]; rfl
      obtain ⟨fair, rest⟩ := stands c.state (D.outer_refl _) held isReady
      have apart : ∀ j, j ≠ i → holder ≠ some j := fun j other is =>
        other (Option.some.inj (is.symm.trans inside))
      rcases rest with ⟨stays, rest⟩ | ⟨left, rests, rest⟩
      · refine ⟨holder, heldBy.go lt fair ?_ ?_ (fun _ _ => Iff.rfl) (absurd inside) ?_⟩
        · rw [stays, inside]
          rfl
        · rw [inside]
          exact nofun
        · rw [if_pos inside]
          exact rest
      · exact ⟨none, heldBy.go lt fair left (fun _ => rests)
          (fun j other => iff_of_false nofun (apart j other)) (absurd inside) rest⟩
    · rw [if_neg inside] at stands
      obtain ⟨outer, rest⟩ := stands.2 c.state isReady
      have fair := D.fair_outer _ _ heldBy.fair outer
      rcases rest with ⟨stays, rest⟩ | ⟨free, taken, rest⟩
      · refine ⟨holder, heldBy.go lt fair (stays.trans heldBy.held) ?_ (fun _ _ => Iff.rfl)
          (fun _ => outer) ?_⟩
        · exact fun nobody => D.rests_outer _ _ (heldBy.rests nobody) outer
        · rw [if_neg inside]
          exact rest
      · have nobody := heldBy.nobody free
        refine ⟨some i, heldBy.go lt fair taken nofun (fun j other => ?_) (fun _ => outer) ?_⟩
        · rw [nobody]
          exact iff_of_false (fun is => other (Option.some.inj is).symm) nofun
        · rw [if_pos rfl]
          exact rest (heldBy.rests nobody)

/-- However routines overlap that keep the discipline, at most one of them is inside. -/
theorem Guarded.after (begins : ∀ op, (routine op).Stands D none) (guarded : c.Guarded D)
    (turns : List (Turn Op)) : (c.after routine turns).Guarded D := by
  induction turns generalizing c with
  | nil => exact guarded
  | cons t rest ih => exact ih (guarded.turn begins t)

theorem Guarded.fair (guarded : c.Guarded D) : D.fair c.state :=
  guarded.elim fun _ heldBy => heldBy.fair

/-- While nobody is inside, all are outside. -/
theorem Guarded.stands (guarded : c.Guarded D) (free : D.held c.state = false) :
    ∀ entry ∈ c.routines, entry.2.Stands D none := by
  obtain ⟨holder, heldBy⟩ := guarded
  rintro ⟨op, r⟩ mem
  obtain ⟨i, found⟩ := List.mem_iff_getElem?.mp mem
  have nobody := heldBy.nobody free
  have stands := heldBy.stands i op r found
  rwa [nobody, if_neg nofun] at stands

end Crowd

end RemoteCall
