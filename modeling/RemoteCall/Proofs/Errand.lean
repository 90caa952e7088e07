import RemoteCall.Errand
import RemoteCall.Proofs.Acceptance

/-!
# Errands of a name

An errand is found by its name (`Errand.under`), and so are the answers it leaves
(`Errand.answers`). What is done to the errands of one name leaves those of another alone.

Whoever keeps errands lets them stay, polls them or moves one of them (`Errand.Progress`). So an
errand that waits for acceptances (`Errand.Pends`) is kept as a wait until it has told what came
of them (`Errand.waits`).
-/

namespace RemoteCall

theorem eq_of_singleton {J : Type} {before behind : List J} {x y : J}
    (was : [x] = before ++ y :: behind) : before = [] ∧ y = x ∧ behind = [] := by
  cases before with
  | nil =>
    obtain ⟨head, tail⟩ := List.cons.inj was
    exact ⟨rfl, head.symm, tail.symm⟩
  | cons first rest =>
    have lengths := congrArg List.length was
    simp at lengths

namespace Errand

variable {J : Type}

/-- Where no errand can move, none that was polled has a job that can. -/
theorem stuck_of_next? {α : Type} {f : J → Option α} {errands : List (Errand J)}
    (stuck : next? f errands = none) {errand : Errand J} (member : errand ∈ errands)
    (begun : errand.begun = true) : f errand.job = none := by
  have here := pickFirst?_eq_none_iff.mp stuck errand member
  rwa [if_pos begun] at here

/-- The errands of a name. -/
def under (errands : List (Errand J)) (id : String) : List (Errand J) :=
  errands.filter (·.isNamed id)

@[simp] theorem under_append (first second : List (Errand J)) (id : String) :
    under (first ++ second) id = under first id ++ under second id :=
  List.filter_append ..

theorem under_cons (errand : Errand J) (rest : List (Errand J)) (id : String) :
    under (errand :: rest) id = if errand.isNamed id then errand :: under rest id
      else under rest id :=
  List.filter_cons

theorem under_poll_self (errands : List (Errand J)) (id : String) :
    under (poll errands id) id = (under errands id).map fun errand =>
      { errand with begun := true } := by
  induction errands with
  | nil => rfl
  | cons errand rest ih =>
    simp only [poll, List.map_cons, under_cons] at ih ⊢
    by_cases named : errand.isNamed id = true
    · have still : ({ errand with begun := true } : Errand J).isNamed id = true := named
      rw [if_pos named, if_pos named, if_pos still, ih, List.map_cons]
    · rw [if_neg named, if_neg named, if_neg named, ih]

theorem isNamed_of_ne {errand : Errand J} {id other : String} (ne : other ≠ id)
    (named : errand.isNamed id = true) : errand.isNamed other = false := by
  unfold isNamed at named ⊢
  rw [beq_iff_eq.mp named]
  exact beq_false_of_ne fun same => ne (Option.some.inj same).symm

theorem under_poll_of_ne {id other : String} (ne : other ≠ id) (errands : List (Errand J)) :
    under (poll errands other) id = under errands id := by
  induction errands with
  | nil => rfl
  | cons errand rest ih =>
    simp only [poll, List.map_cons, under_cons] at ih ⊢
    by_cases named : errand.isNamed id = true
    · have others := isNamed_of_ne ne named
      rw [others, if_neg Bool.false_ne_true, if_pos named, if_pos named, ih]
    · have still : (if errand.isNamed other then { errand with begun := true } else errand).isNamed
          id = false := by
        split <;> exact Bool.eq_false_iff.mpr named
      rw [still, if_neg Bool.false_ne_true, if_neg named, ih]

@[simp] theorem under_erase_self (errands : List (Errand J)) (id : String) :
    under (erase errands id) id = [] := by
  unfold under erase
  rw [List.filter_filter, List.filter_eq_nil_iff]
  intro errand _
  cases errand.isNamed id <;> decide

theorem under_erase_of_ne {id other : String} (ne : other ≠ id) (errands : List (Errand J)) :
    under (erase errands other) id = under errands id := by
  unfold under erase
  rw [List.filter_filter]
  refine List.filter_congr fun errand _ => ?_
  by_cases named : errand.isNamed id = true
  · rw [named, isNamed_of_ne ne named]
    rfl
  · rw [Bool.eq_false_iff.mpr named, Bool.false_and]

theorem erase_append (first second : List (Errand J)) (id : String) :
    erase (first ++ second) id = erase first id ++ erase second id :=
  List.filter_append ..

theorem erase_cons (errand : Errand J) (rest : List (Errand J)) (id : String) :
    erase (errand :: rest) id = if errand.isNamed id then erase rest id
      else errand :: erase rest id := by
  unfold erase
  rw [List.filter_cons]
  cases errand.isNamed id <;> rfl

/-- Where nobody has a name, nobody is taken away. -/
theorem erase_of_vacant {errands : List (Errand J)} {id : String}
    (vacant : under errands id = []) : erase errands id = errands := by
  refine List.filter_eq_self.mpr fun errand member => ?_
  rw [Bool.eq_false_iff.mpr (List.filter_eq_nil_iff.mp vacant errand member)]
  rfl

theorem erase_erase_comm (errands : List (Errand J)) (id other : String) :
    erase (erase errands id) other = erase (erase errands other) id := by
  unfold erase
  rw [List.filter_filter, List.filter_filter]
  exact List.filter_congr fun errand _ => Bool.and_comm ..

theorem erase_poll (errands : List (Errand J)) (id other : String) :
    erase (poll errands other) id = poll (erase errands id) other := by
  unfold erase poll
  rw [List.filter_map]
  refine congrArg _ (List.filter_congr fun errand _ => ?_)
  simp only [Function.comp]
  split <;> rfl

/-! ### Answers -/

variable {V : Type}

/-- The answers of the errands of a name. -/
def answers (finished : Named V) (id : String) : List V :=
  finished.filterMap fun entry => if entry.1 = id then some entry.2 else none

/-- An answer is found under the name of its errand, and under no other. -/
theorem answers_concat (id : String) (finished : Named V) (errand : Errand J) (answer : V) :
    answers (finished ++ (errand.id.map fun name => (name, answer)).toList) id =
      answers finished id ++ if errand.isNamed id then [answer] else [] := by
  obtain ⟨name, begun, job⟩ := errand
  cases name with
  | none => simp [answers, isNamed]
  | some name => by_cases same : name = id <;> simp [answers, isNamed, same]

/-! ### Waiting -/

/-- The one errand of this name has this job. -/
def Pends (errands : List (Errand J)) (id : String) (job : J) (begun : Bool) : Prop :=
  under errands id = [⟨some id, begun, job⟩]

/-- The errand of this name is done. Its answer comes behind those that the name `had`. -/
structure Completed (errands : List (Errand J)) (had finished : Named V) (id : String)
    (answer : V) : Prop where
  gone : under errands id = []
  answers : answers finished id = answers had id ++ [answer]

/-- What a step makes of the errands of a name: one of them may have been polled, or moved. -/
inductive Progress (id : String) (polls : Bool) (move? : Option (J → Option (Turn J V)))
    (errands : List (Errand J)) (finished : Named V) (errands' : List (Errand J))
    (finished' : Named V) : Prop where
  | stays (unpolled : polls = false) (here : under errands' id = under errands id)
      (kept : answers finished' id = answers finished id)
  | polled (polled : polls = true)
      (here : under errands' id =
        (under errands id).map fun errand => { errand with begun := true })
      (kept : answers finished' id = answers finished id)
  | goesOn {move : J → Option (Turn J V)} {before behind : List (Errand J)} {errand : Errand J}
      {job : J} (moves : move ∈ move?) (was : under errands id = before ++ errand :: behind)
      (moved : move errand.job = some (.goesOn job))
  | done {move : J → Option (Turn J V)} {before behind : List (Errand J)} {errand : Errand J}
      {answer : V} (moves : move ∈ move?) (was : under errands id = before ++ errand :: behind)
      (moved : move errand.job = some (.done answer)) (here : under errands' id = before ++ behind)
      (added : answers finished' id = answers finished id ++ [answer])

section Pends

variable {id : String} {job : J} {begun : Bool} {errands : List (Errand J)}

/-- An errand that pends is the only one of its name. -/
theorem Pends.only (pends : Pends errands id job begun) {before behind : List (Errand J)}
    {errand : Errand J} (here : under errands id = before ++ errand :: behind) :
    before = [] ∧ behind = [] ∧ errand.job = job := by
  obtain ⟨front, rfl, back⟩ := eq_of_singleton (pends.symm.trans here)
  exact ⟨front, back, rfl⟩

/-- Where no errand can move, one that pends and was polled cannot. -/
theorem Pends.stuck {α : Type} {f : J → Option α} (pends : Pends errands id job true)
    (quiet : next? f errands = none) : f job = none := by
  have member : ⟨some id, true, job⟩ ∈ under errands id := by
    rw [pends]
    exact List.mem_cons_self
  exact stuck_of_next? quiet (List.mem_filter.mp member).1 rfl

variable {S M : Type} {perform : S → M → S} {errandsOf : S → List (Errand J)}
  {finishedOf : S → Named V} {disturbs polls : M → Bool} {signals? : M → Option (Nat → Signal)}
  {accept : J} {told : Result Unit → V} {receipts : List Receipt}

/-- An errand that waits for acceptances is kept as a wait until it has told their result, and then
tells nothing more. -/
theorem waits (move? : S → M → Option (J → Option (Turn J V)))
    (progress : ∀ s move, disturbs move = false → Progress id (polls move) (move? s move)
      (errandsOf s) (finishedOf s) (errandsOf (perform s move)) (finishedOf (perform s move)))
    (accepts : ∀ s move, ∀ f ∈ move? s move, ∃ signals ∈ signals? move,
      f accept = (Receipt.awaitAll signals receipts).map fun result => .done (told result))
    (had : Named V) :
    Receipt.Waits receipts perform disturbs polls signals?
      (fun begun s => Pends (errandsOf s) id accept begun ∧
        answers (finishedOf s) id = answers had id)
      (fun result s => Completed (errandsOf s) had (finishedOf s) id (told result)) where
  goesOn := by
    rintro begun s ⟨pends, unanswered⟩ move undisturbed
    cases progress s move undisturbed with
    | stays unpolled here kept =>
      rw [unpolled, Bool.or_false]
      exact .inl ⟨here.trans pends, kept.trans unanswered⟩
    | polled polled here kept =>
      rw [polled, Bool.or_true]
      refine .inl ⟨?_, kept.trans unanswered⟩
      unfold Pends at pends ⊢
      rw [here, pends]
      rfl
    | goesOn moves was moved =>
      obtain ⟨signals, shown, waits⟩ := accepts s move _ moves
      rw [(pends.only was).2.2, waits] at moved
      obtain ⟨result, -, moved⟩ := Option.map_eq_some_iff.mp moved
      cases moved
    | done moves was moved here added =>
      obtain ⟨rfl, rfl, job⟩ := pends.only was
      obtain ⟨signals, shown, waits⟩ := accepts s move _ moves
      rw [job, waits] at moved
      obtain ⟨result, settled, moved⟩ := Option.map_eq_some_iff.mp moved
      cases moved
      exact .inr ⟨signals, shown, result, settled, here, unanswered ▸ added⟩
  stays := by
    rintro result s ⟨gone, answered⟩ move undisturbed
    cases progress s move undisturbed with
    | stays unpolled here kept => exact ⟨here.trans gone, kept.trans answered⟩
    | polled polled here kept => exact ⟨by rw [here, gone]; rfl, kept.trans answered⟩
    | goesOn moves was => exact absurd (was.symm.trans gone) (by simp)
    | done moves was => exact absurd (was.symm.trans gone) (by simp)

end Pends

end Errand

end RemoteCall
