import Mathlib.Data.List.Basic
import Mathlib.Data.List.Forall2
import RemoteCall.Metadata

/-!
# Metadata as a multimap up to case

A map is made by a `Recipe`: out of nothing or of pairs, and from there by insertions, removals and
extensions by other maps, which are made in the same way. The history of a recipe is a list of
`Insertion`s: everything that was inserted, in order and under the name that was given, with the
names that were removed since then.

A map keeps no such history. It stores folded names, and an extension copies them as they are. But
names have the same folded form exactly if they are the same up to the case of `A` to `Z`
(`foldName_eq_iff`), and stored names are folded already; so the entries are what remains of the
history (`Represents`), and every lookup answers by the history (`Recipe.isMultimap_value`).
-/

namespace RemoteCall.Metadata

/-! ### Names -/

/-- Two letters that differ in the case of `A` to `Z` at most. -/
def SameLetter (c d : Char) : Prop :=
  c = d ∨ (c.isUpper = true ∧ d.toNat = c.toNat + 32) ∨ (d.isUpper = true ∧ c.toNat = d.toNat + 32)

/-- Two names that are the same up to case. -/
def SameName (a b : String) : Prop := List.Forall₂ SameLetter a.toList b.toList

instance : DecidableRel SameLetter := fun c d =>
  inferInstanceAs (Decidable (c = d ∨ (_ ∧ _) ∨ (_ ∧ _)))

instance : DecidableRel SameName := fun a b =>
  inferInstanceAs (Decidable (List.Forall₂ SameLetter a.toList b.toList))

/-- At some place the names differ, and do not both have a letter from `A` to `Z` or from `a` to `z`
there. -/
def DifferOutsideLetters (a b : String) : Prop :=
  ∃ i : Nat, a.toList[i]? ≠ b.toList[i]? ∧
    ¬(a.toList[i]?.any Char.isAlpha = true ∧ b.toList[i]?.any Char.isAlpha = true)

theorem isUpper_iff (c : Char) : c.isUpper = true ↔ 65 ≤ c.toNat ∧ c.toNat ≤ 90 :=
  decide_eq_true_iff

theorem isLower_iff (c : Char) : c.isLower = true ↔ 97 ≤ c.toNat ∧ c.toNat ≤ 122 :=
  Bool.and_eq_true_iff.trans (and_congr decide_eq_true_iff decide_eq_true_iff)

theorem isAlpha_iff (c : Char) : c.isAlpha = true ↔ c.isUpper = true ∨ c.isLower = true :=
  Bool.or_eq_true_iff

theorem toNat_toLower (c : Char) :
    c.toLower.toNat = if c.isUpper = true then c.toNat + 32 else c.toNat := by
  unfold Char.toLower
  split
  · next upper =>
    have small : c.val.toNat ≤ 90 := UInt32.le_iff_toNat_le.mp upper.2
    rw [if_pos ((isUpper_iff c).mpr upper), ← Char.toNat_val, ← Char.toNat_val, UInt32.toNat_add]
    exact Nat.mod_eq_of_lt (Nat.lt_of_le_of_lt (Nat.add_le_add_right small 32) (by decide))
  · next other =>
    rw [if_neg fun upper => other ((isUpper_iff c).mp upper)]

theorem isUpper_toLower (c : Char) : c.toLower.isUpper = false := by
  have upper := isUpper_iff c
  rw [← Bool.not_eq_true, isUpper_iff, toNat_toLower]
  split <;> simp_all
  omega

theorem toLower_toLower (c : Char) : c.toLower.toLower = c.toLower := by
  rw [← Char.toNat_inj, toNat_toLower, isUpper_toLower]
  rfl

/-- Two letters are folded to one exactly if they are the same up to case. -/
theorem toLower_eq_iff {c d : Char} : c.toLower = d.toLower ↔ SameLetter c d := by
  have c_upper := isUpper_iff c
  have d_upper := isUpper_iff d
  unfold SameLetter
  rw [← Char.toNat_inj, toNat_toLower, toNat_toLower, ← Char.toNat_inj]
  split <;> split <;> simp_all <;> omega

/-- Two names are folded to one exactly if they are the same up to case. -/
theorem foldName_eq_iff {a b : String} : foldName a = foldName b ↔ SameName a b := by
  unfold foldName SameName
  rw [← String.toList_inj, String.toList_map, String.toList_map, ← List.forall₂_eq_eq_eq,
    List.forall₂_map_left_iff, List.forall₂_map_right_iff]
  simp only [toLower_eq_iff]

theorem beq_foldName (a b : String) : (foldName a == foldName b) = decide (SameName a b) := by
  rw [beq_eq_decide, decide_eq_decide]
  exact foldName_eq_iff

@[simp] theorem foldName_foldName (name : String) : foldName (foldName name) = foldName name := by
  unfold foldName
  rw [← String.toList_inj]
  simp [toLower_toLower]

theorem isUpper_of_mem_foldName {name : String} {c : Char} (mem : c ∈ (foldName name).toList) :
    c.isUpper = false := by
  rw [foldName, String.toList_map] at mem
  obtain ⟨letter, -, rfl⟩ := List.mem_map.mp mem
  exact isUpper_toLower letter

theorem SameLetter.isAlpha {c d : Char} (same : SameLetter c d) (differ : c ≠ d) :
    c.isAlpha = true ∧ d.isAlpha = true := by
  simp only [isAlpha_iff, isUpper_iff, isLower_iff]
  rcases same with same | ⟨upper, above⟩ | ⟨upper, above⟩
  · exact absurd same differ
  · have := (isUpper_iff c).mp upper
    omega
  · have := (isUpper_iff d).mp upper
    omega

theorem DifferOutsideLetters.not_sameName {a b : String} (differ : DifferOutsideLetters a b) :
    ¬SameName a b := by
  intro same
  obtain ⟨i, differs, outside⟩ := differ
  obtain ⟨length, letters⟩ := List.forall₂_iff_get.mp same
  by_cases inside : i < a.toList.length
  · have inside' : i < b.toList.length := length ▸ inside
    rw [List.getElem?_eq_getElem inside, List.getElem?_eq_getElem inside'] at differs outside
    exact outside ((letters i inside inside').isAlpha fun same => differs (congrArg some same))
  · rw [List.getElem?_eq_none (by omega), List.getElem?_eq_none (by omega)] at differs
    exact differs rfl

/-! ### How maps are made -/

/-- How a map is made. -/
inductive Recipe where
  | empty
  | ofList (pairs : List (String × String))
  /-- An insertion into a map, or while it is being built. -/
  | insert (before : Recipe) (name value : String)
  | remove (before : Recipe) (name : String)
  /-- An extension by another map, or by a copy of the map itself. -/
  | extend (before other : Recipe)

/-- Something that was inserted, and the names that were removed since. -/
structure Insertion where
  name : String
  value : String
  removed : List String := []

namespace Insertion

/-- It was not removed. -/
def Remains (i : Insertion) : Prop := ∀ name ∈ i.removed, ¬SameName i.name name

instance : DecidablePred Remains := fun i =>
  inferInstanceAs (Decidable (∀ name ∈ i.removed, ¬SameName i.name name))

/-- The entry that stands for it. -/
def entry (i : Insertion) : String × String := (foldName i.name, i.value)

/-- A name is removed. -/
def strike (name : String) (i : Insertion) : Insertion := { i with removed := i.removed ++ [name] }

theorem remains_strike {name : String} {i : Insertion} :
    (i.strike name).Remains ↔ ¬SameName i.name name ∧ i.Remains := by
  unfold Remains strike
  simp [or_imp, forall_and, and_comm]

end Insertion

namespace Recipe

def value : Recipe → Metadata
  | empty => .empty
  | ofList pairs => .ofList pairs
  | insert before name value => before.value.insert name value
  | remove before name => (before.value.remove name).2
  | extend before other => before.value.extend other.value

/-- What was inserted, in order. What an extension brings along counts as inserted by it. -/
def insertions : Recipe → List Insertion
  | empty => []
  | ofList pairs => pairs.map fun pair => { name := pair.1, value := pair.2 }
  | insert before name value => before.insertions ++ [{ name, value }]
  | remove before name => before.insertions.map (·.strike name)
  | extend before other => before.insertions ++ other.insertions

end Recipe

/-! ### What a map stores -/

/-- The entries of a map are what remains of a history, under folded names. -/
def Represents (m : Metadata) (insertions : List Insertion) : Prop :=
  m.entries = (insertions.filter (·.Remains)).map Insertion.entry

variable {m other : Metadata} {history later : List Insertion}

theorem Represents.append (represents : m.Represents history) (added : other.Represents later) :
    (m.extend other).Represents (history ++ later) := by
  unfold Represents at *
  rw [List.filter_append, List.map_append, ← represents, ← added]
  rfl

/-- Fresh insertions remain. -/
theorem represents_ofList (pairs : List (String × String)) :
    (ofList pairs).Represents (pairs.map fun pair => { name := pair.1, value := pair.2 }) := by
  unfold Represents
  rw [entries_ofList, List.filter_eq_self.mpr, List.map_map]
  · rfl
  · intro i mem
    obtain ⟨pair, -, rfl⟩ := List.mem_map.mp mem
    simp [Insertion.Remains]

/-- An entry goes exactly if its insertion was made under the removed name up to case. -/
theorem Represents.remove (represents : m.Represents history) (name : String) :
    (m.remove name).2.Represents (history.map (·.strike name)) := by
  unfold Represents at *
  show m.entries.filter (fun entry => entry.1 != foldName name) = _
  rw [represents, List.filter_map, List.filter_map, List.map_map, List.filter_filter]
  refine congrArg₂ List.map rfl (List.filter_congr fun i _ => ?_)
  simp [Insertion.remains_strike, Insertion.entry, bne, beq_foldName]

/-- Every map is what remains of its history. -/
theorem Recipe.represents (recipe : Recipe) : recipe.value.Represents recipe.insertions := by
  induction recipe with
  | empty => rfl
  | ofList pairs => exact represents_ofList pairs
  | insert before name value represents =>
    exact represents.append (represents_ofList [(name, value)])
  | remove before name represents => exact represents.remove name
  | extend before other represents added => exact represents.append added

/-! ### What a map answers -/

/-- Stored names are folded. -/
theorem Represents.exists_foldName (represents : m.Represents history) {entry : String × String}
    (stored : entry ∈ m.entries) : ∃ name, entry.1 = foldName name := by
  rw [represents] at stored
  obtain ⟨i, -, rfl⟩ := List.mem_map.mp stored
  exact ⟨i.name, rfl⟩

/-- A folded name is looked for, and found in the entries of this name up to case. -/
theorem Represents.getAll_eq (represents : m.Represents history) (name : String) :
    m.getAll name =
      (history.filter fun i => i.Remains ∧ SameName i.name name).map Insertion.value := by
  unfold Represents at represents
  unfold getAll
  rw [represents, List.filter_map, List.map_map, List.filter_filter]
  refine congrArg₂ List.map rfl (List.filter_congr fun i _ => ?_)
  simp [Insertion.entry, beq_foldName, Bool.and_comm]

/-- A map answers by a history of insertions. -/
structure IsMultimap (m : Metadata) (history : List Insertion) : Prop where
  /-- Every stored name is its own folded form, and has no letter from `A` to `Z`. -/
  folded : ∀ entry ∈ m.entries,
    foldName entry.1 = entry.1 ∧ ∀ c ∈ entry.1.toList, c.isUpper = false
  /-- The entries are the insertions that were not removed, in order. -/
  entries : m.entries = (history.filter (·.Remains)).map Insertion.entry
  /-- Under a name stand the values that were inserted under it up to case and not removed since,
  in order. -/
  getAll : ∀ name, m.getAll name =
    (history.filter fun i => i.Remains ∧ SameName i.name name).map Insertion.value
  get? : ∀ name, m.get? name = (m.getAll name).head?
  contains : ∀ name, m.contains name = true ↔ m.getAll name ≠ []
  /-- A removal counts the values of its name and leaves none of them. -/
  removed : ∀ name, (m.remove name).1 = (m.getAll name).length ∧ (m.remove name).2.getAll name = []
  /-- It leaves the values of every other name, and all other entries in their order. -/
  kept : ∀ name, (m.remove name).2.entries =
      m.entries.filter (fun entry => ¬SameName entry.1 name) ∧
    ∀ other, ¬SameName name other → (m.remove name).2.getAll other = m.getAll other
  size : m.size = m.entries.length ∧ m.size = (history.filter (·.Remains)).length
  /-- Names that differ in more than the case of `A` to `Z` have nothing to do with each other. -/
  distinct : ∀ name other, DifferOutsideLetters name other → ∀ value,
    (m.insert name value).getAll other = m.getAll other ∧
      (m.remove name).2.getAll other = m.getAll other

theorem getAll_erase_of_not_sameName (m : Metadata) {name other : String}
    (differ : ¬SameName name other) : (m.erase name).getAll other = m.getAll other := by
  unfold getAll erase
  rw [List.filter_filter]
  have apart : foldName other ≠ foldName name := fun same => differ (foldName_eq_iff.mp same.symm)
  refine congrArg _ (List.filter_congr ?_)
  rintro ⟨stored, value⟩ -
  by_cases found : stored = foldName other
  · simp [found, apart]
  · simp [found]

theorem length_erase (m : Metadata) (name : String) :
    (m.erase name).entries.length + (m.getAll name).length = m.entries.length := by
  unfold getAll erase
  rw [List.length_map, Nat.add_comm]
  exact (List.length_eq_length_filter_add fun entry : String × String =>
    entry.1 == foldName name).symm

theorem Represents.isMultimap (represents : m.Represents history) : m.IsMultimap history where
  folded entry stored := by
    obtain ⟨name, folded⟩ := represents.exists_foldName stored
    rw [folded]
    exact ⟨foldName_foldName name, fun c mem => isUpper_of_mem_foldName mem⟩
  entries := represents
  getAll := represents.getAll_eq
  get? _ := rfl
  contains name := by
    unfold contains get?
    rw [List.isSome_head?]
  removed name := by
    refine ⟨?_, getAll_erase_self m name⟩
    show m.entries.length - (m.erase name).entries.length = _
    have := length_erase m name
    omega
  kept name := by
    refine ⟨?_, fun other differ => getAll_erase_of_not_sameName m differ⟩
    refine List.filter_congr fun entry stored => ?_
    obtain ⟨inserted, folded⟩ := represents.exists_foldName stored
    rw [folded, bne, ← foldName_foldName inserted, beq_foldName, decide_not, foldName_foldName]
  size := by
    refine ⟨rfl, ?_⟩
    unfold size
    rw [show m.entries = _ from represents, List.length_map]
  distinct name other differ value := by
    have apart := differ.not_sameName
    refine ⟨?_, getAll_erase_of_not_sameName m apart⟩
    rw [getAll_insert, if_neg (mt foldName_eq_iff.mp apart)]

/-- However a map is made, it is the multimap up to case of what was inserted. -/
theorem Recipe.isMultimap_value (recipe : Recipe) : recipe.value.IsMultimap recipe.insertions :=
  recipe.represents.isMultimap

/-- What a map brings along twice is there twice, and what is inserted under a name that only looks
alike is left when the name is removed. -/
example :
    let once : Recipe := ((Recipe.empty.insert "X-Trace" "a").insert "É" "b").insert "é" "c"
    let twice : Recipe := .extend once once
    twice.value.getAll "x-TRACE" = ["a", "a"] ∧ (twice.value.remove "é").1 = 2 ∧
      (twice.remove "é").value.entries =
        [("x-trace", "a"), ("É", "b"), ("x-trace", "a"), ("É", "b")] := by
  cbv

end RemoteCall.Metadata
