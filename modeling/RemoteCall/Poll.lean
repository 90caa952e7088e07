/-!
# Polling

A suspended computation is asked for its value from time to time. `Poll` is its answer, and
`Waker` is what the party that waits for it has left behind.
-/

namespace RemoteCall

/-- The answer to a poll: a value, or not yet. -/
inductive Poll (α : Type) where
  | pending
  | ready (value : α)
  deriving DecidableEq

namespace Poll

/-- Converts the value of a poll. -/
def map {α β : Type} (f : α → β) : Poll α → Poll β
  | pending => pending
  | ready value => ready (f value)

/-- Whether there is a value. -/
def isReady {α : Type} : Poll α → Bool
  | pending => false
  | ready _ => true

end Poll

/-- What a waiting party left behind at its last poll. -/
inductive Waker where
  /-- Nothing: the last poll had a value, or there was none. -/
  | idle
  /-- A wish to be woken. -/
  | armed
  /-- A wish that was granted. -/
  | woken
  deriving DecidableEq, Inhabited

namespace Waker

/-- Grants a wish. -/
def wake : Waker → Waker
  | armed => woken
  | other => other

/-- Whether a wish was granted since the last poll. -/
def wasWoken : Waker → Bool
  | woken => true
  | _ => false

end Waker

/-- The first entry of a list that something can be done about: the entries before it, the entry,
what can be done, and the entries behind it. -/
def pickFirst? {J α : Type} (f : J → Option α) : List J → Option (List J × J × α × List J)
  | [] => none
  | entry :: rest =>
    match f entry with
    | some found => some ([], entry, found, rest)
    | none => (pickFirst? f rest).map fun found => (entry :: found.1, found.2)

/-- Nothing is picked exactly when nothing can be done about any entry. -/
theorem pickFirst?_eq_none_iff {J α : Type} {f : J → Option α} {entries : List J} :
    pickFirst? f entries = none ↔ ∀ entry ∈ entries, f entry = none := by
  induction entries with
  | nil => simp [pickFirst?]
  | cons entry rest ih =>
    unfold pickFirst?
    cases h : f entry with
    | none => simp [h, ih]
    | some found => simp [h]

/-- The entry that is picked stands where it stood, and something can be done about it. -/
theorem eq_append_of_pickFirst? {J α : Type} {f : J → Option α} {entries : List J}
    {before behind : List J} {entry : J} {found : α}
    (h : pickFirst? f entries = some (before, entry, found, behind)) :
    entries = before ++ entry :: behind ∧ f entry = some found := by
  induction entries generalizing before with
  | nil => simp [pickFirst?] at h
  | cons first rest ih =>
    unfold pickFirst? at h
    cases hf : f first with
    | some value =>
      rw [hf] at h
      obtain ⟨rfl, rfl, rfl, rfl⟩ :
          [] = before ∧ first = entry ∧ value = found ∧ rest = behind := by
        simpa using h
      exact ⟨rfl, hf⟩
    | none =>
      rw [hf] at h
      cases hr : pickFirst? f rest with
      | none => simp [hr] at h
      | some picked =>
        obtain ⟨before', entry', found', behind'⟩ := picked
        obtain ⟨rfl, rfl, rfl, rfl⟩ :
            first :: before' = before ∧ entry' = entry ∧ found' = found ∧ behind' = behind := by
          simpa [hr] using h
        obtain ⟨hrest, hentry⟩ := ih hr
        exact ⟨by rw [hrest]; rfl, hentry⟩

/-- Nothing can be done about what stands before the entry that is picked. -/
theorem eq_none_of_pickFirst? {J α : Type} {f : J → Option α} {entries before behind : List J}
    {entry : J} {found : α} (picked : pickFirst? f entries = some (before, entry, found, behind)) :
    ∀ earlier ∈ before, f earlier = none := by
  induction entries generalizing before with
  | nil => cases picked
  | cons first rest ih =>
    unfold pickFirst? at picked
    cases here : f first with
    | some value =>
      rw [here] at picked
      cases picked
      exact fun earlier member => absurd member List.not_mem_nil
    | none =>
      rw [here] at picked
      obtain ⟨⟨before', later⟩, found, same⟩ := Option.map_eq_some_iff.mp picked
      cases same
      exact List.forall_mem_cons.mpr ⟨here, ih found⟩

/-- Which entry is picked depends only on what can be done about the entries. -/
theorem pickFirst?_congr {J α : Type} {f g : J → Option α} {entries : List J}
    (same : ∀ entry ∈ entries, f entry = g entry) :
    pickFirst? f entries = pickFirst? g entries := by
  induction entries with
  | nil => rfl
  | cons first rest ih =>
    obtain ⟨here, later⟩ := List.forall_mem_cons.mp same
    rw [pickFirst?, pickFirst?, here, ih later]

/-- Which entry is picked does not depend on what is then read off what can be done. -/
theorem pickFirst?_map {J α β : Type} (f : J → Option α) (read : α → β) (entries : List J) :
    pickFirst? (fun entry => (f entry).map read) entries =
      (pickFirst? f entries).map fun picked =>
        (picked.1, picked.2.1, read picked.2.2.1, picked.2.2.2) := by
  induction entries with
  | nil => rfl
  | cons first rest ih =>
    rw [pickFirst?, pickFirst?, ih]
    cases f first with
    | some found => rfl
    | none =>
      simp only [Option.map_none, Option.map_map]
      rfl

/-- Entries under names. -/
abbrev Named (α : Type) := List (String × α)

namespace Named

variable {α : Type}

def find? (entries : Named α) (name : String) : Option α :=
  (List.find? (fun entry => entry.1 == name) entries).map Prod.snd

/-- Drops the entry of a name. -/
def erase (entries : Named α) (name : String) : Named α :=
  entries.filter fun entry => entry.1 != name

/-- Sets the entry of a name in its place, or appends it. -/
def put (entries : Named α) (name : String) (value : α) : Named α :=
  if entries.any fun entry => entry.1 == name then
    entries.map fun entry => if entry.1 == name then (name, value) else entry
  else entries ++ [(name, value)]

/-- Changes the entry of a name, if there is one. -/
def modify (entries : Named α) (name : String) (f : α → α) : Named α :=
  entries.map fun entry => if entry.1 == name then (entry.1, f entry.2) else entry

@[simp] theorem find?_erase_self (entries : Named α) (name : String) :
    (entries.erase name).find? name = none := by
  simp [find?, erase, List.find?_eq_none]

@[simp] theorem find?_put_self (entries : Named α) (name : String) (value : α) :
    (entries.put name value).find? name = some value := by
  unfold put
  by_cases h : (entries.any fun entry => entry.1 == name) = true
  · rw [if_pos h]
    induction entries with
    | nil => simp at h
    | cons entry rest ih =>
      unfold find? at ih ⊢
      by_cases hn : entry.1 = name
      · simp [hn]
      · simp only [List.any_cons, Bool.or_eq_true, beq_iff_eq, hn, false_or] at h
        simp only [List.map_cons, beq_iff_eq, hn, if_false, List.find?_cons]
        rw [show (entry.1 == name) = false by simp [hn]]
        simpa using ih h
  · rw [if_neg h]
    have hnone : List.find? (fun entry => entry.1 == name) entries = none := by
      rw [List.find?_eq_none]
      intro entry hentry hname
      exact h (List.any_eq_true.mpr ⟨entry, hentry, hname⟩)
    simp [find?, hnone]

theorem find?_put_of_ne (entries : Named α) {name other : String} (ne : other ≠ name) (value : α) :
    (entries.put name value).find? other = entries.find? other := by
  have apart : (name == other) = false := by simp [Ne.symm ne]
  have inPlace : Named.find? (entries.map fun entry =>
      if entry.1 == name then (name, value) else entry) other = entries.find? other := by
    induction entries with
    | nil => rfl
    | cons entry rest ih =>
      unfold find? at ih ⊢
      by_cases same : entry.1 = name
      · simp only [List.map_cons, same, beq_self_eq_true, if_true, List.find?_cons, apart]
        exact ih
      · simp only [List.map_cons, beq_iff_eq, same, if_false, List.find?_cons]
        cases entry.1 == other with
        | true => rfl
        | false => simpa using ih
  unfold put
  split
  · exact inPlace
  · simp [find?, List.find?_append, apart]

theorem find?_erase_of_ne (entries : Named α) {name other : String} (ne : other ≠ name) :
    (entries.erase name).find? other = entries.find? other := by
  unfold find? erase
  rw [List.find?_filter]
  congr 2
  funext entry
  by_cases same : entry.1 = other
  · simp [same, ne]
  · simp [same]

theorem find?_map {β : Type} (entries : Named α) (f : α → β) (name : String) :
    Named.find? (entries.map fun entry => (entry.1, f entry.2)) name =
      (entries.find? name).map f := by
  unfold find?
  rw [List.find?_map, Option.map_map, Option.map_map]
  rfl

theorem mem_of_find? {entries : Named α} {name : String} {value : α}
    (found : entries.find? name = some value) : (name, value) ∈ entries := by
  obtain ⟨entry, there, rfl⟩ := Option.map_eq_some_iff.mp found
  have named : entry.1 = name := by simpa using List.find?_some there
  rw [← named]
  exact List.mem_of_find?_eq_some there

end Named

end RemoteCall
