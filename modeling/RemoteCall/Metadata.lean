/-!
# Metadata

An ordered multimap from header names to values. Names are compared up to ASCII case: every
entry is stored under the ASCII-lowercase form of its name, and every lookup lowercases its
query. Duplicates are kept, and entries stay in insertion order.
-/

namespace RemoteCall

/-- Header entries in insertion order. -/
structure Metadata where
  entries : List (String × String) := []
  deriving DecidableEq, Inhabited

namespace Metadata

/-- The stored form of a name. Only the letters `A` to `Z` change. -/
def foldName (name : String) : String := name.map Char.toLower

/-- No entries. -/
def empty : Metadata := ⟨[]⟩

/-- Appends a value, keeping the values already stored under the same name. -/
def insert (m : Metadata) (name value : String) : Metadata :=
  ⟨m.entries ++ [(foldName name, value)]⟩

/-- Collects pairs by inserting them one by one. -/
def ofList (pairs : List (String × String)) : Metadata :=
  pairs.foldl (fun m pair => m.insert pair.1 pair.2) empty

/-- Every value stored under a name, oldest first. -/
def getAll (m : Metadata) (name : String) : List String :=
  (m.entries.filter fun entry => entry.1 == foldName name).map Prod.snd

/-- The oldest value stored under a name. -/
def get? (m : Metadata) (name : String) : Option String := (m.getAll name).head?

def contains (m : Metadata) (name : String) : Bool := (m.get? name).isSome

/-- Removes every value under a name. -/
def erase (m : Metadata) (name : String) : Metadata :=
  ⟨m.entries.filter fun entry => entry.1 != foldName name⟩

/-- Removes every value under a name, and counts them. -/
def remove (m : Metadata) (name : String) : Nat × Metadata :=
  (m.entries.length - (m.erase name).entries.length, m.erase name)

/-- Appends the entries of another map as they are stored. -/
def extend (m other : Metadata) : Metadata := ⟨m.entries ++ other.entries⟩

def size (m : Metadata) : Nat := m.entries.length

def isEmpty (m : Metadata) : Bool := m.entries.isEmpty

@[simp] theorem entries_insert (m : Metadata) (name value : String) :
    (m.insert name value).entries = m.entries ++ [(foldName name, value)] := rfl

@[simp] theorem entries_extend (m other : Metadata) :
    (m.extend other).entries = m.entries ++ other.entries := rfl

@[simp] theorem entries_empty : empty.entries = [] := rfl

@[simp] theorem size_insert (m : Metadata) (name value : String) :
    (m.insert name value).size = m.size + 1 := by
  simp [size]

@[simp] theorem size_extend (m other : Metadata) : (m.extend other).size = m.size + other.size := by
  simp [size]

theorem entries_foldl_insert (m : Metadata) (pairs : List (String × String)) :
    (pairs.foldl (fun m pair => m.insert pair.1 pair.2) m).entries =
      m.entries ++ pairs.map fun pair => (foldName pair.1, pair.2) := by
  induction pairs generalizing m with
  | nil => simp
  | cons pair rest ih => simp [ih]

theorem entries_ofList (pairs : List (String × String)) :
    (ofList pairs).entries = pairs.map fun pair => (foldName pair.1, pair.2) :=
  entries_foldl_insert empty pairs

theorem getAll_insert (m : Metadata) (name value query : String) :
    (m.insert name value).getAll query =
      if foldName name = foldName query then m.getAll query ++ [value] else m.getAll query := by
  unfold getAll
  by_cases h : foldName name = foldName query
  · simp [h]
  · simp [h]

@[simp] theorem getAll_erase_self (m : Metadata) (name : String) :
    (m.erase name).getAll name = [] := by
  simp [getAll, erase]

end Metadata

end RemoteCall
