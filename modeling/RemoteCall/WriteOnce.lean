import RemoteCall.CallError
import RemoteCall.Poll

/-!
# Write-once slots

A `WriteOnce` slot takes one value. The first resolution stays; every later one is refused with
`CallError.alreadyResolved` and changes nothing. A `Cell` is a slot together with the readers
that wait for it. A reader looks at the slot, and if it finds it empty it waits to be notified
before it looks again; the resolution notifies all who wait, and wakes them.

A resolution and a poll are one step each here. `CellSteps` takes them apart: a reader registers
for notifications before it looks at the slot, and the slot is set before its readers are
notified, so none of them misses the value.
-/

namespace RemoteCall

/-- A slot that is resolved at most once. -/
structure WriteOnce (V : Type) where
  value? : Option V := none
  deriving DecidableEq

namespace WriteOnce

variable {V : Type}

/-- A slot without a value. -/
def unresolved : WriteOnce V := ⟨none⟩

def isResolved (slot : WriteOnce V) : Bool := slot.value?.isSome

/-- Keeps the value the slot has, and else takes this one. -/
def settle (slot : WriteOnce V) (value : V) : WriteOnce V :=
  match slot.value? with
  | some _ => slot
  | none => ⟨some value⟩

/-- What a resolution answers: a slot that has a value refuses another. -/
def answer (slot : WriteOnce V) : Result Unit :=
  if slot.isResolved then .error .alreadyResolved else .ok ()

@[simp] theorem isResolved_settle (slot : WriteOnce V) (value : V) :
    (slot.settle value).isResolved = true := by
  unfold settle
  split <;> simp_all [isResolved]

theorem settle_of_isResolved {slot : WriteOnce V} (h : slot.isResolved = true) (value : V) :
    slot.settle value = slot := by
  unfold settle
  split
  · rfl
  · simp_all [isResolved]

/-- A slot that is settled has the value it had, or else the new one. -/
theorem value?_settle (slot : WriteOnce V) (value : V) :
    (slot.settle value).value? = some (slot.value?.getD value) := by
  unfold settle
  cases known : slot.value? with
  | none => rfl
  | some first => exact known

@[simp] theorem settle_unresolved (value : V) :
    (unresolved : WriteOnce V).settle value = ⟨some value⟩ := rfl

end WriteOnce

/-- A reader between two polls. -/
inductive Reader where
  /-- It was not polled yet. -/
  | started
  /-- It waits for a notification behind so many earlier ones. -/
  | waiting (earlier : Nat) (waker : Waker)
  deriving DecidableEq

namespace Reader

/-- Grants the wish to be woken, if there is one. -/
def wake : Reader → Reader
  | started => started
  | waiting earlier waker => waiting earlier waker.wake

def wasWoken : Reader → Bool
  | started => false
  | waiting _ waker => waker.wasWoken

end Reader

/-- A slot and the readers that wait for it, by name. -/
structure Cell (V : Type) where
  slot : WriteOnce V := .unresolved
  /-- How often all readers were notified. -/
  notifications : Nat := 0
  readers : Named Reader := []

namespace Cell

variable {V : Type}

/-- Notifies and wakes all readers that wait. -/
def notifyAll (cell : Cell V) : Cell V :=
  { cell with
    notifications := cell.notifications + 1
    readers := cell.readers.map fun r => (r.1, r.2.wake) }

/-- `set`: resolves the slot and notifies its readers; a second resolution is refused. -/
def resolve (cell : Cell V) (value : V) : Result Unit × Cell V :=
  if cell.slot.isResolved then (cell.slot.answer, cell)
  else (.ok (), { cell with slot := cell.slot.settle value }.notifyAll)

def peek (cell : Cell V) : Option V := cell.slot.value?

/-- Starts a reader, in place of one of that name. It does nothing before it is polled. -/
def start (cell : Cell V) (reader : String) : Cell V :=
  { cell with readers := cell.readers.put reader .started }

/-- One round of `wait`: a reader looks at the slot. With a value it is done; without one it waits
for the next notification, of which it has taken the count before it looked. -/
def look (cell : Cell V) (reader : String) : Poll V × Cell V :=
  match cell.slot.value? with
  | some value => (.ready value, { cell with readers := cell.readers.erase reader })
  | none =>
    (.pending, { cell with
      readers := cell.readers.put reader (.waiting cell.notifications .armed) })

/-- Polls a reader that is not done; `none` if there is none. One that waits looks again only once
it was notified. -/
def poll (cell : Cell V) (reader : String) : Option (Poll V) × Cell V :=
  match cell.readers.find? reader with
  | none => (none, cell)
  | some .started => (cell.look reader).map some id
  | some (.waiting earlier _) =>
    if earlier < cell.notifications then (cell.look reader).map some id
    else
      (some .pending, { cell with readers := cell.readers.put reader (.waiting earlier .armed) })

/-- Starts a reader and polls it once. -/
def read (cell : Cell V) (reader : String) : Poll V × Cell V := (cell.start reader).look reader

/-- Drops a reader. Answers whether it was there. -/
def dropReader (cell : Cell V) (reader : String) : Bool × Cell V :=
  ((cell.readers.find? reader).isSome, { cell with readers := cell.readers.erase reader })

/-- The readers woken since their last poll. -/
def woken (cell : Cell V) : List String :=
  (cell.readers.filter fun r => r.2.wasWoken).map Prod.fst

end Cell

end RemoteCall
