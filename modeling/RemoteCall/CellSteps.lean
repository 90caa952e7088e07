import RemoteCall.Routine
import RemoteCall.WriteOnce

/-!
# Cells step by step

`Cell.resolve` and `Cell.poll` take a resolution and a poll as a whole. Here they are routines, in
the steps after which others may come in. A resolution sets the slot in one step and notifies the
readers in the next. A reader takes the count of the notifications, then looks at the slot, and then
goes to sleep, unless it was notified since it took the count.

The order matters on both sides. A reader that looked first and took the count later could be
notified in between, and would sleep for ever.
-/

namespace RemoteCall.Cell

variable {V : Type}

/-- Sets the slot, and notifies nobody yet. A second resolution is refused. -/
def set (cell : Cell V) (value : V) : Result Unit × Cell V :=
  (cell.slot.answer, { cell with slot := cell.slot.settle value })

/-- A reader looks at the slot. With a value it is done. -/
def check (cell : Cell V) (reader : String) : Option V × Cell V :=
  match cell.slot.value? with
  | some value => (some value, { cell with readers := cell.readers.erase reader })
  | none => (none, cell)

/-- A reader goes to sleep until the next notification behind so many earlier ones. The flag tells
that it was notified already. -/
def sleep (cell : Cell V) (reader : String) (earlier : Nat) : Bool × Cell V :=
  if earlier < cell.notifications then (true, cell)
  else (false, { cell with readers := cell.readers.put reader (.waiting earlier .armed) })

namespace Steps

/-- Notifies the readers, if the slot was set. -/
def announce : Result Unit → Routine (Cell V) (Result Unit)
  | .ok () => do
    .act notifyAll
    return .ok ()
  | .error e => return .error e

/-- `set`: the slot first, then the readers. -/
def resolve (value : V) : Routine (Cell V) (Result Unit) := do
  let answer ← .atomically fun cell => cell.set value
  announce answer

/-- Waits for a notification. A reader that was notified looks again, in one step: by then there is
a value (`Sound.look`). -/
def await (reader : String) (earlier : Nat) : Routine (Cell V) (Poll V) := do
  let notified ← .atomically fun cell => cell.sleep reader earlier
  if notified then .atomically fun cell => cell.look reader else return .pending

/-- A reader is done with the value it has found, and waits if there was none. -/
def orAwait (reader : String) (earlier : Nat) : Option V → Routine (Cell V) (Poll V)
  | some value => return .ready value
  | none => await reader earlier

/-- `wait`: takes the count, looks at the slot, and waits if there is no value. -/
def wait (reader : String) : Routine (Cell V) (Poll V) := do
  let earlier ← .read notifications
  let found ← .atomically fun cell => cell.check reader
  orAwait reader earlier found

/-- A reader goes on from where it is; `none` if there is none. -/
def resume (reader : String) : Option Reader → Routine (Cell V) (Option (Poll V))
  | none => return none
  | some .started => do
    let answer ← wait reader
    return some answer
  | some (.waiting earlier _) => do
    let answer ← await reader earlier
    return some answer

/-- One poll of a reader that is not done. -/
def poll (reader : String) : Routine (Cell V) (Option (Poll V)) := do
  let there ← .read fun cell => cell.readers.find? reader
  resume reader there

end Steps

end RemoteCall.Cell
