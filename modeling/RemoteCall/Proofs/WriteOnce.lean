import RemoteCall.WriteOnce

/-!
# Cells release all their readers

Somebody resolves a cell, others wait for it, and all of them come and go in any order. What comes
of each use is a `Deed`, and from the `Record` of a run one reads which resolution was the first,
and how each reader stands: whether it is there, and whether it waits since its last poll.

A reader waits only for a notification that is still to come (`Cell.Stands`): it takes the count of
the notifications before it looks at the slot, and the slot is resolved together with the next one.
So none is left behind, and the record alone tells what every use gives
(`Cell.releases_readers`).
-/

namespace RemoteCall.Cell

variable {V : Type}

/-- What somebody does with a cell. A reader goes by a name. -/
inductive Use (V : Type) where
  | resolve (value : V)
  /-- Look for a value without waiting. -/
  | peek
  | start (reader : String)
  | poll (reader : String)
  | drop (reader : String)

/-- What came of a use. -/
inductive Deed (V : Type) where
  | resolved (value : V) (answer : Result Unit)
  | peeked (answer : Option V)
  | started (reader : String)
  /-- There is no answer if there was no reader. -/
  | polled (reader : String) (answer : Option (Poll V))
  | dropped (reader : String) (was : Bool)

/-- All deeds of a run in order. -/
abbrev Record (V : Type) := List (Deed V)

def use (cell : Cell V) : Use V → Deed V × Cell V
  | .resolve value => (.resolved value (cell.resolve value).1, (cell.resolve value).2)
  | .peek => (.peeked cell.peek, cell)
  | .start reader => (.started reader, cell.start reader)
  | .poll reader => (.polled reader (cell.poll reader).1, (cell.poll reader).2)
  | .drop reader => (.dropped reader (cell.dropReader reader).1, (cell.dropReader reader).2)

def run (cell : Cell V) (uses : List (Use V)) : Cell V :=
  uses.foldl (fun cell use => (cell.use use).2) cell

def deeds : List (Use V) → Cell V → Record V
  | [], _ => []
  | use :: rest, cell => (cell.use use).1 :: deeds rest (cell.use use).2

/-! ### Records -/

/-- How a reader stands. -/
inductive Standing where
  /-- There is no such reader, or it is done. -/
  | absent
  /-- It was not polled yet. -/
  | started
  /-- It was polled, and has to wait. -/
  | waiting
  deriving DecidableEq

namespace Deed

/-- The value that a deed has given the cell. -/
def outcome? : Deed V → Option V
  | resolved value (.ok ()) => some value
  | _ => none

/-- What a deed makes of a reader, if it is about that one. -/
def standing? (reader : String) : Deed V → Option Standing
  | started other => if other = reader then some .started else none
  | polled other (some .pending) => if other = reader then some .waiting else none
  | polled other _ => if other = reader then some .absent else none
  | dropped other _ => if other = reader then some .absent else none
  | _ => none

end Deed

namespace Record

/-- The value of the first resolution. -/
def outcome? (record : Record V) : Option V := record.findSome? Deed.outcome?

/-- How a reader stands at the end. -/
def standing (record : Record V) (reader : String) : Standing :=
  record.foldl (fun standing deed => (deed.standing? reader).getD standing) .absent

@[simp] theorem outcome?_append (record : Record V) (deed : Deed V) :
    outcome? (record ++ [deed]) = record.outcome?.or deed.outcome? := by
  unfold outcome?
  rw [List.findSome?_append]
  cases found : deed.outcome? <;> simp [found]

@[simp] theorem standing_append (record : Record V) (deed : Deed V) (reader : String) :
    standing (record ++ [deed]) reader = (deed.standing? reader).getD (record.standing reader) := by
  unfold standing
  rw [List.foldl_append]
  rfl

/-- The first resolution stays the first. -/
theorem outcome?_of_some {record : Record V} {outcome : V} (first : record.outcome? = some outcome)
    (later : Record V) : outcome? (record ++ later) = some outcome := by
  unfold outcome? at first ⊢
  rw [List.findSome?_append, first]
  rfl

/-- What a reader is told when it is polled: the value once there is one, if it is there at all. -/
def told? (record : Record V) (reader : String) : Option (Poll V) :=
  match record.standing reader with
  | .absent => none
  | _ => some (match record.outcome? with
    | some outcome => .ready outcome
    | none => .pending)

end Record

/-! ### Readers -/

/-- A reader of the cell is where its standing says. One that waits has not missed the resolution:
either that is still to come, or the reader was notified and woken. -/
inductive Stands (cell : Cell V) (reader : String) : Standing → Prop where
  | absent (gone : cell.readers.find? reader = none) : Stands cell reader .absent
  | started (there : cell.readers.find? reader = some .started) : Stands cell reader .started
  | waits (unresolved : cell.slot.value? = none)
      (there : cell.readers.find? reader = some (.waiting cell.notifications .armed)) :
      Stands cell reader .waiting
  | notified {earlier : Nat} {outcome : V} (resolved : cell.slot.value? = some outcome)
      (there : cell.readers.find? reader = some (.waiting earlier .woken))
      (counted : earlier < cell.notifications) : Stands cell reader .waiting

variable {cell : Cell V} {reader other : String} {standing : Standing} {record : Record V}

/-- What happens to other readers leaves a reader alone. -/
theorem Stands.of_eq (stands : cell.Stands reader standing) {readers : Named Reader}
    (same : readers.find? reader = cell.readers.find? reader) :
    { cell with readers }.Stands reader standing := by
  cases stands with
  | absent gone => exact .absent (same.trans gone)
  | started there => exact .started (same.trans there)
  | waits unresolved there => exact .waits unresolved (same.trans there)
  | notified resolved there counted => exact .notified resolved (same.trans there) counted

/-- The resolution notifies whoever waits. -/
theorem Stands.resolve (stands : cell.Stands reader standing)
    (unresolved : cell.slot.value? = none) (value : V) :
    { cell with slot := ⟨some value⟩ }.notifyAll.Stands reader standing := by
  have woken : ({ cell with slot := ⟨some value⟩ } : Cell V).notifyAll.readers.find? reader =
      (cell.readers.find? reader).map Reader.wake := Named.find?_map cell.readers Reader.wake reader
  cases stands with
  | absent gone => exact .absent (by rw [woken, gone]; rfl)
  | started there => exact .started (by rw [woken, there]; rfl)
  | waits _ there =>
    have resolved : ({ cell with slot := ⟨some value⟩ } : Cell V).notifyAll.slot.value? =
        some value := rfl
    exact .notified resolved (by rw [woken, there]; rfl) (Nat.lt_succ_self _)
  | notified resolved there counted =>
    rw [unresolved] at resolved
    cases resolved

/-- A cell is as the record of its run says. -/
structure Tracks (cell : Cell V) (record : Record V) : Prop where
  outcome : cell.slot.value? = record.outcome?
  readers : ∀ reader, cell.Stands reader (record.standing reader)

theorem tracks_fresh : ({} : Cell V).Tracks [] :=
  ⟨rfl, fun _ => .absent rfl⟩

/-- A deed that gives no value and is about one reader at most. -/
theorem Tracks.step (tracks : cell.Tracks record) {deed : Deed V} {readers : Named Reader}
    (silent : deed.outcome? = none) (reader : String)
    (others : ∀ other, other ≠ reader → deed.standing? other = none ∧
      readers.find? other = cell.readers.find? other)
    (stands : { cell with readers }.Stands reader
      ((deed.standing? reader).getD (record.standing reader))) :
    { cell with readers }.Tracks (record ++ [deed]) where
  outcome := by
    rw [Record.outcome?_append, silent, Option.or_none]
    exact tracks.outcome
  readers := by
    intro other
    rw [Record.standing_append]
    by_cases same : other = reader
    · rw [same]
      exact stands
    · obtain ⟨unsaid, alone⟩ := others other same
      rw [unsaid]
      exact (tracks.readers other).of_eq alone

/-- A reader that looks is told what the record says. -/
theorem Tracks.look (tracks : cell.Tracks record) (reader : String) :
    (cell.look reader).1 = (match record.outcome? with
      | some outcome => .ready outcome
      | none => .pending) ∧
    (cell.look reader).2.Tracks (record ++ [.polled reader (some (cell.look reader).1)]) := by
  have outcome := tracks.outcome
  cases found : record.outcome? with
  | some value =>
    rw [found] at outcome
    have looked : cell.look reader =
        (.ready value, { cell with readers := cell.readers.erase reader }) := by
      simp [Cell.look, outcome]
    rw [looked]
    refine ⟨rfl, tracks.step rfl reader (fun other ne => ⟨?_, ?_⟩) ?_⟩
    · exact if_neg (Ne.symm ne)
    · exact Named.find?_erase_of_ne _ ne
    · simp only [Deed.standing?, if_true, Option.getD_some]
      exact .absent (Named.find?_erase_self _ _)
  | none =>
    rw [found] at outcome
    have looked : cell.look reader = (.pending,
        { cell with
          readers := cell.readers.put reader (.waiting cell.notifications .armed) }) := by
      simp [Cell.look, outcome]
    rw [looked]
    refine ⟨rfl, tracks.step rfl reader (fun other ne => ⟨?_, ?_⟩) ?_⟩
    · exact if_neg (Ne.symm ne)
    · exact Named.find?_put_of_ne _ ne _
    · simp only [Deed.standing?, if_true, Option.getD_some]
      exact .waits outcome (Named.find?_put_self _ _ _)

/-- A poll gives what the record says. The cases are those of how the reader stands. -/
theorem Tracks.poll (tracks : cell.Tracks record) (reader : String) :
    (cell.poll reader).1 = record.told? reader ∧
      (cell.poll reader).2.Tracks (record ++ [.polled reader (cell.poll reader).1]) := by
  obtain ⟨answer, looked⟩ := tracks.look reader
  have goes : cell.poll reader = (cell.look reader).map some id →
      record.standing reader ≠ .absent →
      (cell.poll reader).1 = record.told? reader ∧
        (cell.poll reader).2.Tracks (record ++ [.polled reader (cell.poll reader).1]) := by
    intro looks there
    rw [looks]
    refine ⟨?_, looked⟩
    unfold Record.told?
    cases standing : record.standing reader with
    | absent => exact absurd standing there
    | started => exact congrArg some answer
    | waiting => exact congrArg some answer
  have stands := tracks.readers reader
  generalize standing : record.standing reader = how at stands
  cases stands with
  | absent gone =>
    have polled : cell.poll reader = (none, cell) := by simp [Cell.poll, gone]
    rw [polled]
    refine ⟨by simp [Record.told?, standing], ?_⟩
    refine tracks.step rfl reader (fun other ne => ⟨?_, rfl⟩) ?_
    · exact if_neg (Ne.symm ne)
    · simp only [Deed.standing?, if_true, Option.getD_some]
      exact .absent gone
  | started there =>
    exact goes (by simp [Cell.poll, there]) (by simp [standing])
  | notified resolved there counted =>
    exact goes (by simp [Cell.poll, there, counted]) (by simp [standing])
  | waits unresolved there =>
    have polled : cell.poll reader = (some .pending,
        { cell with
          readers := cell.readers.put reader (.waiting cell.notifications .armed) }) := by
      simp [Cell.poll, there]
    rw [polled]
    refine ⟨?_, tracks.step rfl reader (fun other ne => ⟨?_, ?_⟩) ?_⟩
    · have none := tracks.outcome.symm.trans unresolved
      simp [Record.told?, standing, none]
    · exact if_neg (Ne.symm ne)
    · exact Named.find?_put_of_ne _ ne _
    · simp only [Deed.standing?, if_true, Option.getD_some]
      exact .waits unresolved (Named.find?_put_self _ _ _)

/-- The first resolution counts, and a later one does nothing. -/
theorem Tracks.resolve (tracks : cell.Tracks record) (value : V) :
    cell.use (.resolve value) = (match record.outcome? with
      | some _ => (.resolved value (.error .alreadyResolved), cell)
      | none => (.resolved value (.ok ()), { cell with slot := ⟨some value⟩ }.notifyAll)) ∧
    (cell.use (.resolve value)).2.Tracks (record ++ [(cell.use (.resolve value)).1]) := by
  have outcome := tracks.outcome
  cases found : record.outcome? with
  | some first =>
    rw [found] at outcome
    have refused : cell.use (.resolve value) =
        (.resolved value (.error .alreadyResolved), cell) := by
      simp [Cell.use, Cell.resolve, WriteOnce.isResolved, WriteOnce.answer, outcome]
    rw [refused]
    refine ⟨rfl, ?_, fun reader => ?_⟩
    · rw [Record.outcome?_append, found]
      exact outcome
    · rw [Record.standing_append]
      exact tracks.readers reader
  | none =>
    rw [found] at outcome
    have settled : cell.slot.settle value = ⟨some value⟩ := by
      simp [WriteOnce.settle, outcome]
    have taken : cell.use (.resolve value) =
        (.resolved value (.ok ()), { cell with slot := ⟨some value⟩ }.notifyAll) := by
      simp [Cell.use, Cell.resolve, WriteOnce.isResolved, outcome, settled]
    rw [taken]
    refine ⟨rfl, ?_, fun reader => ?_⟩
    · rw [Record.outcome?_append, found]
      rfl
    · rw [Record.standing_append]
      exact (tracks.readers reader).resolve outcome value

/-- Whatever is done with a cell, the record goes on to tell its state. -/
theorem Tracks.use (tracks : cell.Tracks record) (use : Use V) :
    (cell.use use).2.Tracks (record ++ [(cell.use use).1]) := by
  cases use with
  | resolve value => exact (tracks.resolve value).2
  | poll reader => exact (tracks.poll reader).2
  | peek =>
    refine ⟨?_, fun reader => ?_⟩
    · rw [Record.outcome?_append]
      exact tracks.outcome.trans (Option.or_none).symm
    · rw [Record.standing_append]
      exact tracks.readers reader
  | start reader =>
    refine tracks.step rfl reader (fun other ne => ⟨?_, ?_⟩) ?_
    · exact if_neg (Ne.symm ne)
    · exact Named.find?_put_of_ne _ ne _
    · simp only [Cell.use, Deed.standing?, if_true, Option.getD_some]
      exact .started (Named.find?_put_self _ _ _)
  | drop reader =>
    refine tracks.step rfl reader (fun other ne => ⟨?_, ?_⟩) ?_
    · exact if_neg (Ne.symm ne)
    · exact Named.find?_erase_of_ne _ ne
    · simp only [Cell.use, Deed.standing?, if_true, Option.getD_some]
      exact .absent (Named.find?_erase_self _ _)

theorem Tracks.run (tracks : cell.Tracks record) (uses : List (Use V)) :
    (cell.run uses).Tracks (record ++ cell.deeds uses) := by
  induction uses generalizing cell record with
  | nil =>
    rw [deeds, List.append_nil]
    exact tracks
  | cons use rest ih =>
    have later := ih (tracks.use use)
    rw [List.append_assoc] at later
    exact later

/-- Once the cell is resolved, whoever waits is woken. -/
theorem Tracks.mem_woken (tracks : cell.Tracks record) {outcome : V}
    (first : record.outcome? = some outcome) (waits : record.standing reader = .waiting) :
    reader ∈ cell.woken := by
  have stands := tracks.readers reader
  rw [waits] at stands
  cases stands with
  | waits unresolved _ =>
    rw [tracks.outcome, first] at unresolved
    cases unresolved
  | notified _ there _ =>
    exact List.mem_map.mpr ⟨_, List.mem_filter.mpr ⟨Named.mem_of_find? there, rfl⟩, rfl⟩

/-! ### What a cell gives -/

/-- A cell with such a record releases all its readers with the value of the first resolution. -/
structure ReleasesReaders (cell : Cell V) (record : Record V) : Prop where
  /-- The first resolution succeeds, and wakes every reader that was polled and is there. -/
  first : record.outcome? = none → ∀ value,
    (cell.use (.resolve value)).1 = .resolved value (.ok ()) ∧
      ∀ reader, record.standing reader = .waiting → reader ∈ (cell.use (.resolve value)).2.woken
  /-- Every later one is refused and changes nothing. -/
  again : ∀ outcome, record.outcome? = some outcome → ∀ value,
    cell.use (.resolve value) = (.resolved value (.error .alreadyResolved), cell)
  /-- Before the first resolution there is no value, and no reader is ready. -/
  unresolved : record.outcome? = none →
    (cell.use .peek).1 = .peeked none ∧
      ∀ reader, record.standing reader ≠ .absent →
        (cell.use (.poll reader)).1 = .polled reader (some .pending)
  /-- From then on everybody is given its value, whatever else is done, and nobody who waits was
  missed. -/
  resolved : ∀ outcome, record.outcome? = some outcome → ∀ later,
    ((cell.run later).use .peek).1 = .peeked (some outcome) ∧
      ∀ reader, Record.standing (record ++ cell.deeds later) reader ≠ .absent →
        ((cell.run later).use (.poll reader)).1 = .polled reader (some (.ready outcome)) ∧
        (Record.standing (record ++ cell.deeds later) reader = .waiting →
          reader ∈ (cell.run later).woken)
  /-- Who is not there is told nothing. -/
  absent : ∀ reader, record.standing reader = .absent →
    cell.use (.poll reader) = (.polled reader none, cell)

theorem Tracks.use_poll (tracks : cell.Tracks record)
    (there : record.standing reader ≠ .absent) :
    (cell.use (.poll reader)).1 = .polled reader (some (match record.outcome? with
      | some outcome => .ready outcome
      | none => .pending)) := by
  have told : (cell.use (.poll reader)).1 = .polled reader (record.told? reader) :=
    congrArg (Deed.polled reader) (tracks.poll reader).1
  rw [told]
  unfold Record.told?
  split
  · exact absurd ‹_› there
  · rfl

theorem Tracks.releases (tracks : cell.Tracks record) : cell.ReleasesReaders record where
  first none value := by
    obtain ⟨taken, later⟩ := tracks.resolve value
    rw [none] at taken
    rw [taken] at later ⊢
    have found : Record.outcome? (record ++ [.resolved value (.ok ())]) = some value := by
      rw [Record.outcome?_append, none]
      rfl
    refine ⟨rfl, fun reader waits => later.mem_woken found ?_⟩
    rw [Record.standing_append]
    exact waits
  again outcome found value := by
    rw [(tracks.resolve value).1, found]
  unresolved none := by
    refine ⟨congrArg Deed.peeked (tracks.outcome.trans none), fun reader there => ?_⟩
    rw [tracks.use_poll there, none]
  resolved outcome found later := by
    have after := tracks.run later
    have still := Record.outcome?_of_some found (cell.deeds later)
    refine ⟨congrArg Deed.peeked (after.outcome.trans still), fun reader there => ⟨?_, ?_⟩⟩
    · rw [after.use_poll there, still]
    · exact after.mem_woken still
  absent reader gone := by
    have stands := tracks.readers reader
    rw [gone] at stands
    cases stands with
    | absent none => simp [Cell.use, Cell.poll, none]

/-- However a cell is resolved, looked at, read and left, the first resolution counts and releases
every reader with its value. -/
theorem releases_readers (uses : List (Use V)) :
    (({} : Cell V).run uses).ReleasesReaders (({} : Cell V).deeds uses) :=
  (tracks_fresh.run uses).releases

/-- A reader that waits is woken by the first of two resolutions, and one that comes late is given
the same value. -/
example :
    ({} : Cell String).deeds [.start "a", .poll "a", .resolve "one", .resolve "two", .poll "a",
      .start "b", .poll "b", .poll "b"] =
      [.started "a", .polled "a" (some .pending), .resolved "one" (.ok ()),
        .resolved "two" (.error .alreadyResolved), .polled "a" (some (.ready "one")),
        .started "b", .polled "b" (some (.ready "one")), .polled "b" none] := rfl

end RemoteCall.Cell
