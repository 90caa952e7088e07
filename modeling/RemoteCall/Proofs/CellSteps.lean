import RemoteCall.CellSteps
import RemoteCall.Proofs.Routine
import RemoteCall.Proofs.WriteOnce

/-!
# Cells whose uses overlap

Left alone, the steps of a use do what the use does (`Use.alone_steps`). When uses overlap, a reader
may be between taking the count of the notifications and looking at the slot, and a resolution
between setting the slot and notifying. No reader is left behind all the same: one that found no
value has taken its count before the first notification (`Steps.heeds_wait`), and whoever sets the
slot notifies (`Use.prompts_steps`). So everybody who waits is woken (`releases_overlapping`).
-/

namespace RemoteCall.Cell

open Routine

variable {V : Type}

/-- A use, step by step. -/
def Use.steps : Use V → Routine (Cell V) (Deed V)
  | .resolve value => do
    let answer ← Steps.resolve value
    return .resolved value answer
  | .peek => do
    let answer ← .read Cell.peek
    return .peeked answer
  | .start reader => do
    .act fun cell => cell.start reader
    return .started reader
  | .poll reader => do
    let answer ← Steps.poll reader
    return .polled reader answer
  | .drop reader => do
    let was ← .atomically fun cell => cell.dropReader reader
    return .dropped reader was

/-! ### Alone -/

namespace Steps

theorem alone?_resolve (value : V) (cell : Cell V) :
    (resolve value).alone? cell = some (cell.resolve value) := by
  unfold resolve
  simp only [alone?_bind, alone?_atomically, Option.bind_some, set, Cell.resolve, WriteOnce.answer]
  by_cases resolved : cell.slot.isResolved = true
  · simp only [if_pos resolved, WriteOnce.settle_of_isResolved resolved]
    rfl
  · simp only [if_neg resolved]
    rfl

theorem alone?_await (reader : String) (earlier : Nat) (cell : Cell V) :
    (await reader earlier).alone? cell = some (
      if earlier < cell.notifications then cell.look reader
      else (.pending,
        { cell with readers := cell.readers.put reader (.waiting earlier .armed) })) := by
  unfold await
  simp only [alone?_bind, alone?_atomically, Option.bind_some, sleep]
  by_cases notified : earlier < cell.notifications
  · simp only [if_pos notified, if_true]
    rfl
  · simp only [if_neg notified]
    rfl

theorem alone?_wait (reader : String) (cell : Cell V) :
    (wait reader).alone? cell = some (cell.look reader) := by
  unfold wait
  simp only [alone?_bind, alone?_atomically, alone?_read, Option.bind_some, check, look]
  cases cell.slot.value? with
  | some value => rfl
  | none => exact (alone?_await reader _ cell).trans (by rw [if_neg (Nat.lt_irrefl _)])

theorem alone?_poll (reader : String) (cell : Cell V) :
    (poll reader).alone? cell = some (cell.poll reader) := by
  unfold poll Cell.poll
  simp only [alone?_bind, alone?_read, Option.bind_some]
  cases cell.readers.find? reader with
  | none => rfl
  | some standing =>
    cases standing with
    | started =>
      simp only [resume, alone?_bind, alone?_wait]
      rfl
    | waiting earlier waker =>
      simp only [resume, alone?_bind, alone?_await, Option.bind_some]
      split <;> rfl

end Steps

/-- Left alone, the steps of a use do what the use does. -/
theorem Use.alone_steps (use : Use V) (cell : Cell V) :
    use.steps.alone? cell = some (cell.use use) := by
  cases use with
  | resolve value =>
    simp only [steps, alone?_bind, Steps.alone?_resolve]
    rfl
  | poll reader =>
    simp only [steps, alone?_bind, Steps.alone?_poll]
    rfl
  | _ => rfl

/-! ### What every step keeps -/

/-- The slot is set before anybody is notified, and nobody sleeps who took the count after that. -/
structure Sound (cell : Cell V) : Prop where
  notified : 0 < cell.notifications → cell.slot.isResolved = true
  waits : ∀ reader earlier waker, cell.readers.find? reader = some (.waiting earlier waker) →
    earlier = 0 ∧ (waker = .woken ∨ waker = .armed ∧ cell.notifications = 0)

variable {cell cell' : Cell V}

/-- A reader that was notified finds the value. -/
theorem Sound.look (sound : cell.Sound) (notified : 0 < cell.notifications) (reader : String) :
    ∃ value, cell.slot.value? = some value ∧
      cell.look reader = (.ready value, { cell with readers := cell.readers.erase reader }) := by
  obtain ⟨value, known⟩ := Option.isSome_iff_exists.mp (sound.notified notified)
  exact ⟨value, known, by simp [Cell.look, known]⟩

/-- A reader that goes away, or has not been polled yet, leaves the cell sound. -/
theorem Sound.of_readers (sound : cell.Sound) {readers : Named Reader} (reader : String)
    (others : ∀ other, other ≠ reader → readers.find? other = cell.readers.find? other)
    (quiet : ∀ earlier waker, readers.find? reader = some (.waiting earlier waker) →
      earlier = 0 ∧ (waker = .woken ∨ waker = .armed ∧ cell.notifications = 0)) :
    { cell with readers }.Sound where
  notified := sound.notified
  waits other earlier waker there := by
    by_cases same : other = reader
    · exact quiet earlier waker (same ▸ there)
    · exact sound.waits other earlier waker ((others other same).symm.trans there)

theorem Sound.erase (sound : cell.Sound) (reader : String) :
    { cell with readers := cell.readers.erase reader }.Sound := by
  refine sound.of_readers reader (fun _ ne => Named.find?_erase_of_ne _ ne) ?_
  rw [Named.find?_erase_self]
  exact nofun

theorem Sound.start (sound : cell.Sound) (reader : String) : (cell.start reader).Sound := by
  refine sound.of_readers reader (fun _ ne => Named.find?_put_of_ne _ ne _) ?_
  rw [Named.find?_put_self]
  exact nofun

/-- A reader that took the count before the first notification goes to sleep before it. -/
theorem Sound.sleep (sound : cell.Sound) (reader : String) : (cell.sleep reader 0).2.Sound := by
  unfold Cell.sleep
  split
  · exact sound
  · next none =>
    refine sound.of_readers reader (fun _ ne => Named.find?_put_of_ne _ ne _) ?_
    rw [Named.find?_put_self]
    rintro earlier waker ⟨⟩
    exact ⟨rfl, Or.inr ⟨rfl, Nat.eq_zero_of_not_pos none⟩⟩

theorem Sound.set (sound : cell.Sound) (value : V) : (cell.set value).2.Sound where
  notified _ := WriteOnce.isResolved_settle cell.slot value
  waits := sound.waits

theorem Sound.notifyAll (sound : cell.Sound) (resolved : cell.slot.isResolved = true) :
    cell.notifyAll.Sound where
  notified _ := resolved
  waits reader earlier waker there := by
    have woken : cell.notifyAll.readers.find? reader =
        (cell.readers.find? reader).map Reader.wake :=
      Named.find?_map cell.readers Reader.wake reader
    rw [woken] at there
    obtain ⟨standing, found, wakes⟩ := Option.map_eq_some_iff.mp there
    cases standing with
    | started => cases wakes
    | waiting earlier' waker' =>
      cases wakes
      obtain ⟨first, rfl | ⟨rfl, -⟩⟩ := sound.waits reader earlier waker' found
      · exact ⟨first, Or.inl rfl⟩
      · exact ⟨first, Or.inl rfl⟩

/-- What a step does to a cell: the slot keeps its value, the notifications are counted on, and the
cell stays sound. -/
structure Goes (cell cell' : Cell V) : Prop where
  slot : ∀ value, cell.slot.value? = some value → cell'.slot.value? = some value
  notifications : cell.notifications ≤ cell'.notifications
  sound : cell.Sound → cell'.Sound

namespace Goes

theorem refl (cell : Cell V) : cell.Goes cell := ⟨fun _ => id, Nat.le_refl _, id⟩

theorem trans {first second third : Cell V} (before : first.Goes second)
    (after : second.Goes third) : first.Goes third :=
  ⟨fun value known => after.slot value (before.slot value known),
    Nat.le_trans before.notifications after.notifications,
    fun sound => after.sound (before.sound sound)⟩

/-- A change of the readers. -/
theorem of_readers {readers : Named Reader}
    (sound : cell.Sound → { cell with readers }.Sound) : cell.Goes { cell with readers } :=
  ⟨fun _ => id, Nat.le_refl _, sound⟩

theorem check (cell : Cell V) (reader : String) : cell.Goes (cell.check reader).2 := by
  unfold Cell.check
  split
  · exact of_readers fun sound => sound.erase reader
  · exact refl cell

theorem sleep (cell : Cell V) (reader : String) : cell.Goes (cell.sleep reader 0).2 where
  slot value known := by
    unfold Cell.sleep
    split <;> exact known
  notifications := by
    unfold Cell.sleep
    split <;> exact Nat.le_refl _
  sound sound := sound.sleep reader

theorem look (notified : 0 < cell.notifications) (reader : String) :
    cell.Goes (cell.look reader).2 where
  slot value known := by
    unfold Cell.look
    split <;> exact known
  notifications := by
    unfold Cell.look
    split <;> exact Nat.le_refl _
  sound sound := by
    obtain ⟨value, -, looked⟩ := sound.look notified reader
    rw [looked]
    exact sound.erase reader

theorem set (cell : Cell V) (value : V) : cell.Goes (cell.set value).2 where
  slot first known := by
    have same := WriteOnce.value?_settle cell.slot value
    rw [known] at same
    exact same
  notifications := Nat.le_refl _
  sound sound := sound.set value

end Goes

namespace Steps

theorem heeds_resolve (value : V) (cell : Cell V) :
    (resolve value).Heeds Goes Goes cell := by
  intro cell others _
  refine ⟨Goes.set cell value, ?_⟩
  have resolved : ∀ later : Cell V, (cell.set value).2.Goes later →
      later.slot.isResolved = true := by
    intro later goes
    obtain ⟨first, known⟩ := Option.isSome_iff_exists.mp
      (WriteOnce.isResolved_settle cell.slot value)
    rw [WriteOnce.isResolved, goes.slot first known]
    rfl
  show Heeds Goes Goes (announce (cell.set value).1) _
  cases (cell.set value).1 with
  | ok u =>
    exact fun later goes _ => ⟨⟨fun _ => id, Nat.le_succ _, fun sound =>
      sound.notifyAll (resolved later goes)⟩, trivial⟩
  | error e => exact trivial

/-- A reader that took the count before the first notification. -/
theorem heeds_await (reader : String) (cell : Cell V) :
    (await reader 0).Heeds Goes Goes cell := by
  intro cell others _
  refine ⟨Goes.sleep cell reader, ?_⟩
  show Heeds Goes Goes (if (cell.sleep reader 0).1 then
    .atomically fun cell => cell.look reader else return .pending) _
  by_cases notified : 0 < cell.notifications
  · have told : cell.sleep reader 0 = (true, cell) := if_pos notified
    rw [told, if_pos rfl]
    intro later goes _
    have still : 0 < later.notifications :=
      Nat.lt_of_lt_of_le notified ((Goes.sleep cell reader).trans goes).notifications
    exact ⟨Goes.look still reader, trivial⟩
  · have told : (cell.sleep reader 0).1 = false := by rw [Cell.sleep, if_neg notified]
    rw [told]
    exact trivial

/-- A reader that finds no value has taken the count before the first notification. -/
theorem heeds_wait (reader : String) (sound : cell.Sound) :
    (wait reader).Heeds Goes Goes cell := by
  intro counting others _
  refine ⟨Goes.refl counting, fun checking goes _ => ⟨Goes.check checking reader, ?_⟩⟩
  show Heeds Goes Goes (orAwait reader counting.notifications (checking.check reader).1) _
  cases known : checking.slot.value? with
  | some value =>
    rw [show (checking.check reader).1 = some value by simp [Cell.check, known]]
    exact trivial
  | none =>
    rw [show (checking.check reader).1 = none by simp [Cell.check, known]]
    have first : counting.notifications = 0 := by
      refine Nat.eq_zero_of_not_pos fun notified => ?_
      obtain ⟨value, set⟩ := Option.isSome_iff_exists.mp ((others.sound sound).notified notified)
      cases known.symm.trans (goes.slot value set)
    show (await reader counting.notifications).Heeds Goes Goes _
    rw [first]
    exact heeds_await reader _

theorem heeds_poll (reader : String) (sound : cell.Sound) :
    (poll reader).Heeds Goes Goes cell := by
  intro cell' others _
  have sound' := others.sound sound
  refine ⟨Goes.refl cell', ?_⟩
  show Heeds Goes Goes (resume reader (cell'.readers.find? reader)) _
  cases there : cell'.readers.find? reader with
  | none => exact trivial
  | some standing =>
    cases standing with
    | started => exact (heeds_wait reader sound').bind fun _ _ => trivial
    | waiting earlier waker =>
      obtain ⟨rfl, -⟩ := sound'.waits reader earlier waker there
      exact (heeds_await reader cell').bind fun _ _ => trivial

end Steps

theorem Use.heeds_steps (use : Use V) (sound : cell.Sound) : use.steps.Heeds Goes Goes cell := by
  cases use with
  | resolve value => exact (Steps.heeds_resolve value cell).bind fun _ _ => trivial
  | poll reader => exact (Steps.heeds_poll reader sound).bind fun _ _ => trivial
  | peek => exact fun cell _ _ => ⟨Goes.refl cell, trivial⟩
  | start reader => exact fun cell _ _ => ⟨Goes.of_readers fun sound => sound.start reader, trivial⟩
  | drop reader => exact fun cell _ _ => ⟨Goes.of_readers fun sound => sound.erase reader, trivial⟩

/-! ### Who is told, and who is woken -/

/-- A deed that tells of this value: somebody was given it, or has given it to the cell. -/
def Deed.Tells (value : V) : Deed V → Prop
  | resolved taken answer => answer = .ok () ∧ taken = value
  | peeked answer => answer = some value
  | polled _ answer => answer = some (.ready value)
  | _ => False

/-- The slot has this value. -/
def Has (value : V) (cell : Cell V) : Prop := cell.slot.value? = some value

def IsSet (cell : Cell V) : Prop := cell.slot.isResolved = true

def IsNotified (cell : Cell V) : Prop := 0 < cell.notifications

theorem has_of_look {value : V} {reader : String} (told : (cell.look reader).1 = .ready value) :
    (cell.look reader).2.Has value := by
  unfold look at told ⊢
  cases known : cell.slot.value? with
  | none => simp [known] at told
  | some found =>
    simp only [known, Poll.ready.injEq] at told ⊢
    rw [Has, ← told]
    exact known

theorem has_of_check {value : V} {reader : String} (found : (cell.check reader).1 = some value) :
    (cell.check reader).2.Has value := by
  unfold check at found ⊢
  cases known : cell.slot.value? with
  | none => simp [known] at found
  | some first =>
    simp only [known, Option.some.injEq] at found ⊢
    rw [Has, ← found]
    exact known

namespace Steps

/-- A resolution that succeeds has given the cell its value. -/
theorem attains_resolve (value : V) :
    (resolve value).Attains (Has value) fun answer => answer = .ok () := by
  intro cell _
  by_cases resolved : cell.slot.isResolved = true
  · refine Or.inr ?_
    have refused : (cell.set value).1 = .error .alreadyResolved := if_pos resolved
    show Attains _ _ (announce (cell.set value).1)
    rw [refused]
    exact nofun
  · refine Or.inl ?_
    show (cell.slot.settle value).value? = some value
    have none : cell.slot.value? = none := by simpa [WriteOnce.isResolved] using resolved
    rw [WriteOnce.value?_settle, none]
    rfl

theorem attains_await (value : V) (reader : String) (earlier : Nat) :
    (await reader earlier).Attains (Has value) fun answer => answer = .ready value := by
  intro cell _
  refine Or.inr ?_
  show Attains _ _ (if (cell.sleep reader earlier).1 then
    .atomically fun cell => cell.look reader else return .pending : Routine (Cell V) (Poll V))
  split
  · intro later _
    by_cases told : (later.look reader).1 = .ready value
    · exact Or.inl (has_of_look told)
    · exact Or.inr told
  · exact nofun

/-- A reader is given what it has found in the slot. -/
theorem attains_poll (value : V) (reader : String) :
    (poll reader).Attains (Has value) fun answer => answer = some (.ready value) := by
  have waits : (wait reader).Attains (Has value) fun answer => answer = .ready value := by
    refine fun _ _ => Or.inr fun cell _ => ?_
    by_cases found : (cell.check reader).1 = some value
    · exact Or.inl (has_of_check found)
    · refine Or.inr ?_
      show Attains _ _ (orAwait reader _ (cell.check reader).1)
      cases same : (cell.check reader).1 with
      | some other => exact fun told => found (same.trans (congrArg some (Poll.ready.inj told)))
      | none => exact attains_await value reader _
  refine fun cell _ => Or.inr ?_
  show Attains _ _ (resume reader (cell.readers.find? reader))
  have passed : ∀ answer : Poll V, ¬answer = .ready value → ¬some answer = some (.ready value) :=
    fun _ other same => other (Option.some.inj same)
  cases cell.readers.find? reader with
  | none => exact nofun
  | some standing =>
    cases standing with
    | started => exact waits.bind passed
    | waiting earlier waker => exact (attains_await value reader earlier).bind passed

end Steps

theorem Use.attains_steps (value : V) (use : Use V) :
    use.steps.Attains (Has value) (Deed.Tells value) := by
  cases use with
  | resolve taken =>
    by_cases same : taken = value
    · subst same
      exact (Steps.attains_resolve taken).bind fun _ failed told => failed told.1
    · exact Attains.behind _ fun _ told => same told.2
  | poll reader => exact (Steps.attains_poll value reader).bind fun _ => id
  | peek =>
    intro cell _
    by_cases known : cell.slot.value? = some value
    · exact Or.inl known
    · exact Or.inr known
  | start reader => exact fun _ _ => Or.inr id
  | drop reader => exact fun _ _ => Or.inr id

/-- What readers do: the slot and the notifications are left alone. -/
def Spares (cell cell' : Cell V) : Prop :=
  cell'.slot = cell.slot ∧ cell'.notifications = cell.notifications

namespace Steps

variable {holds : (α : Type) → Routine (Cell V) α → Prop} (covers : Covers Spares holds)

include covers

theorem covers_await (reader : String) (earlier : Nat) : holds (Poll V) (await reader earlier) := by
  have sleeps : ∀ cell : Cell V, cell.Spares (cell.sleep reader earlier).2 := by
    intro cell
    unfold sleep
    split <;> exact ⟨rfl, rfl⟩
  have looks : ∀ cell : Cell V, cell.Spares (cell.look reader).2 := by
    intro cell
    unfold look
    split <;> exact ⟨rfl, rfl⟩
  refine covers.bind (covers.atomically sleeps) fun notified => ?_
  cases notified with
  | true => exact covers.atomically looks
  | false => exact covers.value _

theorem covers_poll (reader : String) : holds (Option (Poll V)) (poll reader) := by
  have checks : ∀ cell : Cell V, cell.Spares (cell.check reader).2 := by
    intro cell
    unfold check
    split <;> exact ⟨rfl, rfl⟩
  have waits : holds (Poll V) (wait reader) := by
    refine covers.bind (covers.single _ id _ fun _ => ⟨rfl, rfl⟩) fun earlier =>
      covers.bind (covers.atomically checks) fun found => ?_
    cases found with
    | some value => exact covers.value _
    | none => exact covers_await covers reader earlier
  refine covers.bind (covers.single _ id _ fun _ => ⟨rfl, rfl⟩) fun there => ?_
  cases there with
  | none => exact covers.value _
  | some standing =>
    cases standing with
    | started => exact covers.bind waits fun _ => covers.value _
    | waiting earlier waker =>
      exact covers.bind (covers_await covers reader earlier) fun _ => covers.value _

end Steps

/-- What holds of all that readers do, and of the resolutions, holds of every use. -/
theorem Use.covers_steps {holds : (α : Type) → Routine (Cell V) α → Prop}
    (covers : Covers Spares holds) (resolves : ∀ value, holds (Result Unit) (Steps.resolve value))
    (use : Use V) : holds (Deed V) use.steps := by
  have still : ∀ cell : Cell V, cell.Spares cell := fun _ => ⟨rfl, rfl⟩
  cases use with
  | resolve value => exact covers.bind (resolves value) fun _ => covers.value _
  | poll reader => exact covers.bind (Steps.covers_poll covers reader) fun _ => covers.value _
  | peek => exact covers.bind (covers.single _ id _ still) fun _ => covers.value _
  | start reader =>
    exact covers.bind (covers.act fun _ => ⟨rfl, rfl⟩) fun _ => covers.value _
  | drop reader =>
    exact covers.bind (covers.atomically fun _ => ⟨rfl, rfl⟩) fun _ => covers.value _

/-- Whoever sets the slot notifies the readers. -/
theorem Use.prompts_steps (use : Use V) : use.steps.Prompts IsSet IsNotified := by
  refine use.covers_steps (covers_prompts fun cell cell' spares set => Or.inl ?_) fun value => ?_
  · rwa [IsSet, spares.1] at set
  · refine fun cell _ => ⟨fun _ => ?_, ?_⟩
    · by_cases resolved : cell.slot.isResolved = true
      · exact Or.inl resolved
      · have taken : (cell.set value).1 = .ok () := if_neg resolved
        refine Or.inr (Or.inr ?_)
        show Owes IsNotified (Steps.announce (cell.set value).1)
        rw [taken]
        exact fun cell _ => Or.inl (Nat.succ_pos _)
    · show Prompts IsSet IsNotified (Steps.announce (cell.set value).1)
      cases (cell.set value).1 with
      | ok u => exact fun _ _ => ⟨Or.inl, trivial⟩
      | error e => exact trivial

/-- What resolutions and readers leave in force stays in force. -/
theorem Use.keeps_steps {I : Cell V → Prop}
    (spares : ∀ cell cell', Spares cell cell' → I cell → I cell')
    (sets : ∀ value cell, I cell → I (cell.set value).2)
    (notifies : ∀ cell, I cell → I cell.notifyAll) (use : Use V) :
    use.steps.Keeps (fun _ => True) (fun cell cell' => I cell → I cell') fun _ => True := by
  refine use.covers_steps (covers_keeps spares) fun value => ?_
  refine Keeps.bind (keeps_atomically (Q := fun _ => True) fun cell _ => ⟨sets value cell, trivial⟩)
    fun answer _ => ?_
  cases answer with
  | ok u => exact Keeps.bind (keeps_act fun cell _ => notifies cell) fun _ _ => trivial
  | error e => exact trivial

/-! ### Overlapping uses -/

/-- What overlapping uses have made of a fresh cell. -/
def overlap (turns : List (Crowd.Turn (Use V))) : Crowd (Use V) (Cell V) (Deed V) :=
  Crowd.after Use.steps { state := {} } turns

theorem heeding_overlap (turns later : List (Crowd.Turn (Use V))) :
    (overlap turns).state.Sound ∧ (overlap turns).state.Goes (overlap (turns ++ later)).state := by
  have fresh : ({} : Cell V).Sound := ⟨nofun, fun _ _ _ there => by cases there⟩
  have after : ∀ (c : Crowd (Use V) (Cell V) (Deed V)) (first : Cell V) more,
      c.Heeding Goes (fun _ => Goes) → first.Sound ∧ first.Goes c.state →
        (c.after Use.steps more).Heeding Goes (fun _ => Goes) ∧
          first.Sound ∧ first.Goes (c.after Use.steps more).state := fun c first more heeding now =>
    heeding.after (I := fun _ cell => first.Sound ∧ first.Goes cell)
      (fun _ use _ goes => use.heeds_steps (goes.2.sound goes.1)) Goes.refl
      (fun _ _ _ => Goes.trans) (fun _ _ _ => id) (fun _ _ _ => id)
      (fun _ _ _ _ _ goes now => ⟨now.1, now.2.trans goes⟩) now more
  obtain ⟨heeding, sound, goes⟩ := after { state := {} } {} turns nofun ⟨fresh, Goes.refl _⟩
  have still : (overlap turns).state.Sound := goes.sound sound
  refine ⟨still, ?_⟩
  have further := (after (overlap turns) _ later heeding ⟨still, Goes.refl _⟩).2.2
  unfold overlap at further ⊢
  rwa [Crowd.after_append]

/-- What somebody was told is in the slot. -/
theorem has_of_returned {turns : List (Crowd.Turn (Use V))} {use : Use V} {deed : Deed V}
    {value : V} (returned : (overlap turns).Returned use deed) (tells : deed.Tells value) :
    (overlap turns).state.Has value := by
  have spares : ∀ use : Use V, use.steps.Keeps (fun _ => True)
      (fun cell cell' => cell.Has value → cell'.Has value) fun _ => True :=
    Use.keeps_steps (fun cell cell' spares has => by rwa [Has, spares.1])
      (fun other cell has => (Goes.set cell other).slot value has) fun _ => id
  have nobody : (⟨{}, []⟩ : Crowd (Use V) (Cell V) (Deed V)).Bound
      (fun _ deed => deed.Tells value) (Has value) :=
    ⟨⟨trivial, fun _ _ _ found => by cases found⟩, Or.inr nofun⟩
  exact (nobody.after spares (Use.attains_steps value) turns).returned returned tells

/-- Once every use has returned, a cell with a value has notified its readers. -/
theorem notified_of_settled {turns : List (Crowd.Turn (Use V))}
    (settled : (overlap turns).Settled) (set : (overlap turns).state.IsSet) :
    (overlap turns).state.IsNotified := by
  have spares : ∀ use : Use V, use.steps.Keeps (fun _ => True)
      (fun cell cell' => cell.IsNotified → cell'.IsNotified) fun _ => True :=
    Use.keeps_steps (fun cell cell' spares notified => by rwa [IsNotified, spares.2])
      (fun _ _ => id) fun _ _ => Nat.succ_pos _
  have nobody : (⟨{}, []⟩ : Crowd (Use V) (Cell V) (Deed V)).Pending IsSet IsNotified :=
    ⟨⟨⟨trivial, fun _ _ _ found => by cases found⟩, nofun⟩, fun set => by cases set⟩
  exact (nobody.after spares Use.prompts_steps turns).settled settled set

/-- However the uses of a cell overlap, everybody who is told a value is told the same one, for
good; and once all uses have returned, whoever still waits for it was woken and will be given it. -/
theorem releases_overlapping (turns : List (Crowd.Turn (Use V))) :
    (∀ use deed value, (overlap turns).Returned use deed → deed.Tells value →
      ∀ later, (overlap (turns ++ later)).state.Has value) ∧
    ((overlap turns).Settled → ∀ value, (overlap turns).state.Has value →
      ∀ reader earlier waker,
        (overlap turns).state.readers.find? reader = some (.waiting earlier waker) →
          reader ∈ (overlap turns).state.woken ∧
            ((overlap turns).state.poll reader).1 = some (.ready value)) := by
  refine ⟨fun use deed value returned tells later =>
    (heeding_overlap turns later).2.slot value (has_of_returned returned tells), ?_⟩
  intro settled value has reader earlier waker there
  have sound := (heeding_overlap turns []).1
  have set : (overlap turns).state.IsSet := by
    rw [IsSet, WriteOnce.isResolved, show _ = some value from has]
    rfl
  have notified := notified_of_settled settled set
  obtain ⟨rfl, rfl | ⟨-, none⟩⟩ := sound.waits reader earlier waker there
  · refine ⟨List.mem_map.mpr ⟨_, List.mem_filter.mpr ⟨Named.mem_of_find? there, rfl⟩, rfl⟩, ?_⟩
    obtain ⟨found, known, looked⟩ := sound.look notified reader
    obtain rfl := Option.some.inj (known.symm.trans has)
    have counted : 0 < (overlap turns).state.notifications := notified
    simp [Cell.poll, there, counted, looked]
  · exact absurd none (Nat.ne_of_gt notified)

/-- A reader that has found no value, and is not asleep yet when the cell is resolved, looks
again. -/
example : (overlap ([.begin (.start "a"), .go 0, .begin (.poll "a"), .go 1, .go 1, .go 1,
    .begin (.resolve "one"), .go 2, .go 2, .go 1, .go 1] : List (Crowd.Turn (Use String)))).Returned
      (.poll "a") (.polled "a" (some (.ready "one"))) :=
  List.mem_of_getElem? (i := 1) rfl

end RemoteCall.Cell
