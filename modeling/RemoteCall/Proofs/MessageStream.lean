import RemoteCall.MessageStream

/-!
# What a message stream has for its consumer

`MessageStream.Holds` describes a stream, with its producers and its consumer there, by what a
consumer can still get from it: the items that wait and the end, if it is fixed. Who was woken
and whether the end was seen before does not matter for that. `MessageStream.Yields` does the same
for a stream whose producers may have left: the consumer gets the items, and then an end that the
producers have fixed or that their leaving fixes.
-/

namespace RemoteCall.MessageStream

variable {α : Type}

section Fields

variable (s : MessageStream α)

theorem produced_push (item : α) : (s.push item).2.produced = s.produced := by
  unfold push
  split <;> rfl

theorem ending_push (item : α) : (s.push item).2.ending = s.ending := by
  unfold push
  split <;> rfl

theorem produced_finishWith (outcome : Result Unit) :
    (s.finishWith outcome).2.produced = s.produced := by
  unfold finishWith
  split <;> rfl

/-- The first finish counts. -/
theorem ending_finishWith (outcome : Result Unit) :
    (s.finishWith outcome).2.ending = some (s.ending.getD outcome) := by
  unfold finishWith isFinished
  cases h : s.ending with
  | none => rfl
  | some outcome' => exact h

theorem produced_pull : s.pull.2.produced = s.produced := by
  unfold pull
  split
  · rfl
  · split
    · rfl
    · split <;> rfl

theorem ending_pull : s.pull.2.ending = s.ending := by
  unfold pull
  split
  · rfl
  · split
    · rfl
    · split <;> rfl

end Fields

/-- The consumer can still get these items, and then this end. -/
structure Holds (s : MessageStream α) (items : List α) (final : Option (Result Unit)) : Prop where
  queue : s.queue = items
  ending : s.ending = final
  produced : s.produced = true
  consumed : s.consumed = true
  observed : s.observed = none ∨ items = [] ∧ s.observed = final

theorem holds_fresh : (fresh : MessageStream α).Holds [] none :=
  ⟨rfl, rfl, rfl, rfl, Or.inl rfl⟩

variable {s : MessageStream α} {items : List α}

theorem Holds.push (holds : s.Holds items none) (item : α) :
    (s.push item).2.Holds (items ++ [item]) none := by
  obtain ⟨queue, ending, produced, consumed, observed⟩ := holds
  have unseen : s.observed = none := observed.elim id And.right
  have taken : s.push item =
      (true, { s with queue := s.queue ++ [item], waker := s.waker.wake }) := by
    simp [MessageStream.push, isFinished, ending, consumed]
  rw [taken]
  exact ⟨congrArg (· ++ [item]) queue, ending, produced, consumed, Or.inl unseen⟩

theorem Holds.finishWith (holds : s.Holds items none) (outcome : Result Unit) :
    (s.finishWith outcome).2.Holds items (some outcome) := by
  obtain ⟨queue, ending, produced, consumed, observed⟩ := holds
  have unseen : s.observed = none := observed.elim id And.right
  have finished : s.finishWith outcome =
      (true, { s with ending := some outcome, waker := s.waker.wake }) := by
    simp [MessageStream.finishWith, isFinished, ending]
  rw [finished]
  exact ⟨queue, rfl, produced, consumed, Or.inl unseen⟩

/-- The first item comes first. -/
theorem Holds.pull_item {item : α} {final : Option (Result Unit)}
    (holds : s.Holds (item :: items) final) :
    s.pull.1 = .ready (.ok (some item)) ∧ s.pull.2.Holds items final := by
  have unseen : s.observed = none := holds.observed.elim id fun h => by cases h.1
  rw [pull_of_queue unseen holds.queue]
  exact ⟨rfl, rfl, holds.ending, holds.produced, holds.consumed, Or.inl unseen⟩

/-- Behind the items the end comes, as often as it is asked for. -/
theorem Holds.pull_ending {outcome : Result Unit} (holds : s.Holds [] (some outcome)) :
    s.pull.1 = .ready (ofEnding outcome) ∧ s.pull.2.Holds [] (some outcome) := by
  obtain ⟨queue, ending, produced, consumed, observed⟩ := holds
  rcases observed with unseen | ⟨-, seen⟩
  · have pulled : s.pull = (.ready (ofEnding outcome),
        { s with observed := some outcome, waker := .idle }) := by
      simp [pull, unseen, queue, finalOutcome?, ending]
    rw [pulled]
    exact ⟨rfl, queue, ending, produced, consumed, Or.inr ⟨rfl, rfl⟩⟩
  · rw [pull_of_observed seen]
    exact ⟨rfl, queue, ending, produced, consumed, Or.inr ⟨rfl, seen⟩⟩

/-- Without an end the consumer waits behind the items. -/
theorem Holds.pull_nothing (holds : s.Holds [] none) :
    s.pull.1 = .pending ∧ s.pull.2.Holds [] none := by
  obtain ⟨queue, ending, produced, consumed, observed⟩ := holds
  have unseen : s.observed = none := observed.elim id And.right
  have pulled : s.pull = (.pending, { s with waker := .armed }) := by
    simp [pull, unseen, queue, finalOutcome?, ending, produced]
  rw [pulled]
  exact ⟨rfl, queue, ending, produced, consumed, Or.inl unseen⟩

/-- The item that a pull has shown. -/
def pulledItem? : Poll (Result (Option α)) → Option α
  | .ready (.ok item) => item
  | _ => none

/-- The item that the other face has shown. -/
def shownItem? : Poll (Option (Result α)) → Option α
  | .ready (some (.ok item)) => some item
  | _ => none

/-- What a pull shows is the first item, or no item. -/
theorem Holds.pull {final : Option (Result Unit)} (holds : s.Holds items final) :
    ∃ rest, items = (pulledItem? s.pull.1).toList ++ rest ∧ s.pull.2.Holds rest final := by
  cases items with
  | cons item rest =>
    obtain ⟨answer, later⟩ := holds.pull_item
    refine ⟨rest, ?_, later⟩
    rw [answer]
    rfl
  | nil =>
    cases final with
    | none =>
      obtain ⟨answer, later⟩ := holds.pull_nothing
      refine ⟨[], ?_, later⟩
      rw [answer]
      rfl
    | some outcome =>
      obtain ⟨answer, later⟩ := holds.pull_ending
      refine ⟨[], ?_, later⟩
      rw [answer]
      cases outcome <;> rfl

/-- So it is with the face that shows an error once. -/
theorem Holds.next {final : Option (Result Unit)} (holds : s.Holds items final) :
    ∃ rest, items = (shownItem? s.next.1).toList ++ rest ∧ s.next.2.Holds rest final := by
  unfold MessageStream.next
  by_cases exhausted : s.exhausted = true
  · rw [if_pos exhausted]
    exact ⟨items, rfl, holds.queue, holds.ending, holds.produced, holds.consumed, holds.observed⟩
  · rw [if_neg exhausted]
    obtain ⟨rest, taken, later⟩ := holds.pull
    have exhausts : ({ s.pull.2 with exhausted := true } : MessageStream α).Holds rest final :=
      ⟨later.queue, later.ending, later.produced, later.consumed, later.observed⟩
    -- Only an end exhausts this face, and an end shows no item.
    rcases h : s.pull with ⟨answer, left⟩
    rw [h] at taken later exhausts
    match answer with
    | .pending => exact ⟨rest, taken, later⟩
    | .ready (.ok (some item)) => exact ⟨rest, taken, later⟩
    | .ready (.ok none) => exact ⟨rest, taken, exhausts⟩
    | .ready (.error e) => exact ⟨rest, taken, exhausts⟩

/-- A stream with its producers and its consumer there. -/
def Whole (s : MessageStream α) : Prop := ∃ items final, s.Holds items final

theorem Whole.push (whole : s.Whole) (item : α) : (s.push item).2.Whole := by
  obtain ⟨items, final, holds⟩ := whole
  cases final with
  | none => exact ⟨_, _, holds.push item⟩
  | some outcome =>
    rw [push_of_isFinished (by rw [isFinished, holds.ending]; rfl)]
    exact ⟨items, some outcome, holds⟩

theorem Whole.finishWith (whole : s.Whole) (outcome : Result Unit) :
    (s.finishWith outcome).2.Whole := by
  obtain ⟨items, final, holds⟩ := whole
  cases final with
  | none => exact ⟨_, _, holds.finishWith outcome⟩
  | some outcome' =>
    rw [finishWith_of_isFinished (by rw [isFinished, holds.ending]; rfl)]
    exact ⟨items, some outcome', holds⟩

theorem Whole.pull (whole : s.Whole) : s.pull.2.Whole := by
  obtain ⟨items, final, holds⟩ := whole
  obtain ⟨rest, -, later⟩ := holds.pull
  exact ⟨rest, final, later⟩

/-! ### Streams that may have been left -/

/-- What a pull shows when these items wait and this end stands behind them. -/
def offer (items : List α) (final : Option (Result Unit)) : Poll (Result (Option α)) :=
  match items, final with
  | item :: _, _ => .ready (.ok (some item))
  | [], some outcome => .ready (ofEnding outcome)
  | [], none => .pending

@[simp] theorem pulledItem?_offer (items : List α) (final : Option (Result Unit)) :
    pulledItem? (offer items final) = items.head? := by
  cases items with
  | cons item rest => rfl
  | nil =>
    cases final with
    | none => rfl
    | some outcome => cases outcome <;> rfl

/-- The consumer gets these items and then this end, whoever is still there to feed the stream. -/
structure Yields (s : MessageStream α) (items : List α) (final : Option (Result Unit)) :
    Prop where
  queue : s.queue = items
  ending : s.finalOutcome? = final
  observed : s.observed = none ∨ items = [] ∧ s.observed = final

theorem Holds.yields {final : Option (Result Unit)} (holds : s.Holds items final) :
    s.Yields items final := by
  obtain ⟨queue, ending, produced, consumed, observed⟩ := holds
  refine ⟨queue, ?_, observed⟩
  unfold finalOutcome?
  rw [ending, produced]
  cases final <;> rfl

/-- A stream that is left ends as it was going to, or with the cancellation. -/
theorem finalOutcome?_abandon (s : MessageStream α) :
    s.abandon.finalOutcome? = some (s.ending.getD (.error .cancelled)) := by
  unfold finalOutcome? MessageStream.abandon
  cases s.ending <;> rfl

/-- Without an end, it ends by being left. -/
theorem Holds.abandon {final : Option (Result Unit)} (holds : s.Holds items final) :
    s.abandon.Yields items (some (final.getD (.error .cancelled))) := by
  obtain ⟨queue, ending, produced, consumed, observed⟩ := holds
  refine ⟨queue, ?_, ?_⟩
  · rw [finalOutcome?_abandon, ending]
  · rcases observed with unseen | ⟨nothing, seen⟩
    · exact Or.inl unseen
    · cases final with
      | none => exact Or.inl seen
      | some outcome => exact Or.inr ⟨nothing, seen⟩

/-- A pull shows what is on offer, and takes the first item. -/
theorem Yields.pull {final : Option (Result Unit)} (yields : s.Yields items final) :
    s.pull.1 = offer items final ∧ s.pull.2.Yields items.tail final := by
  obtain ⟨queue, ending, observed⟩ := yields
  cases items with
  | cons item rest =>
    have unseen : s.observed = none := observed.elim id fun h => by cases h.1
    rw [pull_of_queue unseen queue]
    exact ⟨rfl, rfl, ending, Or.inl unseen⟩
  | nil =>
    cases final with
    | none =>
      have unseen : s.observed = none := observed.elim id And.right
      have pulled : s.pull = (.pending, { s with waker := .armed }) := by
        simp [MessageStream.pull, unseen, queue, ending]
      rw [pulled]
      exact ⟨rfl, queue, ending, Or.inl unseen⟩
    | some outcome =>
      rcases observed with unseen | ⟨-, seen⟩
      · have pulled : s.pull = (.ready (ofEnding outcome),
            { s with observed := some outcome, waker := .idle }) := by
          simp [MessageStream.pull, unseen, queue, ending]
        rw [pulled]
        exact ⟨rfl, queue, ending, Or.inr ⟨rfl, rfl⟩⟩
      · rw [pull_of_observed seen]
        exact ⟨rfl, queue, ending, Or.inr ⟨rfl, seen⟩⟩

/-- An end that the consumer gets anyway does not change when the stream is left. -/
theorem Yields.abandon {outcome : Result Unit} (yields : s.Yields items (some outcome)) :
    s.abandon.Yields items (some outcome) := by
  obtain ⟨queue, ending, observed⟩ := yields
  refine ⟨queue, ?_, observed⟩
  unfold finalOutcome? at ending
  rw [finalOutcome?_abandon]
  cases fixed : s.ending with
  | some outcome' =>
    rw [fixed] at ending
    exact ending
  | none =>
    rw [fixed] at ending
    exact (Option.ite_none_left_eq_some.mp ending).2

/-- Pulling on to the end gives the items and then the end. -/
theorem Yields.drain {outcome : Result Unit} (yields : s.Yields items (some outcome)) :
    s.drain.1 =
      items.map (fun item => .ready (.ok (some item))) ++ [.ready (ofEnding outcome)] := by
  unfold MessageStream.drain
  rw [yields.queue]
  induction items generalizing s with
  | nil => simp [drain.go, yields.pull.1, offer]
  | cons item rest ih =>
    obtain ⟨answer, later⟩ := yields.pull
    have pulled : s.pull = (.ready (.ok (some item)), s.pull.2) := Prod.ext answer rfl
    unfold drain.go
    rw [pulled]
    simp only [List.map_cons, List.cons_append]
    exact congrArg _ (ih later)

theorem Holds.drain {outcome : Result Unit} (holds : s.Holds items (some outcome)) :
    s.drain.1 =
      items.map (fun item => .ready (.ok (some item))) ++ [.ready (ofEnding outcome)] :=
  holds.yields.drain

end RemoteCall.MessageStream
