import RemoteCall.Proofs.MessageStream

/-!
# A message stream is a queue with an end that stays

Any number of producers and one consumer use a stream in any order. What comes of each use is a
`Deed`, and all the deeds of a run are its `Record`. From the record alone one reads which items
were pushed and which were obtained, by whom the stream was finished first, who is left, and
whether a poll has shown the end. `ProducedStream.Tracks` says that the state of the stream is
what the record says, each use keeps it, and so every answer is the one that a queue would give
(`ProducedStream.refines_queue`).
-/

namespace RemoteCall

namespace MessageStream

variable {α : Type}

/-- Whether a pull has shown the end. -/
def isEnd : Poll (Result (Option α)) → Bool
  | .ready (.ok none) => true
  | .ready (.error _) => true
  | _ => false

/-- What the face `next` makes of a pull. -/
def face : Poll (Result (Option α)) → Poll (Option (Result α))
  | .pending => .pending
  | .ready (.ok (some item)) => .ready (some (.ok item))
  | .ready (.ok none) => .ready none
  | .ready (.error e) => .ready (some (.error e))

@[simp] theorem isEnd_ofEnding (outcome : Result Unit) :
    isEnd (.ready (ofEnding outcome) : Poll (Result (Option α))) = true := by
  cases outcome <;> rfl

@[simp] theorem pulledItem?_ofEnding (outcome : Result Unit) :
    pulledItem? (.ready (ofEnding outcome) : Poll (Result (Option α))) = none := by
  cases outcome <;> rfl

@[simp] theorem shownItem?_face (answer : Poll (Result (Option α))) :
    shownItem? (face answer) = pulledItem? answer := by
  match answer with
  | .pending => rfl
  | .ready (.ok (some item)) => rfl
  | .ready (.ok none) => rfl
  | .ready (.error e) => rfl

theorem offer_eq_pending_iff (items : List α) (final : Option (Result Unit)) :
    offer items final = .pending ↔ items = [] ∧ final = none := by
  cases items with
  | cons item rest => simp [offer]
  | nil => cases final <;> simp [offer]

theorem face_eq_pending_iff (answer : Poll (Result (Option α))) :
    face answer = .pending ↔ answer = .pending := by
  match answer with
  | .pending => simp [face]
  | .ready (.ok (some item)) => simp [face]
  | .ready (.ok none) => simp [face]
  | .ready (.error e) => simp [face]

/-- All that a pull can do. -/
inductive Pulls (s : MessageStream α) :
    Poll (Result (Option α)) × MessageStream α → Prop where
  /-- The end is seen again. -/
  | again (ending : Result Unit) (seen : s.observed = some ending) :
    Pulls s (.ready (ofEnding ending), { s with waker := .idle })
  | item (item : α) (rest : List α) (unseen : s.observed = none) (queue : s.queue = item :: rest) :
    Pulls s (.ready (.ok (some item)), { s with queue := rest, waker := .idle })
  /-- The end is seen for the first time. -/
  | ending (ending : Result Unit) (unseen : s.observed = none) (queue : s.queue = [])
      (final : s.finalOutcome? = some ending) :
    Pulls s (.ready (ofEnding ending), { s with observed := some ending, waker := .idle })
  | waits (unseen : s.observed = none) (queue : s.queue = []) (final : s.finalOutcome? = none) :
    Pulls s (.pending, { s with waker := .armed })

theorem pulls_pull (s : MessageStream α) : s.Pulls s.pull := by
  cases seen : s.observed with
  | some ending =>
    rw [pull_of_observed seen]
    exact .again ending seen
  | none =>
    cases queue : s.queue with
    | cons item rest =>
      rw [pull_of_queue seen queue]
      exact .item item rest seen queue
    | nil =>
      cases final : s.finalOutcome? with
      | some ending =>
        have pulled : s.pull = (.ready (ofEnding ending),
            { s with observed := some ending, waker := .idle }) := by
          simp [pull, seen, queue, final]
        rw [pulled]
        exact .ending ending seen queue final
      | none =>
        have pulled : s.pull = (.pending, { s with waker := .armed }) := by
          simp [pull, seen, queue, final]
        rw [pulled]
        exact .waits seen queue final

/-- A pull leaves it to the other face what that has shown. -/
theorem exhausted_pull (s : MessageStream α) : s.pull.2.exhausted = s.exhausted := by
  have pulls := pulls_pull s
  generalize s.pull = result at pulls
  cases pulls <;> rfl

/-- A poll through the other face is a pull, until that face has shown the end. -/
theorem next_of_open {s : MessageStream α} (showing : s.exhausted = false) :
    s.next = (face s.pull.1, { s.pull.2 with exhausted := isEnd s.pull.1 }) := by
  have same : s.pull.2.exhausted = false := (exhausted_pull s).trans showing
  unfold next
  rw [showing, if_neg Bool.false_ne_true]
  rcases pulled : s.pull with ⟨answer, left⟩
  rw [pulled] at same
  match answer with
  | .pending => simp only [face, isEnd, ← same]
  | .ready (.ok (some item)) => simp only [face, isEnd, ← same]
  | .ready (.ok none) => rfl
  | .ready (.error e) => rfl

theorem next_of_exhausted {s : MessageStream α} (shown : s.exhausted = true) :
    s.next = (.ready none, { s with waker := .idle }) := by
  unfold next
  rw [shown]
  rfl

end MessageStream

namespace ProducedStream

open MessageStream (pulledItem? shownItem? isEnd face offer ofEnding)

variable {α : Type}

/-- What somebody does to a stream. A producer goes by a name. -/
inductive Use (α : Type) where
  | push (name : String) (item : α)
  | finish (name : String) (ending : Result Unit)
  /-- A producer is cloned. -/
  | clone (name as : String)
  /-- A producer is dropped. -/
  | leave (name : String)
  | pull
  | next
  /-- The consumer is dropped. -/
  | ignore

/-- What came of a use. -/
inductive Deed (α : Type) where
  | pushed (item : α) (taken : Bool)
  | finished (ending : Result Unit) (counted : Bool)
  | cloned
  | left
  | pulled (answer : Poll (Result (Option α)))
  | shown (answer : Poll (Option (Result α)))
  | ignored

/-- All deeds of a run in order. -/
abbrev Record (α : Type) := List (Deed α)

def use (p : ProducedStream α) : Use α → Deed α × ProducedStream α
  | .push _ item => (.pushed item (p.onStream (·.push item)).1, (p.onStream (·.push item)).2)
  | .finish _ ending =>
    (.finished ending (p.onStream (·.finishWith ending)).1, (p.onStream (·.finishWith ending)).2)
  | .clone _ as => (.cloned, p.join as)
  | .leave name => (.left, p.leave name)
  | .pull => (.pulled (p.onStream (·.pull)).1, (p.onStream (·.pull)).2)
  | .next => (.shown (p.onStream (·.next)).1, (p.onStream (·.next)).2)
  | .ignore => (.ignored, { p with stream := p.stream.dropConsumer })

/-- Only who is there can use a stream. -/
def Use.Possible (p : ProducedStream α) : Use α → Prop
  | .push name _ => name ∈ p.producers
  | .finish name _ => name ∈ p.producers
  | .clone name _ => name ∈ p.producers
  | .leave name => name ∈ p.producers
  | .pull => p.stream.consumed = true
  | .next => p.stream.consumed = true
  | .ignore => p.stream.consumed = true

instance (p : ProducedStream α) : (use : Use α) → Decidable (use.Possible p)
  | .push name _ => inferInstanceAs (Decidable (name ∈ p.producers))
  | .finish name _ => inferInstanceAs (Decidable (name ∈ p.producers))
  | .clone name _ => inferInstanceAs (Decidable (name ∈ p.producers))
  | .leave name => inferInstanceAs (Decidable (name ∈ p.producers))
  | .pull => inferInstanceAs (Decidable (p.stream.consumed = true))
  | .next => inferInstanceAs (Decidable (p.stream.consumed = true))
  | .ignore => inferInstanceAs (Decidable (p.stream.consumed = true))

def run (p : ProducedStream α) (uses : List (Use α)) : ProducedStream α :=
  uses.foldl (fun p use => (p.use use).2) p

def deeds : List (Use α) → ProducedStream α → Record α
  | [], _ => []
  | use :: rest, p => (p.use use).1 :: deeds rest (p.use use).2

def Possible : List (Use α) → ProducedStream α → Prop
  | [], _ => True
  | use :: rest, p => use.Possible p ∧ Possible rest (p.use use).2

instance decidablePossible :
    (uses : List (Use α)) → (p : ProducedStream α) → Decidable (p.Possible uses)
  | [], _ => isTrue trivial
  | use :: rest, p =>
    have := decidablePossible rest (p.use use).2
    inferInstanceAs (Decidable (use.Possible p ∧ (p.use use).2.Possible rest))

namespace Deed

def pushed? : Deed α → Option α
  | pushed item true => some item
  | _ => none

def obtained? : Deed α → Option α
  | pulled answer => pulledItem? answer
  | shown answer => shownItem? answer
  | _ => none

def ending? : Deed α → Option (Result Unit)
  | finished ending _ => some ending
  | _ => none

def isClone : Deed α → Bool
  | cloned => true
  | _ => false

def isLeave : Deed α → Bool
  | left => true
  | _ => false

def isIgnore : Deed α → Bool
  | ignored => true
  | _ => false

/-- Whether the face `next` has shown the end, as the error it is or as nothing. -/
def exhausts : Deed α → Bool
  | shown (.ready none) => true
  | shown (.ready (some (.error _))) => true
  | _ => false

/-- Whether a poll has shown the end. -/
def showsEnd : Deed α → Bool
  | pulled answer => isEnd answer
  | deed => deed.exhausts

/-- Whether the face `next` has shown an error. -/
def showsError : Deed α → Bool
  | shown (.ready (some (.error _))) => true
  | _ => false

theorem exhausts_shown_face (answer : Poll (Result (Option α))) :
    (shown (face answer)).exhausts = isEnd answer := by
  match answer with
  | .pending => rfl
  | .ready (.ok (some item)) => rfl
  | .ready (.ok none) => rfl
  | .ready (.error e) => rfl

theorem exhausts_of_showsError {deed : Deed α} (shows : deed.showsError = true) :
    deed.exhausts = true := by
  unfold showsError at shows
  split at shows
  · rfl
  · cases shows

end Deed

namespace Record

/-- The items that were pushed with success. -/
def pushed (record : Record α) : List α := record.filterMap Deed.pushed?

/-- The items that polls have shown, through either face. -/
def obtained (record : Record α) : List α := record.filterMap Deed.obtained?

/-- How the stream was finished first. -/
def ending? (record : Record α) : Option (Result Unit) := record.findSome? Deed.ending?

/-- Some producer is left. -/
def Produced (record : Record α) : Prop :=
  record.countP Deed.isLeave < record.countP Deed.isClone + 1

instance (record : Record α) : Decidable record.Produced :=
  inferInstanceAs (Decidable (_ < _))

/-- The consumer is there. -/
def attended (record : Record α) : Bool := !record.any Deed.isIgnore

/-- The end of the stream, once it has one. -/
def final? (record : Record α) : Option (Result Unit) :=
  match record.ending? with
  | some ending => some ending
  | none => if record.Produced then none else some (.error .cancelled)

/-- A poll has shown the end. -/
def ended (record : Record α) : Bool := record.any Deed.showsEnd

/-- The face `next` has shown the end. -/
def exhausted (record : Record α) : Bool := record.any Deed.exhausts

/-- How often the face `next` has shown an error. -/
def errors (record : Record α) : Nat := record.countP Deed.showsError

@[simp] theorem pushed_append (record : Record α) (deed : Deed α) :
    pushed (record ++ [deed]) = record.pushed ++ deed.pushed?.toList := by
  unfold pushed
  rw [List.filterMap_append]
  cases found : deed.pushed? <;> simp [found]

@[simp] theorem obtained_append (record : Record α) (deed : Deed α) :
    obtained (record ++ [deed]) = record.obtained ++ deed.obtained?.toList := by
  unfold obtained
  rw [List.filterMap_append]
  cases found : deed.obtained? <;> simp [found]

@[simp] theorem ending?_append (record : Record α) (deed : Deed α) :
    ending? (record ++ [deed]) = record.ending?.or deed.ending? := by
  unfold ending?
  rw [List.findSome?_append]
  cases found : deed.ending? <;> simp [found]

@[simp] theorem attended_append (record : Record α) (deed : Deed α) :
    attended (record ++ [deed]) = (record.attended && !deed.isIgnore) := by
  simp [attended]

@[simp] theorem ended_append (record : Record α) (deed : Deed α) :
    ended (record ++ [deed]) = (record.ended || deed.showsEnd) := by
  simp [ended]

@[simp] theorem exhausted_append (record : Record α) (deed : Deed α) :
    exhausted (record ++ [deed]) = (record.exhausted || deed.exhausts) := by
  simp [exhausted]

@[simp] theorem errors_append (record : Record α) (deed : Deed α) :
    errors (record ++ [deed]) = record.errors + deed.showsError.toNat := by
  unfold errors
  rw [List.countP_append]
  cases shows : deed.showsError <;> simp [shows]

end Record

/-- Who is left is whom the record says. -/
structure Staffed (p : ProducedStream α) (record : Record α) : Prop where
  producers :
    p.producers.length + record.countP Deed.isLeave = record.countP Deed.isClone + 1
  produced : p.stream.produced = !p.producers.isEmpty
  consumed : p.stream.consumed = record.attended

/-- The consumer has been shown what the record says. -/
structure Shown (s : MessageStream α) (record : Record α) : Prop where
  observed : s.observed.isSome = record.ended
  exhausted : s.exhausted = record.exhausted
  ended : record.exhausted = true → record.ended = true
  errors : record.errors ≤ record.exhausted.toNat

/-- A stream is as the record of its run says, and these items wait in it. -/
structure Tracks (p : ProducedStream α) (record : Record α) (waiting : List α) : Prop where
  staffed : p.Staffed record
  shown : Shown p.stream record
  items : record.pushed = record.obtained ++ waiting
  queue : record.attended = true → p.stream.queue = waiting
  ending : p.stream.ending = record.ending?
  settled : ∀ outcome, p.stream.observed = some outcome →
    waiting = [] ∧ record.final? = some outcome

theorem tracks_fresh : ({} : ProducedStream α).Tracks [] [] where
  staffed := ⟨rfl, rfl, rfl⟩
  shown := ⟨rfl, rfl, nofun, Nat.le_refl 0⟩
  items := rfl
  queue _ := rfl
  ending := rfl
  settled _ seen := nomatch seen

variable {p : ProducedStream α} {record : Record α} {waiting : List α}

theorem Staffed.produced_iff (staffed : p.Staffed record) :
    p.stream.produced = true ↔ record.Produced := by
  have count := staffed.producers
  rw [staffed.produced, Record.Produced]
  cases h : p.producers with
  | nil =>
    rw [h, List.length_nil] at count
    refine iff_of_false Bool.false_ne_true ?_
    omega
  | cons first rest =>
    rw [h, List.length_cons] at count
    refine iff_of_true rfl ?_
    omega

theorem Staffed.produced_of_mem (staffed : p.Staffed record) {name : String}
    (there : name ∈ p.producers) : record.Produced := by
  rw [← staffed.produced_iff, staffed.produced]
  cases h : p.producers with
  | nil => simp [h] at there
  | cons first rest => rfl

/-- Nobody comes or goes. -/
theorem Staffed.stay {q : ProducedStream α} {deed : Deed α} (staffed : p.Staffed record)
    (producers : q.producers = p.producers) (produced : q.stream.produced = p.stream.produced)
    (consumed : q.stream.consumed = p.stream.consumed)
    (stays : deed.isClone = false ∧ deed.isLeave = false ∧ deed.isIgnore = false) :
    q.Staffed (record ++ [deed]) where
  producers := by
    rw [producers]
    simpa [stays] using staffed.producers
  produced := by
    rw [produced, producers]
    exact staffed.produced
  consumed := by
    rw [consumed, Record.attended_append, stays.2.2, staffed.consumed]
    exact (Bool.and_true _).symm

/-- The consumer is shown nothing new. -/
theorem Shown.keep {s t : MessageStream α} {deed : Deed α} (shown : Shown s record)
    (observed : t.observed = s.observed) (exhausted : t.exhausted = s.exhausted)
    (silent : deed.showsEnd = false ∧ deed.exhausts = false ∧ deed.showsError = false) :
    Shown t (record ++ [deed]) := by
  obtain ⟨ends, exhausts, fails⟩ := silent
  refine ⟨?_, ?_, ?_, ?_⟩
  · rw [observed, Record.ended_append, ends, shown.observed, Bool.or_false]
  · rw [exhausted, Record.exhausted_append, exhausts, shown.exhausted, Bool.or_false]
  · rw [Record.ended_append, Record.exhausted_append, ends, exhausts, Bool.or_false, Bool.or_false]
    exact shown.ended
  · rw [Record.errors_append, Record.exhausted_append, fails, exhausts, Bool.or_false]
    exact shown.errors

/-- The end that the consumer gets is the end that the record says. -/
theorem Tracks.final (tracks : p.Tracks record waiting) :
    p.stream.finalOutcome? = record.final? := by
  unfold MessageStream.finalOutcome? Record.final?
  rw [tracks.ending]
  cases record.ending? with
  | some ending => rfl
  | none =>
    by_cases there : record.Produced
    · rw [if_pos there, if_pos (tracks.staffed.produced_iff.mpr there)]
    · have nobody : p.stream.produced ≠ true := fun produced =>
        there (tracks.staffed.produced_iff.mp produced)
      rw [if_neg there, if_neg nobody]

/-- So the consumer, as long as it is there, gets the items that wait and then that end. -/
theorem Tracks.yields (tracks : p.Tracks record waiting) (attended : record.attended = true) :
    p.stream.Yields waiting record.final? where
  queue := tracks.queue attended
  ending := tracks.final
  observed := by
    cases seen : p.stream.observed with
    | none => exact Or.inl rfl
    | some outcome =>
      obtain ⟨nothing, final⟩ := tracks.settled outcome seen
      exact Or.inr ⟨nothing, final.symm⟩

theorem Record.final?_of_ending {ending : Result Unit} (finished : record.ending? = some ending) :
    record.final? = some ending := by
  unfold Record.final?
  rw [finished]

theorem Record.final?_of_produced (produced : record.Produced) :
    record.final? = record.ending? := by
  unfold Record.final?
  cases record.ending? with
  | some ending => rfl
  | none => exact if_pos produced

/-- What is neither a finish nor the coming or going of a producer does not matter for the end. -/
theorem Record.final?_append {deed : Deed α} (finishes : deed.ending? = none)
    (stays : deed.isClone = false ∧ deed.isLeave = false) :
    Record.final? (record ++ [deed]) = record.final? := by
  have same : Record.Produced (record ++ [deed]) ↔ record.Produced := by
    simp [Record.Produced, stays]
  unfold Record.final?
  rw [Record.ending?_append, finishes, Option.or_none]
  simp only [same]

theorem Tracks.unseen (tracks : p.Tracks record waiting) (open_ : record.final? = none) :
    p.stream.observed = none := by
  cases seen : p.stream.observed with
  | none => rfl
  | some outcome =>
    have final := (tracks.settled outcome seen).2
    rw [open_] at final
    cases final

/-- What takes nothing, finishes nothing and shows nothing leaves the items and the end alone. -/
theorem Tracks.keep {q : ProducedStream α} {deed : Deed α} (tracks : p.Tracks record waiting)
    (staffed : q.Staffed (record ++ [deed])) (shown : Shown q.stream (record ++ [deed]))
    (idle : deed.pushed? = none ∧ deed.obtained? = none)
    (queue : Record.attended (record ++ [deed]) = true → q.stream.queue = p.stream.queue)
    (ending : q.stream.ending = Record.ending? (record ++ [deed]))
    (settled : ∀ outcome, q.stream.observed = some outcome →
      p.stream.observed = some outcome ∧ Record.final? (record ++ [deed]) = record.final?) :
    q.Tracks (record ++ [deed]) waiting where
  staffed := staffed
  shown := shown
  items := by
    rw [Record.pushed_append, Record.obtained_append, idle.1, idle.2, tracks.items]
    simp
  queue attended := by
    have before : record.attended = true := by
      rw [Record.attended_append, Bool.and_eq_true] at attended
      exact attended.1
    rw [queue attended, tracks.queue before]
  ending := ending
  settled outcome seen := by
    obtain ⟨before, same⟩ := settled outcome seen
    rw [same]
    exact tracks.settled outcome before

/-- A push is taken until the stream is finished or the consumer is gone. -/
theorem Tracks.push (tracks : p.Tracks record waiting) {name : String}
    (there : name ∈ p.producers) (item : α) :
    (p.use (.push name item)).1 = .pushed item (record.ending?.isNone && record.attended) ∧
      ∃ waiting', (p.use (.push name item)).2.Tracks
        (record ++ [(p.use (.push name item)).1]) waiting' := by
  have final := Record.final?_of_produced (tracks.staffed.produced_of_mem there)
  have finished : p.stream.isFinished = record.ending?.isSome := by
    rw [MessageStream.isFinished, tracks.ending]
  by_cases accepting : record.ending? = none ∧ record.attended = true
  · have pushed : p.stream.push item = (true,
        { p.stream with queue := p.stream.queue ++ [item], waker := p.stream.waker.wake }) := by
      simp [MessageStream.push, finished, tracks.staffed.consumed, accepting]
    have unseen := tracks.unseen (final.trans accepting.1)
    simp only [use, onStream, pushed, accepting]
    refine ⟨rfl, waiting ++ [item], ?_⟩
    exact
      { staffed := tracks.staffed.stay rfl rfl rfl ⟨rfl, rfl, rfl⟩
        shown := tracks.shown.keep rfl rfl ⟨rfl, rfl, rfl⟩
        items := by simp [Deed.pushed?, Deed.obtained?, tracks.items]
        queue := fun _ => by simp [tracks.queue accepting.2]
        ending := by simp [Deed.ending?, tracks.ending]
        settled := fun outcome seen => by cases unseen.symm.trans seen }
  · have closed : (record.ending?.isNone && record.attended) = false := by
      rw [Bool.eq_false_iff, Ne, Bool.and_eq_true, Option.isNone_iff_eq_none]
      exact accepting
    have refused : p.stream.push item = (false, p.stream) := by
      unfold MessageStream.push
      rw [finished, tracks.staffed.consumed, ← Option.not_isNone, ← Bool.not_and, closed]
      rfl
    simp only [use, onStream, refused, closed]
    refine ⟨trivial, waiting, tracks.keep ?_ ?_ ⟨rfl, rfl⟩ (fun _ => rfl) ?_ fun outcome seen => ?_⟩
    · exact tracks.staffed.stay rfl rfl rfl ⟨rfl, rfl, rfl⟩
    · exact tracks.shown.keep rfl rfl ⟨rfl, rfl, rfl⟩
    · simp [Deed.ending?, tracks.ending]
    · exact ⟨seen, Record.final?_append rfl ⟨rfl, rfl⟩⟩

/-- The first finish counts. -/
theorem Tracks.finish (tracks : p.Tracks record waiting) {name : String}
    (there : name ∈ p.producers) (outcome : Result Unit) :
    (p.use (.finish name outcome)).1 = .finished outcome record.ending?.isNone ∧
      (p.use (.finish name outcome)).2.Tracks
        (record ++ [(p.use (.finish name outcome)).1]) waiting := by
  have final := Record.final?_of_produced (tracks.staffed.produced_of_mem there)
  cases fixed : record.ending? with
  | none =>
    have finished : p.stream.finishWith outcome = (true,
        { p.stream with ending := some outcome, waker := p.stream.waker.wake }) := by
      simp [MessageStream.finishWith, MessageStream.isFinished, tracks.ending, fixed]
    have unseen := tracks.unseen (final.trans fixed)
    simp only [use, onStream, finished]
    refine ⟨rfl, tracks.keep ?_ ?_ ⟨rfl, rfl⟩ (fun _ => rfl) ?_ fun other seen => ?_⟩
    · exact tracks.staffed.stay rfl rfl rfl ⟨rfl, rfl, rfl⟩
    · exact tracks.shown.keep rfl rfl ⟨rfl, rfl, rfl⟩
    · simp [Deed.ending?, fixed]
    · cases unseen.symm.trans seen
  | some first =>
    have late : p.stream.finishWith outcome = (false, p.stream) := by
      simp [MessageStream.finishWith, MessageStream.isFinished, tracks.ending, fixed]
    have stays : Record.ending? (record ++ [.finished outcome false]) = some first := by
      simp [fixed]
    simp only [use, onStream, late]
    refine ⟨rfl, tracks.keep ?_ ?_ ⟨rfl, rfl⟩ (fun _ => rfl) ?_ fun other seen => ⟨seen, ?_⟩⟩
    · exact tracks.staffed.stay rfl rfl rfl ⟨rfl, rfl, rfl⟩
    · exact tracks.shown.keep rfl rfl ⟨rfl, rfl, rfl⟩
    · rw [stays, ← fixed, tracks.ending]
    · rw [Record.final?_of_ending stays, Record.final?_of_ending fixed]

theorem Tracks.clone (tracks : p.Tracks record waiting) {name : String}
    (there : name ∈ p.producers) (as : String) :
    (p.join as).Tracks (record ++ [.cloned]) waiting := by
  have produced := tracks.staffed.produced_of_mem there
  have count := tracks.staffed.producers
  have later : Record.Produced (record ++ [.cloned]) := by
    unfold Record.Produced at produced ⊢
    simp only [List.countP_append, List.countP_singleton, Deed.isLeave, Deed.isClone]
    simp only [Bool.false_eq_true, if_false, if_true]
    omega
  refine tracks.keep ⟨?_, ?_, ?_⟩ ?_ ⟨rfl, rfl⟩ (fun _ => rfl) ?_ fun outcome seen => ⟨seen, ?_⟩
  · simp [join, Deed.isLeave, Deed.isClone]
    omega
  · have still : p.stream.produced = true := tracks.staffed.produced_iff.mpr produced
    simp [join, still]
  · simp [join, Deed.isIgnore, tracks.staffed.consumed]
  · exact tracks.shown.keep rfl rfl ⟨rfl, rfl, rfl⟩
  · simp [join, Deed.ending?, tracks.ending]
  · rw [Record.final?_of_produced later, Record.final?_of_produced produced]
    simp [Deed.ending?]

theorem producers_leave (p : ProducedStream α) (name : String) :
    (p.leave name).producers = p.producers.erase name := by
  unfold ProducedStream.leave
  by_cases last : (p.producers.erase name).isEmpty = true <;> simp [last]

/-- A producer that leaves changes nothing of the stream but whether there is one. -/
theorem stream_leave (p : ProducedStream α) (name : String) :
    (p.leave name).stream.queue = p.stream.queue ∧
      (p.leave name).stream.ending = p.stream.ending ∧
      (p.leave name).stream.consumed = p.stream.consumed ∧
      (p.leave name).stream.observed = p.stream.observed ∧
      (p.leave name).stream.exhausted = p.stream.exhausted ∧
      (p.leave name).stream.produced =
        (p.stream.produced && !(p.producers.erase name).isEmpty) := by
  unfold ProducedStream.leave
  by_cases last : (p.producers.erase name).isEmpty = true
  · simp only [last, if_true, Bool.not_true, Bool.and_false]
    exact ⟨rfl, rfl, rfl, rfl, rfl, rfl⟩
  · simp [last]

theorem Tracks.leave (tracks : p.Tracks record waiting) {name : String}
    (there : name ∈ p.producers) :
    (p.leave name).Tracks (record ++ [.left]) waiting := by
  obtain ⟨queue, ending, consumed, observed, exhausted, produced⟩ := stream_leave p name
  have leaver := tracks.staffed.produced_of_mem there
  have still : p.stream.produced = true := tracks.staffed.produced_iff.mpr leaver
  have stays : Record.ending? (record ++ [.left]) = record.ending? := by simp [Deed.ending?]
  refine tracks.keep ⟨?_, ?_, ?_⟩ ?_ ⟨rfl, rfl⟩ (fun _ => queue) ?_ fun outcome seen => ?_
  · have count := tracks.staffed.producers
    have positive : 0 < p.producers.length := List.length_pos_of_mem there
    rw [producers_leave, List.length_erase_of_mem there]
    simp [Deed.isLeave, Deed.isClone]
    omega
  · rw [produced, producers_leave, still, Bool.true_and]
  · simp [consumed, Deed.isIgnore, tracks.staffed.consumed]
  · exact tracks.shown.keep observed exhausted ⟨rfl, rfl, rfl⟩
  · rw [stays, ending, tracks.ending]
  · -- With a producer there, an end that was seen is one by a finish, which outlasts the leaving.
    have before : p.stream.observed = some outcome := observed ▸ seen
    have final := (tracks.settled outcome before).2
    have fixed : record.ending? = some outcome :=
      (Record.final?_of_produced leaver).symm.trans final
    exact ⟨before, (Record.final?_of_ending (stays.trans fixed)).trans final.symm⟩

theorem Tracks.ignore (tracks : p.Tracks record waiting) :
    (p.use .ignore).2.Tracks (record ++ [.ignored]) waiting := by
  have gone : Record.attended (record ++ [.ignored]) = false := by simp [Deed.isIgnore]
  refine tracks.keep ⟨?_, tracks.staffed.produced, gone.symm⟩ ?_ ⟨rfl, rfl⟩ (fun attended => ?_) ?_
    fun outcome seen => ⟨seen, Record.final?_append rfl ⟨rfl, rfl⟩⟩
  · have same : (p.use .ignore).2.producers = p.producers := rfl
    rw [same]
    simpa [Deed.isLeave, Deed.isClone] using tracks.staffed.producers
  · exact tracks.shown.keep rfl rfl ⟨rfl, rfl, rfl⟩
  · rw [gone] at attended
    cases attended
  · simp [use, MessageStream.dropConsumer, Deed.ending?, tracks.ending]

/-- A pull shows the end if it is the end, and nothing of it otherwise. -/
theorem Shown.pull {s t : MessageStream α} (shown : Shown s record)
    {answer : Poll (Result (Option α))} (exhausted : t.exhausted = s.exhausted)
    (observed : t.observed.isSome = (s.observed.isSome || isEnd answer)) :
    Shown t (record ++ [.pulled answer]) := by
  have quiet : Record.exhausted (record ++ [.pulled answer]) = record.exhausted := by
    simp [Deed.exhausts]
  refine ⟨?_, ?_, fun exhausts => ?_, ?_⟩
  · rw [observed, shown.observed, Record.ended_append]
    rfl
  · rw [exhausted, quiet, shown.exhausted]
  · rw [quiet] at exhausts
    rw [Record.ended_append, shown.ended exhausts, Bool.true_or]
  · rw [quiet, Record.errors_append]
    exact shown.errors

/-- A pull takes the first item that waits. -/
theorem Tracks.pull (tracks : p.Tracks record waiting) (attended : record.attended = true) :
    { p with stream := p.stream.pull.2 : ProducedStream α }.Tracks
      (record ++ [.pulled p.stream.pull.1]) waiting.tail := by
  have queue := tracks.queue attended
  have fixed : ∀ answer, Record.ending? (record ++ [.pulled answer]) = record.ending? := by
    simp [Deed.ending?]
  have final : ∀ answer, Record.final? (record ++ [.pulled answer]) = record.final? :=
    fun answer => Record.final?_append rfl ⟨rfl, rfl⟩
  have stay : ∀ (s : MessageStream α) (answer : Poll (Result (Option α))),
      s.produced = p.stream.produced → s.consumed = p.stream.consumed →
      { p with stream := s : ProducedStream α }.Staffed (record ++ [.pulled answer]) :=
    fun s answer produced consumed =>
      tracks.staffed.stay rfl produced consumed ⟨rfl, rfl, rfl⟩
  have pulls := p.stream.pulls_pull
  generalize p.stream.pull = result at pulls
  cases pulls with
  | again outcome seen =>
    obtain ⟨nothing, -⟩ := tracks.settled outcome seen
    subst nothing
    refine tracks.keep (stay _ _ rfl rfl) (tracks.shown.pull rfl ?_) ⟨rfl, ?_⟩ (fun _ => rfl) ?_
      fun other found => ⟨found, final _⟩
    · simp [seen]
    · simp [Deed.obtained?]
    · rw [fixed, tracks.ending]
  | item item rest unseen found =>
    obtain rfl : item :: rest = waiting := found.symm.trans queue
    exact
      { staffed := stay _ _ rfl rfl
        shown := tracks.shown.pull rfl (by simp [isEnd])
        items := by simp [Deed.pushed?, Deed.obtained?, pulledItem?, tracks.items]
        queue := fun _ => rfl
        ending := by rw [fixed, tracks.ending]
        settled := fun other seen => by cases unseen.symm.trans seen }
  | ending outcome unseen found ends =>
    obtain rfl : [] = waiting := found.symm.trans queue
    exact
      { staffed := stay _ _ rfl rfl
        shown := tracks.shown.pull rfl (by simp)
        items := by simp [Deed.pushed?, Deed.obtained?, tracks.items]
        queue := fun _ => found
        ending := by rw [fixed, tracks.ending]
        settled := fun other seen => by
          obtain rfl : outcome = other := Option.some.inj seen
          exact ⟨rfl, by rw [final, ← tracks.final, ends]⟩ }
  | waits unseen found open_ =>
    obtain rfl : [] = waiting := found.symm.trans queue
    refine tracks.keep (stay _ _ rfl rfl) (tracks.shown.pull rfl ?_) ⟨rfl, rfl⟩ (fun _ => rfl) ?_
      fun other seen => ⟨seen, final _⟩
    · simp [isEnd]
    · rw [fixed, tracks.ending]

/-- What a pull does, a poll through the other face does as well, and it notes the end. -/
theorem Tracks.face {answer : Poll (Result (Option α))} (showing : record.exhausted = false)
    (none : record.errors = 0) (tracks : p.Tracks (record ++ [.pulled answer]) waiting) :
    { p with stream := { p.stream with exhausted := isEnd answer } : ProducedStream α }.Tracks
      (record ++ [.shown (face answer)]) waiting := by
  have exhausts := Deed.exhausts_shown_face answer
  have shows : (Deed.shown (MessageStream.face answer)).showsEnd = isEnd answer := exhausts
  have exhausted : Record.exhausted (record ++ [.shown (MessageStream.face answer)]) =
      isEnd answer := by
    rw [Record.exhausted_append, showing, exhausts, Bool.false_or]
  have ended : Record.ended (record ++ [.shown (MessageStream.face answer)]) =
      Record.ended (record ++ [.pulled answer]) := by
    rw [Record.ended_append, Record.ended_append, shows]
    rfl
  have attended : Record.attended (record ++ [.shown (MessageStream.face answer)]) =
      Record.attended (record ++ [.pulled answer]) := by
    rw [Record.attended_append, Record.attended_append]
    rfl
  have ending : Record.ending? (record ++ [.shown (MessageStream.face answer)]) =
      Record.ending? (record ++ [.pulled answer]) := by
    rw [Record.ending?_append, Record.ending?_append]
    rfl
  have final : Record.final? (record ++ [.shown (MessageStream.face answer)]) =
      Record.final? (record ++ [.pulled answer]) := by
    rw [Record.final?_append rfl ⟨rfl, rfl⟩, Record.final?_append rfl ⟨rfl, rfl⟩]
  refine ⟨⟨?_, tracks.staffed.produced, ?_⟩, ⟨?_, exhausted.symm, fun shown => ?_, ?_⟩, ?_,
    fun there => tracks.queue (attended ▸ there), ?_, fun outcome seen => ?_⟩
  · simpa [Deed.isLeave, Deed.isClone] using tracks.staffed.producers
  · rw [attended]
    exact tracks.staffed.consumed
  · rw [ended]
    exact tracks.shown.observed
  · rw [exhausted] at shown
    rw [Record.ended_append, shows, shown, Bool.or_true]
  · rw [exhausted, Record.errors_append, none, Nat.zero_add]
    cases fails : (Deed.shown (MessageStream.face answer)).showsError with
    | false => exact Nat.zero_le _
    | true =>
      have ends : isEnd answer = true := exhausts.symm.trans (Deed.exhausts_of_showsError fails)
      exact Nat.le_of_eq (congrArg Bool.toNat ends.symm)
  · have items := tracks.items
    simpa [Deed.pushed?, Deed.obtained?] using items
  · rw [ending]
    exact tracks.ending
  · rw [final]
    exact tracks.settled outcome seen

/-- Once the face `next` has shown the end it shows nothing more. -/
theorem Tracks.next_of_exhausted (tracks : p.Tracks record waiting)
    (shown : record.exhausted = true) :
    p.stream.next.1 = .ready none ∧
      { p with stream := p.stream.next.2 : ProducedStream α }.Tracks
        (record ++ [.shown (.ready none)]) waiting := by
  have exhausted : p.stream.exhausted = true := tracks.shown.exhausted.trans shown
  rw [MessageStream.next_of_exhausted exhausted]
  have kept : Record.exhausted (record ++ [.shown (.ready none)]) = true := by
    rw [Record.exhausted_append, shown, Bool.true_or]
  have ended : Record.ended (record ++ [.shown (.ready none)]) = true := by
    rw [Record.ended_append, tracks.shown.ended shown, Bool.true_or]
  refine ⟨rfl, tracks.keep ?_ ⟨?_, ?_, fun _ => ended, ?_⟩ ⟨rfl, rfl⟩ (fun _ => rfl) ?_
    fun outcome seen => ⟨seen, Record.final?_append rfl ⟨rfl, rfl⟩⟩⟩
  · exact tracks.staffed.stay rfl rfl rfl ⟨rfl, rfl, rfl⟩
  · rw [ended, ← tracks.shown.ended shown]
    exact tracks.shown.observed
  · rw [kept]
    exact exhausted
  · have before := tracks.shown.errors
    rw [shown] at before
    rw [kept, Record.errors_append]
    exact before
  · simp [Deed.ending?, tracks.ending]

/-- Until then it shows what a pull would. -/
theorem Tracks.next_of_open (tracks : p.Tracks record waiting) (attended : record.attended = true)
    (showing : record.exhausted = false) :
    p.stream.next.1 = MessageStream.face (offer waiting record.final?) ∧
      { p with stream := p.stream.next.2 : ProducedStream α }.Tracks
        (record ++ [.shown p.stream.next.1]) waiting.tail := by
  have open_ : p.stream.exhausted = false := tracks.shown.exhausted.trans showing
  have none : record.errors = 0 := by
    have most := tracks.shown.errors
    rw [showing] at most
    exact Nat.le_zero.mp most
  have answer := (tracks.yields attended).pull.1
  rw [MessageStream.next_of_open open_]
  exact ⟨congrArg MessageStream.face answer, (tracks.pull attended).face showing none⟩

/-- Whatever is done to a stream, the record goes on to tell its state. -/
theorem Tracks.use (tracks : p.Tracks record waiting) {use : Use α} (possible : use.Possible p) :
    ∃ waiting', (p.use use).2.Tracks (record ++ [(p.use use).1]) waiting' := by
  have attended : p.stream.consumed = true → record.attended = true := fun there =>
    tracks.staffed.consumed.symm.trans there
  cases use with
  | push name item => exact (tracks.push possible item).2
  | finish name outcome => exact ⟨waiting, (tracks.finish possible outcome).2⟩
  | clone name as => exact ⟨waiting, tracks.clone possible as⟩
  | leave name => exact ⟨waiting, tracks.leave possible⟩
  | pull => exact ⟨waiting.tail, tracks.pull (attended possible)⟩
  | ignore => exact ⟨waiting, tracks.ignore⟩
  | next =>
    cases shown : record.exhausted with
    | false => exact ⟨waiting.tail, (tracks.next_of_open (attended possible) shown).2⟩
    | true =>
      obtain ⟨answer, later⟩ := tracks.next_of_exhausted shown
      rw [← answer] at later
      exact ⟨waiting, later⟩

theorem Tracks.run (tracks : p.Tracks record waiting) {uses : List (Use α)}
    (possible : p.Possible uses) :
    ∃ waiting', (p.run uses).Tracks (record ++ p.deeds uses) waiting' := by
  induction uses generalizing p record waiting with
  | nil =>
    refine ⟨waiting, ?_⟩
    rw [deeds, List.append_nil]
    exact tracks
  | cons use rest ih =>
    obtain ⟨first, later⟩ := possible
    obtain ⟨middle, step⟩ := tracks.use first
    obtain ⟨final, tracked⟩ := ih step later
    rw [List.append_assoc] at tracked
    exact ⟨final, tracked⟩

/-- Behind the last item nothing changes any more. -/
theorem Tracks.use_of_ended {outcome : Result Unit} (tracks : p.Tracks record [])
    (ended : record.final? = some outcome) {use : Use α} (possible : use.Possible p) :
    (p.use use).2.Tracks (record ++ [(p.use use).1]) [] ∧
      Record.final? (record ++ [(p.use use).1]) = some outcome := by
  obtain ⟨waiting, later⟩ := tracks.use possible
  -- If there is still a producer, the end is one by a finish, so nothing it does counts.
  have fixed : ∀ name ∈ p.producers, record.ending? = some outcome := fun name there =>
    (Record.final?_of_produced (tracks.staffed.produced_of_mem there)).symm.trans ended
  have lasts : ∀ deed, record.ending? = some outcome →
      Record.final? (record ++ [deed]) = some outcome := fun deed finished =>
    Record.final?_of_ending (by rw [Record.ending?_append, finished]; rfl)
  have idle : (p.use use).1.pushed? = none ∧
      Record.final? (record ++ [(p.use use).1]) = some outcome := by
    cases use with
    | push name item =>
      have finished := fixed name possible
      rw [(tracks.push possible item).1, finished]
      exact ⟨rfl, lasts _ finished⟩
    | finish name outcome => exact ⟨rfl, lasts _ (fixed name possible)⟩
    | clone name as => exact ⟨rfl, lasts _ (fixed name possible)⟩
    | leave name => exact ⟨rfl, lasts _ (fixed name possible)⟩
    | pull => exact ⟨rfl, (Record.final?_append rfl ⟨rfl, rfl⟩).trans ended⟩
    | next => exact ⟨rfl, (Record.final?_append rfl ⟨rfl, rfl⟩).trans ended⟩
    | ignore => exact ⟨rfl, (Record.final?_append rfl ⟨rfl, rfl⟩).trans ended⟩
  have items := later.items
  rw [Record.pushed_append, Record.obtained_append, idle.1, tracks.items, List.append_assoc,
    List.append_assoc] at items
  obtain ⟨-, rfl⟩ := List.append_eq_nil_iff.mp (List.append_cancel_left items).symm
  exact ⟨later, idle.2⟩

theorem Tracks.run_of_ended {outcome : Result Unit} (tracks : p.Tracks record [])
    (ended : record.final? = some outcome) {uses : List (Use α)} (possible : p.Possible uses) :
    (p.run uses).Tracks (record ++ p.deeds uses) [] ∧
      Record.final? (record ++ p.deeds uses) = some outcome := by
  induction uses generalizing p record with
  | nil =>
    rw [deeds, List.append_nil]
    exact ⟨tracks, ended⟩
  | cons use rest ih =>
    obtain ⟨first, later⟩ := possible
    obtain ⟨step, still⟩ := tracks.use_of_ended ended first
    have final := ih step still later
    rw [List.append_assoc] at final
    exact final

theorem Record.final?_eq_none_iff (record : Record α) :
    record.final? = none ↔ record.ending? = none ∧ record.Produced := by
  unfold Record.final?
  cases record.ending? with
  | some ending => simp
  | none => by_cases there : record.Produced <;> simp [there]

/-- A stream answers like a queue with an end that stays. Everything is said by what was done
before, its record, and these items are pushed and not yet obtained. -/
structure AnswersAsQueue (p : ProducedStream α) (record : Record α) (waiting : List α) :
    Prop where
  /-- What was pushed is obtained in order and once, through whichever face. -/
  items : record.pushed = record.obtained ++ waiting
  /-- A push is taken until the stream is finished or the consumer is gone. -/
  push : ∀ name ∈ p.producers, ∀ item,
    (p.use (.push name item)).1 = .pushed item (record.ending?.isNone && record.attended)
  /-- The first finish counts. -/
  finish : ∀ name ∈ p.producers, ∀ outcome,
    (p.use (.finish name outcome)).1 = .finished outcome record.ending?.isNone
  /-- The first item that waits comes next, and behind the last one the end. -/
  pull : record.attended = true → (p.use .pull).1 = .pulled (offer waiting record.final?)
  /-- So it does through the other face, which shows nothing more once it has shown the end. -/
  next : record.attended = true → (p.use .next).1 =
    .shown (if record.exhausted then .ready none else face (offer waiting record.final?))
  /-- A poll has to wait only for items or an end that may still come. -/
  pending : record.attended = true →
    (p.stream.pull.1 = .pending ↔ waiting = [] ∧ record.ending? = none ∧ record.Produced) ∧
    (p.stream.next.1 = .pending ↔ waiting = [] ∧ record.ending? = none ∧ record.Produced)
  terminated : p.stream.isTerminated = record.ended
  /-- An error is shown once at most by the face `next`. -/
  errors : record.errors ≤ 1
  /-- Behind the last item a pull shows the same end for ever. -/
  stays : ∀ outcome, waiting = [] → record.final? = some outcome →
    ∀ later, p.Possible later → (p.run later).stream.consumed = true →
      ((p.run later).use .pull).1 = .pulled (.ready (ofEnding outcome))
  /-- Behind the end the other face shows nothing for ever. -/
  silent : record.exhausted = true →
    ∀ later, p.Possible later → ((p.run later).use .next).1 = .shown (.ready none)

theorem Tracks.pending_next (tracks : p.Tracks record waiting)
    (attended : record.attended = true) :
    p.stream.next.1 = .pending ↔ waiting = [] ∧ record.final? = none := by
  cases shown : record.exhausted with
  | false =>
    rw [(tracks.next_of_open attended shown).1, MessageStream.face_eq_pending_iff,
      MessageStream.offer_eq_pending_iff]
  | true =>
    have seen : p.stream.observed.isSome = true :=
      tracks.shown.observed.trans (tracks.shown.ended shown)
    obtain ⟨outcome, observed⟩ := Option.isSome_iff_exists.mp seen
    have final := (tracks.settled outcome observed).2
    rw [(tracks.next_of_exhausted shown).1, final]
    simp

theorem Tracks.answers (tracks : p.Tracks record waiting) : p.AnswersAsQueue record waiting where
  items := tracks.items
  push name there item := (tracks.push there item).1
  finish name there outcome := (tracks.finish there outcome).1
  pull attended := congrArg Deed.pulled (tracks.yields attended).pull.1
  next attended := by
    refine congrArg Deed.shown ?_
    cases shown : record.exhausted with
    | false => exact (tracks.next_of_open attended shown).1
    | true => exact (tracks.next_of_exhausted shown).1
  pending attended := by
    rw [(tracks.yields attended).pull.1, MessageStream.offer_eq_pending_iff,
      tracks.pending_next attended, Record.final?_eq_none_iff]
    exact ⟨Iff.rfl, Iff.rfl⟩
  terminated := tracks.shown.observed
  errors := Nat.le_trans tracks.shown.errors (Bool.toNat_le _)
  stays := by
    rintro outcome rfl ended later possible there
    obtain ⟨tracked, final⟩ := tracks.run_of_ended ended possible
    have attended := tracked.staffed.consumed.symm.trans there
    have answer := (tracked.yields attended).pull.1
    rw [final] at answer
    exact congrArg Deed.pulled answer
  silent := by
    intro shown later possible
    obtain ⟨_, tracked⟩ := tracks.run possible
    have still : Record.exhausted (record ++ p.deeds later) = true := by
      unfold Record.exhausted at shown ⊢
      rw [List.any_append, shown, Bool.true_or]
    exact congrArg Deed.shown (tracked.next_of_exhausted still).1

/-- However the producers of a stream, clones and all, and its consumer take turns, the stream
answers like a queue with an end that stays. -/
theorem refines_queue (uses : List (Use α)) (possible : ({} : ProducedStream α).Possible uses) :
    ∃ waiting, (({} : ProducedStream α).run uses).AnswersAsQueue
      (({} : ProducedStream α).deeds uses) waiting := by
  obtain ⟨waiting, tracks⟩ := tracks_fresh.run possible
  exact ⟨waiting, tracks.answers⟩

/-- The clone goes on when the first producer has left, and its error comes behind its item:
through the face `next` once, and through a pull even after that. -/
theorem clone_fails_behind_items :
    let uses : List (Use String) :=
      [.push "a" "one", .clone "a" "b", .leave "a", .push "b" "two", .next,
        .finish "b" (.error .deadlineExceeded), .pull, .next]
    let p := ({} : ProducedStream String).run uses
    let record := ({} : ProducedStream String).deeds uses
    ({} : ProducedStream String).Possible uses ∧
      record.pushed = ["one", "two"] ∧ record.obtained = ["one", "two"] ∧
      record.errors = 1 ∧
      (p.use (.push "b" "three")).1 = .pushed "three" false ∧
      (p.use .next).1 = .shown (.ready none) ∧
      (p.use .pull).1 = .pulled (.ready (.error .deadlineExceeded)) := by
  intro uses p record
  have possible : ({} : ProducedStream String).Possible uses := by decide
  obtain ⟨waiting, answers⟩ := refines_queue uses possible
  have items : ["one", "two"] ++ [] = ["one", "two"] ++ waiting := answers.items
  obtain rfl := List.append_cancel_left items
  exact ⟨possible, rfl, rfl, rfl, answers.push "b" (List.mem_singleton.mpr rfl) "three",
    answers.next rfl, answers.pull rfl⟩

end ProducedStream

end RemoteCall
