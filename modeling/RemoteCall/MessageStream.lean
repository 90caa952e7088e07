import RemoteCall.CallError
import RemoteCall.Poll

/-!
# Message streams

Producers push items without waiting, and one consumer takes them in the order of the pushes.
The stream ends normally or with an error, as the first producer to finish it says; a stream that
all its producers leave unfinished ends with `CallError.cancelled`. Items pushed before the end
are delivered before it, and once the consumer has seen the end it sees the same end for ever.

The consumer has two faces on the same state: `pull` repeats the end, and `next` shows an error
once and then nothing more.
-/

namespace RemoteCall

/-- The state of a stream between its producers and its consumer. -/
structure MessageStream (α : Type) where
  /-- Items pushed and not yet taken, oldest first. -/
  queue : List α := []
  /-- How a producer finished the stream. -/
  ending : Option (Result Unit) := none
  /-- Some producer is still there. -/
  produced : Bool := true
  /-- The consumer is still there. -/
  consumed : Bool := true
  /-- The end, once the consumer has seen it. -/
  observed : Option (Result Unit) := none
  /-- The face `next` has shown the end. -/
  exhausted : Bool := false
  /-- The wish of the consumer to be woken. -/
  waker : Waker := .idle

namespace MessageStream

variable {α : Type}

def fresh : MessageStream α := {}

def isFinished (s : MessageStream α) : Bool := s.ending.isSome

/-- Pushes an item. Fails once the stream is finished or nobody is there to take it. -/
def push (s : MessageStream α) (item : α) : Bool × MessageStream α :=
  if s.isFinished || !s.consumed then (false, s)
  else (true, { s with queue := s.queue ++ [item], waker := s.waker.wake })

/-- Finishes the stream. Only the first finish counts, whether or not the consumer is there. -/
def finishWith (s : MessageStream α) (ending : Result Unit) : Bool × MessageStream α :=
  if s.isFinished then (false, s)
  else (true, { s with ending := some ending, waker := s.waker.wake })

/-- The last producer leaves. -/
def abandon (s : MessageStream α) : MessageStream α :=
  { s with produced := false, waker := if s.isFinished then s.waker else s.waker.wake }

def dropConsumer (s : MessageStream α) : MessageStream α :=
  { s with consumed := false, queue := [] }

/-- The end that the consumer sees after the last item, if it is fixed already. -/
def finalOutcome? (s : MessageStream α) : Option (Result Unit) :=
  match s.ending with
  | some ending => some ending
  | none => if s.produced then none else some (.error .cancelled)

/-- What an end looks like to a pull. -/
def ofEnding : Result Unit → Result (Option α)
  | .ok () => .ok none
  | .error e => .error e

/-- One poll for the next item: an item, `none` after a normal end, or the error of the end. -/
def pull (s : MessageStream α) : Poll (Result (Option α)) × MessageStream α :=
  match s.observed with
  | some ending => (.ready (ofEnding ending), { s with waker := .idle })
  | none =>
    match s.queue with
    | item :: rest => (.ready (.ok (some item)), { s with queue := rest, waker := .idle })
    | [] =>
      match s.finalOutcome? with
      | some ending =>
        (.ready (ofEnding ending), { s with observed := some ending, waker := .idle })
      | none => (.pending, { s with waker := .armed })

/-- One poll of the face that shows an error once: an item or an error, or `none` from then on. -/
def next (s : MessageStream α) : Poll (Option (Result α)) × MessageStream α :=
  if s.exhausted then (.ready none, { s with waker := .idle })
  else
    match s.pull with
    | (.pending, s) => (.pending, s)
    | (.ready (.ok (some item)), s) => (.ready (some (.ok item)), s)
    | (.ready (.ok none), s) => (.ready none, { s with exhausted := true })
    | (.ready (.error e), s) => (.ready (some (.error e)), { s with exhausted := true })

theorem push_of_isFinished {s : MessageStream α} (h : s.isFinished = true) (item : α) :
    s.push item = (false, s) := by
  simp [push, h]

theorem finishWith_of_isFinished {s : MessageStream α} (h : s.isFinished = true)
    (ending : Result Unit) : s.finishWith ending = (false, s) := by
  simp [finishWith, h]

@[simp] theorem isFinished_finishWith (s : MessageStream α) (ending : Result Unit) :
    (s.finishWith ending).2.isFinished = true := by
  unfold finishWith
  by_cases h : s.isFinished = true
  · rw [if_pos h]
    exact h
  · rw [if_neg h]
    rfl

/-- A poll of either face leaves the end to the producers. -/
theorem isFinished_pull (s : MessageStream α) : s.pull.2.isFinished = s.isFinished := by
  unfold pull
  cases s.observed with
  | some ending => rfl
  | none =>
    cases s.queue with
    | cons item rest => rfl
    | nil => cases s.finalOutcome? <;> rfl

theorem isFinished_next (s : MessageStream α) : s.next.2.isFinished = s.isFinished := by
  have pulled := isFinished_pull s
  unfold next
  by_cases h : s.exhausted = true
  · rw [if_pos h]
    rfl
  · rw [if_neg h]
    split <;> next heq => rwa [heq] at pulled

/-- Items that are waiting come before any end. -/
theorem pull_of_queue {s : MessageStream α} {item : α} {rest : List α}
    (hopen : s.observed = none) (hqueue : s.queue = item :: rest) :
    s.pull = (.ready (.ok (some item)), { s with queue := rest, waker := .idle }) := by
  simp [pull, hopen, hqueue]

/-- An end that was seen is seen again, and nothing else changes. -/
theorem pull_of_observed {s : MessageStream α} {ending : Result Unit}
    (h : s.observed = some ending) :
    s.pull = (.ready (ofEnding ending), { s with waker := .idle }) := by
  simp [pull, h]

/-- Whether the consumer has seen the end. -/
def isTerminated (s : MessageStream α) : Bool := s.observed.isSome

/-- Whether a poll would have a value. -/
def isReady (s : MessageStream α) : Bool := s.pull.1.isReady

/-- Pulls until something other than an item comes. -/
def drain (s : MessageStream α) : List (Poll (Result (Option α))) × MessageStream α :=
  go s.queue s
where
  /-- The queue bounds the number of items. -/
  go : List α → MessageStream α → List (Poll (Result (Option α))) × MessageStream α
    | [], s => let (answer, s) := s.pull; ([answer], s)
    | _ :: rest, s =>
      match s.pull with
      | (.ready (.ok (some item)), s) =>
        let (answers, s) := go rest s
        (.ready (.ok (some item)) :: answers, s)
      | (answer, s) => ([answer], s)

end MessageStream

/-- A stream with its producers by name. The stream is abandoned when the last one leaves. -/
structure ProducedStream (α : Type) where
  stream : MessageStream α := .fresh
  producers : List String := ["a"]

namespace ProducedStream

variable {α : Type}

def onStream {β : Type} (p : ProducedStream α) (f : MessageStream α → β × MessageStream α) :
    β × ProducedStream α :=
  ((f p.stream).1, { p with stream := (f p.stream).2 })

/-- Pushes items one by one, and counts those that were taken. -/
def pushAll (p : ProducedStream α) (items : List α) : Nat × ProducedStream α :=
  p.onStream fun s => items.foldl (fun (count, s) item =>
    let (taken, s) := s.push item
    (if taken then count + 1 else count, s)) (0, s)

/-- One more producer. -/
def join (p : ProducedStream α) (name : String) : ProducedStream α :=
  { p with producers := p.producers ++ [name] }

def leave (p : ProducedStream α) (name : String) : ProducedStream α :=
  let producers := p.producers.erase name
  if producers.isEmpty then { stream := p.stream.abandon, producers } else { p with producers }

end ProducedStream

end RemoteCall
