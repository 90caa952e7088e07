import RemoteCall.CallError
import RemoteCall.Poll

/-!
# Acceptances

A transport accepts each part it is handed, now or later. `Signal` is the transport's side of a
later acceptance, and `Acceptance` is what the sender waits for. A signal that goes away unused
counts as a failure of the transport. A `Receipt` names an acceptance by its number, and
`Receipt.awaitAll` waits for several of them in order.
-/

namespace RemoteCall

/-- How far the transport has come with a part. -/
inductive Signal where
  /-- Not settled yet. -/
  | waiting
  | settled (outcome : Result Unit)
  /-- Dropped without an outcome. -/
  | dropped
  deriving Inhabited

namespace Signal

/-- The failure that a dropped signal stands for. -/
def droppedError : CallError := .transport "transport dropped the part before accepting it"

/-- What a waiting sender learns from a signal. -/
def outcome? : Signal → Option (Result Unit)
  | waiting => none
  | settled outcome => some outcome
  | dropped => some (.error droppedError)

end Signal

/-- What the sender of a part waits for. -/
inductive Acceptance where
  /-- An outcome that was known at once; `none` after it was taken. -/
  | ready (outcome : Option (Result Unit))
  /-- An outcome that comes through a signal. -/
  | awaiting (signal : Signal) (waker : Waker)

namespace Acceptance

def accepted : Acceptance := ready (some (.ok ()))

def rejected (e : CallError) : Acceptance := ready (some (.error e))

/-- Settled later. -/
def pending : Acceptance := awaiting .waiting .idle

/-- One poll. A known outcome is given once, and from then on counts as accepted. -/
def poll : Acceptance → Poll (Result Unit) × Acceptance
  | ready outcome => (.ready (outcome.getD (.ok ())), ready none)
  | awaiting signal _ =>
    match signal.outcome? with
    | some outcome => (.ready outcome, awaiting signal .idle)
    | none => (.pending, awaiting signal .armed)

/-- Uses the signal up. Without one that waits, nothing happens. -/
def settle (outcome : Signal) : Acceptance → Acceptance
  | awaiting .waiting waker => awaiting outcome waker.wake
  | other => other

/-- Whether the acceptance is done for good once polled. -/
def isAwaiting : Acceptance → Bool
  | awaiting _ _ => true
  | ready _ => false

end Acceptance

/-- What the sender of a part knows of its acceptance: an outcome at once, or the number under
which the transport settles it. -/
inductive Receipt where
  | known (outcome : Result Unit)
  | issued (ticket : Nat)

namespace Receipt

/-- The outcome of one acceptance, under the signals of the transport. -/
def outcome? (signals : Nat → Signal) : Receipt → Option (Result Unit)
  | known outcome => some outcome
  | issued ticket => (signals ticket).outcome?

/-- Waits for acceptances in order: the first that failed, counts once all before it are
accepted. -/
def awaitAll (signals : Nat → Signal) : List Receipt → Option (Result Unit)
  | [] => some (.ok ())
  | receipt :: rest =>
    match receipt.outcome? signals with
    | none => none
    | some (.error e) => some (.error e)
    | some (.ok ()) => awaitAll signals rest

/-- Waiting for two batches is waiting for the one and then for the other. -/
theorem awaitAll_append (signals : Nat → Signal) (first second : List Receipt) :
    awaitAll signals (first ++ second) =
      match awaitAll signals first with
      | some (.ok ()) => awaitAll signals second
      | other => other := by
  induction first with
  | nil => rfl
  | cons receipt rest ih =>
    simp only [List.cons_append, awaitAll]
    cases receipt.outcome? signals with
    | none => rfl
    | some outcome =>
      cases outcome with
      | error e => rfl
      | ok u => exact ih

end Receipt

/-- Acceptances under names, with the signals that outlive them. -/
structure AcceptanceTable where
  entries : Named Acceptance := []

namespace AcceptanceTable

def create (t : AcceptanceTable) (name : String) (a : Acceptance) : AcceptanceTable :=
  ⟨t.entries.put name a⟩

/-- Uses up the signal of an acceptance. -/
def settle (t : AcceptanceTable) (name : String) (outcome : Signal) : AcceptanceTable :=
  ⟨t.entries.modify name (·.settle outcome)⟩

/-- Drops an acceptance. Answers whether it was there. -/
def drop (t : AcceptanceTable) (name : String) : Bool × AcceptanceTable :=
  ((t.entries.find? name).isSome, ⟨t.entries.erase name⟩)

/-- Polls an acceptance, if it is there. One that came through a signal is gone once settled. -/
def poll (t : AcceptanceTable) (name : String) :
    Option (Poll (Result Unit)) × AcceptanceTable :=
  match t.entries.find? name with
  | none => (none, t)
  | some a =>
    let (answer, a') := a.poll
    if a.isAwaiting && answer.isReady then (some answer, ⟨t.entries.erase name⟩)
    else (some answer, ⟨t.entries.put name a'⟩)

/-- The acceptances woken since their last poll. -/
def woken (t : AcceptanceTable) : List String :=
  (t.entries.filter fun e =>
    match e.2 with
    | .awaiting _ waker => waker.wasWoken
    | .ready _ => false).map Prod.fst

end AcceptanceTable

end RemoteCall
