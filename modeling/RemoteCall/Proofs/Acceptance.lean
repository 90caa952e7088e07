import RemoteCall.Acceptance

/-!
# Waiting for acceptances

A sender waits for the acceptances of its parts in order. What it is told at a moment depends only
on how the acceptances stand at that moment (`Receipt.tells_awaitAll`): it does not matter in which
order they were settled, nor how often the sender was polled before (`Receipt.awaitPolls_eq`), nor
what else the system that keeps the wait did meanwhile (`Receipt.Waits.run`).

A `Tally` is what was handed to a transport: each part that can be encoded is counted and has its
number as a receipt, and any other part has its failure (`Tally.handAll_eq`).
-/

namespace RemoteCall

/-- The transport goes on: what was settled or dropped stays so. -/
def Signal.GoesOn (earlier later : Nat → Signal) : Prop :=
  ∀ ticket, earlier ticket = .waiting ∨ later ticket = earlier ticket

namespace Receipt

variable {signals earlier later : Nat → Signal} {receipts : List Receipt}

/-! ### What a sender is told -/

/-- A sender that waits for some acceptances is told the right thing: that all went well exactly
when all of them are accepted, and a failure exactly when it is the first that one of them has
while all before it are accepted. Otherwise it has to wait. -/
structure Tells (signals : Nat → Signal) (receipts : List Receipt)
    (answer? : Option (Result Unit)) : Prop where
  accepted : answer? = some (.ok ()) ↔ ∀ r ∈ receipts, r.outcome? signals = some (.ok ())
  rejected : ∀ e, answer? = some (.error e) ↔ ∃ before r behind, receipts = before ++ r :: behind ∧
    (∀ q ∈ before, q.outcome? signals = some (.ok ())) ∧ r.outcome? signals = some (.error e)

theorem awaitAll_eq_ok :
    awaitAll signals receipts = some (.ok ()) ↔
      ∀ r ∈ receipts, r.outcome? signals = some (.ok ()) := by
  induction receipts with
  | nil => simp [awaitAll]
  | cons r rest ih =>
    rw [List.forall_mem_cons, awaitAll]
    cases r.outcome? signals with
    | none => simp
    | some outcome =>
      cases outcome with
      | error e => simp
      | ok u => simpa using ih

theorem awaitAll_eq_error {e : CallError} :
    awaitAll signals receipts = some (.error e) ↔
      ∃ before r behind, receipts = before ++ r :: behind ∧
        (∀ q ∈ before, q.outcome? signals = some (.ok ())) ∧
        r.outcome? signals = some (.error e) := by
  constructor
  · intro told
    induction receipts with
    | nil => cases told
    | cons r rest ih =>
      rw [awaitAll] at told
      cases outcome : r.outcome? signals with
      | none =>
        rw [outcome] at told
        cases told
      | some result =>
        rw [outcome] at told
        cases result with
        | error e =>
          cases told
          exact ⟨[], r, rest, rfl, List.forall_mem_nil _, outcome⟩
        | ok u =>
          obtain ⟨before, s, behind, rfl, accepted, failed⟩ := ih told
          exact ⟨r :: before, s, behind, rfl, List.forall_mem_cons.mpr ⟨outcome, accepted⟩, failed⟩
  · rintro ⟨before, r, behind, rfl, accepted, failed⟩
    rw [awaitAll_append, awaitAll_eq_ok.mpr accepted]
    simp only [awaitAll, failed]

theorem tells_awaitAll (signals : Nat → Signal) (receipts : List Receipt) :
    Tells signals receipts (awaitAll signals receipts) :=
  ⟨awaitAll_eq_ok, fun _ => awaitAll_eq_error⟩

/-! ### Polls -/

theorem outcome?_goesOn (goesOn : Signal.GoesOn earlier later) {r : Receipt} {result : Result Unit}
    (settled : r.outcome? earlier = some result) : r.outcome? later = some result := by
  cases r with
  | known outcome => exact settled
  | issued ticket =>
    rcases goesOn ticket with waiting | same
    · simp only [outcome?, waiting] at settled
      cases settled
    · simpa only [outcome?, same] using settled

/-- What a sender was told, it would be told later. -/
theorem awaitAll_goesOn (goesOn : Signal.GoesOn earlier later) {result : Result Unit}
    (told : awaitAll earlier receipts = some result) : awaitAll later receipts = some result := by
  cases result with
  | ok u =>
    rw [awaitAll_eq_ok] at told ⊢
    exact fun r member => outcome?_goesOn goesOn (told r member)
  | error e =>
    rw [awaitAll_eq_error] at told ⊢
    obtain ⟨before, r, behind, split, accepted, failed⟩ := told
    exact ⟨before, r, behind, split,
      fun q member => outcome?_goesOn goesOn (accepted q member), outcome?_goesOn goesOn failed⟩

/-- One poll of a sender that takes its acceptances off one after the other: what it is told, and
those it still has to wait for. -/
def awaitNext (signals : Nat → Signal) : List Receipt → Option (Result Unit) × List Receipt
  | [] => (some (.ok ()), [])
  | r :: rest =>
    match r.outcome? signals with
    | none => (none, r :: rest)
    | some (.error e) => (some (.error e), rest)
    | some (.ok ()) => awaitNext signals rest

/-- What such a sender is told by several polls, each of which finds other signals. -/
def awaitPolls : List (Nat → Signal) → List Receipt → Option (Result Unit)
  | [], _ => none
  | signals :: rest, receipts =>
    match awaitNext signals receipts with
    | (some result, _) => some result
    | (none, left) => awaitPolls rest left

theorem awaitNext_fst (signals : Nat → Signal) (receipts : List Receipt) :
    (awaitNext signals receipts).1 = awaitAll signals receipts := by
  induction receipts with
  | nil => rfl
  | cons r rest ih =>
    simp only [awaitNext, awaitAll]
    cases r.outcome? signals with
    | none => rfl
    | some outcome =>
      cases outcome with
      | error e => rfl
      | ok u => exact ih

/-- What was taken off was accepted, and need not be looked at again. -/
theorem awaitAll_left (goesOn : Signal.GoesOn earlier later)
    (pending : awaitAll earlier receipts = none) :
    awaitAll later (awaitNext earlier receipts).2 = awaitAll later receipts := by
  induction receipts with
  | nil => cases pending
  | cons r rest ih =>
    rw [awaitAll] at pending
    rw [awaitNext]
    cases outcome : r.outcome? earlier with
    | none => rfl
    | some result =>
      rw [outcome] at pending
      cases result with
      | error e => cases pending
      | ok u =>
        have still := outcome?_goesOn goesOn outcome
        simp only [awaitAll, still]
        exact ih pending

/-- However often a sender is polled, it is told by the last poll what the acceptances then say. -/
theorem awaitPolls_eq {polls : List (Nat → Signal)} {last : Nat → Signal}
    (goesOn : (polls ++ [last]).Pairwise Signal.GoesOn) (receipts : List Receipt) :
    awaitPolls (polls ++ [last]) receipts = awaitAll last receipts := by
  induction polls generalizing receipts with
  | nil =>
    rw [List.nil_append, awaitPolls, ← awaitNext_fst]
    cases awaitNext last receipts with
    | mk answer left => cases answer <;> rfl
  | cons signals rest ih =>
    obtain ⟨ahead, later⟩ := List.pairwise_cons.mp goesOn
    have toLast : Signal.GoesOn signals last := ahead last (by simp)
    have told := awaitNext_fst signals receipts
    rw [List.cons_append, awaitPolls]
    cases next : awaitNext signals receipts with
    | mk answer left =>
      rw [next] at told
      cases answer with
      | some result => exact (awaitAll_goesOn toLast told.symm).symm
      | none =>
        have same := awaitAll_left toLast told.symm
        rw [next] at same
        exact (ih later left).trans same

/-! ### A wait in a run -/

/-- A wait for acceptances as a system keeps it. A move that does not disturb it lets it wait on, or
finds its acceptances settled. Then the wait is done with what it was told, and stays so. -/
structure Waits {S M : Type} (receipts : List Receipt) (perform : S → M → S)
    (disturbs polls : M → Bool) (signals? : M → Option (Nat → Signal))
    (waiting : Bool → S → Prop) (done : Result Unit → S → Prop) : Prop where
  goesOn : ∀ {begun s}, waiting begun s → ∀ {move}, disturbs move = false →
    waiting (begun || polls move) (perform s move) ∨
      ∃ signals ∈ signals? move, ∃ result, awaitAll signals receipts = some result ∧
        done result (perform s move)
  stays : ∀ {result s}, done result s → ∀ {move}, disturbs move = false →
    done result (perform s move)

namespace Waits

variable {S M : Type} {perform : S → M → S} {disturbs polls : M → Bool}
  {signals? : M → Option (Nat → Signal)} {waiting : Bool → S → Prop}
  {done : Result Unit → S → Prop} {s : S} {moves : List M}

theorem stays_run (waits : Waits receipts perform disturbs polls signals? waiting done)
    (undisturbed : ∀ move ∈ moves, disturbs move = false) {result : Result Unit}
    (finished : done result s) : done result (moves.foldl perform s) := by
  induction moves generalizing s with
  | nil => exact finished
  | cons move rest ih =>
    obtain ⟨first, later⟩ := List.forall_mem_cons.mp undisturbed
    exact ih later (waits.stays finished first)

/-- After a run, a wait is done with what its acceptances still say, or it goes on. -/
theorem run (waits : Waits receipts perform disturbs polls signals? waiting done)
    (undisturbed : ∀ move ∈ moves, disturbs move = false) {last : Nat → Signal}
    (goesOn : (moves.filterMap signals? ++ [last]).Pairwise Signal.GoesOn) {begun : Bool}
    (pends : waiting begun s) :
    waiting (begun || moves.any polls) (moves.foldl perform s) ∨
      ∃ result, done result (moves.foldl perform s) ∧ Tells last receipts (some result) := by
  induction moves generalizing s begun with
  | nil =>
    rw [List.any_nil, Bool.or_false]
    exact .inl pends
  | cons move rest ih =>
    obtain ⟨first, later⟩ := List.forall_mem_cons.mp undisturbed
    rw [List.foldl_cons, List.any_cons, ← Bool.or_assoc]
    rcases waits.goesOn pends first with still | ⟨signals, shown, result, settled, finished⟩
    · refine ih later (goesOn.sublist (List.Sublist.append_right ?_ _)) still
      exact (List.sublist_cons_self move rest).filterMap signals?
    · -- What the acceptances said at this move, they say at the end.
      rw [List.filterMap_cons_some shown, List.cons_append] at goesOn
      have toLast : Signal.GoesOn signals last := List.rel_of_pairwise_cons goesOn (by simp)
      have tells := tells_awaitAll last receipts
      rw [awaitAll_goesOn toLast settled] at tells
      exact .inr ⟨result, waits.stays_run later finished, tells⟩

end Waits

/-! ### Numbers -/

/-- The receipts of parts that are handed over one after the other: the number of each part that
has an encoding, and the failure of any other. -/
def ofParts {α β : Type} (encode : α → Result β) : Nat → List α → List Receipt
  | _, [] => []
  | number, part :: rest =>
    match encode part with
    | .ok _ => .issued number :: ofParts encode (number + 1) rest
    | .error e => .known (.error e) :: ofParts encode number rest

end Receipt

/-- The encodings of those parts that have one. -/
def encodings {α β : Type} (encode : α → Result β) (parts : List α) : List β :=
  parts.filterMap fun part => (encode part).toOption

/-- What was handed to a transport: the number of all parts so far, and the last of them with their
receipts. -/
structure Tally (β : Type) where
  sent : Nat
  parts : List β
  receipts : List Receipt

namespace Tally

variable {α β : Type} (encode : α → Result β)

def hand (tally : Tally β) (part : α) : Tally β :=
  match encode part with
  | .ok encoded =>
    ⟨tally.sent + 1, tally.parts ++ [encoded], tally.receipts ++ [.issued tally.sent]⟩
  | .error e => { tally with receipts := tally.receipts ++ [.known (.error e)] }

def handAll (tally : Tally β) (parts : List α) : Tally β := parts.foldl (hand encode) tally

@[simp] theorem handAll_nil (tally : Tally β) : tally.handAll encode [] = tally := rfl

theorem handAll_append (tally : Tally β) (first second : List α) :
    tally.handAll encode (first ++ second) = (tally.handAll encode first).handAll encode second :=
  List.foldl_append

theorem handAll_eq (tally : Tally β) (parts : List α) :
    tally.handAll encode parts =
      ⟨tally.sent + (encodings encode parts).length, tally.parts ++ encodings encode parts,
        tally.receipts ++ Receipt.ofParts encode tally.sent parts⟩ := by
  induction parts generalizing tally with
  | nil => simp [encodings, Receipt.ofParts]
  | cons part rest ih =>
    show (tally.hand encode part).handAll encode rest = _
    rw [ih]
    cases encoded : encode part with
    | ok payload => simp [hand, encodings, Receipt.ofParts, encoded, Except.toOption]; omega
    | error e => simp [hand, encodings, Receipt.ofParts, encoded, Except.toOption]

end Tally

end RemoteCall
