import RemoteCall.Proofs.Client.Errands

/-!
# Dropped forwarders

A forwarder that is dropped on its way leaves a cleanup behind, and the cleanup cancels the call:
from then on the call is terminated or the cleanup still waits (`Active.Abandoned`), whatever else
happens. The cleanup can always move, so the call is cancelled once nothing can move any more.

A forwarder has no guard before it is polled for the first time. Dropping it then leaves the call
as if the forwarder had never been there (`Active.after_without`), and so not cancelled.
`Active.dropped_forwarder_cancels` puts the two together.
-/

namespace RemoteCall

namespace Errand

variable {J α : Type}

/-- What cannot move is not what is picked. -/
theorem next?_erase {errands : List (Errand J)} {id : String} (f : J → Option α)
    (unpolled : ∀ errand ∈ under errands id, errand.begun = false) :
    next? f (erase errands id) =
      (next? f errands).map fun (before, errand, found, behind) =>
        (erase before id, errand, found, erase behind id) := by
  induction errands with
  | nil => rfl
  | cons errand rest ih =>
    have later : ∀ errand ∈ under rest id, errand.begun = false := by
      intro other member
      refine unpolled other ?_
      rw [under_cons]
      split
      · exact List.mem_cons_of_mem _ member
      · exact member
    have rest_eq := ih later
    unfold next? erase at rest_eq ⊢
    cases named : errand.isNamed id with
    | true =>
      have idle : errand.begun = false :=
        unpolled errand (by rw [under_cons, if_pos named]; exact List.mem_cons_self)
      rw [List.filter_cons_of_neg (by simp [named]), rest_eq]
      simp only [pickFirst?, idle, Bool.false_eq_true, if_false, Option.map_map]
      refine congrFun (congrArg Option.map (funext fun found => ?_)) _
      simp [Function.comp, named]
    | false =>
      rw [List.filter_cons_of_pos (by simp [named])]
      simp only [pickFirst?]
      cases (if errand.begun = true then f errand.job else none) with
      | some found => rfl
      | none =>
        rw [rest_eq]
        simp only [Option.map_map]
        refine congrFun (congrArg Option.map (funext fun found => ?_)) _
        simp [Function.comp, named]

end Errand

namespace Client

variable {σ P Req Resp : Type}

/-- Whether a happening is that the call goes away. -/
def Happening.isDissolve : Happening σ P Req Resp → Bool
  | dissolve _ => true
  | _ => false

namespace Active

variable {a : Active σ P Req Resp} {id : String}

theorem terminated_happen (happening : Happening σ P Req Resp) (gone : a.call.terminated = true) :
    (a.happen happening).1.call.terminated = true := by
  have balance := counts_happen a happening
  rw [gone] at balance
  cases still : (a.happen happening).1.call.terminated with
  | true => rfl
  | false =>
    rw [still] at balance
    simp at balance

theorem terminated_after (course : List (Happening σ P Req Resp))
    (gone : a.call.terminated = true) : (a.after course).call.terminated = true := by
  induction course generalizing a with
  | nil => exact gone
  | cons happening rest ih => exact ih (terminated_happen happening gone)

/-- The call is cancelled, or a cleanup waits to do so. -/
def Abandoned (a : Active σ P Req Resp) : Prop :=
  a.call.terminated = true ∨ cleanup ∈ a.errands

/-- The move of a cleanup leaves the call terminated. -/
theorem terminated_of_moveJob? {signals : Nat → Signal} {cancelSignal : Signal}
    {turn : Turn (Job Req) (Answer Resp)} {p : Pass σ P Resp}
    (moved : a.moveJob? signals cancelSignal .cancel = some (turn, p)) :
    p.call.terminated = true := by
  cases moved
  have givesUp : (.cancel : Event P Req).givesUp a.setup a.call = true := rfl
  exact Event.terminated_of_givesUp givesUp

theorem Abandoned.moves {signals : Nat → Signal} {cancelSignal : Signal}
    {b : Active σ P Req Resp} (waits : cleanup ∈ a.errands)
    (moves : a.Moves signals cancelSignal b) : b.Abandoned := by
  cases moves with
  | @goesOn before behind errand job p errands begun moved =>
    rw [errands, List.mem_append, List.mem_cons] at waits
    rcases waits with front | rfl | back
    · exact .inr (List.mem_append_left _ front)
    · exact .inl (terminated_of_moveJob? moved)
    · exact .inr (List.mem_append_right _ (List.mem_cons_of_mem _ back))
  | @done before behind errand answer p errands begun moved =>
    rw [errands, List.mem_append, List.mem_cons] at waits
    rcases waits with front | rfl | back
    · exact .inr (List.mem_append_left _ (List.mem_append_left _ front))
    · exact .inl (terminated_of_moveJob? moved)
    · exact .inr (List.mem_append_left _ (List.mem_append_right _ back))

theorem mem_erase_cleanup {errands : List (Errand (Job Req))} (waits : cleanup ∈ errands)
    (id : String) : cleanup ∈ Errand.erase errands id :=
  List.mem_filter.mpr ⟨waits, rfl⟩

/-- Nothing that happens makes a waiting cleanup go away without having done its work. -/
theorem Abandoned.happen (abandoned : a.Abandoned) (happening : Happening σ P Req Resp) :
    (a.happen happening).1.Abandoned := by
  rcases abandoned with gone | waits
  · exact .inl (terminated_happen happening gone)
  · have kept : ∀ {b : Active σ P Req Resp}, cleanup ∈ b.errands → b.Abandoned := .inr
    cases reshapes_happen a happening with
    | moves moves => exact Abandoned.moves waits moves
    | rest unpolled unmoved errands finished => exact kept (errands ▸ waits)
    | waits errands finished => exact kept (errands ▸ List.mem_append_left _ waits)
    | engage errands finished => exact kept (errands ▸ List.mem_append_left _ waits)
    | poll errands finished => exact kept (errands ▸ List.mem_map.mpr ⟨cleanup, waits, rfl⟩)
    | @drop id b errands finished =>
      exact kept (errands ▸ List.mem_append_left _ (mem_erase_cleanup waits id))

theorem Abandoned.after (abandoned : a.Abandoned) (course : List (Happening σ P Req Resp)) :
    (a.after course).Abandoned := by
  induction course generalizing a with
  | nil => exact abandoned
  | cons happening rest ih => exact ih (abandoned.happen happening)

/-- A guarded errand that was polled leaves a cleanup when it is dropped. -/
theorem cleanup_mem_drop {errand : Errand (Job Req)} (here : errand ∈ Errand.under a.errands id)
    (begun : errand.begun = true) (guarded : errand.job.isGuarded = true) :
    cleanup ∈ (a.drop id).errands := by
  obtain ⟨member, named⟩ := List.mem_filter.mp here
  rw [drop_eq]
  refine List.mem_append_right _ (List.mem_filterMap.mpr ⟨errand, member, ?_⟩)
  rw [named, begun, guarded]
  rfl

/-- A cleanup can move at any time. -/
theorem cleanup_not_mem_of_rest {signals : Nat → Signal} {cancelSignal : Signal}
    (rest : a.moveErrand? signals cancelSignal = none) : cleanup ∉ a.errands := by
  intro waits
  cases moveJob?_of_rest rest waits rfl

/-! ### Cancelled calls -/

/-- The call has its status, and its transport was asked to cancel, once. -/
structure IsCancelled (requests : List (TransportOp P)) (a : Active σ P Req Resp) : Prop where
  status : a.call.status?.isSome = true
  once : requests.countP TransportOp.isCancel = 1

/-- A call that could be started is cancelled exactly when it is terminated. -/
theorem isCancelled_iff (setup : Setup σ P Req Resp) (shared : σ) (now : Nat)
    (request : Option Req) (course : List (Happening σ P Req Resp)) :
    let begun := start setup shared now (.ok ()) request
    (begun.1.after course).IsCancelled (begun.2 ++ begun.1.asked course) ↔
      (begun.1.after course).call.terminated = true := by
  intro begun
  have total : (begun.2 ++ begun.1.asked course).countP TransportOp.isCancel =
      (begun.1.after course).call.terminated.toNat :=
    counts_course setup shared now (.ok ()) request course
  have concluded : (begun.1.after course).call.terminated = true →
      (begun.1.after course).call.status?.isSome = true :=
    after_keeps (I := fun call => call.terminated = true → call.status?.isSome = true)
      (fun call call' changes held => changes.concluded held) course
      (Call.sound_begin setup shared (.ok ()) request).terminated
  constructor
  · intro cancelled
    have once := cancelled.once
    rw [total] at once
    exact Bool.toNat_eq_one.mp once
  · intro gone
    exact ⟨concluded gone, by rw [total, gone]; rfl⟩

/-- The same for a course in which an errand is dropped. -/
theorem isCancelled_drop_iff (setup : Setup σ P Req Resp) (shared : σ) (now : Nat)
    (request : Option Req) (course later : List (Happening σ P Req Resp)) :
    let begun := start setup shared now (.ok ()) request
    let dropped := (begun.1.after course).drop id
    (dropped.after later).IsCancelled
        (begun.2 ++ begun.1.asked course ++ dropped.asked later) ↔
      (dropped.after later).call.terminated = true := by
  intro begun dropped
  have state : begun.1.after (course ++ .drop id :: later) = dropped.after later := by
    rw [after_append, after_cons]
    rfl
  have requested : begun.1.asked (course ++ .drop id :: later) =
      begun.1.asked course ++ dropped.asked later := by
    rw [asked_append, asked]
    rfl
  have cancelled : (begun.1.after (course ++ .drop id :: later)).IsCancelled
      (begun.2 ++ begun.1.asked (course ++ .drop id :: later)) ↔ _ :=
    isCancelled_iff setup shared now request _
  rwa [state, requested, ← List.append_assoc] at cancelled

/-- What is dropped on its way cancels the call as soon as its cleanup has run. -/
theorem isCancelled_of_cleanup (setup : Setup σ P Req Resp) (shared : σ) (now : Nat)
    (request : Option Req) (course later : List (Happening σ P Req Resp)) :
    let begun := start setup shared now (.ok ()) request
    let dropped := (begun.1.after course).drop id
    cleanup ∈ dropped.errands → cleanup ∉ (dropped.after later).errands →
      (dropped.after later).IsCancelled
        (begun.2 ++ begun.1.asked course ++ dropped.asked later) := by
  intro begun dropped waits clean
  exact (isCancelled_drop_iff setup shared now request course later).mpr
    ((Abandoned.after (.inr waits) later).resolve_right clean)

/-! ### Before the first poll -/

/-- The call without the errands of a name. -/
def without (a : Active σ P Req Resp) (id : String) : Active σ P Req Resp :=
  { a with errands := Errand.erase a.errands id }

/-- An errand that was never polled leaves nothing behind. -/
theorem drop_of_unpolled (unpolled : ∀ errand ∈ Errand.under a.errands id, errand.begun = false) :
    a.drop id = a.without id := by
  have nothing : leftBehind a.errands id = [] := by
    refine List.filterMap_eq_nil_iff.mpr fun errand member => ?_
    by_cases named : errand.isNamed id = true
    · rw [unpolled errand (List.mem_filter.mpr ⟨member, named⟩), Bool.and_false, Bool.false_and]
      rfl
    · rw [Bool.eq_false_iff.mpr named, Bool.false_and, Bool.false_and]
      rfl
  rw [drop_eq, nothing, List.append_nil]
  rfl

theorem erase_leftBehind (errands : List (Errand (Job Req))) (other id : String) :
    Errand.erase (leftBehind errands other) id = leftBehind errands other := by
  refine List.filter_eq_self.mpr fun left member => ?_
  rw [eq_cleanup_of_mem_leftBehind member]
  rfl

/-- What a drop leaves behind does not depend on the errands of other names. -/
theorem leftBehind_erase {other : String} (ne : other ≠ id) (errands : List (Errand (Job Req))) :
    leftBehind (Errand.erase errands id) other = leftBehind errands other := by
  induction errands with
  | nil => rfl
  | cons errand rest ih =>
    unfold leftBehind at ih ⊢
    by_cases named : errand.isNamed id = true
    · rw [Errand.erase_cons, if_pos named, ih, List.filterMap_cons_none]
      rw [Errand.isNamed_of_ne ne named, Bool.false_and, Bool.false_and]
      rfl
    · rw [Errand.erase_cons, if_neg named, List.filterMap_cons, ih, List.filterMap_cons]

theorem drop_without {other : String} (ne : other ≠ id) (a : Active σ P Req Resp) :
    (a.without id).drop other = (a.drop other).without id := by
  simp only [drop_eq, without, Errand.erase_append, leftBehind_erase ne, erase_leftBehind,
    Errand.erase_erase_comm]

theorem moveJob?_without (a : Active σ P Req Resp) (id : String) (signals : Nat → Signal)
    (cancelSignal : Signal) :
    (a.without id).moveJob? signals cancelSignal = a.moveJob? signals cancelSignal := by
  funext job
  cases job with
  | accept batch => cases batch <;> rfl
  | _ => rfl

theorem expire?_without (a : Active σ P Req Resp) (id : String) (now : Nat) :
    (a.without id).expire? now =
      (a.expire? now).map fun out => (out.1.without id, out.2) := by
  have same : (a.without id).call.expire (a.without id).setup = a.call.expire a.setup := rfl
  unfold expire?
  rw [show (a.without id).due = a.due from rfl, same]
  cases a.due with
  | none => rfl
  | some due =>
    by_cases early : now < due
    · simp only [if_pos early, Option.map_none]
    · obtain ⟨first, p⟩ := a.call.expire a.setup
      cases first <;>
        simp [early, settle, engage, without, Errand.erase, Errand.isNamed]

theorem moveErrand?_without
    (unpolled : ∀ errand ∈ Errand.under a.errands id, errand.begun = false)
    (signals : Nat → Signal) (cancelSignal : Signal) :
    (a.without id).moveErrand? signals cancelSignal =
      (a.moveErrand? signals cancelSignal).map fun out => (out.1.without id, out.2) := by
  unfold moveErrand?
  rw [moveJob?_without, show (a.without id).errands = Errand.erase a.errands id from rfl,
    Errand.next?_erase _ unpolled]
  cases found : Errand.next? (a.moveJob? signals cancelSignal) a.errands with
  | none => rfl
  | some next =>
    obtain ⟨before, errand, ⟨turn, p⟩, behind⟩ := next
    obtain ⟨errands, went⟩ := eq_append_of_pickFirst? found
    obtain ⟨begun, -⟩ := Option.ite_none_right_eq_some.mp went
    have unnamed : errand.isNamed id = false := by
      refine Bool.eq_false_iff.mpr fun named => ?_
      have idle := unpolled errand (List.mem_filter.mpr ⟨errands ▸ by simp, named⟩)
      rw [idle] at begun
      cases begun
    cases turn with
    | goesOn job =>
      have still : ({ errand with job } : Errand (Job Req)).isNamed id = false := unnamed
      simp [settle, without, Errand.erase, still]
    | done answer =>
      have cleanups : ∀ left : Bool, Errand.erase
          (if left then [(cleanup : Errand (Job Req))] else []) id =
            if left then [cleanup] else [] := by
        intro left
        cases left <;> rfl
      simp only [Option.map_some, settle, without, Errand.erase_append, cleanups]

/-- While an errand was never polled, everything else happens as if it were not there. -/
theorem happen_without (unpolled : ∀ errand ∈ Errand.under a.errands id, errand.begun = false)
    {happening : Happening σ P Req Resp} (undisturbed : happening.disturbs id = false)
    (lasts : happening.isDissolve = false) :
    (a.without id).happen happening =
      ((a.happen happening).1.without id, (a.happen happening).2) := by
  cases happening with
  | dissolve transportHolds => cases lasts
  | hold call sender => rfl
  | stream f => rfl
  | note update => rfl
  | part part => rfl
  | error e => rfl
  | enqueue parts => rfl
  | engage other =>
    have unnamed : other.isNamed id = false := undisturbed
    simp [happen, engage, without, Errand.erase, unnamed]
  | poll other => simp only [happen, without, Errand.erase_poll]
  | drop other => simp only [happen, drop_without (beq_eq_false_iff_ne.mp undisturbed)]
  | watchdog now =>
    simp only [happen, expire?_without]
    cases a.expire? now <;> rfl
  | errand signals cancelSignal =>
    simp only [happen, moveErrand?_without unpolled]
    cases a.moveErrand? signals cancelSignal <;> rfl

/-- An errand that nobody polls stays as it is. -/
theorem under_happen_of_unpolled
    (unpolled : ∀ errand ∈ Errand.under a.errands id, errand.begun = false)
    {happening : Happening σ P Req Resp} (undisturbed : happening.disturbs id = false)
    (never : happening ≠ .poll id) :
    Errand.under (a.happen happening).1.errands id = Errand.under a.errands id := by
  have idle : ∀ {before behind : List (Errand (Job Req))} {errand : Errand (Job Req)},
      Errand.under a.errands id = before ++ errand :: behind → errand.begun ≠ true := by
    intro before behind errand was begun
    rw [unpolled errand (was ▸ by simp)] at begun
    cases begun
  cases progress_happen a undisturbed with
  | stays unpolled others here answers => exact here
  | polled => exact absurd rfl never
  | goesOn was begun => exact absurd begun (idle was)
  | done was begun => exact absurd begun (idle was)

/-- An errand that nobody polls keeps the call from going away, and has no other effect. -/
theorem after_without {course : List (Happening σ P Req Resp)}
    (here : Errand.under a.errands id ≠ [])
    (unpolled : ∀ errand ∈ Errand.under a.errands id, errand.begun = false)
    (undisturbed : ∀ happening ∈ course, happening.disturbs id = false)
    (never : .poll id ∉ course) :
    (a.after course).without id = (a.without id).after (course.filter (!·.isDissolve)) ∧
      a.asked course = (a.without id).asked (course.filter (!·.isDissolve)) ∧
      Errand.under (a.after course).errands id = Errand.under a.errands id := by
  induction course generalizing a with
  | nil => exact ⟨rfl, rfl, rfl⟩
  | cons happening rest ih =>
    obtain ⟨first, later⟩ := List.forall_mem_cons.mp undisturbed
    obtain ⟨other, laterNever⟩ := not_or.mp (fun is => never (List.mem_cons.mpr is))
    have kept := under_happen_of_unpolled unpolled first (Ne.symm other)
    obtain ⟨state, requests, stays⟩ :=
      ih (a := (a.happen happening).1) (kept ▸ here) (kept ▸ unpolled) later laterNever
    refine ⟨?_, ?_, stays.trans kept⟩
    all_goals
      by_cases dissolves : happening.isDissolve = true
      · have nothing : a.happen happening = (a, []) := by
          cases happening with
          | dissolve transportHolds =>
            have busy : a.errands ≠ [] := fun none => here (by rw [none]; rfl)
            simp [happen, dissolve?, busy]
          | _ => cases dissolves
        rw [nothing] at state requests
        simp only [List.filter_cons, dissolves, Bool.not_true, Bool.false_eq_true, if_false,
          after_cons, asked, nothing, state, requests, List.nil_append]
      · have lasts := Bool.eq_false_iff.mpr dissolves
        have moved := happen_without unpolled first lasts
        simp only [List.filter_cons, lasts, Bool.not_false, if_true, after_cons, asked, moved,
          state, requests]

/-- Where the name is free, taking an errand of that name away undoes its start. -/
theorem without_engage {errand : Errand (Job Req)} (named : errand.isNamed id = true)
    (vacant : Errand.under a.errands id = []) : (a.engage errand).without id = a := by
  simp only [engage, without, Errand.erase_append, Errand.erase_of_vacant vacant,
    Errand.erase_cons, named, if_true]
  simp [Errand.erase]

/-! ### From its start to its end -/

/-- A forwarder is on its way, polled or not, until it has answered. -/
theorem forwarder_after {course : List (Happening σ P Req Resp)} {polled : Bool}
    {source : Forwarder Req}
    (one : Errand.under a.errands id = [⟨some id, polled, .forward source⟩])
    (undisturbed : ∀ happening ∈ course, happening.disturbs id = false) :
    (∃ polled' source',
      Errand.under (a.after course).errands id = [⟨some id, polled', .forward source'⟩] ∧
      (polled' = true ↔ polled = true ∨ .poll id ∈ course)) ∨
    ∃ result, (a.after course).answers id = a.answers id ++ [.sent result] := by
  induction course generalizing a polled source with
  | nil => exact .inl ⟨polled, source, one, by simp⟩
  | cons happening rest ih =>
    obtain ⟨first, later⟩ := List.forall_mem_cons.mp undisturbed
    have progress := progress_happen a first
    cases progress with
    | stays unpolled others here answers =>
      rcases ih (here.trans one) later with ⟨polled', source', still, iff⟩ | ⟨result, answered⟩
      · refine .inl ⟨polled', source', still, iff.trans (or_congr_right ?_)⟩
        simp [Ne.symm unpolled]
      · exact .inr ⟨result, answers ▸ answered⟩
    | polled here answers =>
      rw [one] at here
      rcases ih here later with ⟨polled', source', still, iff⟩ | ⟨result, answered⟩
      · exact .inl ⟨polled', source', still, iff.trans (by simp)⟩
      · exact .inr ⟨result, answers ▸ answered⟩
    | goesOn was begun moved call here answers =>
      obtain ⟨rfl, rfl, rfl⟩ := eq_of_singleton (one.symm.trans was)
      obtain ⟨⟨turn, p⟩, -, same⟩ := Option.map_eq_some_iff.mp moved
      cases turn with
      | done result => cases same
      | goesOn source =>
        cases same
        rcases ih here later with ⟨polled', source', still, iff⟩ | ⟨result, answered⟩
        · exact .inl ⟨polled', source', still, iff.trans (by simp)⟩
        · exact .inr ⟨result, answers ▸ answered⟩
    | done was begun moved call here answers =>
      obtain ⟨rfl, rfl, rfl⟩ := eq_of_singleton (one.symm.trans was)
      obtain ⟨⟨turn, p⟩, -, same⟩ := Option.map_eq_some_iff.mp moved
      cases turn with
      | goesOn source => cases same
      | done result =>
        cases same
        exact .inr ⟨result, ((vacant_after later here).2).trans answers⟩

/-- A forwarder that is dropped before it has answered cancels the call, provided that it was
polled: it leaves a cleanup, and once no cleanup waits any more, which is so when nothing can move,
the call has its status and its transport was asked to cancel, once. That holds whatever the
application, the hooks, the deadline and the transport do before and after. A forwarder that was
never polled leaves nothing: the call is where it would be without it. -/
theorem dropped_forwarder_cancels (setup : Setup σ P Req Resp) (shared : σ) (now : Nat)
    (request : Option Req) (earlier course later : List (Happening σ P Req Resp)) (id : String)
    (polled : Bool) (source : Forwarder Req) :
    let begun := start setup shared now (.ok ()) request
    let called := begun.1.after earlier
    let forwarding := earlier ++ .engage ⟨some id, polled, .forward source⟩ :: course
    let reached := begun.1.after forwarding
    let left := (reached.drop id).after later
    let requests := begun.2 ++ begun.1.asked forwarding ++ (reached.drop id).asked later
    Errand.under called.errands id = [] →
    (∀ happening ∈ course, happening.disturbs id = false) →
    reached.answers id = called.answers id →
      (polled = true ∨ .poll id ∈ course →
        cleanup ∈ (reached.drop id).errands ∧
        (cleanup ∉ left.errands → left.IsCancelled requests)) ∧
      (¬(polled = true ∨ .poll id ∈ course) →
        reached.drop id = begun.1.after (earlier ++ course.filter (!·.isDissolve)) ∧
        begun.1.asked forwarding = begun.1.asked (earlier ++ course.filter (!·.isDissolve))) ∧
      ∀ signals cancelSignal, left.moveErrand? signals cancelSignal = none →
        cleanup ∉ left.errands := by
  intro begun called forwarding reached left requests vacant undisturbed unanswered
  let engaged := called.engage ⟨some id, polled, .forward source⟩
  have state : reached = engaged.after course := by
    simp only [reached, forwarding, after_append, after_cons]
    rfl
  have requested : begun.1.asked forwarding = begun.1.asked earlier ++ engaged.asked course := by
    simp only [forwarding, asked_append, asked]
    rfl
  have named : (⟨some id, polled, .forward source⟩ : Errand (Job Req)).isNamed id = true :=
    beq_self_eq_true _
  have one : Errand.under engaged.errands id = [⟨some id, polled, .forward source⟩] := by
    simp only [engaged, engage, Errand.under_append, vacant, Errand.under_cons, named, if_true]
    rfl
  refine ⟨?_, ?_, ?_⟩
  · intro wasPolled
    obtain ⟨polled', source', here, iff⟩ | ⟨result, answered⟩ := forwarder_after one undisturbed
    · have waits : cleanup ∈ (reached.drop id).errands :=
        state ▸ cleanup_mem_drop (here ▸ List.mem_singleton_self _) (iff.mpr wasPolled) rfl
      exact ⟨waits, isCancelled_of_cleanup setup shared now request forwarding later waits⟩
    · have lengths := congrArg List.length (answered.symm.trans (state ▸ unanswered))
      simp [engaged, engage, answers, called] at lengths
  · intro never
    obtain ⟨unpolled, nobody⟩ := not_or.mp never
    have idle : ∀ errand ∈ Errand.under engaged.errands id, errand.begun = false := by
      intro errand member
      rw [one] at member
      rw [List.mem_singleton.mp member]
      exact Bool.eq_false_iff.mpr unpolled
    obtain ⟨without, silent, stays⟩ :=
      after_without (by simp [one]) idle undisturbed nobody
    have undone : engaged.without id = called := without_engage named vacant
    rw [undone] at without silent
    constructor
    · rw [after_append, state, ← without]
      exact drop_of_unpolled (stays ▸ idle)
    · rw [requested, silent, asked_append]
  · exact fun signals cancelSignal rest => cleanup_not_mem_of_rest rest

end Active

/-- A call that sends a stream of texts for one text. -/
def recital : Setup Unit String String String := { greeting with shape := .clientStreaming }

/-- A source that yields one text and then stays silent. -/
def hesitant : Forwarder String := { items := [.ok "a"], ends := false }

/-- A transport that accepts every part. -/
def accepting : Nat → Signal := fun _ => .settled (.ok ())

namespace Active

/-- A forwarder that is polled once, forwards a text and is then dropped cancels its call. -/
theorem polled_forwarder_cancels :
    let begun := start recital () 0 (.ok ()) none
    let course :=
      [.engage ⟨some "f", false, .forward hesitant⟩, .poll "f", .errand accepting .waiting]
    let dropped := (begun.1.after course).drop "f"
    let later := [.errand accepting .waiting]
    cleanup ∉ (dropped.after later).errands ∧
      (dropped.after later).IsCancelled
        (begun.2 ++ begun.1.asked course ++ dropped.asked later) := by
  intro begun course dropped later
  have undisturbed : ∀ happening ∈ ([.poll "f", .errand accepting .waiting] :
      List (Happening Unit String String String)), happening.disturbs "f" = false := by
    simp [Happening.disturbs]
  have clean : cleanup ∉ (dropped.after later).errands := by
    have rest : (dropped.after later).errands = [{ job := .awaitCancel }] := rfl
    rw [rest, List.mem_singleton]
    intro same
    cases same
  obtain ⟨cancels, -, -⟩ := dropped_forwarder_cancels recital () 0 none []
    [.poll "f", .errand accepting .waiting] later "f" false hesitant rfl undisturbed rfl
  exact ⟨clean, (cancels (.inr List.mem_cons_self)).2 clean⟩

/-- A forwarder that is dropped before its first poll leaves its call alone: nothing is left to do
for it, and the call is still running. -/
theorem unpolled_forwarder_forgotten :
    let begun := start recital () 0 (.ok ()) none
    let course := [.engage ⟨some "f", false, .forward hesitant⟩]
    let dropped := (begun.1.after course).drop "f"
    dropped.errands = [] ∧ dropped.call.terminated = false ∧ dropped.call.status? = none ∧
      (∀ signals cancelSignal, dropped.moveErrand? signals cancelSignal = none) ∧
      ¬dropped.IsCancelled (begun.2 ++ begun.1.asked course) := by
  refine ⟨rfl, rfl, rfl, fun signals cancelSignal => rfl, fun cancelled => ?_⟩
  cases cancelled.status

end Active

end Client

end RemoteCall
