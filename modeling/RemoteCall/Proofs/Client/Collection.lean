import RemoteCall.Proofs.Client.Cleanup
import RemoteCall.Proofs.Client.Forwarding

/-!
# Collections

A collection forwards a stream of requests into a call of its own and then waits for the response;
its application has nothing but the collection in its hands. `Active.Collecting` is kept until the
collection has answered.

While it forwards, a collection is guarded as every forwarder is, and dropping it cancels the call.
Once everything is forwarded the guard is gone, and dropping a collection that waits leaves the
call running (`Active.dropped_collection`).
-/

namespace RemoteCall.Client

variable {σ P Req Resp : Type}

/-- Whether the application leaves the call to what it has started. -/
def Happening.isHandsOff : Happening σ P Req Resp → Bool
  | engage _ => false
  | enqueue _ => false
  | _ => true

/-- Whether a happening is neither a deed of the application at the call nor comes from outside. -/
def Happening.isQuiet : Happening σ P Req Resp → Bool
  | engage _ => false
  | enqueue _ => false
  | watchdog _ => false
  | part _ => false
  | error _ => false
  | _ => true

/-- What the job of a collection knows of the request side. -/
def Job.Knows (call : Call σ Resp) : Job Req → Prop
  | .collect source => source.closing = call.closed
  | .awaitResponse => call.closed = true
  | _ => False

theorem Job.Knows.congr {job : Job Req} {call call' : Call σ Resp} (knows : job.Knows call)
    (same : call'.closed = call.closed) : job.Knows call' := by
  cases job with
  | collect source => exact Eq.trans knows same.symm
  | awaitResponse => exact same.trans knows
  | _ => exact knows.elim

namespace Active

variable {a : Active σ P Req Resp} {id : String}

/-- Where the application sends nothing, only errands close the request side. -/
theorem closedFlag_happen {happening : Happening σ P Req Resp}
    (handsOff : happening.isHandsOff = true)
    (still : ∀ signals cancelSignal, happening = .errand signals cancelSignal →
      (a.happen happening).1.call = a.call) :
    (a.happen happening).1.call.closed = a.call.closed := by
  have kept : ∀ event : Event P Req, event.entries a.setup a.call = [] →
      (event.pass a.setup a.call).call.closed = a.call.closed := by
    intro event nothing
    rw [Bool.eq_iff_iff, Event.closedFlag_pass, nothing]
    simp
  cases happening with
  | engage errand => cases handsOff
  | enqueue parts => cases handsOff
  | errand signals cancelSignal => rw [still signals cancelSignal rfl]
  | poll id => rfl
  | drop id => rfl
  | hold call sender => rfl
  | stream f => rfl
  | note update => rfl
  | part part => exact kept (.part part) rfl
  | error e => exact kept (.error e) rfl
  | dissolve transportHolds =>
    rcases call_dissolve a transportHolds with same | same
    · rw [same]
    · rw [same]
      rfl
  | watchdog now =>
    simp only [happen]
    cases moved : a.expire? now with
    | none => rfl
    | some out =>
      obtain ⟨-, call, -⟩ := expire?_eq moved
      simp only [Option.getD_some, call]
      exact kept .expire rfl

/-- A collection on its way: the one errand of its name has this job, and all others are waits of
the watchdog. -/
structure Collecting (a : Active σ P Req Resp) (id : String) (job : Job Req) : Prop where
  here : Errand.under a.errands id = [⟨some id, true, job⟩]
  others : ∀ errand ∈ a.errands, errand.isNamed id = true ∨ errand.job = .awaitCancel
  unanswered : a.answers id = []

/-- A collection goes on as its forwarder does, and waits once everything is forwarded. -/
theorem moveJob?_collect {signals : Nat → Signal} {cancelSignal : Signal}
    {source : Forwarder Req} {turn : Turn (Job Req) (Answer Resp)} {p : Pass σ P Resp}
    (moved : a.moveJob? signals cancelSignal (.collect source) = some (turn, p)) :
    (∃ next, source.Moves a.setup signals a.call (.goesOn next) p ∧
      turn = .goesOn (.collect next)) ∨
    (source.Moves a.setup signals a.call (.done (.ok ())) p ∧ turn = .goesOn .awaitResponse) ∨
    ∃ e, source.Moves a.setup signals a.call (.done (.error e)) p ∧
      turn = .done (.responded (.error e)) := by
  cases does_of_moveJob? moved with
  | collects moved => exact .inl ⟨_, Forwarder.moves_of_move? moved, rfl⟩
  | collected moved => exact .inr (.inl ⟨Forwarder.moves_of_move? moved, rfl⟩)
  | failed moved => exact .inr (.inr ⟨_, Forwarder.moves_of_move? moved, rfl⟩)

theorem moveJob?_awaitResponse {signals : Nat → Signal} {cancelSignal : Signal}
    {turn : Turn (Job Req) (Answer Resp)} {p : Pass σ P Resp}
    (moved : a.moveJob? signals cancelSignal .awaitResponse = some (turn, p)) :
    ∃ result, a.call.value? = some result ∧ turn = .done (.responded result) ∧
      p = .start a.call := by
  cases does_of_moveJob? moved with
  | responded known => exact ⟨_, known, rfl, rfl⟩

/-- As long as the collection has not answered, nobody but the watchdog has an errand besides. -/
theorem others_happen
    (others : ∀ errand ∈ a.errands, errand.isNamed id = true ∨ errand.job = .awaitCancel)
    {happening : Happening σ P Req Resp} (handsOff : happening.isHandsOff = true)
    (undisturbed : happening.disturbs id = false)
    (unanswered : (a.happen happening).1.answers id = a.answers id) :
    ∀ errand ∈ (a.happen happening).1.errands,
      errand.isNamed id = true ∨ errand.job = .awaitCancel := by
  have reshapes := reshapes_happen a happening
  generalize (a.happen happening).1 = b at reshapes unanswered ⊢
  cases reshapes with
  | rest unpolled unmoved errands finished => exact errands ▸ others
  | engage errands finished => cases handsOff
  | waits errands finished =>
    rw [errands]
    intro errand member
    rcases List.mem_append.mp member with old | new
    · exact others errand old
    · exact .inr (List.mem_singleton.mp new ▸ rfl)
  | poll errands finished =>
    rw [errands]
    intro errand member
    obtain ⟨old, was, same⟩ := List.mem_map.mp member
    rcases others old was with named | waits
    · refine .inl ?_
      rw [← same]
      split <;> exact named
    · refine .inr ?_
      rw [← same]
      split <;> exact waits
  | @drop other b errands finished =>
    have differ : other ≠ id := beq_eq_false_iff_ne.mp undisturbed
    rw [errands]
    intro errand member
    rcases List.mem_append.mp member with old | left
    · exact others errand (List.mem_filter.mp old).1
    · -- Nobody of another name is guarded, so nothing is left behind.
      obtain ⟨guarded, was, found⟩ := List.mem_filterMap.mp left
      obtain ⟨conditions, -⟩ := Option.ite_none_right_eq_some.mp found
      rcases others guarded was with named | waits
      · rw [Errand.isNamed_of_ne differ named] at conditions
        cases conditions
      · rw [waits] at conditions
        simp [Job.isGuarded] at conditions
  | moves moves =>
    cases moves with
    | @goesOn before behind moving job p errands begun moved =>
      rw [errands] at others
      intro errand member
      rcases List.mem_append.mp member with front | rest
      · exact others errand (List.mem_append_left _ front)
      · rcases List.mem_cons.mp rest with rfl | back
        · rcases others moving (by simp) with named | waits
          · exact .inl named
          · rw [waits] at moved
            obtain ⟨outcome, -, same⟩ := Option.map_eq_some_iff.mp moved
            cases same
        · exact others errand (List.mem_append_right _ (List.mem_cons_of_mem _ back))
    | @done before behind moving answer p errands begun moved =>
      rw [errands] at others
      intro errand member
      rcases List.mem_append.mp member with old | left
      · refine others errand ?_
        rcases List.mem_append.mp old with front | back
        · exact List.mem_append_left _ front
        · exact List.mem_append_right _ (List.mem_cons_of_mem _ back)
      · rcases others moving (by simp) with named | waits
        · have answered := Errand.answers_concat id a.finished moving answer
          rw [if_pos named] at answered
          have lengths := congrArg List.length (answered.symm.trans unanswered)
          simp [answers] at lengths
        · rw [waits] at left
          cases left

theorem Collecting.happen {job : Job Req} (collecting : a.Collecting id job)
    (knows : job.Knows a.call) {happening : Happening σ P Req Resp}
    (handsOff : happening.isHandsOff = true) (undisturbed : happening.disturbs id = false) :
    (∃ job', (a.happen happening).1.Collecting id job' ∧
      job'.Knows (a.happen happening).1.call) ∨
    ∃ result, Errand.under (a.happen happening).1.errands id = [] ∧
      (a.happen happening).1.answers id = [.responded result] := by
  have others := others_happen collecting.others handsOff undisturbed
  have closed := closedFlag_happen (a := a) handsOff
  have progress := progress_happen a undisturbed
  have one := collecting.here
  generalize (a.happen happening).1 = b at others closed progress ⊢
  cases progress with
  | stays unpolled rest here answers =>
    have same : b.call.closed = a.call.closed := by
      refine closed fun signals cancelSignal is => ?_
      obtain rest | ⟨errand, member, unnamed, turn, p, moved, call⟩ := rest signals cancelSignal is
      · exact rest
      · have waits := (collecting.others errand member).resolve_left
          (Bool.eq_false_iff.mp unnamed)
        rw [waits] at moved
        obtain ⟨outcome, -, same⟩ := Option.map_eq_some_iff.mp moved
        cases same
        exact call
    exact .inl ⟨job, ⟨here.trans one, others answers, answers.trans collecting.unanswered⟩,
      knows.congr same⟩
  | polled here answers =>
    rw [one] at here
    exact .inl ⟨job, ⟨here, others answers, answers.trans collecting.unanswered⟩,
      knows.congr (closed nofun)⟩
  | goesOn was begun moved call here answers =>
    obtain ⟨rfl, rfl, rfl⟩ := eq_of_singleton (one.symm.trans was)
    cases job with
    | collect source =>
      obtain ⟨next, moves, same⟩ | ⟨moves, same⟩ | ⟨e, -, same⟩ := moveJob?_collect moved
      · cases same
        refine .inl ⟨_, ⟨here, others answers, answers.trans collecting.unanswered⟩, ?_⟩
        cases moves with
        | sends open_ next? free =>
          show Forwarder.closing _ = b.call.closed
          rw [call, Pass.closedFlag_enter]
          exact (Forwarder.closing_of_next? open_ next? :)
      · cases same
        refine .inl ⟨_, ⟨here, others answers, answers.trans collecting.unanswered⟩, ?_⟩
        cases moves with
        | closed closing =>
          show b.call.closed = true
          rw [call]
          exact Eq.trans knows.symm closing
      · cases same
    | awaitResponse =>
      obtain ⟨result, -, same, -⟩ := moveJob?_awaitResponse moved
      cases same
    | _ => exact knows.elim
  | done was begun moved call here answers =>
    obtain ⟨rfl, rfl, rfl⟩ := eq_of_singleton (one.symm.trans was)
    rw [collecting.unanswered] at answers
    cases job with
    | collect source =>
      obtain ⟨next, -, same⟩ | ⟨-, same⟩ | ⟨e, -, same⟩ := moveJob?_collect moved
      · cases same
      · cases same
      · cases same
        exact .inr ⟨.error e, here, answers⟩
    | awaitResponse =>
      obtain ⟨result, -, same, -⟩ := moveJob?_awaitResponse moved
      cases same
      exact .inr ⟨result, here, answers⟩
    | _ => exact knows.elim

theorem Collecting.after {job : Job Req} (collecting : a.Collecting id job)
    (knows : job.Knows a.call) {course : List (Happening σ P Req Resp)}
    (handsOff : ∀ happening ∈ course, happening.isHandsOff = true)
    (undisturbed : ∀ happening ∈ course, happening.disturbs id = false) :
    (∃ job', (a.after course).Collecting id job' ∧ job'.Knows (a.after course).call) ∨
    ∃ result, Errand.under (a.after course).errands id = [] ∧
      (a.after course).answers id = [.responded result] := by
  induction course generalizing a job with
  | nil => exact .inl ⟨job, collecting, knows⟩
  | cons happening rest ih =>
    obtain ⟨offFirst, offLater⟩ := List.forall_mem_cons.mp handsOff
    obtain ⟨first, later⟩ := List.forall_mem_cons.mp undisturbed
    obtain ⟨job', collecting', knows'⟩ | ⟨result, gone, answered⟩ :=
      collecting.happen knows offFirst first
    · exact ih collecting' knows' offLater later
    · obtain ⟨still, same⟩ := vacant_after later gone
      exact .inr ⟨result, still, same.trans answered⟩

/-- The headers do not close the request side. -/
theorem closedFlag_start (setup : Setup σ P Req Resp) (shared : σ) (now : Nat) :
    (start setup shared now (.ok ()) none).1.call.closed = false := by
  have free : (Pass.start (Call.fresh setup.shape shared) : Pass σ P Resp).refusal? = none := rfl
  show ((Call.fresh setup.shape shared).send setup (Call.opening setup none)).2.call.closed = false
  rw [Call.opening, Call.send_singleton_of_free _ free, Pass.closedFlag_enter]
  rfl

/-- A collection has its job from its start on, until it has answered. -/
theorem collecting_after (setup : Setup σ P Req Resp) (shared : σ) (now : Nat)
    (items : List (Result Req)) (ends : Bool) {course : List (Happening σ P Req Resp)}
    (handsOff : ∀ happening ∈ course, happening.isHandsOff = true)
    (undisturbed : ∀ happening ∈ course, happening.disturbs id = false) :
    let reached := (start setup shared now (.ok ()) none).1.after
      (.engage ⟨some id, true, .collect { items, ends }⟩ :: course)
    (∃ job, reached.Collecting id job ∧ job.Knows reached.call) ∨
      ∃ result, Errand.under reached.errands id = [] ∧
        reached.answers id = [.responded result] := by
  intro reached
  let begun : Active σ P Req Resp := (start setup shared now (.ok ()) none).1
  have named : (⟨some id, true, .collect { items, ends }⟩ : Errand (Job Req)).isNamed id = true :=
    beq_self_eq_true _
  have collecting : (begun.engage ⟨some id, true, .collect { items, ends }⟩).Collecting id
      (.collect { items, ends }) := by
    refine ⟨?_, fun errand member => .inl ?_, rfl⟩
    · show Errand.under [_] id = _
      rw [Errand.under_cons, if_pos named]
      rfl
    · rw [List.mem_singleton.mp member]
      exact named
  exact collecting.after (closedFlag_start setup shared now).symm handsOff undisturbed

/-! ### Dropping a collection -/

/-- A call that nobody works at stays as it is, as long as nothing comes from outside. -/
theorem terminated_of_quiet (waits : ∀ errand ∈ a.errands, errand.job = .awaitCancel)
    {happening : Happening σ P Req Resp} (quiet : happening.isQuiet = true) :
    (a.happen happening).1.call.terminated = a.call.terminated := by
  cases happening with
  | engage errand => cases quiet
  | enqueue parts => cases quiet
  | watchdog now => cases quiet
  | part part => cases quiet
  | error e => cases quiet
  | poll id => rfl
  | drop id => rfl
  | hold call sender => rfl
  | stream f => rfl
  | note update => rfl
  | dissolve transportHolds =>
    rcases call_dissolve a transportHolds with same | same
    · rw [same]
    · rw [same]
      rfl
  | errand signals cancelSignal =>
    have still : ∀ {errand : Errand (Job Req)} {turn : Turn (Job Req) (Answer Resp)}
        {p : Pass σ P Resp}, errand ∈ a.errands →
        a.moveJob? signals cancelSignal errand.job = some (turn, p) → p.call = a.call := by
      intro errand turn p member moved
      rw [waits errand member] at moved
      obtain ⟨outcome, -, same⟩ := Option.map_eq_some_iff.mp moved
      cases same
      rfl
    simp only [happen]
    cases moved : a.moveErrand? signals cancelSignal with
    | none => rfl
    | some out =>
      have moves := moves_of_moveErrand? moved
      show out.1.call.terminated = a.call.terminated
      generalize out.1 = b at moves ⊢
      cases moves with
      | goesOn errands begun moved =>
        exact congrArg Call.terminated (still (errands ▸ by simp) moved)
      | done errands begun moved =>
        exact congrArg Call.terminated (still (errands ▸ by simp) moved)

theorem waits_after_of_quiet (waits : ∀ errand ∈ a.errands, errand.job = .awaitCancel)
    (vacant : Errand.under a.errands id = []) {course : List (Happening σ P Req Resp)}
    (quiet : ∀ happening ∈ course, happening.isQuiet = true)
    (undisturbed : ∀ happening ∈ course, happening.disturbs id = false) :
    (a.after course).call.terminated = a.call.terminated ∧
      ∀ errand ∈ (a.after course).errands, errand.job = .awaitCancel := by
  induction course generalizing a with
  | nil => exact ⟨rfl, waits⟩
  | cons happening rest ih =>
    obtain ⟨quietFirst, quietLater⟩ := List.forall_mem_cons.mp quiet
    obtain ⟨first, later⟩ := List.forall_mem_cons.mp undisturbed
    have one : ∀ other ∈ [happening], other.disturbs id = false :=
      fun other member => List.mem_singleton.mp member ▸ first
    obtain ⟨still, unanswered⟩ := vacant_after one vacant
    have handsOff : happening.isHandsOff = true := by
      cases happening <;> first | rfl | cases quietFirst
    have others : ∀ errand ∈ (a.happen happening).1.errands,
        errand.isNamed id = true ∨ errand.job = .awaitCancel :=
      others_happen (fun errand member => .inr (waits errand member)) handsOff first unanswered
    have waits' : ∀ errand ∈ (a.happen happening).1.errands, errand.job = .awaitCancel := by
      intro errand member
      refine (others errand member).resolve_left fun named => ?_
      exact List.filter_eq_nil_iff.mp still errand member named
    obtain ⟨kept, all⟩ := ih waits' still quietLater later
    exact ⟨kept.trans (terminated_of_quiet waits quietFirst), all⟩

/-- A collection that is dropped before it has answered is either still forwarding or waiting for
the response. While it forwards it leaves a cleanup, and once no cleanup waits any more the call
has its status and its transport was asked to cancel, once. While it waits, with all its requests
handed over, it leaves nothing: as long as nothing comes from outside, the call is cancelled only
if it had been before. -/
theorem dropped_collection (setup : Setup σ P Req Resp) (shared : σ) (now : Nat)
    (course later : List (Happening σ P Req Resp)) (id : String) (items : List (Result Req))
    (ends : Bool) :
    let begun := start setup shared now (.ok ()) none
    let collecting := .engage ⟨some id, true, .collect { items, ends }⟩ :: course
    let reached := begun.1.after collecting
    let left := (reached.drop id).after later
    let requests := begun.2 ++ begun.1.asked collecting ++ (reached.drop id).asked later
    (∀ happening ∈ course, happening.isHandsOff = true) →
    (∀ happening ∈ course, happening.disturbs id = false) →
    reached.answers id = [] →
      (∃ source', Errand.under reached.errands id = [⟨some id, true, .collect source'⟩] ∧
        cleanup ∈ (reached.drop id).errands ∧
        (cleanup ∉ left.errands → left.IsCancelled requests)) ∨
      (Errand.under reached.errands id = [⟨some id, true, .awaitResponse⟩] ∧
        reached.call.closed = true ∧
        ((∀ happening ∈ later, happening.isQuiet = true) →
          (∀ happening ∈ later, happening.disturbs id = false) →
          cleanup ∉ left.errands ∧
          (left.IsCancelled requests ↔ reached.call.terminated = true))) := by
  intro begun collecting reached left requests handsOff undisturbed unanswered
  obtain ⟨job, at_, knows⟩ :=
    (collecting_after setup shared now items ends handsOff undisturbed).resolve_right <| by
      rintro ⟨result, -, answered⟩
      cases unanswered.symm.trans answered
  have here : Errand.under reached.errands id = [⟨some id, true, job⟩] := at_.here
  cases job with
  | collect source' =>
    have waits : cleanup ∈ (reached.drop id).errands :=
      cleanup_mem_drop (here ▸ List.mem_singleton_self _) rfl rfl
    exact .inl ⟨source', here, waits,
      isCancelled_of_cleanup setup shared now none collecting later waits⟩
  | awaitResponse =>
    refine .inr ⟨here, knows, fun quiet undisturbedLater => ?_⟩
    have nothing : leftBehind reached.errands id = [] := by
      refine List.filterMap_eq_nil_iff.mpr fun errand member => ?_
      have unguarded : errand.job.isGuarded = false := by
        rcases at_.others errand member with named | waits
        · have is : errand ∈ Errand.under reached.errands id := List.mem_filter.mpr ⟨member, named⟩
          rw [here, List.mem_singleton] at is
          rw [is]
          rfl
        · rw [waits]
          rfl
      rw [unguarded, Bool.and_false]
      rfl
    have waits : ∀ errand ∈ (reached.drop id).errands, errand.job = .awaitCancel := by
      rw [drop_eq, nothing, List.append_nil]
      intro errand member
      obtain ⟨was, unnamed⟩ := List.mem_filter.mp member
      refine (at_.others errand was).resolve_left fun named => ?_
      rw [named] at unnamed
      cases unnamed
    have vacant : Errand.under (reached.drop id).errands id = [] := by
      rw [drop_eq, nothing, List.append_nil, Errand.under_erase_self]
    obtain ⟨kept, still⟩ := waits_after_of_quiet waits vacant quiet undisturbedLater
    refine ⟨fun waiting => ?_, ?_⟩
    · cases still cleanup waiting
    refine (isCancelled_drop_iff setup shared now none collecting later).trans ?_
    show left.call.terminated = true ↔ reached.call.terminated = true
    rw [show left.call.terminated = reached.call.terminated from kept]
  | _ => exact knows.elim

/-- A collection that is dropped while its source is silent cancels its call. -/
theorem forwarding_collection_cancels :
    let begun := start recital () 0 (.ok ()) none
    let collecting := [.engage ⟨some "f", true, .collect hesitant⟩, .errand accepting .waiting]
    let dropped := (begun.1.after collecting).drop "f"
    let later := [.errand accepting .waiting]
    cleanup ∉ (dropped.after later).errands ∧
      (dropped.after later).IsCancelled
        (begun.2 ++ begun.1.asked collecting ++ dropped.asked later) := by
  intro begun collecting dropped later
  have moves : ∀ happening ∈ ([.errand accepting .waiting] :
      List (Happening Unit String String String)),
      happening.isHandsOff = true ∧ happening.disturbs "f" = false := by
    simp [Happening.isHandsOff, Happening.disturbs]
  have clean : cleanup ∉ (dropped.after later).errands := by
    have rest : (dropped.after later).errands = [{ job := .awaitCancel }] := rfl
    rw [rest, List.mem_singleton]
    intro same
    cases same
  obtain ⟨source, here, -, cancels⟩ | ⟨here, -⟩ :=
    dropped_collection recital () 0 [.errand accepting .waiting] later "f" [.ok "a"] false
      (fun happening member => (moves happening member).1)
      (fun happening member => (moves happening member).2) rfl
  · exact ⟨clean, cancels clean⟩
  · cases here

/-- A collection that is dropped while it waits for the response leaves its call alone: nothing is
left to do for it, and the call is still running. -/
theorem waiting_collection_forgotten :
    let begun := start recital () 0 (.ok ()) none
    let collecting := .engage ⟨some "f", true, .collect { items := [.ok "a"] }⟩ ::
      List.replicate 3 (.errand accepting .waiting)
    let reached := begun.1.after collecting
    let dropped := reached.drop "f"
    Errand.under reached.errands "f" = [⟨some "f", true, .awaitResponse⟩] ∧
      dropped.errands = [] ∧ dropped.call.terminated = false ∧ dropped.call.status? = none ∧
      (∀ signals cancelSignal, dropped.moveErrand? signals cancelSignal = none) ∧
      ¬dropped.IsCancelled (begun.2 ++ begun.1.asked collecting) := by
  refine ⟨rfl, rfl, rfl, rfl, fun signals cancelSignal => rfl, fun cancelled => ?_⟩
  cases cancelled.status

end Active

end RemoteCall.Client
