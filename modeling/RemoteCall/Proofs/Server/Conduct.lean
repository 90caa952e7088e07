import RemoteCall.Proofs.Server.Orderly

/-!
# How a served call is treated

A served call moves however its surroundings let it. They keep to two rules (`Regular`): the
transport acts on a call only while it holds on to it, and only who got the writer from the
handler starts a write. Then the events of the call inside are orderly, whatever the handler and
the interceptors do (`Serving.orderly_run`): who can write to a call is its handler, or owes that
to the handler.
-/

namespace RemoteCall.Server

variable {σ P Req Resp S : Type}

/-- A quiet event is work that nobody needs a writer for, and hands nothing to the transport. -/
theorem Event.of_isQuiet {event : Event σ P Req Resp} (quiet : event.isQuiet = true) :
    event.isWork = true ∧ event.emits = false ∧
      ∀ method call, (event.pass method call).parts = [] := by
  cases event with
  | use how => exact ⟨rfl, rfl, fun _ _ => rfl⟩
  | poll => exact ⟨rfl, rfl, fun _ _ => rfl⟩
  | _ => cases quiet

/-- Work at a call whose handler was started is in order, as long as the request stream has those
who feed it. -/
theorem Orderly.works {method : Method σ P Req Resp} {call : Call σ Req}
    {events : List (Event σ P Req Resp)} (orderly : Orderly method call events)
    (started : call.starts method events ≠ []) (fed : .abandon ∉ events)
    {more : List (Event σ P Req Resp)} (work : ∀ event ∈ more, event.isWork = true) :
    Orderly method call (events ++ more) := by
  induction more generalizing events with
  | nil => rwa [List.append_nil]
  | cons event rest ih =>
    obtain ⟨first, others⟩ := List.forall_mem_cons.mp work
    have next := orderly.concat event (fun _ => started) (fun _ => event.isOwn_of_isWork first)
      (absurd · fed)
    rw [List.append_cons]
    refine ih next ?_ ?_ others
    · rw [Call.starts_concat]
      exact List.append_ne_nil_of_left_ne_nil started _
    · rw [List.mem_append, List.mem_singleton]
      rintro (earlier | rfl)
      · exact fed earlier
      · cases first

namespace Serving

/-- Moves as the surroundings of a served call make them. -/
structure Regular (s : Serving σ P Req Resp S) (moves : List (Move σ P Req Resp)) : Prop where
  held : ∀ before move after, moves = before ++ move :: after → move.isTransport = true →
    (s.run before).held = true
  lent : ∀ before errand after, moves = before ++ .engage errand :: after →
    Job.writes errand.job = true → (s.run before).loan.writer = true

theorem Regular.of_append {s : Serving σ P Req Resp S} {before after : List (Move σ P Req Resp)}
    (regular : s.Regular (before ++ after)) : s.Regular before := by
  refine ⟨fun first move rest split => ?_, fun first errand rest split => ?_⟩
  · exact regular.held first move (rest ++ after) (by rw [split]; simp)
  · exact regular.lent first errand (rest ++ after) (by rw [split]; simp)

/-- A transport that does not let go of a call goes on holding it. -/
theorem held_run (s : Serving σ P Req Resp S) {moves : List (Move σ P Req Resp)}
    (kept : .release ∉ moves) : (s.run moves).held = s.held := by
  induction moves generalizing s with
  | nil => rfl
  | cons move rest ih =>
    obtain ⟨first, later⟩ := not_or.mp (mt List.mem_cons.mpr kept)
    exact (ih _ later).trans (held_perform s (Ne.symm first))

/-- Where the transport does not let go of the call and nobody but its handler writes, the moves are
as they should be. -/
theorem Regular.of_calm {s : Serving σ P Req Resp S} {moves : List (Move σ P Req Resp)}
    (held : s.held = true) (kept : .release ∉ moves) (alone : ∀ errand, .engage errand ∉ moves) :
    s.Regular moves := by
  refine ⟨fun before move after split _ => ?_, fun before errand after split => ?_⟩
  · have earlier : .release ∉ before :=
      fun mem => kept (split ▸ List.mem_append_left _ mem)
    exact (held_run s earlier).trans held
  · exact absurd (by simp [split]) (alone errand)

/-- Whether somebody of the server's can still write to the call. -/
def isBusy (s : Serving σ P Req Resp S) : Bool :=
  s.task.isAlive || s.loan.writer || s.errands.any fun errand => Job.writes errand.job

theorem isHeld_eq (s : Serving σ P Req Resp S) : s.isHeld = (s.held || s.isBusy) := by
  unfold isHeld isBusy
  simp only [Bool.or_assoc]

theorem isHeld_of_isBusy {s : Serving σ P Req Resp S} (busy : s.isBusy = true) :
    s.isHeld = true := by
  rw [isHeld_eq, busy, Bool.or_true]

/-- A pass that does not start the handler leaves the task alone. -/
theorem settle_task (s : Serving σ P Req Resp S) {p : Pass σ P Req} (never : p.starts = []) :
    (s.settle p).1.task = s.task := by
  rw [task_settle, never]
  rfl

/-- After a pass somebody can write if somebody could, or if the handler was started. -/
theorem isBusy_settle (s : Serving σ P Req Resp S) {p : Pass σ P Req}
    (busy : (s.settle p).1.isBusy = true) : s.isBusy = true ∨ p.starts ≠ [] := by
  by_cases never : p.starts = []
  · left
    unfold isBusy at busy
    rw [settle_task s never] at busy
    exact busy
  · exact Or.inr never

/-- While nobody can write, a move of the server's own is at most one quiet event, and nobody can
write after it. -/
structure Quiet (s : Serving σ P Req Resp S)
    (out : Serving σ P Req Resp S × List (ResponsePart P)) : Prop where
  method : out.1.method = s.method
  held : out.1.held = s.held
  dissolved : out.1.dissolved = s.dissolved
  idle : out.1.isBusy = false
  parts : out.2 = []
  call : out.1.call = s.call ∨
    ∃ event : Event σ P Req Resp, event.isQuiet = true ∧
      out.1.call = (event.pass s.method s.call).call

variable {s : Serving σ P Req Resp S}

/-- Nothing has happened at the call, and still nobody can write. -/
theorem Quiet.same {s' : Serving σ P Req Resp S} (idle : s'.isBusy = false)
    (method : s'.method = s.method) (held : s'.held = s.held)
    (dissolved : s'.dissolved = s.dissolved) (call : s'.call = s.call) : s.Quiet (s', []) :=
  ⟨method, held, dissolved, idle, rfl, Or.inl call⟩

theorem isBusy_eq_false : s.isBusy = false ↔
    s.task.isAlive = false ∧ s.loan.writer = false ∧
      ∀ errand ∈ s.errands, Job.writes errand.job = false := by
  unfold isBusy
  simp only [Bool.or_eq_false_iff, List.any_eq_false, and_assoc, Bool.not_eq_true]

/-- An errand that does not write only waits for the end of the call. -/
theorem quiet_moveErrand? (idle : s.isBusy = false) {signals : Nat → Signal}
    {out : Serving σ P Req Resp S × List (ResponsePart P)}
    (h : s.moveErrand? signals = some out) : s.Quiet out := by
  obtain ⟨asleep, unlent, unwritten⟩ := isBusy_eq_false.mp idle
  unfold moveErrand? at h
  cases found : Errand.next? (s.moveJob? signals) s.errands with
  | none =>
    rw [found] at h
    cases h
  | some next =>
    obtain ⟨before, errand, ⟨turn, p⟩, behind⟩ := next
    obtain ⟨split, moved⟩ := eq_append_of_pickFirst? found
    have waits := unwritten errand (by rw [split]; simp)
    have moved := (Option.ite_none_right_eq_some.mp moved).2
    obtain ⟨id, begun, job⟩ := errand
    cases job with
    | write message compression => cases waits
    | accept batch => cases waits
    | awaitCancelled =>
      obtain ⟨-, same⟩ := Option.ite_none_right_eq_some.mp moved
      cases same
      rw [found] at h
      cases h
      refine .same (isBusy_eq_false.mpr ⟨asleep, unlent, fun other mem => ?_⟩) rfl rfl rfl rfl
      refine unwritten other ?_
      rw [split, List.mem_append, List.mem_cons]
      exact (List.mem_append.mp mem).imp_right Or.inr

theorem quiet_perform (idle : s.isBusy = false) {move : Move σ P Req Resp}
    (own : move.isTransport = false) (stays : move ≠ .dissolve)
    (lent : ∀ errand, move = .engage errand → Job.writes errand.job = true →
      s.loan.writer = true) : s.Quiet (s.perform move) := by
  obtain ⟨asleep, unlent, unwritten⟩ := isBusy_eq_false.mp idle
  cases move with
  | receive part => cases own
  | error e => cases own
  | release => cases own
  | dissolve => exact absurd rfl stays
  | use how => exact ⟨rfl, rfl, rfl, idle, rfl, Or.inr ⟨.use how, rfl, rfl⟩⟩
  | pull => exact ⟨rfl, rfl, rfl, idle, rfl, Or.inr ⟨.poll, rfl, rfl⟩⟩
  | giveBack => exact .same (isBusy_eq_false.mpr ⟨asleep, rfl, unwritten⟩) rfl rfl rfl rfl
  | engage errand =>
    have waits : Job.writes errand.job = false := by
      cases writes : Job.writes errand.job with
      | false => rfl
      | true => exact (lent errand rfl writes).symm.trans unlent
    refine .same (isBusy_eq_false.mpr ⟨asleep, unlent, ?_⟩) rfl rfl rfl rfl
    exact List.forall_mem_append.mpr ⟨unwritten, List.forall_mem_singleton.mpr waits⟩
  | poll id =>
    refine .same (isBusy_eq_false.mpr ⟨asleep, unlent, fun errand mem => ?_⟩) rfl rfl rfl rfl
    obtain ⟨old, kept, rfl⟩ := List.mem_map.mp mem
    rw [apply_ite Errand.job, ite_self]
    exact unwritten old kept
  | drop id =>
    refine .same (isBusy_eq_false.mpr ⟨asleep, unlent, fun errand mem => ?_⟩) rfl rfl rfl rfl
    exact unwritten errand (List.mem_filter.mp mem).1
  | task now signals =>
    have still : s.moveTask? now signals = none := by
      unfold moveTask?
      cases task : s.task with
      | absent => rfl
      | gone => rfl
      | _ =>
        rw [task] at asleep
        cases asleep
    show s.Quiet ((s.moveTask? now signals).getD (s, []))
    rw [still]
    exact .same idle rfl rfl rfl rfl
  | tick now =>
    have still : s.tick now = s := by
      unfold tick
      cases task : s.task with
      | waiting wait =>
        rw [task] at asleep
        cases asleep
      | _ => rfl
    show s.Quiet (s.tick now, [])
    rw [still]
    exact .same idle rfl rfl rfl rfl
  | errand signals =>
    show s.Quiet ((s.moveErrand? signals).getD (s, []))
    cases h : s.moveErrand? signals with
    | none => exact .same idle rfl rfl rfl rfl
    | some out => exact quiet_moveErrand? idle h

/-- These orderly events have brought a served call where it is. -/
structure Comes (method : Method σ P Req Resp) (call : Call σ Req)
    (events : List (Event σ P Req Resp)) (s : Serving σ P Req Resp S)
    (parts : List (ResponsePart P)) : Prop where
  serves : s.method = method
  orderly : Orderly method call events
  ran : call.run method events = s.call
  handed : call.outputs method events = parts
  started : s.isBusy = true → call.starts method events ≠ []
  released : .release ∈ events → s.held = false
  abandoned : .abandon ∈ events → s.isHeld = false ∧ s.dissolved = true

namespace Comes

variable {method : Method σ P Req Resp} {call : Call σ Req} {events : List (Event σ P Req Resp)}
  {parts : List (ResponsePart P)}

theorem started_concat (comes : Comes method call events s parts) {event : Event σ P Req Resp}
    (busy : s.isBusy = true ∨ (event.pass s.method s.call).starts ≠ []) :
    call.starts method (events ++ [event]) ≠ [] := by
  rw [Call.starts_concat, comes.ran, ← comes.serves]
  rcases busy with busy | started
  · exact List.append_ne_nil_of_left_ne_nil (comes.serves ▸ comes.started busy) _
  · exact List.append_ne_nil_of_right_ne_nil _ started

theorem ran_concat (comes : Comes method call events s parts) (event : Event σ P Req Resp) :
    call.run method (events ++ [event]) = (event.pass s.method s.call).call := by
  rw [Call.run_append, comes.ran, comes.serves]
  rfl

theorem handed_concat (comes : Comes method call events s parts) (event : Event σ P Req Resp) :
    call.outputs method (events ++ [event]) =
      parts ++ (event.pass s.method s.call).parts := by
  rw [Call.outputs_append, comes.ran, comes.handed, comes.serves]
  exact congrArg (parts ++ ·) (List.append_nil _)

/-- The request stream has those who feed it as long as somebody holds on to the call. -/
theorem fed (comes : Comes method call events s parts) (held : s.isHeld = true) :
    .abandon ∉ events :=
  fun mem => Bool.false_ne_true ((comes.abandoned mem).1.symm.trans held)

/-- The transport acts on a call that it holds on to. -/
theorem transport (comes : Comes method call events s parts) (held : s.held = true)
    {move : Move σ P Req Resp} (theirs : move.isTransport = true) :
    ∃ events, Comes method call events (s.perform move).1 (parts ++ (s.perform move).2) := by
  have fed := comes.fed (by rw [isHeld_eq, held, Bool.true_or])
  have unreleased : .release ∉ events :=
    fun mem => Bool.false_ne_true ((comes.released mem).symm.trans held)
  have next : ∀ event : Event σ P Req Resp, event.emits = false →
      Orderly method call (events ++ [event]) := fun event silent =>
    comes.orderly.concat event (fun emits => absurd (silent.symm.trans emits) Bool.false_ne_true)
      (absurd · unreleased) (absurd · fed)
  cases move with
  | receive part =>
    have started := isBusy_settle s (p := (Event.receive part).pass s.method s.call)
    refine ⟨events ++ [.receive part], comes.serves, next _ rfl, comes.ran_concat _,
      comes.handed_concat _, fun busy => comes.started_concat (started busy), ?_, ?_⟩
    · simp [unreleased]
    · simp [fed]
  | error e =>
    have started := isBusy_settle s (p := (Event.error e).pass s.method s.call)
    refine ⟨events ++ [.error e], comes.serves, next _ rfl, comes.ran_concat _,
      comes.handed_concat _, fun busy => comes.started_concat (started busy), ?_, ?_⟩
    · simp [unreleased]
    · simp [fed]
  | release =>
    refine ⟨events ++ [.release], comes.serves, next _ rfl, comes.ran_concat _,
      comes.handed_concat _, fun busy => comes.started_concat (Or.inl busy), fun _ => rfl, ?_⟩
    simp [fed]
  | _ => cases theirs

/-- Who lets go of a call that nobody can write to lets go of its request stream. -/
theorem dissolve (comes : Comes method call events s parts) :
    ∃ events, Comes method call events (s.perform .dissolve).1 parts := by
  show ∃ events, Comes method call events (s.dissolve?.getD s) parts
  cases h : s.dissolve? with
  | none => exact ⟨events, comes⟩
  | some s' =>
    obtain ⟨gone, same⟩ := Option.ite_none_left_eq_some.mp h
    simp only [Bool.or_eq_true, not_or, Bool.not_eq_true] at gone
    obtain ⟨unheld, undissolved⟩ := gone
    have unabandoned : .abandon ∉ events :=
      fun mem => Bool.false_ne_true (undissolved.symm.trans (comes.abandoned mem).2)
    have parts_kept := comes.handed_concat .abandon
    rw [show (Event.pass s.method .abandon s.call).parts = [] from rfl, List.append_nil]
      at parts_kept
    cases same
    refine ⟨events ++ [.abandon], comes.serves, ?_, comes.ran_concat _, parts_kept,
      fun busy => comes.started_concat (Or.inl busy), ?_, fun _ => ⟨unheld, rfl⟩⟩
    · exact comes.orderly.concat .abandon nofun (fun _ => rfl) (absurd · unabandoned)
    · simpa using comes.released

/-- While somebody can write, a move of the server's own is work. -/
theorem work (comes : Comes method call events s parts) (busy : s.isBusy = true)
    {out : Serving σ P Req Resp S × List (ResponsePart P)} (works : s.Works out) :
    ∃ events, Comes method call events out.1 (parts ++ out.2) := by
  obtain ⟨serves, held, more, work, ran, handed⟩ := works
  have started := comes.started busy
  have fed := comes.fed (isHeld_of_isBusy busy)
  rw [comes.serves, ← comes.ran] at ran handed
  refine ⟨events ++ more, serves.trans comes.serves, comes.orderly.works started fed work,
    (Call.run_append ..).trans ran, ?_, fun _ => ?_, fun mem => ?_, fun mem => ?_⟩
  · rw [Call.outputs_append, handed, comes.handed]
  · rw [Call.starts_append]
    exact List.append_ne_nil_of_left_ne_nil started _
  · rcases List.mem_append.mp mem with earlier | new
    · exact held.trans (comes.released earlier)
    · cases work _ new
  · rcases List.mem_append.mp mem with earlier | new
    · exact absurd earlier fed
    · cases work _ new

/-- While nobody can write, a move of the server's own is in order at any time. -/
theorem quiet (comes : Comes method call events s parts)
    {out : Serving σ P Req Resp S × List (ResponsePart P)} (quiet : s.Quiet out)
    (idle : s.isBusy = false) :
    ∃ events, Comes method call events out.1 (parts ++ out.2) := by
  have serves := quiet.method.trans comes.serves
  have unheld : s.isHeld = false → out.1.isHeld = false := by
    rw [isHeld_eq, isHeld_eq, quiet.held, idle, quiet.idle]
    exact id
  have abandoned : .abandon ∈ events → out.1.isHeld = false ∧ out.1.dissolved = true :=
    fun mem => (comes.abandoned mem).imp unheld quiet.dissolved.trans
  have unstarted : out.1.isBusy = true → ∀ p : Prop, p := fun busy =>
    absurd (quiet.idle.symm.trans busy) Bool.false_ne_true
  rw [quiet.parts, List.append_nil]
  rcases quiet.call with same | ⟨event, still, same⟩
  · exact ⟨events, serves, comes.orderly, comes.ran.trans same.symm, comes.handed,
      fun busy => unstarted busy _, fun mem => quiet.held.trans (comes.released mem), abandoned⟩
  · obtain ⟨work, silent, nothing⟩ := event.of_isQuiet still
    have next := comes.orderly.concat event
      (fun emits => absurd (silent.symm.trans emits) Bool.false_ne_true)
      (fun _ => event.isOwn_of_isWork work) (fun _ => still)
    have handed := comes.handed_concat event
    rw [nothing, List.append_nil] at handed
    refine ⟨events ++ [event], serves, next, (comes.ran_concat event).trans same.symm, handed,
      fun busy => unstarted busy _, fun mem => ?_, fun mem => ?_⟩
    · rcases List.mem_append.mp mem with earlier | new
      · exact quiet.held.trans (comes.released earlier)
      · cases List.mem_singleton.mp new
        cases work
    · rcases List.mem_append.mp mem with earlier | new
      · exact abandoned earlier
      · cases List.mem_singleton.mp new
        cases work

end Comes

variable (method : Method σ P Req Resp) (handler : Handler σ Req Resp S) (compression : Bool)
  (path : String) (shared : σ)

/-- Orderly events bring a served call wherever it gets. -/
theorem comes_run {moves : List (Move σ P Req Resp)}
    (regular : (fresh method handler compression path shared).Regular moves) :
    ∃ events, Comes method (.fresh path shared) events
      ((fresh method handler compression path shared).run moves)
      ((fresh method handler compression path shared).outputs moves) := by
  induction moves using List.reverseRecOn with
  | nil =>
    refine ⟨[], rfl, ⟨by simp, by simp, by simp⟩, rfl, rfl, nofun, by simp, by simp⟩
  | append_singleton moves move ih =>
    obtain ⟨events, comes⟩ := ih regular.of_append
    rw [run_concat, outputs_concat]
    generalize at_move : (fresh method handler compression path shared).run moves = s at comes
    cases theirs : move.isTransport with
    | true => exact comes.transport (at_move ▸ regular.held moves move [] rfl theirs) theirs
    | false =>
      by_cases dissolves : move = .dissolve
      · subst dissolves
        rw [show (s.perform .dissolve).2 = [] from rfl, List.append_nil]
        exact comes.dissolve
      · cases busy : s.isBusy with
        | true => exact comes.work busy (works_perform s theirs dissolves)
        | false =>
          refine comes.quiet (quiet_perform busy theirs dissolves ?_) busy
          rintro errand rfl writes
          exact at_move ▸ regular.lent moves errand [] rfl writes

/-- A served call that is treated as it should be sees orderly events, whatever its handler and
its interceptors do. -/
theorem orderly_run {moves : List (Move σ P Req Resp)}
    (regular : (fresh method handler compression path shared).Regular moves) :
    ∃ events, Orderly method (.fresh path shared) events ∧
      (Call.fresh path shared).run method events =
        ((fresh method handler compression path shared).run moves).call ∧
      (Call.fresh path shared).outputs method events =
        (fresh method handler compression path shared).outputs moves := by
  obtain ⟨events, comes⟩ := comes_run method handler compression path shared regular
  exact ⟨events, comes.orderly, comes.ran, comes.handed⟩

end Serving

end RemoteCall.Server
