import RemoteCall.Proofs.Client.FirstOutcome
import RemoteCall.Proofs.Client.Isolation
import RemoteCall.Proofs.Client.RequestSide
import RemoteCall.Proofs.Errand

/-!
# The errands of a client call

Two views of a course of happenings. Seen from the call, a happening is one event, a poll of the
stream, a change of what is shared, or nothing (`Call.Changes`); so what these keep holds after
every course (`Active.after_keeps`). Seen from an errand, which is found by its name
(`Errand.under`), a happening leaves it where it is, polls it, or is a move of its own job
(`Active.Progress`), unless the application drops it or starts another one of that name.
-/

namespace RemoteCall

namespace Client

variable {σ P Req Resp : Type}

/-! ### What happens to the call -/

/-- What one happening can make of a call. -/
inductive Call.Changes (setup : Setup σ P Req Resp) (call : Call σ Resp) : Call σ Resp → Prop where
  | rest : Changes setup call call
  | event (event : Event P Req) : Changes setup call (event.pass setup call).call
  | stream (f : MessageStream Resp → MessageStream Resp) : Changes setup call (call.mapStream f)
  | note (update : σ → σ) : Changes setup call { call with shared := update call.shared }

theorem OwnPass.changes {setup : Setup σ P Req Resp} {call : Call σ Resp} {p : Pass σ P Resp}
    (own : OwnPass setup call p) : call.Changes setup p.call := by
  cases own with
  | rest => exact .rest
  | event event own => exact .event event

namespace Call.Changes

variable {setup : Setup σ P Req Resp} {call call' : Call σ Resp}

/-- A call stays terminated only with its status. -/
theorem concluded (changes : call.Changes setup call')
    (held : call.terminated = true → call.status?.isSome = true) :
    call'.terminated = true → call'.status?.isSome = true := by
  cases changes with
  | rest => exact held
  | event event => exact Event.held_pass setup event held
  | stream f => exact held
  | note update => exact held

/-- An end that has passed terminates the call. -/
theorem closed (changes : call.Changes setup call')
    (closed : call.order = .ended → call.terminated = true) :
    call'.order = .ended → call'.terminated = true := by
  cases changes with
  | rest => exact closed
  | event event => exact Event.closed_pass setup event (P := P) closed
  | stream f => exact closed
  | note update => exact closed

/-- A call with one response stays one. -/
theorem sound (changes : call.Changes setup call') {departed : List (ResponsePart Resp)}
    (sound : call.Sound false departed) : ∃ departed, call'.Sound false departed := by
  cases changes with
  | rest => exact ⟨departed, sound⟩
  | event event => exact ⟨_, sound_move setup sound (.event event)⟩
  | note update => exact ⟨departed, sound.intake, sound.terminated⟩
  | stream f =>
    rw [mapStream_of_stream?_eq_none sound.intake.accumulator.stream?_eq_none]
    exact ⟨departed, sound⟩

/-- Behind the end a call with one response takes nothing more. -/
theorem intake_of_ended (changes : call.Changes setup call') {departed : List (ResponsePart Resp)}
    (sound : call.Sound false departed) (ended : call.order = .ended) :
    call'.intake = call.intake := by
  cases changes with
  | rest => rfl
  | note update => rfl
  | stream f => rw [mapStream_of_stream?_eq_none sound.intake.accumulator.stream?_eq_none]
  | event event =>
    have complete : call.intake.accumulator.Complete :=
      sound.intake.accumulator.whole.complete (sound.intake.ended ended)
    have order : call.intake.order = .ended := ended
    rw [Event.intake_pass, Intake.takeAll_of_complete complete, order,
      ResponseOrder.after_ended, ResponseOrder.allowAll_ended, ← order]
    simp [Accumulator.spoil]

/-- What is terminated sends nothing more, so its request side stays as it is. -/
theorem closedFlag (changes : call.Changes setup call') (gone : call.terminated = true) :
    call'.closed = call.closed := by
  cases changes with
  | rest => rfl
  | stream f => rfl
  | note update => rfl
  | event event =>
    by_cases own : event.isOwn = true
    · rw [event.pass_of_terminated setup own gone]
      rfl
    · have nothing : event.entries setup call = [] := by
        cases event with
        | part p => rfl
        | error e => rfl
        | _ => exact absurd rfl own
      rw [Bool.eq_iff_iff, Event.closedFlag_pass, nothing]
      simp

end Call.Changes

/-- Whether the application drops the errands of a name, or starts one. -/
def Happening.disturbs (id : String) : Happening σ P Req Resp → Bool
  | drop other => other == id
  | engage other => other.isNamed id
  | _ => false

namespace Active

variable {a : Active σ P Req Resp}

theorem setup_happen (a : Active σ P Req Resp) (happening : Happening σ P Req Resp) :
    (a.happen happening).1.setup = a.setup := by
  by_cases own : happening.isOwn = true
  · rcases acts_happen (a := a) own with acts | ⟨update, rfl⟩
    · exact acts.setup
    · rfl
  · cases happening with
    | part part => rfl
    | error e => rfl
    | _ => exact absurd rfl own

theorem changes_happen (a : Active σ P Req Resp) (happening : Happening σ P Req Resp) :
    a.call.Changes a.setup (a.happen happening).1.call := by
  by_cases own : happening.isOwn = true
  · rcases acts_happen (a := a) own with acts | ⟨update, rfl⟩
    · generalize a.happen happening = out at acts
      cases acts with
      | pass own setup call =>
        rw [call]
        exact own.changes
      | poll setup call =>
        rw [call]
        exact .stream _
    · exact .note update
  · cases happening with
    | part part => exact .event (.part part)
    | error e => exact .event (.error e)
    | _ => exact absurd rfl own

/-- A call that goes away leaves its stream, and is otherwise as it was. -/
theorem call_dissolve (a : Active σ P Req Resp) (transportHolds : Bool) :
    (a.happen (.dissolve transportHolds)).1.call = a.call ∨
      (a.happen (.dissolve transportHolds)).1.call = a.call.mapStream (·.abandon) := by
  simp only [happen]
  cases gone : a.dissolve? transportHolds with
  | none => exact .inl rfl
  | some b =>
    obtain ⟨-, same⟩ := Option.ite_none_left_eq_some.mp gone
    cases same
    exact .inr rfl

@[simp] theorem after_cons (a : Active σ P Req Resp) (happening : Happening σ P Req Resp)
    (rest : List (Happening σ P Req Resp)) :
    a.after (happening :: rest) = (a.happen happening).1.after rest := rfl

theorem after_append (a : Active σ P Req Resp) (first second : List (Happening σ P Req Resp)) :
    a.after (first ++ second) = (a.after first).after second := by
  unfold after
  rw [List.foldl_append]

theorem asked_append (a : Active σ P Req Resp) (first second : List (Happening σ P Req Resp)) :
    a.asked (first ++ second) = a.asked first ++ (a.after first).asked second := by
  induction first generalizing a with
  | nil => rfl
  | cons happening rest ih =>
    rw [List.cons_append, asked, asked, ih, List.append_assoc]
    rfl

theorem setup_after (a : Active σ P Req Resp) (course : List (Happening σ P Req Resp)) :
    (a.after course).setup = a.setup := by
  induction course generalizing a with
  | nil => rfl
  | cons happening rest ih => exact (ih _).trans (setup_happen a happening)

/-- What every change of a call keeps holds after every course. -/
theorem after_keeps {I : Call σ Resp → Prop}
    (step : ∀ call call', call.Changes a.setup call' → I call → I call')
    (course : List (Happening σ P Req Resp)) (start : I a.call) : I (a.after course).call := by
  induction course generalizing a with
  | nil => exact start
  | cons happening rest ih =>
    refine ih (a := (a.happen happening).1) ?_ (step _ _ (changes_happen a happening) start)
    rw [setup_happen]
    exact step

/-! ### What happens to an errand -/

/-- A move of an errand: its job goes on, or it is done and leaves its answer, and a cleanup if it
was guarded and failed. -/
inductive Moves (a : Active σ P Req Resp) (signals : Nat → Signal) (cancelSignal : Signal) :
    Active σ P Req Resp → Prop where
  | goesOn {before behind : List (Errand (Job Req))} {errand : Errand (Job Req)} {job : Job Req}
      {p : Pass σ P Resp} (errands : a.errands = before ++ errand :: behind)
      (begun : errand.begun = true)
      (moved : a.moveJob? signals cancelSignal errand.job = some (.goesOn job, p)) :
      Moves a signals cancelSignal
        { a with call := p.call, errands := before ++ { errand with job } :: behind }
  | done {before behind : List (Errand (Job Req))} {errand : Errand (Job Req)}
      {answer : Answer Resp} {p : Pass σ P Resp} (errands : a.errands = before ++ errand :: behind)
      (begun : errand.begun = true)
      (moved : a.moveJob? signals cancelSignal errand.job = some (.done answer, p)) :
      Moves a signals cancelSignal
        { a with
          call := p.call
          errands := before ++ behind ++
            if errand.job.isGuarded && answer.isFailure then [cleanup] else []
          finished := a.finished ++ (errand.id.map fun id => (id, answer)).toList }

theorem moves_of_moveErrand? {signals : Nat → Signal} {cancelSignal : Signal}
    {out : Active σ P Req Resp × List (TransportOp P)}
    (moved : a.moveErrand? signals cancelSignal = some out) :
    a.Moves signals cancelSignal out.1 := by
  unfold moveErrand? at moved
  cases found : Errand.next? (a.moveJob? signals cancelSignal) a.errands with
  | none =>
    rw [found] at moved
    cases moved
  | some next =>
    obtain ⟨before, errand, ⟨turn, p⟩, behind⟩ := next
    obtain ⟨errands, went⟩ := eq_append_of_pickFirst? found
    obtain ⟨begun, job⟩ := Option.ite_none_right_eq_some.mp went
    rw [found] at moved
    cases turn with
    | goesOn next =>
      cases moved
      exact .goesOn errands begun job
    | done answer =>
      have out_eq := Moves.done errands begun job
      cases moved
      obtain ⟨id, polled, job⟩ := errand
      cases id with
      | none =>
        rw [Option.map_none, Option.toList_none, List.append_nil] at out_eq
        exact out_eq
      | some id => exact out_eq

/-- Where nothing can move, no errand can. -/
theorem next?_of_rest {signals : Nat → Signal} {cancelSignal : Signal}
    (rest : a.moveErrand? signals cancelSignal = none) :
    Errand.next? (a.moveJob? signals cancelSignal) a.errands = none := by
  unfold moveErrand? at rest
  cases found : Errand.next? (a.moveJob? signals cancelSignal) a.errands with
  | none => rfl
  | some next =>
    obtain ⟨before, errand, ⟨turn, p⟩, behind⟩ := next
    rw [found] at rest
    cases turn <;> cases rest

/-- So none that was polled has a job that can. -/
theorem moveJob?_of_rest {signals : Nat → Signal} {cancelSignal : Signal}
    (rest : a.moveErrand? signals cancelSignal = none) {errand : Errand (Job Req)}
    (member : errand ∈ a.errands) (begun : errand.begun = true) :
    a.moveJob? signals cancelSignal errand.job = none :=
  Errand.stuck_of_next? (next?_of_rest rest) member begun

/-- All that a happening can do to the errands and their answers. -/
inductive Reshapes (a : Active σ P Req Resp) : Happening σ P Req Resp → Active σ P Req Resp → Prop
    where
  | rest {happening : Happening σ P Req Resp} {b : Active σ P Req Resp}
      (unpolled : ∀ id, happening ≠ .poll id)
      (unmoved : ∀ signals cancelSignal, happening = .errand signals cancelSignal → b.call = a.call)
      (errands : b.errands = a.errands) (finished : b.finished = a.finished) :
      Reshapes a happening b
  | waits {now : Nat} {b : Active σ P Req Resp}
      (errands : b.errands = a.errands ++ [{ job := .awaitCancel }])
      (finished : b.finished = a.finished) : Reshapes a (.watchdog now) b
  | engage {errand : Errand (Job Req)} {b : Active σ P Req Resp}
      (errands : b.errands = a.errands ++ [errand]) (finished : b.finished = a.finished) :
      Reshapes a (.engage errand) b
  | poll {id : String} {b : Active σ P Req Resp} (errands : b.errands = Errand.poll a.errands id)
      (finished : b.finished = a.finished) : Reshapes a (.poll id) b
  | drop {id : String} {b : Active σ P Req Resp} (errands : b.errands = (a.drop id).errands)
      (finished : b.finished = a.finished) : Reshapes a (.drop id) b
  | moves {signals : Nat → Signal} {cancelSignal : Signal} {b : Active σ P Req Resp}
      (moves : a.Moves signals cancelSignal b) : Reshapes a (.errand signals cancelSignal) b

theorem reshapes_happen (a : Active σ P Req Resp) (happening : Happening σ P Req Resp) :
    a.Reshapes happening (a.happen happening).1 := by
  cases happening with
  | engage errand => exact .engage rfl rfl
  | poll id => exact .poll rfl rfl
  | drop id => exact .drop rfl rfl
  | hold call sender => exact .rest (by simp) (by simp) rfl rfl
  | stream f => exact .rest (by simp) (by simp) rfl rfl
  | note update => exact .rest (by simp) (by simp) rfl rfl
  | part part => exact .rest (by simp) (by simp) rfl rfl
  | error e => exact .rest (by simp) (by simp) rfl rfl
  | enqueue parts => exact .rest (by simp) (by simp) rfl rfl
  | dissolve transportHolds =>
    simp only [happen]
    cases gone : a.dissolve? transportHolds with
    | none => exact .rest (by simp) (by simp) rfl rfl
    | some b =>
      obtain ⟨-, same⟩ := Option.ite_none_left_eq_some.mp gone
      cases same
      exact .rest (by simp) (by simp) rfl rfl
  | watchdog now =>
    simp only [happen, expire?]
    cases a.due with
    | none => exact .rest (by simp) (by simp) rfl rfl
    | some due =>
      by_cases early : now < due
      · simp only [if_pos early]
        exact .rest (by simp) (by simp) rfl rfl
      · simp only [if_neg early]
        cases (a.call.expire a.setup).1 with
        | true => exact .waits rfl rfl
        | false => exact .rest (by simp) (by simp) rfl rfl
  | errand signals cancelSignal =>
    simp only [happen]
    cases moved : a.moveErrand? signals cancelSignal with
    | none => exact .rest (by simp) (fun _ _ _ => rfl) rfl rfl
    | some out => exact .moves (moves_of_moveErrand? moved)

/-- The cleanups that a drop leaves behind. -/
def leftBehind (errands : List (Errand (Job Req))) (id : String) : List (Errand (Job Req)) :=
  errands.filterMap fun errand =>
    if errand.isNamed id && errand.begun && errand.job.isGuarded then some cleanup else none

theorem drop_eq (a : Active σ P Req Resp) (id : String) :
    a.drop id = { a with errands := Errand.erase a.errands id ++ leftBehind a.errands id } := rfl

theorem eq_cleanup_of_mem_leftBehind {errands : List (Errand (Job Req))} {id : String}
    {left : Errand (Job Req)} (member : left ∈ leftBehind errands id) : left = cleanup := by
  obtain ⟨errand, -, found⟩ := List.mem_filterMap.mp member
  exact (Option.some.inj (Option.ite_none_right_eq_some.mp found).2).symm

/-- Cleanups have no name. -/
theorem under_leftBehind (errands : List (Errand (Job Req))) (other id : String) :
    Errand.under (leftBehind errands other) id = [] := by
  refine List.filter_eq_nil_iff.mpr fun left member => ?_
  rw [eq_cleanup_of_mem_leftBehind member]
  exact Bool.false_ne_true

theorem under_drop_of_ne {id other : String} (ne : other ≠ id) :
    Errand.under (a.drop other).errands id = Errand.under a.errands id := by
  rw [drop_eq, Errand.under_append, under_leftBehind, Errand.under_erase_of_ne ne,
    List.append_nil]

/-- The answers of the errands of a name. -/
def answers (a : Active σ P Req Resp) (id : String) : List (Answer Resp) :=
  Errand.answers a.finished id

/-- What a happening makes of the errands of a name: one of them may have been polled, or moved. -/
inductive Progress (a : Active σ P Req Resp) (id : String) :
    Happening σ P Req Resp → Active σ P Req Resp → Prop where
  | stays {happening : Happening σ P Req Resp} {b : Active σ P Req Resp}
      (unpolled : happening ≠ .poll id)
      (others : ∀ signals cancelSignal, happening = .errand signals cancelSignal →
        b.call = a.call ∨ ∃ errand ∈ a.errands, errand.isNamed id = false ∧ ∃ turn p,
          a.moveJob? signals cancelSignal errand.job = some (turn, p) ∧ b.call = p.call)
      (here : Errand.under b.errands id = Errand.under a.errands id)
      (answers : b.answers id = a.answers id) : Progress a id happening b
  | polled {b : Active σ P Req Resp}
      (here : Errand.under b.errands id = (Errand.under a.errands id).map fun errand =>
        { errand with begun := true })
      (answers : b.answers id = a.answers id) : Progress a id (.poll id) b
  | goesOn {before behind : List (Errand (Job Req))} {errand : Errand (Job Req)}
      {signals : Nat → Signal} {cancelSignal : Signal} {job : Job Req} {p : Pass σ P Resp}
      {b : Active σ P Req Resp} (was : Errand.under a.errands id = before ++ errand :: behind)
      (begun : errand.begun = true)
      (moved : a.moveJob? signals cancelSignal errand.job = some (.goesOn job, p))
      (call : b.call = p.call)
      (here : Errand.under b.errands id = before ++ { errand with job } :: behind)
      (answers : b.answers id = a.answers id) : Progress a id (.errand signals cancelSignal) b
  | done {before behind : List (Errand (Job Req))} {errand : Errand (Job Req)}
      {signals : Nat → Signal} {cancelSignal : Signal} {answer : Answer Resp}
      {p : Pass σ P Resp} {b : Active σ P Req Resp}
      (was : Errand.under a.errands id = before ++ errand :: behind)
      (begun : errand.begun = true)
      (moved : a.moveJob? signals cancelSignal errand.job = some (.done answer, p))
      (call : b.call = p.call) (here : Errand.under b.errands id = before ++ behind)
      (answers : b.answers id = a.answers id ++ [answer]) :
      Progress a id (.errand signals cancelSignal) b

variable {id : String}

theorem progress_of_moves {signals : Nat → Signal} {cancelSignal : Signal}
    {b : Active σ P Req Resp} (moves : a.Moves signals cancelSignal b) :
    a.Progress id (.errand signals cancelSignal) b := by
  cases moves with
  | @goesOn before behind errand job p errands begun moved =>
    have kept : ({ errand with job } : Errand (Job Req)).isNamed id = errand.isNamed id := rfl
    by_cases named : errand.isNamed id = true
    · have was : Errand.under a.errands id =
          Errand.under before id ++ errand :: Errand.under behind id := by
        rw [errands, Errand.under_append, Errand.under_cons, if_pos named]
      refine .goesOn was begun moved rfl ?_ rfl
      rw [Errand.under_append, Errand.under_cons, kept, if_pos named]
    · refine .stays nofun ?_ ?_ rfl
      · rintro _ _ ⟨⟩
        exact .inr ⟨errand, errands ▸ by simp, Bool.eq_false_iff.mpr named, _, _, moved, rfl⟩
      · rw [errands, Errand.under_append, Errand.under_cons, kept, if_neg named,
          Errand.under_append, Errand.under_cons, if_neg named]
  | @done before behind errand answer p errands begun moved =>
    have cleanups : ∀ left : Bool, Errand.under
        (if left then [(cleanup : Errand (Job Req))] else []) id = [] := by
      intro left
      cases left <;> rfl
    have answers := Errand.answers_concat id a.finished errand answer
    by_cases named : errand.isNamed id = true
    · rw [if_pos named] at answers
      have was : Errand.under a.errands id =
          Errand.under before id ++ errand :: Errand.under behind id := by
        rw [errands, Errand.under_append, Errand.under_cons, if_pos named]
      refine .done was begun moved rfl ?_ answers
      rw [Errand.under_append, Errand.under_append, cleanups, List.append_nil]
    · rw [if_neg named, List.append_nil] at answers
      refine .stays nofun ?_ ?_ answers
      · rintro _ _ ⟨⟩
        exact .inr ⟨errand, errands ▸ by simp, Bool.eq_false_iff.mpr named, _, _, moved, rfl⟩
      · rw [Errand.under_append, Errand.under_append, cleanups, List.append_nil, errands,
          Errand.under_append, Errand.under_cons, if_neg named]

/-- What a happening does to the errands of a name, unless the application disturbs them. -/
theorem progress_happen (a : Active σ P Req Resp) {happening : Happening σ P Req Resp}
    (undisturbed : happening.disturbs id = false) :
    a.Progress id happening (a.happen happening).1 := by
  have same : ∀ {b : Active σ P Req Resp}, b.finished = a.finished →
      b.answers id = a.answers id := fun finished => by rw [answers, finished]; rfl
  cases reshapes_happen a happening with
  | moves moves => exact progress_of_moves moves
  | rest unpolled unmoved errands finished =>
    exact .stays (unpolled id) (fun _ _ is => .inl (unmoved _ _ is)) (by rw [errands])
      (same finished)
  | waits errands finished =>
    refine .stays nofun nofun ?_ (same finished)
    rw [errands, Errand.under_append]
    exact List.append_nil _
  | engage errands finished =>
    refine .stays nofun nofun ?_ (same finished)
    rw [errands, Errand.under_append, Errand.under_cons,
      show Errand.isNamed _ id = false from undisturbed]
    exact List.append_nil _
  | @drop other b errands finished =>
    refine .stays nofun nofun ?_ (same finished)
    have differ : other ≠ id := beq_eq_false_iff_ne.mp undisturbed
    rw [errands, under_drop_of_ne differ]
  | @poll other b errands finished =>
    by_cases this : other = id
    · subst this
      exact .polled (by rw [errands, Errand.under_poll_self]) (same finished)
    · refine .stays (fun is => this (Happening.poll.inj is)) nofun ?_ (same finished)
      rw [errands, Errand.under_poll_of_ne this]

/-- Where nobody has an errand of a name, nobody gets one, and no answer. -/
theorem vacant_after {course : List (Happening σ P Req Resp)}
    (undisturbed : ∀ happening ∈ course, happening.disturbs id = false)
    (vacant : Errand.under a.errands id = []) :
    Errand.under (a.after course).errands id = [] ∧ (a.after course).answers id = a.answers id := by
  induction course generalizing a with
  | nil => exact ⟨vacant, rfl⟩
  | cons happening rest ih =>
    obtain ⟨first, later⟩ := List.forall_mem_cons.mp undisturbed
    have step : Errand.under (a.happen happening).1.errands id = [] ∧
        (a.happen happening).1.answers id = a.answers id := by
      cases progress_happen a first with
      | stays unpolled others here answers => exact ⟨here.trans vacant, answers⟩
      | polled here answers => exact ⟨by rw [here, vacant]; rfl, answers⟩
      | goesOn was => exact absurd (was.symm.trans vacant) (by simp)
      | done was => exact absurd (was.symm.trans vacant) (by simp)
    obtain ⟨here, answers⟩ := ih later step.1
    exact ⟨here, answers.trans step.2⟩

end Active

end Client

end RemoteCall
