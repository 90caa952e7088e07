import RemoteCall.Proofs.Client.Cleanup
import RemoteCall.Proofs.Client.History
import RemoteCall.Proofs.MessageStream.Queue

/-!
# The deadline of a call

A call with a timeout has a watchdog. Until its time has come its looks at the clock change
nothing (`Active.after_sleeping`). Then it looks at the status. A call that has one is left alone,
and one that has none fails: since a call is terminated only with its status, nothing can stop the
watchdog at that point, and since the response stream is open as long as there is no status
(`Accumulator.Unended`), the messages in it come before the failure. Either way the watchdog is
done (`Active.watchdog_acts_once`).
-/

namespace RemoteCall

namespace MessageStream

variable {α : Type} {s : MessageStream α}

/-- The stream may still be fed, and no end of it was seen. -/
structure Open (s : MessageStream α) : Prop where
  ending : s.ending = none
  produced : s.produced = true
  observed : s.observed = none

theorem Open.push (open_ : s.Open) (item : α) : (s.push item).2.Open := by
  unfold MessageStream.push
  split
  · exact open_
  · exact ⟨open_.ending, open_.produced, open_.observed⟩

theorem Open.dropConsumer (open_ : s.Open) : s.dropConsumer.Open :=
  ⟨open_.ending, open_.produced, open_.observed⟩

/-- Reading leaves a stream open. -/
theorem Open.pull (open_ : s.Open) : s.pull.2.Open := by
  obtain ⟨ending, produced, observed⟩ := open_
  have pulls := s.pulls_pull
  generalize s.pull = result at pulls
  cases pulls with
  | again outcome seen => cases observed.symm.trans seen
  | item item rest unseen queue => exact ⟨ending, produced, unseen⟩
  | waits unseen queue final => exact ⟨ending, produced, unseen⟩
  | ending outcome unseen queue final =>
    unfold finalOutcome? at final
    rw [ending, produced] at final
    cases final

theorem Open.next (open_ : s.Open) : s.next.2.Open := by
  cases shown : s.exhausted with
  | true =>
    rw [next_of_exhausted shown]
    exact ⟨open_.ending, open_.produced, open_.observed⟩
  | false =>
    obtain ⟨ending, produced, observed⟩ := open_.pull
    rw [next_of_open shown]
    exact ⟨ending, produced, observed⟩

theorem Open.drain (open_ : s.Open) : s.drain.2.Open := by
  unfold MessageStream.drain
  generalize s.queue = items
  induction items generalizing s with
  | nil => exact open_.pull
  | cons item rest ih =>
    have later := open_.pull
    unfold drain.go
    rcases pulled : s.pull with ⟨answer, left⟩
    rw [pulled] at later
    cases answer with
    | pending => exact later
    | ready value =>
      cases value with
      | error e => exact later
      | ok item =>
        cases item with
        | none => exact later
        | some item => exact ih later

/-- An open stream that is finished gives what waits in it, and then its end. -/
theorem Open.finishWith (open_ : s.Open) (outcome : Result Unit) :
    (s.finishWith outcome).2.Yields s.queue (some outcome) := by
  have finished : s.finishWith outcome =
      (true, { s with ending := some outcome, waker := s.waker.wake }) := by
    simp [MessageStream.finishWith, isFinished, open_.ending]
  rw [finished]
  exact ⟨rfl, rfl, Or.inl open_.observed⟩

end MessageStream

namespace Client

variable {σ P Req Resp : Type}

namespace Accumulator

/-- As long as there is no status, a response stream is open. -/
def Unended (a : Accumulator Resp) : Prop :=
  a.outcome.status.value? = none → ∀ messages, a.response = .stream messages → messages.Open

variable {a : Accumulator Resp}

theorem unended_of_isConcluded (concluded : a.isConcluded = true) : a.Unended := by
  intro unresolved
  unfold isConcluded WriteOnce.isResolved at concluded
  rw [unresolved] at concluded
  cases concluded

theorem Unended.accept (unended : a.Unended) (part : ResponsePart Resp) :
    (a.accept part).1.Unended := by
  cases part with
  | headers m => exact unended
  | finish status trailers =>
    exact unended_of_isConcluded (isConcluded_accept_finish a status trailers)
  | message m flags =>
    obtain ⟨outcome, response⟩ := a
    cases response with
    | single message violation =>
      intro _ messages same
      have single := stream?_isSome_accept ⟨outcome, .single message violation⟩ (.message m flags)
      rw [same] at single
      cases single
    | stream messages =>
      intro unresolved pushed same
      cases same
      exact (unended unresolved messages rfl).push m

theorem Unended.takeAll (unended : a.Unended) (history : History Resp) :
    (a.takeAll history).Unended := by
  induction history generalizing a with
  | nil => exact unended
  | cons arrival rest ih =>
    cases arrival with
    | part part => exact ih (unended.accept part)
    | failure e => exact ih (unended_of_isConcluded (isConcluded_fail a e))

theorem fail_fail (a : Accumulator Resp) (e : CallError) : (a.fail e).fail e = a.fail e :=
  fail_of_complete ((whole_fail a e).complete (isConcluded_fail a e)) e

/-- What the deadline makes of a response: what is there stays, and the rest fails. -/
structure TimesOut (before after : Accumulator Resp) : Prop where
  initial : after.outcome.initial.value? =
    some (before.outcome.initial.value?.getD (.error .deadlineExceeded))
  trailing : after.outcome.trailing.value? =
    some (before.outcome.trailing.value?.getD (.error .deadlineExceeded))
  status : after.outcome.status.value? = some CallError.deadlineExceeded.toStatus
  single : ∀ message violation, before.response = .single message violation →
    after.response = .single ⟨some (message.value?.getD (.error .deadlineExceeded))⟩ violation
  /-- The stream was open, and the failure comes behind the messages that wait in it. -/
  stream : ∀ messages, before.response = .stream messages → messages.Open ∧
    ∃ failed, after.response = .stream failed ∧
      failed.drain.1 = messages.queue.map (fun m => .ready (.ok (some m))) ++
        [.ready (.error .deadlineExceeded)]

theorem Unended.timesOut (unended : a.Unended) (unresolved : a.outcome.status.value? = none) :
    a.TimesOut (a.fail .deadlineExceeded) where
  initial := WriteOnce.value?_settle ..
  trailing := WriteOnce.value?_settle ..
  status := by
    have settled := a.outcome.status.value?_settle CallError.deadlineExceeded.toStatus
    rwa [unresolved] at settled
  single message violation same := by
    have settled := message.value?_settle (.error .deadlineExceeded)
    show a.response.fail .deadlineExceeded = _
    rw [same, ← settled]
    rfl
  stream messages same := by
    have open_ := unended unresolved messages same
    refine ⟨open_, (messages.finishWith (.error .deadlineExceeded)).2, ?_, ?_⟩
    · show a.response.fail .deadlineExceeded = _
      rw [same]
      rfl
    · exact (open_.finishWith (.error .deadlineExceeded)).drain

end Accumulator

theorem Event.unended_pass (setup : Setup σ P Req Resp) (event : Event P Req) {call : Call σ Resp}
    (unended : call.accumulator.Unended) :
    (event.pass setup call).call.accumulator.Unended := by
  have taken := event.intake_pass setup call
  rw [Intake.takeAll_eq] at taken
  have accumulator := congrArg Intake.accumulator taken
  simp only [Call.intake] at accumulator
  rw [accumulator]
  exact unended.takeAll _

theorem OwnPass.unended {setup : Setup σ P Req Resp} {call : Call σ Resp} {p : Pass σ P Resp}
    (own : OwnPass setup call p) (unended : call.accumulator.Unended) :
    p.call.accumulator.Unended := by
  cases own with
  | rest => exact unended
  | event event own => exact event.unended_pass setup unended

/-- Whether the watchdog looks at the time. -/
def Happening.isLook : Happening σ P Req Resp → Bool
  | watchdog _ => true
  | _ => false

namespace Active

variable {a : Active σ P Req Resp} {due : Nat}

/-- What a happening can do to the watchdog. -/
inductive Ticks (a : Active σ P Req Resp) :
    Happening σ P Req Resp → Active σ P Req Resp → Prop where
  | rest {happening : Happening σ P Req Resp} {b : Active σ P Req Resp} (due : b.due = a.due)
      (dissolved : b.dissolved = a.dissolved) : Ticks a happening b
  /-- The watchdog acts. -/
  | acts {time : Nat} {out : Active σ P Req Resp × List (TransportOp P)}
      (acts : a.expire? time = some out) (due : out.1.due = none)
      (dissolved : out.1.dissolved = a.dissolved) : Ticks a (.watchdog time) out.1
  /-- The call goes away. -/
  | dissolves {transportHolds : Bool} {b : Active σ P Req Resp} (due : b.due = none)
      (dissolved : b.dissolved = true) : Ticks a (.dissolve transportHolds) b

theorem ticks_happen (a : Active σ P Req Resp) (happening : Happening σ P Req Resp) :
    a.Ticks happening (a.happen happening).1 := by
  cases happening with
  | errand signals cancelSignal =>
    simp only [happen]
    cases moved : a.moveErrand? signals cancelSignal with
    | none => exact .rest rfl rfl
    | some out =>
      have moves := moves_of_moveErrand? moved
      show a.Ticks _ out.1
      generalize out.1 = b at moves
      cases moves <;> exact .rest rfl rfl
  | watchdog time =>
    simp only [happen]
    cases acts : a.expire? time with
    | none => exact .rest rfl rfl
    | some out =>
      have effect : out.1.due = none ∧ out.1.dissolved = a.dissolved := by
        unfold expire? at acts
        cases due : a.due with
        | none =>
          rw [due] at acts
          cases acts
        | some due =>
          simp only [due] at acts
          obtain ⟨-, same⟩ := Option.ite_none_left_eq_some.mp acts
          cases same
          split <;> exact ⟨rfl, rfl⟩
      exact .acts acts effect.1 effect.2
  | dissolve transportHolds =>
    simp only [happen]
    cases gone : a.dissolve? transportHolds with
    | none => exact .rest rfl rfl
    | some b =>
      obtain ⟨-, same⟩ := Option.ite_none_left_eq_some.mp gone
      cases same
      exact .dissolves rfl rfl
  | engage errand => exact .rest rfl rfl
  | poll id => exact .rest rfl rfl
  | drop id => exact .rest rfl rfl
  | enqueue parts => exact .rest rfl rfl
  | hold call sender => exact .rest rfl rfl
  | stream f => exact .rest rfl rfl
  | note update => exact .rest rfl rfl
  | part part => exact .rest rfl rfl
  | error e => exact .rest rfl rfl

theorem expire?_of_early {time : Nat} (early : ∀ due, a.due = some due → time < due) :
    a.expire? time = none := by
  unfold expire?
  cases set : a.due with
  | none => rfl
  | some due => exact if_pos (early due set)

/-- A look at the clock before the time has come. -/
theorem happen_of_early {time : Nat} (early : ∀ due, a.due = some due → time < due) :
    a.happen (.watchdog time) = (a, []) := by
  show (a.expire? time).getD (a, []) = (a, [])
  rw [expire?_of_early early]
  rfl

/-- A watchdog that is set is set to this time. -/
def SetTo (due : Nat) (a : Active σ P Req Resp) : Prop := ∀ set, a.due = some set → set = due

theorem SetTo.happen (setTo : a.SetTo due) (happening : Happening σ P Req Resp) :
    (a.happen happening).1.SetTo due := by
  have ticks := ticks_happen a happening
  generalize (a.happen happening).1 = b at ticks
  intro set known
  cases ticks with
  | rest same dissolved => exact setTo set (same.symm.trans known)
  | acts acts cleared dissolved => cases cleared.symm.trans known
  | dissolves cleared dissolved => cases cleared.symm.trans known

/-- Until its time has come, the looks of the watchdog do not matter. -/
theorem after_sleeping (setTo : a.SetTo due) {course : List (Happening σ P Req Resp)}
    (early : ∀ time, .watchdog time ∈ course → time < due) :
    a.after course = a.after (course.filter (!·.isLook)) ∧
      a.asked course = a.asked (course.filter (!·.isLook)) := by
  induction course generalizing a with
  | nil => exact ⟨rfl, rfl⟩
  | cons happening rest ih =>
    have later : ∀ time, .watchdog time ∈ rest → time < due :=
      fun time member => early time (List.mem_cons_of_mem _ member)
    obtain ⟨state, requests⟩ := ih (setTo.happen happening) later
    cases look : happening.isLook with
    | false =>
      rw [List.filter_cons_of_pos (by rw [look]; rfl), after_cons, after_cons, asked, asked, state,
        requests]
      exact ⟨rfl, rfl⟩
    | true =>
      rw [List.filter_cons_of_neg (by rw [look]; decide)]
      cases happening with
      | watchdog time =>
        have quiet : a.happen (.watchdog time) = (a, []) := happen_of_early fun set known => by
          rw [setTo set known]
          exact early time List.mem_cons_self
        rw [quiet] at state requests
        rw [after_cons, asked, quiet]
        exact ⟨state, requests⟩
      | _ => cases look

/-- A watchdog that is done stays done. -/
theorem due_after (done : a.due = none) (course : List (Happening σ P Req Resp)) :
    (a.after course).due = none := by
  induction course generalizing a with
  | nil => exact done
  | cons happening rest ih =>
    refine ih (a := (a.happen happening).1) ?_
    have ticks := ticks_happen a happening
    generalize (a.happen happening).1 = b at ticks
    cases ticks with
    | rest same dissolved => exact same.trans done
    | acts acts cleared dissolved => exact cleared
    | dissolves cleared dissolved => exact cleared

/-- A call on its way to its deadline: the watchdog is set, and the stream is open as long as
there is no status. -/
structure Awaits (due : Nat) (a : Active σ P Req Resp) : Prop where
  due : a.due = some due
  unended : a.call.accumulator.Unended
  concluded : a.call.terminated = true → a.call.status?.isSome = true

/-- What the application does to an open stream leaves it open. -/
def Happening.Reads (happening : Happening σ P Req Resp) : Prop :=
  ∀ f, happening = .stream f → ∀ s : MessageStream Resp, s.Open → (f s).Open

/-- Polls of either face read, and so do a drain and the consumer that leaves. -/
theorem Happening.reads_stream {f : MessageStream Resp → MessageStream Resp}
    (reads : f = (·.pull.2) ∨ f = (·.next.2) ∨ f = (·.drain.2) ∨ f = (·.dropConsumer)) :
    Happening.Reads (.stream f : Happening σ P Req Resp) := by
  rintro g same s open_
  cases same
  rcases reads with rfl | rfl | rfl | rfl
  · exact open_.pull
  · exact open_.next
  · exact open_.drain
  · exact open_.dropConsumer

theorem unended_happen (unended : a.call.accumulator.Unended)
    {happening : Happening σ P Req Resp} (reads : Happening.Reads happening)
    (alive : (a.happen happening).1.dissolved = false) :
    (a.happen happening).1.call.accumulator.Unended := by
  cases happening with
  | part part => exact (Event.part part).unended_pass a.setup unended
  | error e => exact (Event.error e).unended_pass a.setup unended
  | enqueue parts => exact (Event.send parts).unended_pass a.setup unended
  | stream f =>
    show (a.call.mapStream f).accumulator.Unended
    intro unresolved messages same
    cases response : a.call.accumulator.response with
    | single message violation =>
      simp only [Call.mapStream, response, Response.mapStream] at same
      cases same
    | stream before =>
      simp only [Call.mapStream, response, Response.mapStream] at same
      cases same
      exact reads f rfl before (unended unresolved before response)
  | errand signals cancelSignal =>
    simp only [happen]
    cases moved : a.moveErrand? signals cancelSignal with
    | none => exact unended
    | some out =>
      have moves := moves_of_moveErrand? moved
      show out.1.call.accumulator.Unended
      generalize out.1 = b at moves
      cases moves with
      | goesOn errands begun job => exact (ownPass_of_moveJob? job).unended unended
      | done errands begun job => exact (ownPass_of_moveJob? job).unended unended
  | watchdog time =>
    simp only [happen]
    cases acts : a.expire? time with
    | none => exact unended
    | some out =>
      show out.1.call.accumulator.Unended
      rw [(expire?_eq acts).2.1]
      exact Event.expire.unended_pass a.setup unended
  | dissolve transportHolds =>
    simp only [happen] at alive ⊢
    cases gone : a.dissolve? transportHolds with
    | none => exact unended
    | some b =>
      obtain ⟨-, same⟩ := Option.ite_none_left_eq_some.mp gone
      cases same
      rw [gone] at alive
      cases alive
  | engage errand => exact unended
  | poll id => exact unended
  | drop id => exact unended
  | hold call sender => exact unended
  | note update => exact unended

theorem Awaits.happen (awaits : a.Awaits due) {happening : Happening σ P Req Resp}
    (early : ∀ time, happening = .watchdog time → time < due) (reads : Happening.Reads happening)
    (alive : (a.happen happening).1.dissolved = false) : (a.happen happening).1.Awaits due where
  unended := unended_happen awaits.unended reads alive
  concluded := (changes_happen a happening).concluded awaits.concluded
  due := by
    have ticks := ticks_happen a happening
    generalize (a.happen happening).1 = b at ticks alive
    cases ticks with
    | rest same dissolved => exact same.trans awaits.due
    | dissolves cleared dissolved => cases alive.symm.trans dissolved
    | @acts time out acts cleared dissolved =>
      have quiet : a.expire? time = none := expire?_of_early fun set known => by
        obtain rfl : due = set := Option.some.inj (awaits.due.symm.trans known)
        exact early time rfl
      cases quiet.symm.trans acts

/-- A call that is there has not gone away before. -/
theorem alive_of_after {course : List (Happening σ P Req Resp)}
    (alive : (a.after course).dissolved = false) : a.dissolved = false := by
  induction course generalizing a with
  | nil => exact alive
  | cons happening rest ih =>
    have later : (a.happen happening).1.dissolved = false := ih alive
    have ticks := ticks_happen a happening
    generalize (a.happen happening).1 = b at ticks later
    cases ticks with
    | rest due dissolved => exact dissolved.symm.trans later
    | acts acts due dissolved => exact dissolved.symm.trans later
    | dissolves due dissolved => cases later.symm.trans dissolved

theorem Awaits.after (awaits : a.Awaits due) {course : List (Happening σ P Req Resp)}
    (early : ∀ time, .watchdog time ∈ course → time < due)
    (reads : ∀ happening ∈ course, Happening.Reads happening)
    (alive : (a.after course).dissolved = false) : (a.after course).Awaits due := by
  induction course generalizing a with
  | nil => exact awaits
  | cons happening rest ih =>
    obtain ⟨first, others⟩ := List.forall_mem_cons.mp reads
    have step : (a.happen happening).1.Awaits due :=
      awaits.happen (fun time same => early time (same ▸ List.mem_cons_self)) first
        (alive_of_after alive)
    exact ih step (fun time member => early time (List.mem_cons_of_mem _ member)) others alive

/-- When its time has come, the watchdog leaves a call alone that has its status. -/
theorem Awaits.happen_of_resolved (awaits : a.Awaits due) {time : Nat} (late : due ≤ time)
    (resolved : a.call.status?.isSome = true) :
    a.happen (.watchdog time) = ({ a with due := none }, []) := by
  obtain ⟨status, known⟩ := Option.isSome_iff_exists.mp resolved
  simp only [Active.happen, expire?, awaits.due, if_neg (Nat.not_lt.mpr late), Call.expire, known]
  rfl

/-- And it fails and cancels a call that has none. -/
theorem Awaits.happen_of_unresolved (awaits : a.Awaits due) (plain : a.setup.chain = .empty)
    {time : Nat} (late : due ≤ time) (unresolved : a.call.status? = none) :
    a.happen (.watchdog time) =
      ({ a with
          due := none
          call := { a.call with
            terminated := true
            accumulator := a.call.accumulator.fail .deadlineExceeded }
          errands := a.errands ++ [{ job := .awaitCancel }] }, [.cancel]) := by
  have running : a.call.terminated = false := by
    cases gone : a.call.terminated with
    | false => rfl
    | true =>
      have resolved := awaits.concluded gone
      rw [unresolved] at resolved
      cases resolved
  have terminates : a.call.terminate a.setup .deadlineExceeded =
      (true, { call := { a.call with
                 terminated := true
                 accumulator := a.call.accumulator.fail .deadlineExceeded }
               ops := [.cancel] }) := by
    unfold Call.terminate Pass.fail Chain.fail
    rw [running, if_neg Bool.false_ne_true, Pass.arrive_direct plain]
    -- The failure arrives twice: through the chain, and past it.
    have twice := a.call.accumulator.fail_fail .deadlineExceeded
    simp only [Edges.arrive, Pass.edges, Pass.failWith, Pass.mapAccumulator, Pass.start, twice]
    rfl
  simp only [Active.happen, expire?, awaits.due, if_neg (Nat.not_lt.mpr late), Call.expire,
    unresolved, terminates]
  rfl

theorem awaits_start (setup : Setup σ P Req Resp) (shared : σ) (now : Nat) {limit : Nat}
    (timed : setup.options.timeout = some limit) (request : Option Req) :
    (start setup shared now (.ok ()) request).1.Awaits (now + limit) where
  due := by
    show setup.options.timeout.map (now + ·) = some (now + limit)
    rw [timed]
    rfl
  concluded := (Call.sound_begin setup shared (.ok ()) request).terminated
  unended := by
    have fresh : (Call.fresh setup.shape shared : Call σ Resp).accumulator.Unended := by
      intro _ messages same
      unfold Call.fresh at same
      cases streams : setup.shape.streamsResponses with
      | false =>
        rw [streams] at same
        cases same
      | true =>
        rw [streams] at same
        cases same
        exact ⟨rfl, rfl, rfl⟩
    exact (Event.send (Call.opening setup request)).unended_pass setup fresh

/-- A terminated call refuses what is sent, and asks for nothing. -/
theorem send_eq_of_terminated (setup : Setup σ P Req Resp) {call : Call σ Resp}
    (gone : call.terminated = true) {parts : List (RequestPart Req)} (some : parts ≠ []) :
    call.send setup parts =
      (.error (if call.closed then .streamAlreadyClosed else .cancelled), .start call) :=
  Prod.ext (Call.send_of_terminated setup gone some)
    ((Event.send parts).pass_of_terminated setup rfl gone)

/-- The looks of the watchdog at the clock change nothing until the deadline. If there is no status
by then, everything that is open fails: the slots without a value, and the response stream, behind
the messages that wait in it. The transport is asked to cancel, this once, and later sends are
refused. If there is a status by then, for whatever reason, the call is left as it is and nothing
is asked. Either way the watchdog does nothing more. -/
theorem watchdog_acts_once (setup : Setup σ P Req Resp) (plain : setup.chain = .empty) (shared : σ)
    (now limit : Nat) (timed : setup.options.timeout = some limit) (request : Option Req)
    (course : List (Happening σ P Req Resp))
    (early : ∀ time, .watchdog time ∈ course → time < now + limit)
    (reads : ∀ happening ∈ course, Happening.Reads happening) :
    let begun := start setup shared now (.ok ()) request
    let reached := begun.1.after course
    let quiet := course.filter (!·.isLook)
    (reached = begun.1.after quiet ∧ begun.1.asked course = begun.1.asked quiet) ∧
    (reached.dissolved = false → ∀ time later,
      let look := reached.happen (.watchdog time)
      let left := look.1.after later
      (time < now + limit → look = (reached, [])) ∧
      (now + limit ≤ time →
        (∀ again, left.happen (.watchdog again) = (left, [])) ∧
        (reached.call.status?.isSome = true → look = ({ reached with due := none }, [])) ∧
        (reached.call.status? = none →
          reached.call.accumulator.TimesOut look.1.call.accumulator ∧
          look.2 = [.cancel] ∧
          (begun.2 ++ begun.1.asked (course ++ .watchdog time :: later)).countP
            TransportOp.isCancel = 1 ∧
          ∀ parts ≠ [], left.call.send setup parts =
            (.error (if left.call.closed then .streamAlreadyClosed else .cancelled),
              .start left.call)))) := by
  intro begun reached quiet
  have start : begun.1.Awaits (now + limit) := awaits_start setup shared now timed request
  have setTo : begun.1.SetTo (now + limit) := by
    intro set known
    exact Option.some.inj (known.symm.trans start.due)
  refine ⟨after_sleeping setTo early, ?_⟩
  intro alive time later look left
  have awaits : reached.Awaits (now + limit) := start.after early reads alive
  have unchanged : reached.setup = setup := setup_after begun.1 course
  refine ⟨fun soon => ?_, fun late => ?_⟩
  · refine happen_of_early fun set known => ?_
    obtain rfl : now + limit = set := Option.some.inj (awaits.due.symm.trans known)
    exact soon
  · have done : look.1.due = none := by
      cases known : reached.call.status? with
      | none =>
        have acts := awaits.happen_of_unresolved (unchanged ▸ plain) late known
        exact congrArg (fun out => out.1.due) acts
      | some status =>
        have acts := awaits.happen_of_resolved late (by rw [known]; rfl)
        exact congrArg (fun out => out.1.due) acts
    refine ⟨fun again => ?_, fun resolved => ?_, fun unresolved => ?_⟩
    · refine happen_of_early fun set known => ?_
      cases (due_after done later).symm.trans known
    · exact awaits.happen_of_resolved late resolved
    · have acts : look = _ := awaits.happen_of_unresolved (unchanged ▸ plain) late unresolved
      have gone : look.1.call.terminated = true := by rw [acts]
      have still : left.call.terminated = true := terminated_after later gone
      refine ⟨?_, ?_, ?_, fun parts some => send_eq_of_terminated setup still some⟩
      · rw [acts]
        exact awaits.unended.timesOut unresolved
      · rw [acts]
      · have counted : (begun.2 ++ begun.1.asked (course ++ .watchdog time :: later)).countP
            TransportOp.isCancel = _ := counts_course setup shared now (.ok ()) request _
        have state : begun.1.after (course ++ .watchdog time :: later) = left := by
          rw [after_append, after_cons]
        rw [state, still] at counted
        exact counted

end Active

/-- A call for a stream of texts that has twenty units of time. -/
def hurried : Setup Unit String String String :=
  { greeting with shape := .serverStreaming, options := { timeout := some 20 } }

namespace Active

/-- One call was not answered in time: the text that was not read yet is read before the failure.
The other one was, and its deadline changes nothing. -/
theorem deadline_behind_last_text :
    let begun := start hurried () 5 (.ok ()) (some "all")
    let course : List (Happening Unit String String String) :=
      [.part (.message "one" {}), .watchdog 24, .stream (·.pull.2), .part (.message "two" {})]
    let reached := begun.1.after course
    let answered := begun.1.after (course ++ [.part (.finish .success .empty)])
    let look := reached.happen (.watchdog 25)
    look.2 = [.cancel] ∧
      look.1.call.status? = some ⟨.deadlineExceeded, "deadline exceeded"⟩ ∧
      look.1.call.drain.1 = [.ready (.ok (some "two")), .ready (.error .deadlineExceeded)] ∧
      answered.happen (.watchdog 25) = ({ answered with due := none }, []) := by
  intro begun course reached answered look
  have early : ∀ time, .watchdog time ∈ course → time < 5 + 20 := by
    intro time member
    simp [course] at member
    omega
  have reads : ∀ happening ∈ course, Happening.Reads happening := by
    intro happening member
    simp only [course, List.mem_cons, List.not_mem_nil, or_false] at member
    rcases member with rfl | rfl | rfl | rfl
    · exact nofun
    · exact nofun
    · exact Happening.reads_stream (.inl rfl)
    · exact nofun
  have finish : ∀ happening ∈ course ++ [.part (.finish .success .empty)],
      Happening.Reads happening := by
    intro happening member
    rcases List.mem_append.mp member with member | member
    · exact reads happening member
    · rw [List.mem_singleton.mp member]
      exact nofun
  obtain ⟨-, acts⟩ :=
    watchdog_acts_once hurried rfl () 5 20 rfl (some "all") course early reads
  obtain ⟨-, -, expires⟩ := (acts rfl 25 []).2 (Nat.le_refl _)
  obtain ⟨fails, asks, -, -⟩ := expires rfl
  obtain ⟨-, failed, response, drained⟩ := fails.stream _ rfl
  obtain ⟨-, later⟩ := watchdog_acts_once hurried rfl () 5 20 rfl (some "all")
    (course ++ [.part (.finish .success .empty)])
    (fun time member => early time (by simpa using member)) finish
  obtain ⟨-, rests, -⟩ := (later rfl 25 []).2 (Nat.le_refl _)
  refine ⟨asks, fails.status, ?_, rests rfl⟩
  unfold Call.drain
  rw [show look.1.call.accumulator.response = .stream failed from response]
  exact drained

end Active

end Client

end RemoteCall
