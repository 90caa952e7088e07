import RemoteCall.Proofs.Client.Collection

/-!
# Responses that end early

The response of a collection may end before everything is forwarded. From then on the call has its
outcome for good (`Call.Over`) and takes nothing more from the application. So what the collection
still wants to send is refused, and it answers the refusal in place of the outcome
(`Active.collection_of_ended`).
-/

namespace RemoteCall.Client

variable {σ P Req Resp : Type}

/-- A response that is settled and no stream has its value. -/
theorem Response.isSome_value? {r : Response Resp} (single : r.stream? = none)
    (settled : r.isSettled = true) : r.value?.isSome = true := by
  cases r with
  | stream messages => cases single
  | single message violation =>
    obtain ⟨outcome, known⟩ := Option.isSome_iff_exists.mp settled
    obtain ⟨value⟩ := message
    cases known
    cases violation <;> rfl

theorem Intake.order_takeAll_of_ended {i : Intake Resp} (ended : i.order = .ended)
    (arrivals : List (Arrival (ResponsePart Resp))) : (i.takeAll arrivals).order = .ended := by
  induction arrivals generalizing i with
  | nil => exact ended
  | cons arrival rest ih =>
    refine ih ?_
    cases arrival with
    | failure e => exact ended
    | part part =>
      show (i.order.allow part).2 = .ended
      rw [ended]
      cases part <;> rfl

/-- An end stays the end. -/
theorem Call.Changes.ended {setup : Setup σ P Req Resp} {call call' : Call σ Resp}
    (changes : call.Changes setup call') (ended : call.order = .ended) : call'.order = .ended := by
  cases changes with
  | rest => exact ended
  | stream f => exact ended
  | note update => exact ended
  | event event =>
    have intake := congrArg Intake.order (Event.intake_pass setup event call)
    exact intake.trans (Intake.order_takeAll_of_ended ended _)

/-- A call whose response has ended, with this outcome. -/
structure Call.Over (call : Call σ Resp) (closed : Bool) (outcome : Result Resp) : Prop where
  order : call.order = .ended
  terminated : call.terminated = true
  sound : ∃ departed, call.Sound false departed
  closed : call.closed = closed
  outcome : call.value? = some outcome

/-- Nothing changes the outcome of a response that has ended. -/
theorem Call.Over.changes {setup : Setup σ P Req Resp} {call call' : Call σ Resp} {closed : Bool}
    {outcome : Result Resp} (isOver : call.Over closed outcome)
    (changes : call.Changes setup call') : call'.Over closed outcome := by
  obtain ⟨departed, sound⟩ := isOver.sound
  have intake := changes.intake_of_ended sound isOver.order
  have order : call'.order = .ended := (congrArg Intake.order intake).trans isOver.order
  have value := congrArg (fun i => i.accumulator.response.value?) intake
  exact
    { order := order
      terminated := changes.closed (fun _ => isOver.terminated) order
      sound := changes.sound sound
      closed := (changes.closedFlag isOver.terminated).trans isOver.closed
      outcome := value.trans isOver.outcome }

/-- How a collection concludes that was still forwarding when the response ended. -/
inductive Forwarder.Concludes (f : Forwarder Req) (outcome : Result Resp) : Result Resp → Prop where
  /-- The transport rejects a part. -/
  | rejected {signals : Nat → Signal} {e : CallError}
      (rejected : Receipt.awaitAll signals f.awaited = some (.error e)) :
      Concludes f outcome (.error e)
  /-- The end of the requests was handed over already. -/
  | outcome (closing : f.closing = true) : Concludes f outcome outcome
  /-- The source fails. -/
  | failed {e : CallError} {rest : List (Result Req)} (open_ : f.closing = false)
      (items : f.items = .error e :: rest) : Concludes f outcome (.error e)
  /-- There is something left to send, a message or the end. -/
  | refused (open_ : f.closing = false)
      (more : (∃ message rest, f.items = .ok message :: rest) ∨ f.items = [] ∧ f.ends = true) :
      Concludes f outcome (.error .cancelled)

namespace Active

variable {a : Active σ P Req Resp} {id : String}

/-- A collection that was forwarding when the response ended: it still does, or it waits. -/
inductive Lingers (f : Forwarder Req) : Job Req → Prop where
  | forwarding : Lingers f (.collect f)
  | waiting (closing : f.closing = true) : Lingers f .awaitResponse

/-- From the end of its response on, a collection sends nothing more. -/
theorem Lingers.move {f : Forwarder Req} {job : Job Req} {outcome : Result Resp}
    (lingers : Lingers f job) (isOver : a.call.Over f.closing outcome) {signals : Nat → Signal}
    {cancelSignal : Signal} {turn : Turn (Job Req) (Answer Resp)} {p : Pass σ P Resp}
    (moved : a.moveJob? signals cancelSignal job = some (turn, p)) :
    (∃ job', turn = .goesOn job' ∧ Lingers f job') ∨
      ∃ result, turn = .done (.responded result) ∧ f.Concludes outcome result := by
  have stopped : ∀ {e}, f.closing = false →
      (Pass.start a.call : Pass σ P Resp).refusal? = some e → e = .cancelled := by
    intro e open_ refused
    simp only [Pass.refusal?, Pass.start, isOver.closed, open_, isOver.terminated, if_true,
      Bool.false_eq_true, if_false, Option.some.injEq] at refused
    exact refused.symm
  cases lingers with
  | waiting closing =>
    obtain ⟨result, known, same, -⟩ := moveJob?_awaitResponse moved
    refine .inr ⟨result, same, ?_⟩
    rw [← Option.some.inj (isOver.outcome.symm.trans known)]
    exact .outcome closing
  | forwarding =>
    obtain ⟨next, moves, same⟩ | ⟨moves, same⟩ | ⟨e, moves, same⟩ := moveJob?_collect moved
    · cases moves with
      | sends open_ next? free =>
        have running := (Pass.refusal?_eq_none_iff.mp free).2
        cases running.symm.trans isOver.terminated
    · cases moves with
      | closed closing => exact .inl ⟨_, same, .waiting closing⟩
    · refine .inr ⟨_, same, ?_⟩
      cases moves with
      | rejected rejected => exact .rejected rejected
      | failed open_ items => exact .failed open_ items
      | refused open_ next? refused =>
        rw [stopped open_ refused]
        refine .refused open_ ?_
        obtain ⟨e, rest, -, same⟩ | ⟨message, rest, items, -⟩ | ⟨items, ends, -⟩ :=
          Forwarder.next?_cases next?
        · cases same
        · exact .inl ⟨message, rest, items⟩
        · exact .inr ⟨items, ends⟩

theorem lingers_after {f : Forwarder Req} {job : Job Req} {outcome : Result Resp}
    {course : List (Happening σ P Req Resp)} (lingers : Lingers f job)
    (isOver : a.call.Over f.closing outcome)
    (one : Errand.under a.errands id = [⟨some id, true, job⟩]) (unanswered : a.answers id = [])
    (undisturbed : ∀ happening ∈ course, happening.disturbs id = false) :
    (∃ job', Errand.under (a.after course).errands id = [⟨some id, true, job'⟩] ∧
        Lingers f job' ∧ (a.after course).answers id = []) ∨
      ∃ result, (a.after course).answers id = [.responded result] ∧
        f.Concludes outcome result := by
  induction course generalizing a job with
  | nil => exact .inl ⟨job, one, lingers, unanswered⟩
  | cons happening rest ih =>
    obtain ⟨first, later⟩ := List.forall_mem_cons.mp undisturbed
    have isOver' : (a.happen happening).1.call.Over f.closing outcome :=
      isOver.changes (changes_happen a happening)
    have progress := progress_happen a first
    rw [after_cons]
    generalize (a.happen happening).1 = b at isOver' progress ⊢
    cases progress with
    | stays unpolled others here answers =>
      exact ih lingers isOver' (here.trans one) (answers.trans unanswered) later
    | polled here answers =>
      rw [one] at here
      exact ih lingers isOver' here (answers.trans unanswered) later
    | goesOn was begun moved call here answers =>
      obtain ⟨rfl, rfl, rfl⟩ := eq_of_singleton (one.symm.trans was)
      obtain ⟨job', same, lingers'⟩ | ⟨result, same, -⟩ := lingers.move isOver moved
      · cases same
        exact ih lingers' isOver' here (answers.trans unanswered) later
      · cases same
    | done was begun moved call here answers =>
      obtain ⟨rfl, rfl, rfl⟩ := eq_of_singleton (one.symm.trans was)
      obtain ⟨job', same, -⟩ | ⟨result, same, concludes⟩ := lingers.move isOver moved
      · cases same
      · cases same
        rw [unanswered] at answers
        exact .inr ⟨result, ((vacant_after later here).2).trans answers, concludes⟩

/-- Where nothing can move, a collection whose response has ended waits for an acceptance or for a
silent source. -/
theorem Lingers.rest {f : Forwarder Req} {job : Job Req} {outcome : Result Resp}
    (lingers : Lingers f job) (isOver : a.call.Over f.closing outcome) {signals : Nat → Signal}
    {cancelSignal : Signal} (rest : a.moveJob? signals cancelSignal job = none) :
    Receipt.awaitAll signals f.awaited = none ∨
      f.closing = false ∧ f.items = [] ∧ f.ends = false := by
  cases lingers with
  | waiting closing =>
    have unknown : a.call.value? = none := Option.map_eq_none_iff.mp rest
    cases isOver.outcome.symm.trans unknown
  | forwarding => exact Forwarder.move?_eq_none (Option.map_eq_none_iff.mp rest)

/-- A response that has ended has its outcome, for good. -/
theorem over_of_ended (setup : Setup σ P Req Resp) (single : setup.shape.streamsResponses = false)
    (shared : σ) (now : Nat) (request : Option Req) (course : List (Happening σ P Req Resp)) :
    let reached := (start setup shared now (.ok ()) request).1.after course
    reached.call.order = .ended →
      ∃ outcome, reached.call.Over reached.call.closed outcome := by
  intro reached ended
  have sound : ∃ departed, reached.call.Sound false departed := by
    have begun := Call.sound_begin setup shared (.ok ()) request
    rw [single] at begun
    exact after_keeps (I := fun call => ∃ departed, call.Sound false departed)
      (fun _ _ changes ⟨_, sound⟩ => changes.sound sound) course ⟨_, begun⟩
  have terminated : reached.call.order = .ended → reached.call.terminated = true := by
    refine after_keeps (I := fun call => call.order = .ended → call.terminated = true)
      (fun _ _ changes closed => changes.closed closed) course ?_
    have fresh : (Pass.start (Call.fresh setup.shape shared) : Pass σ P Resp).Closed := nofun
    exact Event.closed_pass setup (.send (Call.opening setup request)) fresh
  obtain ⟨departed, whole⟩ := sound
  have settled : reached.call.accumulator.response.isSettled = true :=
    whole.intake.accumulator.whole.response (whole.intake.ended ended)
  obtain ⟨outcome, known⟩ := Option.isSome_iff_exists.mp
    (Response.isSome_value? whole.intake.accumulator.stream?_eq_none settled)
  exact ⟨outcome, ended, terminated ended, ⟨departed, whole⟩, rfl, known⟩

/-- Without hooks the response has ended once its end was delivered. -/
theorem ended_of_finish {course : List (Happening σ P Req Resp)} {part : ResponsePart P}
    (plain : a.setup.chain = .empty) (member : .part part ∈ course)
    (finish : part.isFinish = true) : (a.after course).call.order = .ended := by
  obtain ⟨before, behind, rfl⟩ := List.append_of_mem member
  rw [after_append, after_cons]
  refine after_keeps (I := fun call => call.order = .ended)
    (fun _ _ changes ended => changes.ended ended) behind ?_
  have setup : (a.after before).setup.chain = .empty := (setup_after a before).symm ▸ plain
  cases part with
  | headers m => cases finish
  | message payload flags => cases finish
  | finish status trailers =>
    simp only [happen, onPart, settle, Call.onPart, ResponsePart.tryMap, Pass.receive,
      Chain.receive, Pass.arrive_direct setup]
    have taken := congrArg Intake.order (Pass.intake_deliver (.finish status trailers)
      (.start (a.after before).call : Pass σ P Resp))
    exact taken.trans (ResponseOrder.allow_finish_snd _ _ _)

/-- Once the response of a collection has ended, which without hooks is when its end was delivered,
it has its outcome for good. A collection that is still forwarding then sends nothing more: if it
answers, then with this outcome if the end of the requests was handed over before, with
`CallError.cancelled` if there is a message or the end left to send, and with the failure of the
source or of a part that the transport rejects. It answers as soon as the acceptances it waits for
are known, unless its source is silent. -/
theorem collection_of_ended (setup : Setup σ P Req Resp)
    (single : setup.shape.streamsResponses = false) (shared : σ) (now : Nat)
    (course later : List (Happening σ P Req Resp)) (id : String) (items : List (Result Req))
    (ends : Bool) (handsOff : ∀ happening ∈ course, happening.isHandsOff = true)
    (undisturbed : ∀ happening ∈ course ++ later, happening.disturbs id = false) :
    let collecting := .engage ⟨some id, true, .collect { items, ends }⟩ :: course
    let reached := (start setup shared now (.ok ()) none).1.after collecting
    let left := reached.after later
    (setup.chain = .empty → ∀ part, .part part ∈ course → part.isFinish = true →
      reached.call.order = .ended) ∧
    (reached.call.order = .ended → ∀ f,
      Errand.under reached.errands id = [⟨some id, true, .collect f⟩] →
        ∃ outcome, reached.call.value? = some outcome ∧ left.call.value? = some outcome ∧
          (∀ answer ∈ left.answers id, ∃ result, answer = .responded result ∧
            f.Concludes outcome result) ∧
          (∀ signals cancelSignal, left.moveErrand? signals cancelSignal = none →
            left.answers id = [] → Receipt.awaitAll signals f.awaited = none ∨
              f.closing = false ∧ f.items = [] ∧ f.ends = false)) := by
  intro collecting reached left
  have undisturbedFirst : ∀ happening ∈ course, happening.disturbs id = false :=
    fun happening member => undisturbed happening (List.mem_append_left _ member)
  have undisturbedLater : ∀ happening ∈ later, happening.disturbs id = false :=
    fun happening member => undisturbed happening (List.mem_append_right _ member)
  constructor
  · intro plain part member finish
    exact ended_of_finish plain (List.mem_cons_of_mem _ member) finish
  · intro ended f here
    obtain ⟨outcome, isOver⟩ := over_of_ended setup single shared now none collecting ended
    obtain ⟨job, at_, knows⟩ | ⟨result, gone, -⟩ :=
      collecting_after setup shared now items ends handsOff undisturbedFirst
    · cases at_.here.symm.trans here
      have closing : f.closing = reached.call.closed := knows
      rw [← closing] at isOver
      have overLater : left.call.Over f.closing outcome :=
        after_keeps (I := fun call => call.Over f.closing outcome)
          (fun _ _ changes isOver => isOver.changes changes) later isOver
      have fate := lingers_after .forwarding isOver here at_.unanswered undisturbedLater
      refine ⟨outcome, isOver.outcome, overLater.outcome, ?_, ?_⟩
      · intro answer member
        obtain ⟨job', -, -, nothing⟩ | ⟨result, answered, concludes⟩ := fate
        · cases nothing ▸ member
        · rw [show left.answers id = _ from answered] at member
          exact ⟨result, List.mem_singleton.mp member, concludes⟩
      · intro signals cancelSignal rest unanswered
        obtain ⟨job', still, lingers, -⟩ | ⟨result, answered, -⟩ := fate
        · have waiting : ⟨some id, true, job'⟩ ∈ Errand.under left.errands id :=
            still ▸ List.mem_singleton_self _
          exact lingers.rest overLater
            (moveJob?_of_rest rest (List.mem_filter.mp waiting).1 rfl)
        · cases unanswered.symm.trans answered
    · cases gone.symm.trans here

/-- A collection whose response comes once its end is handed over answers the response. -/
theorem timely_end_reported :
    let course := [.errand accepting .waiting, .errand accepting .waiting,
      .part (.message "hi" {}), .part (.finish .success .empty)]
    let reached := (start recital () 0 (.ok ()) none).1.after
      (.engage ⟨some "f", true, .collect { items := [.ok "a"] }⟩ :: course)
    let left := reached.after (List.replicate 2 (.errand accepting .waiting))
    reached.call.order = .ended ∧ left.answers "f" = [.responded (.ok "hi")] ∧
      reached.call.value? = some (.ok "hi") ∧ left.call.value? = some (.ok "hi") := by
  intro course reached left
  have handsOff : ∀ happening ∈ (course : List (Happening Unit String String String)),
      happening.isHandsOff = true := by
    simp [course, Happening.isHandsOff]
  have undisturbed : ∀ happening ∈ (course : List (Happening Unit String String String)) ++
      List.replicate 2 (.errand accepting .waiting), happening.disturbs "f" = false := by
    simp [course, Happening.disturbs]
  obtain ⟨ends, concludes⟩ := collection_of_ended recital rfl () 0 course
    (List.replicate 2 (.errand accepting .waiting)) "f" [.ok "a"] true handsOff undisturbed
  have ended := ends rfl (.finish .success .empty) (by simp [course]) rfl
  obtain ⟨outcome, known, stays, -⟩ := concludes ended _ rfl
  cases known
  exact ⟨ended, rfl, rfl, stays⟩

/-- A method that does not exist ends the response at once. A collection with two requests then
answers that it was cancelled, though nobody cancelled it and its call has the status. -/
theorem early_end_unreported :
    let missing : Status := ⟨.unimplemented, "method not found"⟩
    let left := (start recital () 0 (.ok ()) none).1.after
      [.engage ⟨some "f", true, .collect { items := [.ok "a", .ok "b"] }⟩,
        .errand accepting .waiting, .part (.finish missing .empty), .errand accepting .waiting]
    left.call.value? = some (.error (.status missing)) ∧
      left.answers "f" = [.responded (.error .cancelled)] :=
  ⟨rfl, rfl⟩

end Active

end RemoteCall.Client
