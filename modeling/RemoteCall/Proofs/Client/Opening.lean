import RemoteCall.Proofs.Chain.Forwards
import RemoteCall.Proofs.Client.Cleanup
import RemoteCall.Proofs.Client.Passages

/-!
# Failures of an opening

A call with a single request hands its headers, the request and the end over when it starts, and
drops the receipts. So nobody learns whether the request was encoded or what the transport answers:
every run of the call is the run it would be with any other encoding (`Call.Alike`), and the
application at work on it sees the same whatever becomes of the parts. Only a failed invocation is
reported (`Call.opening_unreported`).
-/

namespace RemoteCall.Client

variable {σ P Req Resp : Type}

/-! ### What forwards an opening -/

namespace Pass

variable {setup : Setup σ P Req Resp}

/-- Notes change nothing but what is shared. -/
theorem of_noted {p p' : Pass σ P Resp} (noted : (edges setup).Noted p p') :
    p'.ops = p.ops ∧ ∃ shared, p'.call = { p.call with shared } := by
  induction noted with
  | refl p => exact ⟨rfl, p.call.shared, rfl⟩
  | note update later ih =>
    obtain ⟨ops, shared, call⟩ := ih
    exact ⟨ops, shared, call⟩

theorem toTransport_eq (setup : Setup σ P Req Resp) (part : RequestPart Req) (p : Pass σ P Resp) :
    (toTransport setup part p).ops = p.ops ++ (setup.encodings part).map .send ∧
      ∃ sent, (toTransport setup part p).call = { p.call with sent } := by
  unfold toTransport Setup.encodings
  cases part.tryMap setup.requests.encode with
  | ok encoded => exact ⟨rfl, p.call.sent + 1, rfl⟩
  | error e => exact ⟨(List.append_nil _).symm, p.call.sent, rfl⟩

/-- A part that is forwarded is handed over encoded, if it can be. -/
theorem enter_forwards (forwards : setup.chain.Forwards) (part : RequestPart Req)
    (p : Pass σ P Resp) :
    (enter setup part p).ops = p.ops ++ (setup.encodings part).map .send ∧
      ∃ sent shared, (enter setup part p).call =
        { p.call with closed := part.kind == .finish, sent, shared } := by
  obtain ⟨before, ahead, behind⟩ : (edges setup).Hands part _ (enter setup part p) :=
    forwards.send setup.path part _
  obtain ⟨ops, shared, call⟩ := of_noted ahead
  obtain ⟨handed, sent, counted⟩ := toTransport_eq setup part before
  obtain ⟨ops', shared', call'⟩ := of_noted behind
  refine ⟨?_, sent, shared', ?_⟩
  · rw [ops']
    exact handed.trans (congrArg (· ++ _) ops)
  · rw [call', show ((edges setup).transport part before).call = _ from counted, call]

/-- A batch that ends with the end of the request is forwarded as a whole. -/
theorem enqueue_forwards (forwards : setup.chain.Forwards) {bodies : List (RequestPart Req)}
    (unended : ∀ part ∈ bodies, part.kind ≠ .finish) {p : Pass σ P Resp}
    (free : p.refusal? = none) :
    (enqueue setup (bodies ++ [.finish]) p).2.ops =
        p.ops ++ ((bodies ++ [RequestPart.finish]).flatMap setup.encodings).map .send ∧
      ∃ sent shared, (enqueue setup (bodies ++ [.finish]) p).2.call =
        { p.call with closed := true, sent, shared } := by
  induction bodies generalizing p with
  | nil =>
    rw [List.nil_append, (enqueue_of_free free).1, List.flatMap_singleton]
    exact enter_forwards forwards .finish p
  | cons part rest ih =>
    obtain ⟨first, later⟩ := List.forall_mem_cons.mp unended
    obtain ⟨ops, sent, shared, call⟩ := enter_forwards forwards part p
    obtain ⟨open_, running⟩ := refusal?_eq_none_iff.mp free
    -- Only the end closes the request, so nothing in front of it makes the next part be refused.
    have still : (enter setup part p).refusal? = none := by
      rw [refusal?_eq_none_iff, call]
      exact ⟨beq_false_of_ne first, running⟩
    obtain ⟨ops', sent', shared', call'⟩ := ih later still
    rw [List.cons_append, (enqueue_of_free free).1, List.flatMap_cons]
    refine ⟨?_, sent', shared', ?_⟩
    · rw [ops', ops, List.map_append, List.append_assoc]
    · rw [call', call]

end Pass

/-! ### What does not depend on the encoding -/

/-- The same, with requests encoded in another way. -/
def Setup.encodedBy (setup : Setup σ P Req Resp) (requests : Codec P Req) : Setup σ P Req Resp :=
  { setup with requests }

/-- Two calls that differ in nothing but the number of parts they have handed over. -/
def Call.Alike (call call' : Call σ Resp) : Prop := ∃ sent, call = { call' with sent }

namespace Pass

variable {setup : Setup σ P Req Resp} {p p' : Pass σ P Resp}

theorem isParallel_alike :
    IsParallel fun p p' : Pass σ P Resp => p.call.Alike p'.call where
  accumulator := fun ⟨_, same⟩ => by rw [same]
  order := fun ⟨_, same⟩ => by rw [same]
  shared := fun ⟨_, same⟩ => by rw [same]
  gather := fun ⟨sent, same⟩ _ => ⟨sent, by rw [same]⟩
  allow := fun ⟨sent, same⟩ _ => ⟨sent, by rw [same]⟩
  note := fun ⟨sent, same⟩ _ => ⟨sent, by rw [same]⟩
  abandon := by
    rintro p p' ⟨sent, same⟩
    unfold Pass.abandon
    rw [same]
    cases p'.call.terminated with
    | true => exact ⟨sent, same⟩
    | false => exact ⟨sent, rfl⟩

variable (setup) in
/-- Nothing at the edges of a call looks at how a request is encoded, or how many parts were. -/
theorem relates_alike (other : Codec P Req) :
    (edges setup).Relates (fun p p' => p.call.Alike p'.call) (edges (setup.encodedBy other)) := by
  refine isParallel_alike.relates fun part p p' alike => ?_
  obtain ⟨sent, same⟩ := alike
  obtain ⟨-, here, call⟩ := toTransport_eq setup part p
  obtain ⟨-, there, call'⟩ := toTransport_eq (setup.encodedBy other) part p'
  exact ⟨here, by rw [call, call', same]⟩

theorem alike_arrive (other : Codec P Req) (arrival : Arrival (ResponsePart Resp))
    (alike : p.call.Alike p'.call) :
    (setup.chain.arrive (edges setup) setup.path arrival p).call.Alike
      (setup.chain.arrive (edges (setup.encodedBy other)) setup.path arrival p').call :=
  Chain.arrive_related (relates_alike setup other) setup.path setup.chain arrival alike

theorem alike_enter (other : Codec P Req) (part : RequestPart Req)
    (alike : p.call.Alike p'.call) :
    (enter setup part p).call.Alike (enter (setup.encodedBy other) part p').call := by
  obtain ⟨sent, same⟩ := alike
  have entering : Call.Alike { p.call with closed := part.kind == .finish }
      { p'.call with closed := part.kind == .finish } := ⟨sent, by rw [same]⟩
  exact Chain.send_related (relates_alike setup other) setup.path setup.chain part entering

theorem alike_enqueue (other : Codec P Req) (parts : List (RequestPart Req)) {p p' : Pass σ P Resp}
    (alike : p.call.Alike p'.call) :
    (enqueue setup parts p).2.call.Alike (enqueue (setup.encodedBy other) parts p').2.call := by
  induction parts generalizing p p' with
  | nil => exact alike
  | cons part rest ih =>
    have refuses : p.refusal? = p'.refusal? := by
      obtain ⟨sent, same⟩ := alike
      unfold refusal?
      rw [same]
    cases refused : p'.refusal? with
    | some e =>
      rw [(enqueue_of_refusal refused).1, (enqueue_of_refusal (refuses.trans refused)).1]
      exact alike
    | none =>
      rw [(enqueue_of_free refused).1, (enqueue_of_free (refuses.trans refused)).1]
      exact ih (alike_enter other part alike)

end Pass

namespace Call

variable {setup : Setup σ P Req Resp} {call call' : Call σ Resp}

theorem Alike.send (alike : call.Alike call') (other : Codec P Req)
    (parts : List (RequestPart Req)) :
    (call.send setup parts).2.call.Alike (call'.send (setup.encodedBy other) parts).2.call := by
  rw [send_eq, send_eq]
  have start : (Pass.start call : Pass σ P Resp).call.Alike
      (Pass.start call' : Pass σ P Resp).call := alike
  exact Pass.alike_enqueue other parts start

theorem Alike.terminate (alike : call.Alike call') (other : Codec P Req) (e : CallError) :
    (call.terminate setup e).2.call.Alike
      (call'.terminate (setup.encodedBy other) e).2.call := by
  obtain ⟨sent, same⟩ := alike
  have flag : call.terminated = call'.terminated := by rw [same]
  unfold Call.terminate
  rw [flag]
  cases call'.terminated with
  | true => exact ⟨sent, same⟩
  | false =>
    refine Pass.isParallel_alike.failWith (Pass.alike_arrive other (.failure e) ?_) e
    exact ⟨sent, by rw [same]; rfl⟩

/-- Alike calls stay alike, whatever happens. -/
theorem Alike.pass (alike : call.Alike call') (other : Codec P Req) (event : Event P Req) :
    (event.pass setup call).call.Alike (event.pass (setup.encodedBy other) call').call := by
  cases event with
  | send parts => exact alike.send other parts
  | cancel => exact alike.terminate other .cancelled
  | expire =>
    have status : call.status? = call'.status? := by
      obtain ⟨sent, same⟩ := alike
      rw [same]
      rfl
    simp only [Event.pass, Call.expire, status]
    cases call'.status? with
    | some status => exact alike
    | none => exact alike.terminate other .deadlineExceeded
  | error e =>
    exact Pass.isParallel_alike.failWith (Pass.alike_arrive other (.failure e) alike) e
  | part part =>
    have decoder : (setup.encodedBy other).responses = setup.responses := rfl
    simp only [Event.pass, Call.onPart, decoder]
    cases part.tryMap setup.responses.decode with
    | ok decoded => exact Pass.alike_arrive other (.part decoded) alike
    | error e =>
      exact Pass.isParallel_alike.abandon
        (Pass.isParallel_alike.failWith (Pass.alike_arrive other (.failure e) alike) e)

theorem Alike.move (alike : call.Alike call') (other : Codec P Req) (move : Move P Req) :
    (call.move setup move).Alike (call'.move (setup.encodedBy other) move) := by
  have stream : ∀ f, (call.mapStream f).Alike (call'.mapStream f) := by
    intro f
    obtain ⟨sent, same⟩ := alike
    exact ⟨sent, by rw [same]; rfl⟩
  cases move with
  | event event => exact alike.pass other event
  | pull => simpa only [Call.move, pull_snd] using stream _
  | next => simpa only [Call.move, next_snd] using stream _

/-- A run shows the same with every encoding of the requests. -/
theorem Alike.run (alike : call.Alike call') (other : Codec P Req) (moves : List (Move P Req)) :
    (call.run setup moves).Alike (call'.run (setup.encodedBy other) moves) ∧
      call.glimpses setup moves = call'.glimpses (setup.encodedBy other) moves := by
  induction moves generalizing call call' with
  | nil => exact ⟨alike, rfl⟩
  | cons move rest ih =>
    obtain ⟨later, shown⟩ := ih (alike.move other move)
    have glimpse : call.glimpse? move = call'.glimpse? move := by
      obtain ⟨sent, same⟩ := alike
      rw [glimpse?_eq, glimpse?_eq, same]
    exact ⟨later, by rw [glimpses, glimpses, shown, glimpse]⟩

theorem alike_begin (setup : Setup σ P Req Resp) (other : Codec P Req) (shared : σ)
    (invocation : Result Unit) (request : Option Req) :
    (begin setup shared invocation request).Alike
      (begin (setup.encodedBy other) shared invocation request) := by
  have fresh : (fresh setup.shape shared : Call σ Resp).Alike (fresh setup.shape shared) :=
    ⟨_, rfl⟩
  cases invocation with
  | error e => exact ⟨_, rfl⟩
  | ok u => exact fresh.send other (opening setup request)

end Call

/-! ### What does not depend on the acceptances -/

/-- A job that neither sends nor waits until a part is accepted. -/
def Job.attends : Job Req → Bool
  | cancel => true
  | awaitCancel => true
  | awaitResponse => true
  | _ => false

namespace Happening

/-- Whether the application leaves the request as the opening has sent it. -/
def attends : Happening σ P Req Resp → Bool
  | engage started => started.job.attends
  | enqueue _ => false
  | _ => true

/-- The same, with other answers of the transport to the parts. -/
def answeredBy (signals : Nat → Signal) : Happening σ P Req Resp → Happening σ P Req Resp
  | errand _ cancelSignal => errand signals cancelSignal
  | happening => happening

end Happening

namespace Active

/-- Whether the application only waits for the response, or cancels. -/
def Attends (a : Active σ P Req Resp) : Prop := ∀ errand ∈ a.errands, errand.job.attends = true

variable {a : Active σ P Req Resp}

theorem moveJob?_of_attends {job : Job Req} (attends : job.attends = true)
    (signals signals' : Nat → Signal) (cancelSignal : Signal) :
    a.moveJob? signals cancelSignal job = a.moveJob? signals' cancelSignal job := by
  cases job with
  | send parts => cases attends
  | accept batch => cases attends
  | forward source => cases attends
  | collect source => cases attends
  | cancel => rfl
  | awaitCancel => rfl
  | awaitResponse => rfl

theorem attends_of_goesOn {job next : Job Req} {signals : Nat → Signal} {cancelSignal : Signal}
    {p : Pass σ P Resp} (attends : job.attends = true)
    (moved : a.moveJob? signals cancelSignal job = some (.goesOn next, p)) :
    next.attends = true := by
  cases does_of_moveJob? moved with
  | cancels first => rfl
  | sends parts => cases attends
  | forwards moved => cases attends
  | collects moved => cases attends
  | collected moved => cases attends

theorem Attends.happen (attends : a.Attends) {happening : Happening σ P Req Resp}
    (leaves : happening.attends = true) : (a.happen happening).1.Attends := by
  unfold Attends at attends ⊢
  have shapes := reshapes_happen a happening
  generalize (a.happen happening).1 = b at shapes ⊢
  cases shapes with
  | rest unpolled unmoved errands finished =>
    rw [errands]
    exact attends
  | waits errands finished =>
    rw [errands, List.forall_mem_append, List.forall_mem_singleton]
    exact ⟨attends, rfl⟩
  | engage errands finished =>
    rw [errands, List.forall_mem_append, List.forall_mem_singleton]
    exact ⟨attends, leaves⟩
  | poll errands finished =>
    rw [errands, Errand.poll, List.forall_mem_map]
    intro errand member
    split
    · exact attends errand member
    · exact attends errand member
  | @drop id _ errands finished =>
    rw [errands, drop_eq, List.forall_mem_append]
    refine ⟨fun errand member => attends errand (List.mem_filter.mp member).1, ?_⟩
    intro left member
    rw [eq_cleanup_of_mem_leftBehind member]
    rfl
  | moves moves =>
    cases moves with
    | goesOn errands begun moved =>
      rw [errands, List.forall_mem_append, List.forall_mem_cons] at attends
      obtain ⟨before, here, behind⟩ := attends
      rw [List.forall_mem_append, List.forall_mem_cons]
      exact ⟨before, attends_of_goesOn here moved, behind⟩
    | done errands begun moved =>
      rw [errands, List.forall_mem_append, List.forall_mem_cons] at attends
      obtain ⟨before, here, behind⟩ := attends
      rw [List.forall_mem_append, List.forall_mem_append]
      refine ⟨⟨before, behind⟩, fun left member => ?_⟩
      rw [List.mem_ite_nil_right, List.mem_singleton] at member
      rw [member.2]
      rfl

/-- An application that leaves the request alone does not notice what the transport answers to
its parts. -/
theorem Attends.happen_answeredBy (attends : a.Attends) (signals : Nat → Signal)
    (happening : Happening σ P Req Resp) :
    a.happen (happening.answeredBy signals) = a.happen happening := by
  cases happening with
  | errand signals' cancelSignal =>
    have next : Errand.next? (a.moveJob? signals cancelSignal) a.errands =
        Errand.next? (a.moveJob? signals' cancelSignal) a.errands :=
      pickFirst?_congr fun errand member => by
        rw [moveJob?_of_attends (attends errand member) signals signals']
    simp only [Happening.answeredBy, Active.happen, moveErrand?]
    rw [next]
  | _ => rfl

theorem Attends.course_answeredBy (attends : a.Attends) (signals : Nat → Signal)
    {course : List (Happening σ P Req Resp)}
    (leaves : ∀ happening ∈ course, happening.attends = true) :
    a.after (course.map (.answeredBy signals)) = a.after course ∧
      a.asked (course.map (.answeredBy signals)) = a.asked course := by
  induction course generalizing a with
  | nil => exact ⟨rfl, rfl⟩
  | cons happening rest ih =>
    obtain ⟨first, later⟩ := List.forall_mem_cons.mp leaves
    obtain ⟨after, asked⟩ := ih (attends.happen first) later
    rw [List.map_cons, after_cons, after_cons, Active.asked, Active.asked,
      attends.happen_answeredBy signals happening]
    exact ⟨after, congrArg _ asked⟩

end Active

/-! ### Openings -/

/-- The response of a call that nothing has come for, whether or not its stream was polled. -/
def Response.Waits (shape : CallShape) (response : Response Resp) : Prop :=
  ∃ waker, response = if shape.streamsResponses then .stream { waker } else .freshSingle

/-- A poll finds nothing in a response that waits, and leaves it waiting. -/
theorem Response.Waits.polled {shape : CallShape} {response : Response Resp}
    (waits : response.Waits shape) (move : Move P Req) :
    (response.polled move).Waits shape ∧ ∀ glimpse ∈ response.glimpse? move,
      glimpse = .pulled .pending ∨ glimpse = .shown .pending := by
  obtain ⟨waker, rfl⟩ := waits
  unfold Response.Waits
  cases shape.streamsResponses with
  | false =>
    cases move with
    | event event => exact ⟨⟨waker, rfl⟩, fun glimpse shown => absurd shown (Option.not_mem_none _)⟩
    | pull => exact ⟨⟨waker, rfl⟩, fun glimpse shown => .inl (Option.some.inj shown).symm⟩
    | next => exact ⟨⟨waker, rfl⟩, fun glimpse shown => .inr (Option.some.inj shown).symm⟩
  | true =>
    cases move with
    | event event => exact ⟨⟨waker, rfl⟩, fun glimpse shown => absurd shown (Option.not_mem_none _)⟩
    | pull => exact ⟨⟨.armed, rfl⟩, fun glimpse shown => .inl (Option.some.inj shown).symm⟩
    | next => exact ⟨⟨.armed, rfl⟩, fun glimpse shown => .inr (Option.some.inj shown).symm⟩

namespace Call

/-- Nothing has come for a call, and it goes on. -/
structure Waits (setup : Setup σ P Req Resp) (call : Call σ Resp) : Prop where
  outcome : call.accumulator.outcome = {}
  response : call.accumulator.response.Waits setup.shape
  running : call.terminated = false

/-- A failure has settled a call: its status and its response are that of the failure. -/
structure Reports (call : Call σ Resp) (e : CallError) : Prop where
  status : call.status? = some e.toStatus
  response : call.value? = some (.error e) ∨ call.pull.1 = .ready (.error e)

variable {setup : Setup σ P Req Resp} {call : Call σ Resp}

/-- A call that waits has not reported anything. -/
theorem Waits.not_reports (waits : call.Waits setup) (e : CallError) : ¬ call.Reports e := by
  intro reports
  have status : call.status? = none := by
    rw [status?, waits.outcome]
    rfl
  exact Option.some_ne_none _ (reports.status.symm.trans status)

/-- A failed invocation is reported. -/
theorem reports_begin_error (setup : Setup σ P Req Resp) (shared : σ) (e : CallError)
    (request : Option Req) : (begin setup shared (.error e) request).Reports e where
  status := rfl
  response := by
    have response : (begin setup shared (.error e) request).accumulator.response =
        Response.fail (if setup.shape.streamsResponses then .freshStream else .freshSingle) e := rfl
    cases streams : setup.shape.streamsResponses with
    | false =>
      rw [streams] at response
      exact .inl (congrArg Response.value? response)
    | true =>
      rw [streams] at response
      refine .inr ?_
      unfold pull
      rw [response]
      rfl

theorem Waits.move (waits : call.Waits setup) {move : Move P Req} (polls : move.isPoll = true) :
    (call.move setup move).Waits setup ∧ ∀ glimpse ∈ call.glimpse? move,
      glimpse = .pulled .pending ∨ glimpse = .shown .pending := by
  obtain ⟨later, shown⟩ := waits.response.polled move
  rw [glimpse?_eq]
  refine ⟨?_, shown⟩
  cases move with
  | event event => cases polls
  | pull =>
    rw [Call.move, pull_snd]
    exact ⟨waits.outcome, later, waits.running⟩
  | next =>
    rw [Call.move, next_snd]
    exact ⟨waits.outcome, later, waits.running⟩

/-- A call that is only polled waits. -/
theorem Waits.run (waits : call.Waits setup) {moves : List (Move P Req)}
    (polls : ∀ move ∈ moves, move.isPoll = true) :
    (call.run setup moves).Waits setup ∧
      ∀ glimpse ∈ call.glimpses setup moves,
        glimpse = .pulled .pending ∨ glimpse = .shown .pending := by
  induction moves generalizing call with
  | nil => exact ⟨waits, fun glimpse member => absurd member List.not_mem_nil⟩
  | cons move rest ih =>
    obtain ⟨first, later⟩ := List.forall_mem_cons.mp polls
    obtain ⟨moved, shown⟩ := waits.move first
    obtain ⟨run, shownLater⟩ := ih moved later
    refine ⟨run, fun glimpse member => ?_⟩
    rcases List.mem_append.mp member with here | there
    · exact shown glimpse (Option.mem_toList.mp here)
    · exact shownLater glimpse there

/-- A call that has opened through a chain that forwards. Whether its parts could be encoded makes
no difference to it but in their number. -/
theorem start_forwards (forwards : setup.chain.Forwards) (shared : σ) (request : Req) :
    let started := (fresh setup.shape shared : Call σ Resp).start setup (.ok ()) (some request)
    started.ops = ((opening setup (some request)).flatMap setup.encodings).map .send ∧
      ∃ sent shared, started.call = { fresh setup.shape shared with closed := true, sent } := by
  have free : (Pass.start (fresh setup.shape shared) : Pass σ P Resp).refusal? = none := rfl
  have unended : ∀ part ∈ [.headers setup.options.requestHeaders,
      RequestPart.message request (.compressed setup.options.compress)], part.kind ≠ .finish := by
    simp [RequestPart.kind]
  obtain ⟨ops, sent, shared, call⟩ := Pass.enqueue_forwards forwards unended free
  simp only [start, send_eq]
  exact ⟨ops, sent, shared, call⟩

/-- What becomes of the failures of an opening. -/
structure OpeningUnreported (setup : Setup σ P Req Resp) (shared : σ) (request : Req) : Prop where
  /-- Through a chain that forwards go the parts that can be encoded. Whether or not that is all
  of them, the end of the request counts as sent. -/
  opens : setup.chain.Forwards →
    let started := (fresh setup.shape shared : Call σ Resp).start setup (.ok ()) (some request)
    started.ops = ((opening setup (some request)).flatMap setup.encodings).map .send ∧
      started.call.closed = true
  /-- The call then waits, for as long as nothing comes from the transport. -/
  waits : setup.chain.Forwards → ∀ moves : List (Move P Req), (∀ move ∈ moves, move.isPoll = true) →
    let started := begin setup shared (.ok ()) (some request)
    (started.run setup moves).Waits setup ∧
      ∀ glimpse ∈ started.glimpses setup moves,
        glimpse = .pulled .pending ∨ glimpse = .shown .pending
  /-- With any other encoding the call would go and look the same, whatever happens. -/
  encoding : ∀ (other : Codec P Req) (moves : List (Move P Req)),
    let started := begin setup shared (.ok ()) (some request)
    let started' := begin (setup.encodedBy other) shared (.ok ()) (some request)
    (started.run setup moves).Alike (started'.run (setup.encodedBy other) moves) ∧
      started.glimpses setup moves = started'.glimpses (setup.encodedBy other) moves
  /-- With any other answers of the transport to the parts too. -/
  acceptance : ∀ (now : Nat) (signals : Nat → Signal) (course : List (Happening σ P Req Resp)),
    (∀ happening ∈ course, happening.attends = true) →
    let started := (Active.start setup shared now (.ok ()) (some request)).1
    started.after (course.map (.answeredBy signals)) = started.after course ∧
      started.asked (course.map (.answeredBy signals)) = started.asked course
  /-- Only the failure of the invocation is reported. -/
  invocation : ∀ e, (begin setup shared (.error e) (some request)).Reports e

/-- A failure of the opening is not reported: no run of the call depends on the encoding of its
request, or on what the transport answers to its parts. -/
theorem opening_unreported (setup : Setup σ P Req Resp) (shared : σ) (request : Req) :
    OpeningUnreported setup shared request where
  opens forwards := by
    obtain ⟨ops, sent, shared, call⟩ := start_forwards forwards shared request
    exact ⟨ops, by rw [call]⟩
  waits forwards moves polls := by
    obtain ⟨-, sent, shared, call⟩ := start_forwards forwards shared request
    refine Waits.run ?_ polls
    rw [begin, call]
    refine ⟨rfl, ⟨.idle, ?_⟩, rfl⟩
    rfl
  encoding other moves := (alike_begin setup other shared (.ok ()) (some request)).run other moves
  acceptance now signals course leaves := by
    have attends : (Active.start setup shared now (.ok ()) (some request)).1.Attends :=
      fun errand member => absurd member List.not_mem_nil
    exact attends.course_answeredBy signals leaves
  invocation e := reports_begin_error setup shared e (some request)

/-- A call with one text that is marked on its way, and that must not start with an exclamation
mark. -/
def marked : Setup Unit Bytes String String where
  path := "/echo.Echo/Test"
  shape := .unary
  requests := .prefixed
  responses := .prefixed

/-- A transport that rejects every part. -/
def rejecting : Nat → Signal := fun _ => .settled (.error .streamAlreadyClosed)

/-- The application waits for the response, and the transport has answered to the parts. -/
def awaitingResponse (signals : Nat → Signal) : List (Happening Unit Bytes String String) :=
  [.engage { job := .awaitResponse }, .errand signals .waiting]

/-- A text that cannot be encoded is left out, and the end behind it is not. The call then waits,
and would wait whatever the transport answered. -/
theorem opening_without_text :
    let started := (Active.start marked () 0 (.ok ()) (some "!bad")).1
    marked.chain.Forwards ∧
      ((fresh marked.shape () : Call Unit String).start marked (.ok ()) (some "!bad")).ops =
        [.send (.headers marked.options.requestHeaders), .send .finish] ∧
      ((begin marked () (.ok ()) (some "!bad")).run marked [.pull]).Waits marked ∧
      started.after (awaitingResponse rejecting) = started.after (awaitingResponse accepting) := by
  have unreported := opening_unreported marked () "!bad"
  have forwards : marked.chain.Forwards := Chain.forwards_empty
  have leaves : ∀ happening ∈ awaitingResponse accepting, happening.attends = true := by
    simp [awaitingResponse, Happening.attends, Job.attends]
  refine ⟨forwards, (unreported.opens forwards).1, ?_, ?_⟩
  · exact (unreported.waits forwards [.pull] (by simp [Move.isPoll])).1
  · exact (unreported.acceptance 0 rejecting _ leaves).1

/-- Neither a text that cannot be encoded nor parts that the transport rejects at once fail a
call. -/
theorem refused_opening_unreported :
    marked.chain.Forwards ∧ Codec.prefixed.encode "!bad" = .error (.codec "unencodable") ∧
      ¬ (begin marked () (.ok ()) (some "!bad")).Reports (.codec "unencodable") ∧
      ¬ ((Active.start marked () 0 (.ok ()) (some "hi")).1.after
        (awaitingResponse rejecting)).call.Reports .streamAlreadyClosed := by
  have unencoded : (begin marked () (.ok ()) (some "!bad")).Waits marked :=
    ⟨rfl, ⟨.idle, rfl⟩, rfl⟩
  have rejected : ((Active.start marked () 0 (.ok ()) (some "hi")).1.after
      (awaitingResponse rejecting)).call.Waits marked := ⟨rfl, ⟨.idle, rfl⟩, rfl⟩
  exact ⟨Chain.forwards_empty, rfl, unencoded.not_reports _, rejected.not_reports _⟩

end Call

end RemoteCall.Client
