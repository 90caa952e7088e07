import RemoteCall.Client.Active
import RemoteCall.Proofs.Client.Release

/-!
# A client call without interceptors

Without interceptors nothing but an end, a violation and what cancels the call gives it a status,
so the call is terminated exactly when it has its status (`Call.Steady`). Its requests to the
transport are plain: parts while it is not terminated, one cancellation when it is, and nothing
after that (`Asks`).
-/

namespace RemoteCall.Client

variable {σ P Req Resp : Type}

/-- Whether the end of the request is handed over. -/
def TransportOp.isFinish : TransportOp P → Bool
  | send part => part.kind == .finish
  | cancel => false

/-- The part that is handed over. -/
def TransportOp.part? : TransportOp P → Option (RequestPart P)
  | send part => some part
  | cancel => none

/-- What is asked of the transport by something that changes a call. -/
inductive Asks (before after : Call σ Resp) : List (TransportOp P) → Prop where
  | nothing (terminated : after.terminated = before.terminated)
      (closed : after.closed = before.closed) : Asks before after []
  | send {parts : List (RequestPart P)} (running : before.terminated = false)
      (still : after.terminated = false)
      (closed : after.closed = (before.closed || parts.any (·.kind == .finish))) :
      Asks before after (parts.map .send)
  | cancel (running : before.terminated = false) (given : after.terminated = true)
      (closed : after.closed = before.closed) : Asks before after [.cancel]

/-- The request is closed by its end. -/
theorem Asks.closed {before after : Call σ Resp} {ops : List (TransportOp P)}
    (asks : Asks before after ops) :
    after.closed = (before.closed || ops.any TransportOp.isFinish) := by
  cases asks with
  | nothing terminated closed => rw [closed, List.any_nil, Bool.or_false]
  | send running still closed =>
    rw [closed, List.any_map]
    rfl
  | cancel running given closed =>
    rw [closed]
    exact (Bool.or_false _).symm

/-- A call that is terminated asks for nothing more. -/
theorem Asks.of_terminated {before after : Call σ Resp} {ops : List (TransportOp P)}
    (asks : Asks before after ops) (terminated : before.terminated = true) :
    ops = [] ∧ after.terminated = true := by
  cases asks with
  | nothing same closed => exact ⟨rfl, same.trans terminated⟩
  | send running still closed =>
    rw [terminated] at running
    cases running
  | cancel running given closed =>
    rw [terminated] at running
    cases running

/-- Everything that was asked up to now: parts, and a cancellation once the call is terminated. -/
inductive Asked : (terminated : Bool) → List (TransportOp P) → Prop where
  | running (parts : List (RequestPart P)) : Asked false (parts.map .send)
  | terminated (parts : List (RequestPart P)) : Asked true (parts.map .send ++ [.cancel])

theorem Asked.more {before after : Call σ Resp} {asked ops : List (TransportOp P)}
    (was : Asked before.terminated asked) (asks : Asks before after ops) :
    Asked after.terminated (asked ++ ops) := by
  cases asks with
  | nothing terminated closed =>
    rw [List.append_nil, terminated]
    exact was
  | @send more running still closed =>
    rw [running] at was
    rw [still]
    cases was with
    | running parts =>
      rw [← List.map_append]
      exact .running (parts ++ more)
  | cancel running given closed =>
    rw [running] at was
    rw [given]
    cases was with
    | running parts => exact .terminated parts

theorem Asked.of_terminated {terminated : Bool} {asked : List (TransportOp P)}
    (was : Asked terminated asked) (atEnd : terminated = true) :
    ∃ parts : List (RequestPart P), asked = parts.map .send ++ [.cancel] := by
  cases was with
  | running parts => cases atEnd
  | terminated parts => exact ⟨parts, rfl⟩

/-- What leaves a call terminated sends no part. -/
theorem Asks.of_stopped {before after : Call σ Resp} {ops : List (TransportOp P)}
    (asks : Asks before after ops) (stopped : after.terminated = true) :
    ops.filterMap TransportOp.part? = [] ∧ ops.any TransportOp.isFinish = false := by
  cases asks with
  | nothing terminated closed => exact ⟨rfl, rfl⟩
  | send running still closed =>
    rw [stopped] at still
    cases still
  | cancel running given closed => exact ⟨rfl, rfl⟩

namespace Pass

variable {setup : Setup σ P Req Resp} {call : Call σ Resp} {p : Pass σ P Resp}

/-- Nothing was asked, or the transport was given up. -/
inductive Quits (call : Call σ Resp) (p : Pass σ P Resp) : Prop where
  | nothing (ops : p.ops = []) (terminated : p.call.terminated = call.terminated)
      (closed : p.call.closed = call.closed)
  | cancel (ops : p.ops = [.cancel]) (running : call.terminated = false)
      (given : p.call.terminated = true) (closed : p.call.closed = call.closed)

theorem Quits.asks (quits : p.Quits call) : Asks call p.call p.ops := by
  cases quits with
  | nothing ops terminated closed =>
    rw [ops]
    exact .nothing terminated closed
  | cancel ops running given closed =>
    rw [ops]
    exact .cancel running given closed

theorem Quits.abandon (quits : p.Quits call) : p.abandon.Quits call := by
  unfold Pass.abandon
  by_cases h : p.call.terminated = true
  · rw [if_pos h]
    exact quits
  · rw [if_neg h]
    cases quits with
    | cancel ops running given closed => exact absurd given h
    | nothing ops terminated closed =>
      refine .cancel ?_ ?_ rfl closed
      · rw [ops]
        rfl
      · rw [← terminated]
        exact Bool.eq_false_iff.mpr h

theorem Quits.accumulate (quits : p.Quits call) (part : ResponsePart Resp) :
    (p.accumulate part).Quits call := by
  unfold Pass.accumulate
  have taken : ({ p with call := { p.call with
      accumulator := (p.call.accumulator.accept part).1 } } : Pass σ P Resp).Quits call := by
    cases quits with
    | nothing ops terminated closed => exact .nothing ops terminated closed
    | cancel ops running given closed => exact .cancel ops running given closed
  by_cases violated : (p.call.accumulator.accept part).2 = true
  · simp only [violated, if_true]
    exact taken.abandon
  · simp only [violated]
    exact taken

theorem Quits.foldl_accumulate (quits : p.Quits call) (parts : List (ResponsePart Resp)) :
    (parts.foldl Pass.accumulate p).Quits call := by
  induction parts generalizing p with
  | nil => exact quits
  | cons part rest ih => exact ih (quits.accumulate part)

/-- A part that arrives asks for nothing, or the transport is given up. -/
theorem quits_deliver (part : ResponsePart Resp) (call : Call σ Resp) :
    (deliver part (.start call) : Pass σ P Resp).Quits call := by
  have start : ({ call := { call with order := (call.order.allow part).2 } } :
      Pass σ P Resp).Quits call := .nothing rfl rfl rfl
  have folded := start.foldl_accumulate (call.order.allow part).1
  unfold deliver
  by_cases finish : (call.order.allow part).1.any ResponsePart.isFinish = true
  · simp only [Pass.start, finish, if_true]
    exact folded.abandon
  · simp only [Pass.start, finish, Bool.false_eq_true, if_false]
    exact folded

theorem arrive_direct (plain : setup.chain = .empty) (arrival : Arrival (ResponsePart Resp))
    (p : Pass σ P Resp) :
    setup.chain.arrive (edges setup) setup.path arrival p = (edges setup).arrive arrival p := by
  rw [plain, Chain.arrive_empty]

/-- Without hooks nothing comes back while parts are sent. -/
theorem enqueueArrivals_direct (plain : setup.chain = .empty) (parts : List (RequestPart Req))
    (p : Pass σ P Resp) : enqueueArrivals setup parts p = [] := by
  induction parts generalizing p with
  | nil => rfl
  | cons part rest ih =>
    unfold enqueueArrivals
    split
    · rfl
    · simp only [ih, List.append_nil]
      unfold sendArrivals
      rw [plain]
      rfl

/-- A part is handed over, unless it is a message that cannot be encoded. -/
theorem send_direct (plain : setup.chain = .empty) (part : RequestPart Req) (p : Pass σ P Resp) :
    (send setup part p).call.terminated = p.call.terminated ∧
      (send setup part p).call.closed = p.call.closed ∧
      ∃ payloads : List (RequestPart P),
        (send setup part p).ops = p.ops ++ payloads.map .send ∧
          payloads.any (·.kind == .finish) = (part.kind == .finish) := by
  unfold send
  rw [plain, Chain.send_empty]
  simp only [edges, toTransport]
  cases encoded : part.tryMap setup.requests.encode with
  | ok payload =>
    refine ⟨rfl, rfl, [payload], rfl, ?_⟩
    simp only [List.any_cons, List.any_nil, Bool.or_false, RequestPart.kind_of_tryMap encoded]
  | error e =>
    refine ⟨rfl, rfl, [], (List.append_nil _).symm, ?_⟩
    cases part with
    | headers m => cases encoded
    | message payload flags => rfl
    | finish => cases encoded

/-- The parts of a batch are handed over in order, up to one that is refused. -/
theorem enqueue_direct (plain : setup.chain = .empty) (parts : List (RequestPart Req))
    (p : Pass σ P Resp) :
    (enqueue setup parts p).2.call.terminated = p.call.terminated ∧
      ∃ payloads : List (RequestPart P),
        (enqueue setup parts p).2.ops = p.ops ++ payloads.map .send ∧
          (enqueue setup parts p).2.call.closed =
            (p.call.closed || payloads.any (·.kind == .finish)) ∧
          (p.call.terminated = true → payloads = []) := by
  have refused : p.call.closed = (p.call.closed || ([] : List (RequestPart P)).any
      (·.kind == .finish)) := (Bool.or_false _).symm
  induction parts generalizing p with
  | nil => exact ⟨rfl, [], (List.append_nil _).symm, refused, fun _ => rfl⟩
  | cons part rest ih =>
    unfold enqueue
    by_cases hclosed : p.call.closed = true
    · rw [if_pos hclosed]
      exact ⟨rfl, [], (List.append_nil _).symm, refused, fun _ => rfl⟩
    · rw [if_neg hclosed]
      by_cases hterminated : p.call.terminated = true
      · rw [if_pos hterminated]
        exact ⟨rfl, [], (List.append_nil _).symm, refused, fun _ => rfl⟩
      · rw [if_neg hterminated]
        obtain ⟨still, kept, first, sent, ends⟩ := send_direct plain part
          { p with call := { p.call with closed := part.kind == .finish } }
        obtain ⟨later, others, all, closed, -⟩ := ih (send setup part
          { p with call := { p.call with closed := part.kind == .finish } })
          (Bool.or_false _).symm
        refine ⟨later.trans still, first ++ others, ?_, ?_, fun atEnd => absurd atEnd hterminated⟩
        · rw [all, sent, List.map_append, List.append_assoc]
        · rw [closed, kept, List.any_append, ends, Bool.eq_false_iff.mpr hclosed, Bool.false_or]

end Pass

namespace Call

variable {setup : Setup σ P Req Resp} {call : Call σ Resp}

theorem asks_send (plain : setup.chain = .empty) (parts : List (RequestPart Req))
    (call : Call σ Resp) :
    Asks call (call.send setup parts).2.call (call.send setup parts).2.ops := by
  obtain ⟨same, payloads, ops, closed, refused⟩ := Pass.enqueue_direct plain parts (.start call)
  have pass : (call.send setup parts).2 = (Pass.enqueue setup parts (.start call)).2 := by
    unfold send
    split <;> next h => rw [h]
  rw [pass, ops]
  show Asks call _ ([] ++ _)
  rw [List.nil_append]
  cases h : call.terminated with
  | false => exact .send h (same.trans h) closed
  | true =>
    rw [refused h] at closed ⊢
    exact .nothing same (closed.trans (Bool.or_false _))

theorem asks_terminate (plain : setup.chain = .empty) (e : CallError) (call : Call σ Resp) :
    Asks call (call.terminate setup e).2.call (call.terminate setup e).2.ops := by
  unfold terminate
  cases h : call.terminated with
  | true =>
    rw [if_pos rfl]
    exact .nothing rfl rfl
  | false =>
    rw [if_neg Bool.false_ne_true]
    unfold Pass.fail Chain.fail
    rw [Pass.arrive_direct plain]
    exact .cancel h rfl rfl

/-- A call that is terminated, or whose request has ended, refuses what is sent. -/
theorem send_of_terminated (setup : Setup σ P Req Resp) (atEnd : call.terminated = true)
    {parts : List (RequestPart Req)} (some : parts ≠ []) :
    (call.send setup parts).1 =
      .error (if call.closed then .streamAlreadyClosed else .cancelled) := by
  obtain ⟨part, rest, rfl⟩ := List.exists_cons_of_ne_nil some
  unfold send Pass.enqueue
  cases h : call.closed <;> simp [Pass.start, h, atEnd]

end Call

namespace Event

variable {setup : Setup σ P Req Resp} {call : Call σ Resp}

theorem asks_pass (plain : setup.chain = .empty) (event : Event P Req) (call : Call σ Resp) :
    Asks call (event.pass setup call).call (event.pass setup call).ops := by
  cases event with
  | send parts => exact Call.asks_send plain parts call
  | cancel => exact Call.asks_terminate plain .cancelled call
  | expire =>
    simp only [pass, Call.expire]
    cases call.status? with
    | some status => exact .nothing rfl rfl
    | none => exact Call.asks_terminate plain .deadlineExceeded call
  | error e =>
    simp only [pass, Call.onError, Pass.fail, Chain.fail]
    rw [Pass.arrive_direct plain]
    exact .nothing rfl rfl
  | part p =>
    simp only [pass, Call.onPart]
    cases p.tryMap setup.responses.decode with
    | ok decoded =>
      simp only [Pass.receive, Chain.receive]
      rw [Pass.arrive_direct plain]
      exact (Pass.quits_deliver decoded call).asks
    | error e =>
      simp only [Pass.fail, Chain.fail]
      rw [Pass.arrive_direct plain]
      have failed : (Pass.failWith e ((Pass.edges setup).arrive (.failure e) (.start call))).Quits
          call := .nothing rfl rfl rfl
      exact failed.abandon.asks

/-- Without hooks there are no failures of hooks. -/
theorem hookFailures_direct (plain : setup.chain = .empty) (event : Event P Req)
    (call : Call σ Resp) : event.hookFailures setup call = [] := by
  unfold hookFailures
  cases event with
  | cancel => rfl
  | expire => rfl
  | error e => rfl
  | send parts =>
    simp only [isEnding, arrivals, Pass.enqueueArrivals_direct plain]
    rfl
  | part p =>
    unfold isEnding arrivals
    cases decoded : p.tryMap setup.responses.decode with
    | error e => simp [decoded]
    | ok part =>
      simp only [decoded, Pass.chainArrivals]
      rw [plain]
      rfl

end Event

/-- The call is terminated exactly when it has its status, and when an end has passed. -/
structure Call.Steady (call : Call σ Resp) : Prop where
  status : call.status?.isSome = call.terminated
  closed : call.order = .ended → call.terminated = true

namespace Call

variable {setup : Setup σ P Req Resp} {call : Call σ Resp}

theorem steady_fresh (shape : CallShape) (shared : σ) :
    (fresh shape shared : Call σ Resp).Steady where
  status := rfl
  closed ended := nomatch ended

/-- An event keeps that, unless the transport fails on a call that is not terminated. -/
theorem Steady.pass (plain : setup.chain = .empty) (steady : call.Steady) {event : Event P Req}
    (quiet : ∀ e, event = .error e → call.terminated = true) :
    (event.pass setup call).call.Steady where
  closed := Event.closed_pass setup event (P := P) steady.closed
  status := by
    have held : (Pass.start call : Pass σ P Resp).Held := by
      intro terminated
      exact steady.status.trans terminated
    cases after : (event.pass setup call).call.terminated with
    | true => exact Event.held_pass setup event held after
    | false =>
      have before : call.terminated = false := by
        cases h : call.terminated with
        | false => rfl
        | true =>
          rw [((Event.asks_pass plain event call).of_terminated h).2] at after
          cases after
      have regular : ∀ e, event ≠ .error e := by
        intro e same
        rw [quiet e same] at before
        cases before
      have follows : (event.pass setup call).Follows call.status? (event.hookFailures setup call) :=
        Event.follows_pass regular call
      rw [Event.hookFailures_direct plain] at follows
      rw [follows after]
      unfold Pass.concludedBy
      rw [List.head?_nil, Option.map_none, Option.or_none, steady.status]
      exact before

/-- A call goes on, asks this of the transport, and keeps what it has. -/
structure Advances (call call' : Call σ Resp) (ops : List (TransportOp P)) : Prop where
  asks : Asks call call' ops
  steady : call'.Steady
  status : call.status?.isSome = true → call'.status? = call.status?

theorem Steady.advances (plain : setup.chain = .empty) (steady : call.Steady) (event : Event P Req)
    (quiet : ∀ e, event = .error e → call.terminated = true) :
    call.Advances (event.pass setup call).call (event.pass setup call).ops where
  asks := Event.asks_pass plain event call
  steady := steady.pass plain quiet
  status resolved := status?_move setup resolved (.event event)

/-- Polls of the response stream ask for nothing. -/
theorem Steady.advances_mapStream (steady : call.Steady)
    (f : MessageStream Resp → MessageStream Resp) :
    call.Advances (call.mapStream f) ([] : List (TransportOp P)) :=
  ⟨.nothing rfl rfl, ⟨steady.status, steady.closed⟩, fun _ => rfl⟩

theorem Steady.advances_rest (steady : call.Steady) :
    call.Advances call ([] : List (TransportOp P)) :=
  ⟨.nothing rfl rfl, steady, fun _ => rfl⟩

/-- The end of the response terminates the call. -/
theorem Steady.terminated_of_finish (plain : setup.chain = .empty) (steady : call.Steady)
    {part : ResponsePart P} (finish : part.isFinish = true) :
    (call.onPart setup part).call.terminated = true := by
  have advances := steady.advances plain (.part part : Event P Req) nofun
  refine advances.steady.closed ?_
  cases part with
  | headers m => cases finish
  | message payload flags => cases finish
  | finish status trailers =>
    simp only [Event.pass, onPart, ResponsePart.tryMap, Pass.receive, Chain.receive]
    rw [Pass.arrive_direct plain]
    have taken := congrArg Intake.order
      (Pass.intake_deliver (.finish status trailers) (.start call : Pass σ P Resp))
    exact taken.trans (ResponseOrder.allow_finish_snd _ _ _)

end Call

/-- Whether an event is one of the client's own, and not one of the transport. -/
def Event.isOwn : Event P Req → Bool
  | part _ => false
  | error _ => false
  | _ => true

/-- What the client gives up a call for, if it does. -/
def Event.cause? : Event P Req → Option CallError
  | cancel => some .cancelled
  | expire => some .deadlineExceeded
  | _ => none

theorem Event.isOwn_of_cause? {event : Event P Req} {cause : CallError}
    (is : event.cause? = some cause) : event.isOwn = true := by
  cases event with
  | part p => cases is
  | error e => cases is
  | send parts => rfl
  | cancel => rfl
  | expire => rfl

/-- A failure settles the status, unless it is settled. -/
theorem Pass.status?_failWith (e : CallError) (p : Pass σ P Resp) :
    (failWith e p).call.status? = some (p.call.status?.getD e.toStatus) := by
  show (p.call.accumulator.outcome.status.settle e.toStatus).value? =
    some (p.call.accumulator.outcome.status.value?.getD e.toStatus)
  unfold WriteOnce.settle
  cases h : p.call.accumulator.outcome.status.value? with
  | none => rfl
  | some status => exact h

namespace Call

variable {setup : Setup σ P Req Resp} {call : Call σ Resp}

/-- A call that is terminated for a cause has a status: this cause, or what it had before. -/
theorem Steady.terminate (steady : call.Steady) (plain : setup.chain = .empty) (e : CallError) :
    (call.terminate setup e).2.call.terminated = true ∧
      (call.terminate setup e).2.call.status? = some (call.status?.getD e.toStatus) := by
  have resolved := steady.status
  unfold Call.terminate
  cases h : call.terminated with
  | true =>
    rw [h] at resolved
    obtain ⟨status, known⟩ := Option.isSome_iff_exists.mp resolved
    rw [if_pos rfl, known]
    exact ⟨h, known⟩
  | false =>
    rw [if_neg Bool.false_ne_true]
    unfold Pass.fail Chain.fail
    rw [Pass.arrive_direct plain]
    refine ⟨rfl, ?_⟩
    -- The failure arrives twice: through the chain, and past it.
    show (Pass.failWith e (Pass.failWith e _)).call.status? = _
    rw [Pass.status?_failWith, Pass.status?_failWith]
    rfl

theorem Steady.stops (steady : call.Steady) (plain : setup.chain = .empty) {event : Event P Req}
    {cause : CallError} (is : event.cause? = some cause) :
    (event.pass setup call).call.terminated = true ∧
      (event.pass setup call).call.status? = some (call.status?.getD cause.toStatus) := by
  cases event with
  | part p => cases is
  | error e => cases is
  | send parts => cases is
  | cancel =>
    cases is
    exact steady.terminate plain .cancelled
  | expire =>
    cases is
    have terminates := steady.terminate plain .deadlineExceeded
    simp only [Event.pass, expire]
    cases known : call.status? with
    | none =>
      rw [known] at terminates
      exact terminates
    | some status =>
      have resolved := steady.status
      rw [known] at resolved
      exact ⟨resolved.symm, known⟩

end Call

/-- What the client does to a call by itself: one of its own events, or nothing. -/
inductive OwnPass (setup : Setup σ P Req Resp) (call : Call σ Resp) : Pass σ P Resp → Prop where
  | rest : OwnPass setup call (.start call)
  | event (event : Event P Req) (own : event.isOwn = true) :
      OwnPass setup call (event.pass setup call)

theorem OwnPass.advances {setup : Setup σ P Req Resp} {call : Call σ Resp} {p : Pass σ P Resp}
    (own : OwnPass setup call p) (plain : setup.chain = .empty) (steady : call.Steady) :
    call.Advances p.call p.ops := by
  cases own with
  | rest => exact steady.advances_rest
  | event event own =>
    refine steady.advances plain event fun e same => ?_
    rw [same] at own
    cases own

/-- A forwarder sends one part, or leaves the call alone. -/
theorem Forwarder.ownPass {setup : Setup σ P Req Resp} {signals : Nat → Signal}
    {call : Call σ Resp} {f : Forwarder Req} {turn : Turn (Forwarder Req) (Result Unit)}
    {p : Pass σ P Resp} (moved : f.move? setup signals call = some (turn, p)) :
    OwnPass setup call p := by
  unfold move? at moved
  split at moved
  · cases moved
  · cases moved
    exact .rest
  · split at moved
    · cases moved
      exact .rest
    · split at moved
      · cases moved
      · cases moved
        exact .rest
      · next part f _ =>
        have sent : OwnPass setup call (call.send setup [part]).2 :=
          .event (.send [part]) rfl
        split at moved <;> next heq =>
          cases moved
          rwa [heq] at sent

namespace Active

/-- A client goes on by itself: with what it does to its call and with what it polls. -/
inductive Acts (a : Active σ P Req Resp) :
    Active σ P Req Resp × List (TransportOp P) → Prop where
  | pass {b : Active σ P Req Resp} {p : Pass σ P Resp} (own : OwnPass a.setup a.call p)
      (setup : b.setup = a.setup) (call : b.call = p.call) : Acts a (b, p.ops)
  | poll {b : Active σ P Req Resp} {f : MessageStream Resp → MessageStream Resp}
      (setup : b.setup = a.setup) (call : b.call = a.call.mapStream f) : Acts a (b, [])

variable {a : Active σ P Req Resp} {out : Active σ P Req Resp × List (TransportOp P)}

theorem Acts.setup (acts : a.Acts out) : out.1.setup = a.setup := by
  cases acts with
  | pass own setup call => exact setup
  | poll setup call => exact setup

theorem Acts.advances (acts : a.Acts out) (plain : a.setup.chain = .empty)
    (steady : a.call.Steady) : a.call.Advances out.1.call out.2 := by
  cases acts with
  | pass own setup call =>
    rw [call]
    exact own.advances plain steady
  | poll setup call =>
    rw [call]
    exact steady.advances_mapStream _

/-- What a job does in one move: what becomes of it, and the pass of the call. -/
inductive Does (a : Active σ P Req Resp) (signals : Nat → Signal) (cancelSignal : Signal) :
    Job Req → Turn (Job Req) (Answer Resp) → Pass σ P Resp → Prop where
  | sends (parts : List (RequestPart Req)) :
      Does a signals cancelSignal (.send parts) (.goesOn (.accept (a.call.send a.setup parts).1))
        (a.call.send a.setup parts).2
  | refused (e : CallError) :
      Does a signals cancelSignal (.accept (.error e)) (.done (.sent (.error e))) (.start a.call)
  | accepted {receipts : List Receipt} {result : Result Unit}
      (settled : Receipt.awaitAll signals receipts = some result) :
      Does a signals cancelSignal (.accept (.ok receipts)) (.done (.sent result)) (.start a.call)
  | cancels (first : (a.call.cancel a.setup).1 = true) :
      Does a signals cancelSignal .cancel (.goesOn .awaitCancel) (a.call.cancel a.setup).2
  | cancelsLate (late : (a.call.cancel a.setup).1 = false) :
      Does a signals cancelSignal .cancel (.done .cancelled) (a.call.cancel a.setup).2
  | cancelled {outcome : Result Unit} (settled : cancelSignal.outcome? = some outcome) :
      Does a signals cancelSignal .awaitCancel (.done .cancelled) (.start a.call)
  | forwards {source next : Forwarder Req} {p : Pass σ P Resp}
      (moved : source.move? a.setup signals a.call = some (.goesOn next, p)) :
      Does a signals cancelSignal (.forward source) (.goesOn (.forward next)) p
  | forwarded {source : Forwarder Req} {result : Result Unit} {p : Pass σ P Resp}
      (moved : source.move? a.setup signals a.call = some (.done result, p)) :
      Does a signals cancelSignal (.forward source) (.done (.sent result)) p
  | collects {source next : Forwarder Req} {p : Pass σ P Resp}
      (moved : source.move? a.setup signals a.call = some (.goesOn next, p)) :
      Does a signals cancelSignal (.collect source) (.goesOn (.collect next)) p
  | collected {source : Forwarder Req} {p : Pass σ P Resp}
      (moved : source.move? a.setup signals a.call = some (.done (.ok ()), p)) :
      Does a signals cancelSignal (.collect source) (.goesOn .awaitResponse) p
  | failed {source : Forwarder Req} {e : CallError} {p : Pass σ P Resp}
      (moved : source.move? a.setup signals a.call = some (.done (.error e), p)) :
      Does a signals cancelSignal (.collect source) (.done (.responded (.error e))) p
  | responded {result : Result Resp} (known : a.call.accumulator.response.value? = some result) :
      Does a signals cancelSignal .awaitResponse (.done (.responded result)) (.start a.call)

theorem does_of_moveJob? {signals : Nat → Signal} {cancelSignal : Signal} {job : Job Req}
    {turn : Turn (Job Req) (Answer Resp)} {p : Pass σ P Resp}
    (moved : a.moveJob? signals cancelSignal job = some (turn, p)) :
    a.Does signals cancelSignal job turn p := by
  cases job with
  | send parts =>
    cases moved
    exact .sends parts
  | cancel =>
    simp only [moveJob?] at moved
    cases first : (a.call.cancel a.setup).1 with
    | true =>
      rw [first] at moved
      cases moved
      exact .cancels first
    | false =>
      rw [first] at moved
      cases moved
      exact .cancelsLate first
  | accept batch =>
    cases batch with
    | error e =>
      cases moved
      exact .refused e
    | ok receipts =>
      obtain ⟨result, settled, moved⟩ := Option.map_eq_some_iff.mp moved
      cases moved
      exact .accepted settled
  | awaitCancel =>
    obtain ⟨outcome, settled, moved⟩ := Option.map_eq_some_iff.mp moved
    cases moved
    exact .cancelled settled
  | awaitResponse =>
    obtain ⟨result, known, moved⟩ := Option.map_eq_some_iff.mp moved
    cases moved
    exact .responded known
  | forward source =>
    obtain ⟨⟨turn', p'⟩, forwarded, moved⟩ := Option.map_eq_some_iff.mp moved
    cases turn' with
    | goesOn next =>
      cases moved
      exact .forwards forwarded
    | done result =>
      cases moved
      exact .forwarded forwarded
  | collect source =>
    obtain ⟨⟨turn', p'⟩, forwarded, moved⟩ := Option.map_eq_some_iff.mp moved
    cases turn' with
    | goesOn next =>
      cases moved
      exact .collects forwarded
    | done result =>
      cases result with
      | ok u =>
        cases moved
        exact .collected forwarded
      | error e =>
        cases moved
        exact .failed forwarded

/-- A job does something to the call, or waits. -/
theorem ownPass_of_moveJob? {signals : Nat → Signal} {cancelSignal : Signal} {job : Job Req}
    {turn : Turn (Job Req) (Answer Resp)} {p : Pass σ P Resp}
    (moved : a.moveJob? signals cancelSignal job = some (turn, p)) : OwnPass a.setup a.call p := by
  cases does_of_moveJob? moved with
  | sends parts => exact .event (.send parts) rfl
  | cancels first => exact .event .cancel rfl
  | cancelsLate late => exact .event .cancel rfl
  | forwards moved => exact Forwarder.ownPass moved
  | forwarded moved => exact Forwarder.ownPass moved
  | collects moved => exact Forwarder.ownPass moved
  | collected moved => exact Forwarder.ownPass moved
  | failed moved => exact Forwarder.ownPass moved
  | refused e => exact .rest
  | accepted settled => exact .rest
  | cancelled settled => exact .rest
  | responded known => exact .rest

theorem acts_moveErrand? {signals : Nat → Signal} {cancelSignal : Signal}
    (moved : a.moveErrand? signals cancelSignal = some out) : a.Acts out := by
  unfold moveErrand? at moved
  cases found : Errand.next? (a.moveJob? signals cancelSignal) a.errands with
  | none =>
    rw [found] at moved
    cases moved
  | some next =>
    obtain ⟨before, errand, ⟨turn, p⟩, behind⟩ := next
    obtain ⟨-, went⟩ := eq_append_of_pickFirst? found
    have own := ownPass_of_moveJob? (Option.ite_none_right_eq_some.mp went).2
    rw [found] at moved
    cases turn <;> (cases moved; exact .pass own rfl rfl)

/-- The watchdog gives up on the call; what it waits for then does not matter to the call. -/
theorem expire?_eq {now : Nat} (moved : a.expire? now = some out) :
    out.1.setup = a.setup ∧ out.1.call = ((.expire : Event P Req).pass a.setup a.call).call ∧
      out.2 = ((.expire : Event P Req).pass a.setup a.call).ops := by
  unfold expire? at moved
  cases due : a.due with
  | none =>
    rw [due] at moved
    cases moved
  | some time =>
    simp only [due] at moved
    obtain ⟨-, moved⟩ := Option.ite_none_left_eq_some.mp moved
    cases moved
    split <;> exact ⟨rfl, rfl, rfl⟩

theorem acts_dissolve? {transportHolds : Bool} {b : Active σ P Req Resp}
    (moved : a.dissolve? transportHolds = some b) : a.Acts (b, []) := by
  obtain ⟨-, moved⟩ := Option.ite_none_left_eq_some.mp moved
  cases moved
  exact .poll rfl rfl

end Active

end RemoteCall.Client
