import RemoteCall.Client.Steps
import RemoteCall.Proofs.ChainSteps
import RemoteCall.Proofs.Client.Event

/-!
# Client calls step by step, and as a whole

Left alone, the steps of an event do what the event does (`Event.alone_steps`), and so do those of a
start (`Steps.alone?_start`).
-/

namespace RemoteCall.Client

variable {σ P Req Resp : Type}

/-- What an event comes back with. -/
inductive Yield where
  | nothing
  /-- A batch: the receipts to wait for, or a refusal. -/
  | sent (result : Result (List Receipt))
  /-- A cancellation, or the deadline: whether the call was terminated with it. -/
  | terminated (now : Bool)

/-- What an event comes back with when nothing happens in between. -/
def Event.yield (setup : Setup σ P Req Resp) : Event P Req → Call σ Resp → Yield
  | send parts, call => .sent (call.send setup parts).1
  | cancel, call => .terminated (call.cancel setup).1
  | expire, call => .terminated (call.expire setup).1
  | _, _ => .nothing

/-- An event, step by step. -/
def Event.steps (setup : Setup σ P Req Resp) : Event P Req → Steps.On σ P Resp Yield
  | send parts => do
    let result ← Steps.sendBatch setup parts
    return .sent result
  | cancel => do
    let now ← Steps.terminate setup .cancelled
    return .terminated now
  | expire => do
    let now ← Steps.expire setup
    return .terminated now
  | part p => do
    Steps.onPart setup p
    return .nothing
  | error e => do
    Steps.failCall setup e
    return .nothing

/-- The floor shows the call of a pass, and what was asked in it behind what was asked in the past;
and the lock of the sends is held, or not. -/
structure Floor.Shows (past : List (TransportOp P)) (lock : Bool) (floor : Floor σ P Resp)
    (p : Pass σ P Resp) : Prop where
  call : floor.call = p.call
  ops : floor.ops = past ++ p.ops
  sending : floor.sending = lock

namespace Steps

variable {past : List (TransportOp P)} {lock : Bool} {floor : Floor σ P Resp}

@[simp] theorem alone?_atCall {α : Type} (f : Call σ Resp → α × Call σ Resp)
    (floor : Floor σ P Resp) :
    (atCall f).alone? floor = some ((f floor.call).1, { floor with call := (f floor.call).2 }) :=
  rfl

theorem alone?_handleError (e : CallError) (floor : Floor σ P Resp) :
    (handleError e).alone? floor = some ((),
      { (floor.mapAccumulator (·.fail e)).log (.failure e) with
        verdicts := floor.verdicts ++ [.failure e] }) := rfl

/-- A part is taken as a whole, and what reaches the response and the status is recorded. -/
theorem alone?_accept (part : ResponsePart Resp) (floor : Floor σ P Resp) :
    ∃ history verdicts, (accept part).alone? floor =
      some ((floor.call.accumulator.accept part).2,
        { floor.mapAccumulator (fun a => (a.accept part).1) with history, verdicts }) := by
  obtain ⟨⟨⟨outcome, response⟩, order, closed, terminated, sent, shared⟩, ops, answers, history,
    verdicts, sending⟩ := floor
  cases part with
  | headers m => exact ⟨_, _, rfl⟩
  | message m flags =>
    cases response with
    | stream messages => exact ⟨_, _, rfl⟩
    | single message violation =>
      obtain ⟨value?⟩ := message
      cases value? <;> exact ⟨_, _, rfl⟩
  | finish status trailers =>
    cases response with
    | stream messages => exact ⟨_, _, rfl⟩
    | single message violation =>
      obtain ⟨value?⟩ := message
      cases value? with
      | some value => exact ⟨_, _, rfl⟩
      | none =>
        obtain ⟨code, text⟩ := status
        cases code <;> exact ⟨_, _, rfl⟩

theorem alone?_abandon {p : Pass σ P Resp} (shows : floor.Shows past lock p) :
    ∃ floor', abandon.alone? floor = some ((), floor') ∧ floor'.Shows past lock p.abandon := by
  obtain ⟨call, ops, answers, history, verdicts, sending⟩ := floor
  obtain ⟨rfl, rfl, rfl⟩ := shows
  unfold Pass.abandon
  simp only [abandon, Routine.alone?_bind, alone?_atCall, Option.bind_some, Call.swapTerminated]
  cases gone : p.call.terminated with
  | true =>
    refine ⟨_, rfl, ?_, rfl, rfl⟩
    show { p.call with terminated := true } = p.call
    rw [← gone]
  | false => exact ⟨_, rfl, rfl, List.append_assoc _ _ _, rfl⟩

theorem receipts_abandon (p : Pass σ P Resp) : p.abandon.receipts = p.receipts := by
  unfold Pass.abandon
  split <;> rfl

theorem renders_accumulate (part : ResponsePart Resp) :
    Renders (Floor.Shows past lock) Pass.receipts (fun _ => True)
      (accumulate part : On σ P Resp (List Receipt)) fun p => p.accumulate part where
  before _ := id
  runs := by
    rintro ⟨call, ops, answers, history, verdicts, sending⟩ p ⟨rfl, rfl, rfl⟩ -
    let accepted : Pass σ P Resp :=
      { p with call := { p.call with accumulator := (p.call.accumulator.accept part).1 } }
    have same : p.accumulate part =
        if (p.call.accumulator.accept part).2 then accepted.abandon else accepted := rfl
    obtain ⟨history', verdicts', accepts⟩ := alone?_accept part
      (⟨p.call, past ++ p.ops, answers, history, verdicts, sending⟩ : Floor σ P Resp)
    simp only [accumulate, Routine.alone?_bind, accepts, Option.bind_some, same]
    cases (p.call.accumulator.accept part).2 with
    | false => exact ⟨[], _, rfl, ⟨rfl, rfl, rfl⟩, (List.append_nil _).symm⟩
    | true =>
      have shows : (⟨accepted.call, past ++ p.ops, answers, history', verdicts', sending⟩ :
          Floor σ P Resp).Shows past sending accepted := ⟨rfl, rfl, rfl⟩
      obtain ⟨last, ends, shows⟩ := alone?_abandon shows
      have ends' : abandon.alone? { (⟨p.call, past ++ p.ops, answers, history, verdicts, sending⟩ :
          Floor σ P Resp).mapAccumulator (fun a => (a.accept part).1) with
            history := history', verdicts := verdicts' } = some ((), last) := ends
      simp only [if_true, Routine.alone?_bind, ends']
      exact ⟨[], last, rfl, shows, (receipts_abandon accepted).trans (List.append_nil _).symm⟩

theorem renders_accumulates (parts : List (ResponsePart Resp)) :
    Renders (Floor.Shows past lock) Pass.receipts (fun _ => True)
      (Routine.forEach accumulate parts : On σ P Resp (List Receipt))
      fun p => parts.foldl Pass.accumulate p := by
  induction parts with
  | nil => exact renders_nothing
  | cons part rest ih => exact (renders_accumulate part).andThen ih

theorem renders_deliver (part : ResponsePart Resp) :
    Renders (Floor.Shows past lock) Pass.receipts (fun _ => True)
      (deliver part : On σ P Resp (List Receipt)) (Pass.deliver part) where
  before _ := id
  runs := by
    rintro ⟨call, ops, answers, history, verdicts, sending⟩ p ⟨rfl, rfl, rfl⟩ -
    let admitted := (p.call.order.allow part).1
    let passed : Pass σ P Resp :=
      { p with call := { p.call with order := (p.call.order.allow part).2 } }
    have same : Pass.deliver part p = if admitted.any ResponsePart.isFinish then
        (admitted.foldl Pass.accumulate passed).abandon
      else admitted.foldl Pass.accumulate passed := rfl
    obtain ⟨more, floor', ends, shows, noted⟩ := (renders_accumulates admitted).runs
      (⟨passed.call, past ++ p.ops, answers, history, verdicts, sending⟩ : Floor σ P Resp) passed
      ⟨rfl, rfl, rfl⟩ trivial
    have ends' : (Routine.forEach accumulate (Call.allow part p.call).1).alone?
        ⟨(Call.allow part p.call).2, past ++ p.ops, answers, history, verdicts, sending⟩ =
      some (more, floor') := ends
    simp only [deliver, Routine.alone?_bind, alone?_atCall, Option.bind_some, ends', same]
    by_cases finish : admitted.any ResponsePart.isFinish = true
    · have admits : (Call.allow part p.call).1.any ResponsePart.isFinish = true := finish
      obtain ⟨last, gives, shows'⟩ := alone?_abandon shows
      simp only [if_pos admits, if_pos finish, Routine.alone?_bind, gives]
      exact ⟨more, last, rfl, shows', (receipts_abandon _).trans noted⟩
    · have admits : ¬(Call.allow part p.call).1.any ResponsePart.isFinish = true := finish
      simp only [if_neg admits, if_neg finish]
      exact ⟨more, floor', rfl, shows, noted⟩

theorem renders_failWith (e : CallError) :
    Renders (Floor.Shows past lock) Pass.receipts (fun _ => True)
      (failWith e : On σ P Resp (List Receipt)) (Pass.failWith e) where
  before _ := id
  runs := by
    rintro ⟨call, ops, answers, history, verdicts, sending⟩ p ⟨rfl, rfl, rfl⟩ -
    exact ⟨[], _, rfl, ⟨rfl, rfl, rfl⟩, (List.append_nil _).symm⟩

variable (setup : Setup σ P Req Resp)

theorem renders_toTransport (part : RequestPart Req) :
    Renders (Floor.Shows past lock) Pass.receipts (fun _ => True) (toTransport setup part)
      (Pass.toTransport setup part) where
  before _ := id
  runs := by
    rintro ⟨call, ops, answers, history, verdicts, sending⟩ p ⟨rfl, rfl, rfl⟩ -
    unfold toTransport Pass.toTransport
    cases part.tryMap setup.requests.encode with
    | ok encoded => exact ⟨_, _, rfl, ⟨rfl, List.append_assoc _ _ _, rfl⟩, rfl⟩
    | error e => exact ⟨_, _, rfl, ⟨rfl, rfl, rfl⟩, rfl⟩

/-- What happens at the edges of a chain. -/
theorem renders_edges : (edges setup).Renders (Pass.edges setup) (Floor.Shows past lock)
    Pass.receipts fun _ => True where
  transport := renders_toTransport setup
  arrive
    | .part part => renders_deliver part
    | .failure e => renders_failWith e
  shared _ _ shows := congrArg Call.shared shows.call.symm
  note update _ _ shows :=
    ⟨congrArg (fun call : Call σ Resp => { call with shared := update call.shared }) shows.call,
      shows.ops, shows.sending⟩
  notes_note _ _ := rfl
  sound_note _ _ := id

theorem renders_send (part : RequestPart Req) :
    Renders (Floor.Shows past lock) Pass.receipts (fun _ => True) (send setup part)
      (Pass.send setup part) :=
  Chain.renders_send (renders_edges setup) setup.path setup.chain part

theorem renders_arrive (arrival : Arrival (ResponsePart Resp)) :
    Renders (Floor.Shows past lock) Pass.receipts (fun _ => True) (arrive setup arrival)
      (setup.chain.arrive (Pass.edges setup) setup.path arrival) :=
  Chain.renders_arrive (renders_edges setup) setup.path setup.chain arrival

/-- Parts are let into the chain one by one, and the receipts are those of the whole batch. -/
theorem alone?_enqueue (parts : List (RequestPart Req)) {p : Pass σ P Resp}
    (shows : floor.Shows past lock p) :
    ∃ result floor', (enqueue setup parts).alone? floor = some (result, floor') ∧
      floor'.Shows past lock (Pass.enqueue setup parts p).2 ∧
      (Pass.enqueue setup parts p).1.map (fun _ => (Pass.enqueue setup parts p).2.receipts) =
        result.map (p.receipts ++ ·) := by
  induction parts generalizing floor p with
  | nil => exact ⟨.ok [], floor, rfl, shows, congrArg Except.ok (List.append_nil _).symm⟩
  | cons part rest ih =>
    simp only [enqueue, Routine.alone?_bind, Routine.alone?_read, Option.bind_some, shows.call]
    unfold Pass.enqueue
    by_cases closed : p.call.closed = true
    · simp only [if_pos closed]
      exact ⟨_, floor, rfl, shows, rfl⟩
    · simp only [if_neg closed, Routine.alone?_bind, Routine.alone?_read, Option.bind_some,
        shows.call]
      by_cases gone : p.call.terminated = true
      · simp only [if_pos gone]
        exact ⟨_, floor, rfl, shows, rfl⟩
      · simp only [if_neg gone, Routine.alone?_bind, Routine.alone?_act, Option.bind_some]
        let closing (call : Call σ Resp) : Call σ Resp :=
          { call with closed := part.kind == .finish }
        have enters : (floor.mapCall closing).Shows past lock { p with call := closing p.call } :=
          ⟨congrArg closing shows.call, shows.ops, shows.sending⟩
        obtain ⟨receipts, floor₁, sends, shows₁, noted⟩ :=
          (renders_send setup part).runs _ _ enters trivial
        obtain ⟨result, floor₂, ends, shows₂, same⟩ := ih shows₁
        have sends' : (send setup part).alone? (floor.mapCall fun call =>
          { call with closed := part.kind == PartKind.finish }) = some (receipts, floor₁) := sends
        simp only [sends', ends, Option.bind_some]
        refine ⟨_, floor₂, rfl, shows₂, same.trans ?_⟩
        rw [noted]
        cases result with
        | error e => rfl
        | ok more => exact congrArg Except.ok (List.append_assoc _ _ _)

theorem alone?_sendBatch (parts : List (RequestPart Req))
    (shows : floor.Shows past false (.start floor.call)) :
    ∃ floor', (sendBatch setup parts).alone? floor =
        some ((floor.call.send setup parts).1, floor') ∧
      floor'.Shows past false (floor.call.send setup parts).2 := by
  have locked : (floor.setSending true).Shows past true (.start floor.call) :=
    ⟨rfl, shows.ops, rfl⟩
  obtain ⟨result, floor', ends, shows', same⟩ := alone?_enqueue setup parts locked
  have free : (!floor.sending) = true := by rw [shows.sending]; rfl
  simp only [sendBatch, Routine.alone?_bind, Routine.alone?_await, if_pos free, ends,
    Routine.alone?_act, Option.bind_some]
  have only : result.map (([] : List Receipt) ++ ·) = result := by cases result <;> rfl
  have called : floor.call.send setup parts = (result, (Pass.enqueue setup parts
      (.start floor.call)).2) := by
    rw [← only, ← show _ = result.map (([] : List Receipt) ++ ·) from same]
    unfold Call.send
    split <;> next enqueued => rw [enqueued]; rfl
  rw [called]
  exact ⟨floor'.setSending false, rfl, shows'.call, shows'.ops, rfl⟩

theorem alone?_failCall (e : CallError) {p : Pass σ P Resp} (shows : floor.Shows past lock p) :
    ∃ floor', (failCall setup e).alone? floor = some ((), floor') ∧
      floor'.Shows past lock (Pass.failWith e (Pass.fail setup e p)) := by
  obtain ⟨receipts, floor', ends, shows', -⟩ :=
    (renders_arrive setup (.failure e)).runs floor p shows trivial
  simp only [failCall, Routine.alone?_bind, ends, Option.bind_some]
  exact ⟨_, alone?_handleError e floor', congrArg (fun call : Call σ Resp =>
    { call with accumulator := call.accumulator.fail e }) shows'.call, shows'.ops, shows'.sending⟩

theorem alone?_terminate (e : CallError) (shows : floor.Shows past lock (.start floor.call)) :
    ∃ floor', (terminate setup e).alone? floor = some ((floor.call.terminate setup e).1, floor') ∧
      floor'.Shows past lock (floor.call.terminate setup e).2 := by
  unfold Call.terminate
  simp only [terminate, Routine.alone?_bind, alone?_atCall, Option.bind_some, Call.swapTerminated]
  by_cases gone : floor.call.terminated = true
  · simp only [if_pos gone]
    refine ⟨_, rfl, ?_, shows.ops, shows.sending⟩
    show { floor.call with terminated := true } = floor.call
    rw [← gone]
  · simp only [if_neg gone]
    have marked : ({ floor with call := { floor.call with terminated := true } }).Shows past lock
        (.start { floor.call with terminated := true }) := ⟨rfl, shows.ops, shows.sending⟩
    obtain ⟨floor', ends, shows'⟩ := alone?_failCall setup e marked
    simp only [Routine.alone?_bind, ends, Option.bind_some]
    refine ⟨_, rfl, shows'.call, ?_, shows'.sending⟩
    show floor'.ops ++ [.cancel] = _
    rw [shows'.ops, List.append_assoc]

/-- Left alone, a start does what it does as a whole. -/
theorem alone?_start (invocation : Result Unit) (request : Option Req)
    (shows : floor.Shows past false (.start floor.call)) :
    ∃ floor', (start setup invocation request).alone? floor = some ((), floor') ∧
      floor'.Shows past false (floor.call.start setup invocation request) := by
  cases invocation with
  | error e => exact ⟨_, rfl, rfl, shows.ops, shows.sending⟩
  | ok u =>
    obtain ⟨floor', ends, shows'⟩ := alone?_sendBatch setup (Call.opening setup request) shows
    simp only [start, Routine.alone?_bind, ends]
    exact ⟨floor', rfl, shows'⟩

end Steps

/-- Left alone, the steps of an event do what the event does, and come back with the same. -/
theorem Event.alone_steps (setup : Setup σ P Req Resp) (event : Event P Req)
    (floor : Floor σ P Resp) (free : floor.sending = false) :
    ∃ floor', (event.steps setup).alone? floor = some (event.yield setup floor.call, floor') ∧
      floor'.Shows floor.ops false (event.pass setup floor.call) := by
  have begins : floor.Shows floor.ops false (.start floor.call) :=
    ⟨rfl, (List.append_nil _).symm, free⟩
  cases event with
  | send parts =>
    obtain ⟨floor', ends, shows⟩ := Steps.alone?_sendBatch setup parts begins
    simp only [steps, Routine.alone?_bind, ends]
    exact ⟨floor', rfl, shows⟩
  | cancel =>
    obtain ⟨floor', ends, shows⟩ := Steps.alone?_terminate setup .cancelled begins
    simp only [steps, Routine.alone?_bind, ends]
    exact ⟨floor', rfl, shows⟩
  | expire =>
    simp only [steps, Steps.expire, Routine.alone?_bind, Routine.alone?_read, Option.bind_some,
      yield, pass, Call.expire]
    cases status : floor.call.status? with
    | some status => exact ⟨floor, rfl, begins⟩
    | none =>
      obtain ⟨floor', ends, shows⟩ := Steps.alone?_terminate setup .deadlineExceeded begins
      simp only [Option.isSome_none, Bool.false_eq_true, if_false, ends, Option.bind_some]
      exact ⟨floor', rfl, shows⟩
  | error e =>
    obtain ⟨floor', ends, shows⟩ := Steps.alone?_failCall setup e begins
    simp only [steps, Routine.alone?_bind, ends]
    exact ⟨floor', rfl, shows⟩
  | part p =>
    simp only [steps, Steps.onPart, pass, Call.onPart]
    cases decodes : p.tryMap setup.responses.decode with
    | ok decoded =>
      obtain ⟨receipts, floor', ends, shows, -⟩ :=
        (Steps.renders_arrive setup (.part decoded)).runs floor _ begins trivial
      simp only [Routine.alone?_bind, ends]
      exact ⟨floor', rfl, shows⟩
    | error e =>
      obtain ⟨floor', ends, shows⟩ := Steps.alone?_failCall setup e begins
      obtain ⟨last, abandons, shows'⟩ := Steps.alone?_abandon shows
      simp only [Routine.alone?_bind, ends, abandons, Option.bind_some]
      exact ⟨last, rfl, shows'⟩

end RemoteCall.Client
