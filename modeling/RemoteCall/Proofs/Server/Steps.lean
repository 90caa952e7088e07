import RemoteCall.Proofs.ChainSteps
import RemoteCall.Proofs.Server.Emission
import RemoteCall.Proofs.Server.Incidents
import RemoteCall.Proofs.Server.Wire
import RemoteCall.Server.Steps

/-!
# Server calls step by step, and as a whole

Left alone, the steps of an event do what the event does (`Event.alone_steps`). The exception is a
rejection while its own thread emits: there the routine waits for ever, and the call as a whole
only notes that this was asked for (`Call.reentered`), so runs in which that happens are left out.
-/

namespace RemoteCall.Server

variable {σ P Req Resp : Type}

/-- What a use of the context is for the output. -/
def Use.act? (Req Resp : Type) : Use σ → Option (Act Req Resp)
  | stageHeader name value => some (.header name value)
  | stageTrailer name value => some (.trailer name value)
  | _ => none

/-- Somebody uses the context. -/
def Floor.use (how : Use σ) (floor : Floor σ P Req Resp) : Floor σ P Req Resp :=
  { floor with
    call := { floor.call with context := how.apply floor.call.context }
    acts := floor.acts ++ (how.act? Req Resp).toList }

/-- What an event comes back with. -/
inductive Yield where
  | nothing
  /-- A write: the receipts to wait for, or a refusal. -/
  | written (result : Result (List Receipt))
  /-- A release: whether the client is lost with it. -/
  | released (lost : Bool)

/-- What an event comes back with when nothing happens in between. -/
def Event.yield (method : Method σ P Req Resp) :
    Event σ P Req Resp → Call σ Req → Yield
  | release, call => .released !call.isCancelled
  | write transport message compression, call =>
    .written (call.write method transport message compression).1
  | _, _ => .nothing

/-- An event, step by step. -/
def Event.steps (method : Method σ P Req Resp) :
    Event σ P Req Resp → Steps.On σ P Req Resp Yield
  | receive part => do
    let _ ← Steps.receive method part
    return .nothing
  | error e => do
    let _ ← Steps.receiveError method e
    return .nothing
  | release => do
    let lost ← Steps.release
    return .released lost
  | write transport message compression => do
    let result ← Steps.writeMessage method transport message compression
    return .written result
  | finish result => do
    let _ ← Steps.conclude method result
    return .nothing
  | use how => do
    .act (Floor.use how)
    return .nothing
  | poll => do
    .act Floor.poll
    return .nothing
  | abandon => do
    Steps.onCall fun call => { call with requests := call.requests.abandon }
    return .nothing

/-- The floor shows the call of a pass, and what was asked in it behind what was asked in the past;
and the gate is held, or not. -/
structure Floor.Shows (past : List (ServerOp P Req)) (gate : Bool) (floor : Floor σ P Req Resp)
    (p : Pass σ P Req) : Prop where
  call : floor.call = p.call
  ops : floor.ops = past ++ p.ops
  emitting : floor.emitting = gate

/-- No emission was asked for from inside an emission. -/
def Pass.Sound (p : Pass σ P Req) : Prop := p.call.reentered = false

/-- Before the end is sent, the gate is closed behind it. -/
def Pass.closing (part : ResponsePart Resp) (p : Pass σ P Req) : Pass σ P Req :=
  if part.isFinish then p.mapCall Call.close else p

/-- What an emission does behind the gate. -/
def Pass.emitOpen (method : Method σ P Req Resp) (part : ResponsePart Resp) (p : Pass σ P Req) :
    Pass σ P Req :=
  let opened := openResponse method part p
  send method opened.1 (opened.2.closing opened.1)

theorem Pass.emit_eq (method : Method σ P Req Resp) (part : ResponsePart Resp) (p : Pass σ P Req) :
    emit method part p =
      if p.call.ended || p.call.suppressed then (.error .streamAlreadyClosed, p)
      else (.ok (), p.emitOpen method part) := rfl

namespace Steps

variable {past : List (ServerOp P Req)} {gate : Bool} {floor : Floor σ P Req Resp}
  {p : Pass σ P Req}

@[simp] theorem alone?_atCall {α : Type} (f : Call σ Req → α × Call σ Req)
    (floor : Floor σ P Req Resp) :
    (atCall f).alone? floor = some ((f floor.call).1, { floor with call := (f floor.call).2 }) :=
  rfl

@[simp] theorem alone?_onCall (f : Call σ Req → Call σ Req) (floor : Floor σ P Req Resp) :
    (onCall f).alone? floor = some ((), floor.mapCall f) := rfl

@[simp] theorem alone?_advance (method : Method σ P Req Resp) (part : RequestPart Req)
    (floor : Floor σ P Req Resp) :
    (advance method part).alone? floor =
      some ((Pass.advance method.shape.streamsRequests floor.call part).2,
        { floor with call := (Pass.advance method.shape.streamsRequests floor.call part).1 }.log
          (.arrives part)) := rfl

@[simp] theorem alone?_takeHeaders (floor : Floor σ P Req Resp) :
    takeHeaders.alone? floor = some (floor.call.context.responseHeaders,
      { floor with call := floor.call.takeHeaders.2 }.log
        (.opens floor.call.context.responseHeaders)) := rfl

@[simp] theorem alone?_takeTrailers (status : Status) (floor : Floor σ P Req Resp) :
    (takeTrailers status).alone? floor = some (floor.call.context.trailers,
      { floor with call := floor.call.takeTrailers.2 }.log
        (.takes status floor.call.context.trailers)) := rfl

@[simp] theorem alone?_knock (part : ResponsePart Resp) (floor : Floor σ P Req Resp) :
    (knock part).alone? floor =
      some (floor.isShut, if floor.isShut then floor else floor.log (.passes part)) := rfl

theorem alone?_closeInbound (e : CallError) (floor : Floor σ P Req Resp) :
    (closeInbound e).alone? floor = some ((), floor.mapCall (·.closeInbound e)) := by
  obtain ⟨call, ops, answers, acts, emitting⟩ := floor
  cases inbound : call.inbound <;>
    simp [closeInbound, Call.shutInbound, Inbound.feeds, Call.failRequests, Floor.mapCall,
      Call.closeInbound, inbound]

theorem alone?_loseClient (e : CallError) (floor : Floor σ P Req Resp) :
    (loseClient e).alone? floor = some ([], floor.mapCall (·.loseClient e)) := by
  simp only [loseClient, Routine.alone?_bind, alone?_closeInbound, alone?_onCall, Option.bind_some]
  rfl

variable (method : Method σ P Req Resp)

theorem renders_write (part : ResponsePart Resp) :
    Renders (Floor.Shows past gate) Pass.receipts Pass.Sound (write method part)
      fun p => Pass.write method p part := by
  unfold write Pass.write
  cases part.tryMap method.responses.encode with
  | ok encoded =>
    refine ⟨fun p => id, ?_⟩
    rintro ⟨call, ops, answers, acts, emitting⟩ p ⟨rfl, rfl, rfl⟩ -
    exact ⟨_, _, rfl, ⟨rfl, List.append_assoc .., rfl⟩, rfl⟩
  | error e =>
    exact ⟨fun p => id, fun floor p shows _ => ⟨_, floor, rfl, ⟨shows.1, shows.2, shows.3⟩, rfl⟩⟩

theorem renders_writes (parts : List (ResponsePart Resp)) :
    Renders (Floor.Shows past gate) Pass.receipts Pass.Sound (Routine.forEach (write method) parts)
      fun p => parts.foldl (Pass.write method) p := by
  induction parts with
  | nil => exact renders_nothing
  | cons part rest ih => exact (renders_write method part).andThen ih

theorem renders_toTransport (part : ResponsePart Resp) :
    Renders (Floor.Shows past gate) Pass.receipts Pass.Sound (toTransport method part)
      (Pass.toTransport method part) where
  before p isSound := by
    obtain ⟨sent, cancelled, same⟩ := Pass.call_toTransport method part p
    unfold Pass.Sound at isSound ⊢
    rwa [same] at isSound
  runs := by
    rintro ⟨call, ops, answers, acts, emitting⟩ p ⟨rfl, rfl, rfl⟩ isSound
    let admitted := (p.call.order.allow part).1
    let q : Pass σ P Req :=
      { p with call := { p.call with order := (p.call.order.allow part).2 } }
    have sound : (admitted.foldl (Pass.write method) q).Sound := by
      unfold Pass.toTransport at isSound
      dsimp only at isSound
      split at isSound <;> exact isSound
    obtain ⟨more, floor', ends, shows, noted⟩ := (renders_writes method admitted).runs
      ⟨(Call.allow part p.call).2, past ++ p.ops, answers, acts, emitting⟩ q ⟨rfl, rfl, rfl⟩ sound
    have ends' : (Routine.forEach (write method) (Call.allow part p.call).1).alone?
        ⟨(Call.allow part p.call).2, past ++ p.ops, answers, acts, emitting⟩ =
      some (more, floor') := ends
    simp only [toTransport, Routine.alone?_bind, alone?_atCall, Option.bind_some, ends']
    unfold Pass.toTransport
    by_cases finish : admitted.any ResponsePart.isFinish = true
    · have admits : (Call.allow part p.call).1.any ResponsePart.isFinish = true := finish
      have allows : (p.call.order.allow part).1.any ResponsePart.isFinish = true := finish
      simp only [admits, allows, if_true]
      refine ⟨more, _, rfl, ⟨?_, shows.ops, shows.emitting⟩, noted⟩
      exact congrArg Call.cancelScope shows.call
    · have admits : ¬(Call.allow part p.call).1.any ResponsePart.isFinish = true := finish
      have allows : ¬(p.call.order.allow part).1.any ResponsePart.isFinish = true := finish
      simp only [if_neg admits, if_neg allows]
      exact ⟨more, floor', rfl, shows, noted⟩

theorem reentered_advance (streams : Bool) (call : Call σ Req) (part : RequestPart Req) :
    (Pass.advance streams call part).1.reentered = call.reentered := by
  obtain ⟨inbound, requests, headers, same⟩ := Pass.call_advance streams call part
  rw [same]

theorem renders_onRequestWhileEmitting (part : RequestPart Req) :
    Renders (Floor.Shows past gate) Pass.receipts Pass.Sound (onRequestWhileEmitting method part)
      (Pass.onRequestWhileEmitting method part) where
  before p isSound := by
    have same := reentered_advance method.shape.streamsRequests p.call part
    unfold Pass.Sound Pass.onRequestWhileEmitting at isSound
    unfold Pass.Sound
    cases advanced : Pass.advance method.shape.streamsRequests p.call part with
    | mk call reaction =>
      rw [advanced] at same isSound
      cases reaction with
      | ignore => exact same.symm.trans isSound
      | start request => exact same.symm.trans isSound
      | reject reason => cases isSound
  runs := by
    rintro ⟨call, ops, answers, acts, emitting⟩ p ⟨rfl, rfl, rfl⟩ isSound
    unfold Pass.Sound Pass.onRequestWhileEmitting at isSound
    unfold Pass.onRequestWhileEmitting
    simp only [onRequestWhileEmitting, Routine.alone?_bind, alone?_advance, Option.bind_some]
    cases advanced : Pass.advance method.shape.streamsRequests p.call part with
    | mk call reaction =>
      rw [advanced] at isSound
      cases reaction with
      | ignore => exact ⟨[], _, rfl, ⟨rfl, rfl, rfl⟩, (List.append_nil _).symm⟩
      | start request =>
        exact ⟨[], _, rfl, ⟨rfl, List.append_assoc .., rfl⟩, (List.append_nil _).symm⟩
      | reject reason => cases isSound

theorem reentered_loseClient (call : Call σ Req) (e : CallError) :
    (call.loseClient e).reentered = call.reentered := by
  obtain ⟨requests, same⟩ := Pass.call_closeInbound call e
  unfold Call.loseClient
  rw [same]
  rfl

theorem renders_loseClient (e : CallError) :
    Renders (Floor.Shows past gate) Pass.receipts Pass.Sound
      (loseClient e : On σ P Req Resp (List Receipt)) (Pass.mapCall (·.loseClient e)) where
  before p isSound := (reentered_loseClient p.call e).symm.trans isSound
  runs := by
    rintro ⟨call, ops, answers, acts, emitting⟩ p ⟨rfl, rfl, rfl⟩ -
    rw [alone?_loseClient]
    exact ⟨[], _, rfl, ⟨rfl, rfl, rfl⟩, (List.append_nil _).symm⟩

/-- What happens at the edges of a chain while a part is emitted. -/
theorem renders_outboundEdges : (outboundEdges method).Renders (Pass.outboundEdges method)
    (Floor.Shows past gate) Pass.receipts Pass.Sound where
  transport := renders_toTransport method
  arrive
    | .part part => renders_onRequestWhileEmitting method part
    | .failure e => renders_loseClient e
  shared _ _ shows :=
    congrArg (fun call : Call σ Req => call.context.shared) shows.call.symm
  note update _ _ shows :=
    ⟨congrArg (fun call : Call σ Req => { call with
      context := { call.context with shared := update call.context.shared } }) shows.call,
      shows.ops, shows.emitting⟩
  notes_note _ _ := rfl
  sound_note _ _ := id

theorem renders_send (part : ResponsePart Resp) :
    Renders (Floor.Shows past gate) Pass.receipts Pass.Sound (send method part)
      (Pass.send method part) where
  before p :=
    have through : Renders (Floor.Shows past gate) Pass.receipts Pass.Sound _ _ :=
      Chain.renders_send (renders_outboundEdges method) p.call.context.path method.chain part
    through.before p
  runs floor p shows isSound := by
    simp only [send, Routine.alone?_bind, Routine.alone?_read, Option.bind_some, shows.call]
    exact (Chain.renders_send (renders_outboundEdges method) p.call.context.path method.chain
      part).runs floor p shows isSound

theorem sound_send (part : ResponsePart Resp) (isSound : (Pass.send method part p).Sound) :
    p.Sound :=
  have sends : Renders (Floor.Shows [] true) Pass.receipts Pass.Sound _ _ :=
    renders_send method part
  sends.before p isSound

theorem sound_openResponse (part : ResponsePart Resp)
    (isSound : (Pass.openResponse method part p).2.Sound) : p.Sound := by
  have opened : (Pass.send method (.headers p.call.context.responseHeaders) p.opened).Sound →
      p.Sound := sound_send (p := p.opened) method _
  unfold Pass.openResponse at isSound
  split at isSound
  · exact isSound
  · cases part with
    | headers m => exact isSound
    | message a flags => exact opened isSound
    | finish status trailers => exact opened isSound

theorem runs_openResponse (part : ResponsePart Resp) (shows : floor.Shows past gate p)
    (isSound : (Pass.openResponse method part p).2.Sound) :
    ∃ more floor', (openResponse method part).alone? floor =
        some (((Pass.openResponse method part p).1, more), floor') ∧
      floor'.Shows past gate (Pass.openResponse method part p).2 ∧
      (Pass.openResponse method part p).2.receipts = p.receipts ++ more := by
  obtain ⟨call, ops, answers, acts, emitting⟩ := floor
  obtain ⟨rfl, rfl, rfl⟩ := shows
  have opens : ∀ call : Call σ Req, (Call.openHeaders call).1 = call.headersSent := fun _ => rfl
  unfold Pass.openResponse at isSound ⊢
  simp only [openResponse, Routine.alone?_bind, alone?_atCall, Option.bind_some, opens]
  cases sent : p.call.headersSent with
  | true =>
    have same : (Call.openHeaders p.call).2 = p.call := by
      unfold Call.openHeaders
      rw [← sent]
    simp only [if_true, same]
    exact ⟨[], _, rfl, ⟨rfl, rfl, rfl⟩, (List.append_nil _).symm⟩
  | false =>
    have ahead : ∀ other : ResponsePart Resp,
        (Pass.send method (.headers p.call.context.responseHeaders) p.opened).Sound →
        ∃ more floor', ((send method (.headers p.call.context.responseHeaders)).alone?
            ⟨p.opened.call, past ++ p.ops, answers,
              acts ++ [.opens p.call.context.responseHeaders], emitting⟩).bind
              (fun out => (pure (other, out.1) : On σ P Req Resp _).alone? out.2) =
            some ((other, more), floor') ∧
          floor'.Shows past emitting
            (Pass.send method (.headers p.call.context.responseHeaders) p.opened) ∧
          (Pass.send method (.headers p.call.context.responseHeaders) p.opened).receipts =
            p.receipts ++ more := by
      intro other sound
      obtain ⟨more, floor', ends, shows, noted⟩ := (renders_send method _).runs
        ⟨p.opened.call, past ++ p.ops, answers,
          acts ++ [.opens p.call.context.responseHeaders], emitting⟩ p.opened ⟨rfl, rfl, rfl⟩ sound
      exact ⟨more, floor', by rw [ends]; rfl, shows, noted⟩
    rw [sent] at isSound
    cases part with
    | headers m => exact ⟨[], _, rfl, ⟨rfl, rfl, rfl⟩, (List.append_nil _).symm⟩
    | message a flags =>
      simp only [Bool.false_eq_true, if_false, Routine.alone?_bind, alone?_takeHeaders,
        Option.bind_some]
      exact ahead _ isSound
    | finish status trailers =>
      simp only [Bool.false_eq_true, if_false, Routine.alone?_bind, alone?_takeHeaders,
        Option.bind_some]
      exact ahead _ isSound

theorem sound_emitOpen (part : ResponsePart Resp) (isSound : (p.emitOpen method part).Sound) :
    (Pass.openResponse method part p).2.Sound := by
  have between := sound_send method _ isSound
  unfold Pass.closing at between
  cases finish : (Pass.openResponse method part p).1.isFinish with
  | true => rwa [finish, if_pos rfl] at between
  | false => rwa [finish, if_neg Bool.false_ne_true] at between

theorem runs_emitBehindGate (part : ResponsePart Resp) (shows : floor.Shows past gate p)
    (isSound : (p.emitOpen method part).Sound) :
    ∃ more floor', (emitBehindGate method part).alone? floor = some (more, floor') ∧
      floor'.Shows past gate (p.emitOpen method part) ∧
      (p.emitOpen method part).receipts = p.receipts ++ more := by
  obtain ⟨ahead, mid, opens, shows, noted⟩ :=
    runs_openResponse method part shows (sound_emitOpen method part isSound)
  simp only [emitBehindGate, Routine.alone?_bind, opens, Option.bind_some]
  unfold Pass.emitOpen at isSound ⊢
  dsimp only at isSound ⊢
  generalize Pass.openResponse method part p = opened at *
  obtain ⟨first, q⟩ := opened
  obtain ⟨before, closes, shows, same⟩ : ∃ before, (closeGate first).alone? mid =
      some ((), before) ∧ before.Shows past gate (q.closing first) ∧
        (q.closing first).receipts = q.receipts := by
    unfold closeGate Pass.closing
    cases first.isFinish with
    | true => exact ⟨_, rfl, ⟨congrArg Call.close shows.call, shows.ops, shows.emitting⟩, rfl⟩
    | false => exact ⟨_, rfl, shows, rfl⟩
  obtain ⟨more, last, ends, shows, grown⟩ := (renders_send method first).runs _ _ shows isSound
  refine ⟨ahead ++ more, last, ?_, shows, ?_⟩
  · simp only [closes, ends, Option.bind_some, Routine.alone?_pure]
  · rw [grown, same, noted, List.append_assoc]

theorem sound_emit (part : ResponsePart Resp) (isSound : (Pass.emit method part p).2.Sound) :
    p.Sound := by
  rw [Pass.emit_eq] at isSound
  split at isSound
  · exact isSound
  · exact sound_openResponse method part (sound_emitOpen method part isSound)

/-- An emission that finds the gate free. -/
theorem runs_emit (part : ResponsePart Resp) (shows : floor.Shows past false p)
    (isSound : (Pass.emit method part p).2.Sound) :
    ∃ more floor', (emit method part).alone? floor =
        some ((Pass.emit method part p).1.map fun _ => more, floor') ∧
      floor'.Shows past false (Pass.emit method part p).2 ∧
      (Pass.emit method part p).2.receipts = p.receipts ++ more := by
  have free : (!floor.emitting) = true := by rw [shows.emitting]; rfl
  have shut : (floor.setEmitting true).isShut = (p.call.ended || p.call.suppressed) := by
    rw [← shows.call]
    rfl
  rw [Pass.emit_eq] at isSound ⊢
  simp only [emit, Routine.alone?_bind, Routine.alone?_await, free, if_true, Option.bind_some,
    alone?_knock, shut]
  split at isSound
  · next closed =>
    simp only [closed, if_true, Routine.alone?_bind, Routine.alone?_act, Option.bind_some,
      Routine.alone?_pure]
    exact ⟨[], _, rfl, ⟨shows.call, shows.ops, rfl⟩, (List.append_nil _).symm⟩
  · next isOpen =>
    simp only [isOpen, Bool.false_eq_true, if_false, Routine.alone?_bind, Routine.alone?_act]
    have passes : ((floor.setEmitting true).log (.passes part)).Shows past true p :=
      ⟨shows.call, shows.ops, rfl⟩
    obtain ⟨more, last, ends, shows, noted⟩ := runs_emitBehindGate method part passes isSound
    rw [ends]
    exact ⟨more, _, rfl, ⟨shows.call, shows.ops, rfl⟩, noted⟩

theorem sound_finish (status : Status) (isSound : (Pass.finish method status p).Sound) :
    p.Sound :=
  sound_emit (p := p.mapCall fun call => call.takeTrailers.2) method _ isSound

theorem runs_finish (status : Status) (shows : floor.Shows past false p)
    (isSound : (Pass.finish method status p).Sound) :
    ∃ floor', (finish method status).alone? floor = some ([], floor') ∧
      floor'.Shows past false (Pass.finish method status p) := by
  obtain ⟨call, ops, answers, acts, emitting⟩ := floor
  obtain ⟨rfl, rfl, rfl⟩ := shows
  have takes : Floor.Shows past false ⟨p.call.takeTrailers.2, past ++ p.ops, answers,
      acts ++ [.takes status p.call.context.trailers], false⟩
      (p.mapCall fun call => call.takeTrailers.2) := ⟨rfl, rfl, rfl⟩
  obtain ⟨more, last, ends, shows, -⟩ :=
    runs_emit method (.finish status p.call.context.trailers) takes isSound
  refine ⟨last, ?_, shows⟩
  simp only [finish, Routine.alone?_bind, alone?_takeTrailers, Option.bind_some]
  show ((emit method _).alone? ⟨_, _, _, _, _⟩).bind _ = _
  rw [ends]
  rfl

theorem renders_onRequest (part : RequestPart Req) :
    Renders (Floor.Shows past false) Pass.receipts Pass.Sound (onRequest method part)
      (Pass.onRequest method part) where
  before p isSound := by
    have same := reentered_advance method.shape.streamsRequests p.call part
    unfold Pass.Sound Pass.onRequest at isSound
    unfold Pass.Sound
    cases advanced : Pass.advance method.shape.streamsRequests p.call part with
    | mk call reaction =>
      rw [advanced] at same isSound
      cases reaction with
      | ignore => exact same.symm.trans isSound
      | start request => exact same.symm.trans isSound
      | reject reason =>
        exact same.symm.trans (sound_finish (p := ⟨call, p.ops, []⟩) method _ isSound)
  runs := by
    rintro ⟨call, ops, answers, acts, emitting⟩ p ⟨rfl, rfl, rfl⟩ isSound
    unfold Pass.Sound Pass.onRequest at isSound
    unfold Pass.onRequest
    simp only [onRequest, Routine.alone?_bind, alone?_advance, Option.bind_some]
    cases advanced : Pass.advance method.shape.streamsRequests p.call part with
    | mk call reaction =>
      rw [advanced] at isSound
      cases reaction with
      | ignore => exact ⟨[], _, rfl, ⟨rfl, rfl, rfl⟩, (List.append_nil _).symm⟩
      | start request =>
        exact ⟨[], _, rfl, ⟨rfl, List.append_assoc .., rfl⟩, (List.append_nil _).symm⟩
      | reject reason =>
        have moves : Floor.Shows past false ⟨call, past ++ p.ops, answers,
          acts ++ [.arrives part], false⟩ ⟨call, p.ops, []⟩ := ⟨rfl, rfl, rfl⟩
        obtain ⟨last, ends, shows⟩ := runs_finish method reason.status moves isSound
        exact ⟨[], last, ends, ⟨shows.call, shows.ops, shows.emitting⟩, (List.append_nil _).symm⟩

/-- What happens at the edges of a chain while a part is received. -/
theorem renders_inboundEdges : (inboundEdges method).Renders (Pass.inboundEdges method)
    (Floor.Shows past false) Pass.receipts Pass.Sound :=
  { renders_outboundEdges method with
    arrive := fun
      | .part part => renders_onRequest method part
      | .failure e => renders_loseClient e }

theorem renders_arrive (arrival : Arrival (RequestPart Req)) :
    Renders (Floor.Shows past false) Pass.receipts Pass.Sound (arrive method arrival)
      fun p => method.chain.arrive (Pass.inboundEdges method) p.call.context.path arrival p where
  before p :=
    have through : Renders (Floor.Shows past false) Pass.receipts Pass.Sound _ _ :=
      Chain.renders_arrive (renders_inboundEdges method) p.call.context.path method.chain arrival
    through.before p
  runs floor p shows isSound := by
    simp only [arrive, Routine.alone?_bind, Routine.alone?_read, Option.bind_some, shows.call]
    exact (Chain.renders_arrive (renders_inboundEdges method) p.call.context.path method.chain
      arrival).runs floor p shows isSound

end Steps

/-- Left alone, the steps of an event do what the event does, and come back with the same. -/
theorem Event.alone_steps (method : Method σ P Req Resp) (event : Event σ P Req Resp)
    (floor : Floor σ P Req Resp) (free : floor.emitting = false)
    (isSound : (event.pass method floor.call).Sound) :
    ∃ floor', (event.steps method).alone? floor = some (event.yield method floor.call, floor') ∧
      floor'.Shows floor.ops false (event.pass method floor.call) := by
  have begins : floor.Shows floor.ops false (.start floor.call) :=
    ⟨rfl, (List.append_nil _).symm, free⟩
  cases event with
  | receive part =>
    simp only [steps, Steps.receive, pass, Call.receive] at isSound ⊢
    cases decodes : part.tryMap method.requests.decode with
    | ok decoded =>
      rw [decodes] at isSound
      obtain ⟨more, floor', ends, shows, -⟩ :=
        (Steps.renders_arrive method (.part decoded)).runs _ _ begins isSound
      simp only [Routine.alone?_bind, ends]
      exact ⟨_, rfl, shows⟩
    | error e =>
      rw [decodes] at isSound
      have closes : (floor.mapCall (·.closeInbound e)).Shows floor.ops false
        (.start (floor.call.closeInbound e)) := ⟨rfl, begins.ops, free⟩
      obtain ⟨floor', ends, shows⟩ := Steps.runs_finish method e.toStatus closes isSound
      simp only [Routine.alone?_bind, Steps.alone?_closeInbound, Option.bind_some, ends]
      exact ⟨_, rfl, shows⟩
  | error e =>
    have failed : Renders (Floor.Shows floor.ops false) Pass.receipts Pass.Sound _ _ :=
      Steps.renders_arrive method (.failure e)
    have sound := (Steps.reentered_loseClient _ e).symm.trans isSound
    obtain ⟨more, floor', ends, shows, -⟩ := failed.runs _ _ begins sound
    simp only [steps, Steps.receiveError, Routine.alone?_bind, ends, Option.bind_some,
      Steps.alone?_loseClient]
    exact ⟨_, rfl, congrArg (·.loseClient e) shows.call, shows.ops, shows.emitting⟩
  | release =>
    simp only [steps, Steps.release, pass, yield, Call.release, Routine.alone?_bind,
      Routine.alone?_read, Option.bind_some]
    cases gone : floor.call.isCancelled with
    | true => exact ⟨_, rfl, begins⟩
    | false =>
      simp only [Bool.false_eq_true, if_false, Routine.alone?_bind, Steps.alone?_loseClient]
      exact ⟨_, rfl, rfl, begins.ops, free⟩
  | write transport message compression =>
    simp only [steps, Steps.writeMessage, pass, yield, Call.write_eq, Routine.alone?_bind,
      Routine.alone?_read, Option.bind_some] at isSound ⊢
    obtain ⟨more, floor', ends, shows, noted⟩ := Steps.runs_emit method _ begins isSound
    refine ⟨floor', ?_, shows⟩
    show ((Steps.emit method (.message message
      (floor.call.context.flags transport compression))).alone? floor).bind _ = _
    rw [ends, noted]
    rfl
  | finish result =>
    obtain ⟨floor', ends, shows⟩ : ∃ floor', (Steps.conclude method result).alone? floor =
        some ([], floor') ∧ floor'.Shows floor.ops false (floor.call.finish method result) := by
      cases result with
      | ok u => exact Steps.runs_finish method _ begins isSound
      | error e => exact Steps.runs_finish method _ begins isSound
    simp only [steps, Routine.alone?_bind, ends]
    exact ⟨_, rfl, shows⟩
  | use how => exact ⟨_, rfl, rfl, begins.ops, free⟩
  | poll => exact ⟨_, rfl, rfl, begins.ops, free⟩
  | abandon => exact ⟨_, rfl, rfl, begins.ops, free⟩

end RemoteCall.Server
