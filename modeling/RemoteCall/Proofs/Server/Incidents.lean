import RemoteCall.Proofs.Chain.Trace
import RemoteCall.Proofs.Server.Event

/-!
# What happens to a served call, in order

Within one event a lot may happen to a call: hooks multiply, drop and make up parts, and a
rejection or a write sends parts through the chain, whose hooks may pass other parts inward again.
The `Incident`s of an event are what all this amounts to for the two ends of the call: what
arrives at the request side, and what enters the chain toward the transport. A `Ledger` is what
matters of a call for its request side. Apart from polls of the request stream, an event does to
it what its incidents do (`Event.ledger_pass`), so what is true of every list of incidents is true
of every chain.
-/

namespace RemoteCall.Server

variable {σ P Req Resp : Type}

/-- Something that happens to a call in the midst of its events. -/
inductive Incident (Req Resp : Type) where
  /-- A request part leaves the chain, or a failure closes the request side. -/
  | arrival (arrival : Arrival (RequestPart Req))
  /-- A response part enters the chain. -/
  | entry (part : ResponsePart Resp)

namespace Incident

def arrival? : Incident Req Resp → Option (Arrival (RequestPart Req))
  | arrival a => some a
  | entry _ => none

def entry? : Incident Req Resp → Option (ResponsePart Resp)
  | entry part => some part
  | arrival _ => none

end Incident

/-- What arrives at the request side, in order. -/
def arrivals (incidents : List (Incident Req Resp)) : List (Arrival (RequestPart Req)) :=
  incidents.filterMap Incident.arrival?

/-- The ends that enter the chain. -/
def ends (incidents : List (Incident Req Resp)) : List (ResponsePart Resp) :=
  (incidents.filterMap Incident.entry?).filter ResponsePart.isFinish

theorem arrivals_append (first second : List (Incident Req Resp)) :
    arrivals (first ++ second) = arrivals first ++ arrivals second :=
  List.filterMap_append

theorem arrivals_cons (incident : Incident Req Resp) (rest : List (Incident Req Resp)) :
    arrivals (incident :: rest) = incident.arrival?.toList ++ arrivals rest := by
  cases incident <;> rfl

theorem ends_append (first second : List (Incident Req Resp)) :
    ends (first ++ second) = ends first ++ ends second := by
  unfold ends
  rw [List.filterMap_append, List.filter_append]

@[simp] theorem ends_map_arrival (all : List (Arrival (RequestPart Req))) :
    ends (all.map .arrival : List (Incident Req Resp)) = [] := by
  induction all with
  | nil => rfl
  | cons first rest ih => exact ih

/-- The request for which the handler is started, if this starts it. -/
def ServerOp.request? : ServerOp P Req → Option (Option Req)
  | start request => some request
  | send _ => none

def Pass.Reaction.request? : Pass.Reaction Req → Option (Option Req)
  | start request => some request
  | _ => none

/-- The starts of the handler in a pass. -/
def Pass.starts (p : Pass σ P Req) : List (Option Req) := p.ops.filterMap ServerOp.request?

/-- What matters of a call for its request side, with what it has done so far. -/
structure Ledger (Req : Type) where
  inbound : Inbound Req := .idle
  headers : Metadata := .empty
  requests : MessageStream Req := .fresh
  /-- The end has entered the chain. -/
  ended : Bool := false
  /-- What the handler was started with, each time it was. -/
  starts : List (Option Req) := []
  /-- What the polls of the request stream gave. -/
  answers : List (Poll (Result (Option Req))) := []

namespace Ledger

/-- A call with this request side. -/
def call (l : Ledger Req) : Call Unit Req where
  context := { path := "", headers := l.headers, shared := () }
  inbound := l.inbound
  requests := l.requests

/-- Takes over the request side of a call. -/
def settle (l : Ledger Req) (call : Call Unit Req) : Ledger Req :=
  { l with inbound := call.inbound, headers := call.context.headers, requests := call.requests }

/-- What an incident does. -/
def step (streams : Bool) (l : Ledger Req) : Incident Req Resp → Ledger Req
  | .arrival (.part part) =>
    let (call, reaction) := Pass.advance streams l.call part
    { l.settle call with starts := l.starts ++ reaction.request?.toList }
  | .arrival (.failure e) => l.settle (l.call.closeInbound e)
  | .entry part => { l with ended := l.ended || part.isFinish }

def after (streams : Bool) (incidents : List (Incident Req Resp)) (l : Ledger Req) :
    Ledger Req :=
  incidents.foldl (step streams) l

@[simp] theorem after_nil (streams : Bool) (l : Ledger Req) :
    l.after streams ([] : List (Incident Req Resp)) = l := rfl

theorem after_append (streams : Bool) (first second : List (Incident Req Resp)) (l : Ledger Req) :
    l.after streams (first ++ second) = (l.after streams first).after streams second := by
  unfold after
  rw [List.foldl_append]

end Ledger

/-- The ledger of a call that has started its handler and answered polls before. -/
def Call.ledger (starts : List (Option Req)) (answers : List (Poll (Result (Option Req))))
    (call : Call σ Req) : Ledger Req where
  inbound := call.inbound
  headers := call.context.headers
  requests := call.requests
  ended := call.ended
  starts := starts
  answers := answers

namespace Pass

variable (method : Method σ P Req Resp) {starts : List (Option Req)}
  {answers : List (Poll (Result (Option Req)))}

def ledger (starts : List (Option Req)) (answers : List (Poll (Result (Option Req))))
    (p : Pass σ P Req) : Ledger Req :=
  p.call.ledger (starts ++ p.starts) answers

/-! ### Single steps -/

/-- A part is taken by what matters of the call. -/
theorem ledger_advance (streams : Bool) (call : Call σ Req) (part : RequestPart Req) :
    (advance streams call part).1.ledger (starts ++ (advance streams call part).2.request?.toList)
        answers =
      (call.ledger starts answers).step streams
        (.arrival (.part part) : Incident Req Resp) := by
  obtain ⟨context, inbound, requests, headersSent, ended, suppressed, order, sent, again⟩ := call
  cases inbound with
  | idle => cases part <;> cases streams <;> rfl
  | awaiting => cases part <;> rfl
  | holding message => cases part <;> rfl
  | streaming => cases part <;> rfl
  | running => cases part <;> rfl
  | closed => cases part <;> rfl

theorem ledger_closeInbound (Resp : Type) (streams : Bool) (call : Call σ Req) (e : CallError) :
    (call.closeInbound e).ledger starts answers =
      (call.ledger starts answers).step streams
        (.arrival (.failure e) : Incident Req Resp) := by
  obtain ⟨context, inbound, requests, headersSent, ended, suppressed, order, sent, again⟩ := call
  cases inbound <;> rfl

theorem starts_append (p : Pass σ P Req) (ops : List (ServerOp P Req)) :
    { p with ops := p.ops ++ ops : Pass σ P Req }.starts =
      p.starts ++ ops.filterMap ServerOp.request? :=
  List.filterMap_append

theorem ledger_write (p : Pass σ P Req) (part : ResponsePart Resp) :
    (write method p part).ledger starts answers = p.ledger starts answers := by
  unfold write
  cases part.tryMap method.responses.encode with
  | error e => rfl
  | ok encoded =>
    have same : (p.ops ++ [ServerOp.send encoded]).filterMap ServerOp.request? = p.starts :=
      (starts_append p [.send encoded]).trans (List.append_nil _)
    show Call.ledger
      (starts ++ (p.ops ++ [ServerOp.send encoded]).filterMap ServerOp.request?) answers _ = _
    rw [same]
    rfl

theorem ledger_toTransport (part : ResponsePart Resp) (p : Pass σ P Req) :
    (toTransport method part p).ledger starts answers = p.ledger starts answers := by
  have written : ∀ (admitted : List (ResponsePart Resp)) (p : Pass σ P Req),
      (admitted.foldl (write method) p).ledger starts answers = p.ledger starts answers := by
    intro admitted
    induction admitted with
    | nil => exact fun p => rfl
    | cons first rest ih => exact fun p => (ih _).trans (ledger_write method p first)
  have all := written (p.call.order.allow part).1
    { p with call := { p.call with order := (p.call.order.allow part).2 } }
  unfold toTransport
  by_cases finish : (p.call.order.allow part).1.any ResponsePart.isFinish = true
  · simp only [finish, if_true]
    exact all
  · simp only [finish, Bool.false_eq_true, if_false]
    exact all

/-- A part that arrives starts the handler, or does not; what else comes of it does not matter
here. -/
theorem ledger_take (part : RequestPart Req) (p p' : Pass σ P Req)
    (call : p'.call.ledger starts answers =
      (advance method.shape.streamsRequests p.call part).1.ledger starts answers)
    (ops : p'.starts = p.starts ++
      (advance method.shape.streamsRequests p.call part).2.request?.toList) :
    p'.ledger starts answers =
      (p.ledger starts answers).step method.shape.streamsRequests
        (.arrival (.part part) : Incident Req Resp) := by
  unfold ledger
  rw [← ledger_advance, ops, List.append_assoc]
  unfold Call.ledger at call ⊢
  injection call with inbound headers requests ended
  rw [inbound, headers, requests, ended]

theorem ledger_onRequestWhileEmitting (part : RequestPart Req) (p : Pass σ P Req) :
    (onRequestWhileEmitting method part p).ledger starts answers =
      (p.ledger starts answers).step method.shape.streamsRequests
        (.arrival (.part part) : Incident Req Resp) := by
  refine ledger_take method part p _ ?_ ?_
  · unfold onRequestWhileEmitting
    cases advance method.shape.streamsRequests p.call part with
    | mk call reaction => cases reaction <;> rfl
  · unfold onRequestWhileEmitting
    cases advance method.shape.streamsRequests p.call part with
    | mk call reaction =>
      cases reaction with
      | ignore => exact (List.append_nil _).symm
      | start request => exact starts_append p [.start request]
      | reject reason => exact (List.append_nil _).symm

theorem ledger_loseClient (e : CallError) (p : Pass σ P Req) :
    (p.mapCall (·.loseClient e)).ledger starts answers =
      (p.ledger starts answers).step method.shape.streamsRequests
        (.arrival (.failure e) : Incident Req Resp) :=
  ledger_closeInbound Resp method.shape.streamsRequests p.call e

/-! ### Emission -/

/-- What happens while a part runs through the chain toward the transport. -/
def sendIncidents (part : ResponsePart Resp) (p : Pass σ P Req) : List (Incident Req Resp) :=
  ((method.chain.sendTrace (outboundEdges method) p.call.context.path part p).filterMap
    EdgeAction.arrival?).map .arrival

theorem ledger_outbound (action : EdgeAction σ (ResponsePart Resp) (RequestPart Req))
    (p : Pass σ P Req) :
    ((outboundEdges method).act action p).ledger starts answers =
      (p.ledger starts answers).after method.shape.streamsRequests
        (action.arrival?.toList.map .arrival : List (Incident Req Resp)) := by
  cases action with
  | transport part => exact ledger_toTransport method part p
  | note update => rfl
  | arrive arrival =>
    cases arrival with
    | part part => exact ledger_onRequestWhileEmitting method part p
    | failure e => exact ledger_loseClient method e p

theorem ledger_send (part : ResponsePart Resp) (p : Pass σ P Req) :
    (send method part p).ledger starts answers =
      (p.ledger starts answers).after method.shape.streamsRequests
        (sendIncidents method part p) := by
  have replayed : ∀ (actions : List (EdgeAction σ (ResponsePart Resp) (RequestPart Req)))
      (p : Pass σ P Req), ((outboundEdges method).replay actions p).ledger starts answers =
        (p.ledger starts answers).after method.shape.streamsRequests
          ((actions.filterMap EdgeAction.arrival?).map .arrival : List (Incident Req Resp)) := by
    intro actions
    induction actions with
    | nil => exact fun p => rfl
    | cons action rest ih =>
      intro p
      rw [Edges.replay_cons, ih, ledger_outbound, ← Ledger.after_append, ← List.map_append]
      congr 2
      cases h : action.arrival? with
      | none => rw [List.filterMap_cons_none h]; rfl
      | some arrival => rw [List.filterMap_cons_some h]; rfl
  unfold send sendIncidents
  rw [← Chain.replay_sendTrace, replayed]

/-- The staged headers are taken: from now on the response is open. -/
def opened (p : Pass σ P Req) : Pass σ P Req :=
  p.mapCall fun call =>
    { call with
      headersSent := true
      context := { call.context with responseHeaders := .empty } }

/-- What happens while the staged headers go ahead of a part. -/
def openIncidents (part : ResponsePart Resp) (p : Pass σ P Req) : List (Incident Req Resp) :=
  if p.call.headersSent then []
  else
    let staged := p.call.context.responseHeaders
    match part with
    | .headers _ => []
    | _ => .entry (.headers staged) :: sendIncidents method (.headers staged) p.opened

theorem ledger_openResponse (part : ResponsePart Resp) (p : Pass σ P Req) :
    (openResponse method part p).2.ledger starts answers =
      (p.ledger starts answers).after method.shape.streamsRequests
        (openIncidents method part p) := by
  have entered : ∀ staged, (send method (.headers staged) p.opened).ledger starts answers =
      (p.ledger starts answers).after method.shape.streamsRequests
        (.entry (.headers staged) :: sendIncidents method (.headers staged) p.opened) := by
    intro staged
    rw [ledger_send]
    unfold Ledger.after
    rw [List.foldl_cons]
    congr 1
    simp [Ledger.step, ResponsePart.isFinish, ledger, Call.ledger, opened, mapCall, Pass.starts]
  unfold openResponse openIncidents
  by_cases sent : p.call.headersSent = true
  · simp only [sent, if_true]
    rfl
  · simp only [sent, Bool.false_eq_true, if_false]
    cases part with
    | headers m => rfl
    | message m flags => exact entered _
    | finish status trailers => exact entered _

/-- What happens while a part is emitted. -/
def emitIncidents (part : ResponsePart Resp) (p : Pass σ P Req) : List (Incident Req Resp) :=
  if p.call.ended || p.call.suppressed then []
  else
    let (first, q) := openResponse method part p
    let q := if first.isFinish then q.mapCall fun call => { call with ended := true } else q
    openIncidents method part p ++ .entry first :: sendIncidents method first q

theorem ledger_emit (part : ResponsePart Resp) (p : Pass σ P Req) :
    (emit method part p).2.ledger starts answers =
      (p.ledger starts answers).after method.shape.streamsRequests
        (emitIncidents method part p) := by
  unfold emit emitIncidents
  by_cases refused : (p.call.ended || p.call.suppressed) = true
  · simp only [refused, if_true]
    rfl
  · simp only [refused, Bool.false_eq_true, if_false]
    rw [ledger_send, Ledger.after_append, ← ledger_openResponse]
    unfold Ledger.after
    rw [List.foldl_cons]
    congr 1
    cases finish : (openResponse method part p).1.isFinish with
    | false => simp [Ledger.step, finish, ledger, Call.ledger]
    | true => simp [Ledger.step, finish, ledger, Call.ledger, mapCall, Pass.starts]

/-- What happens while the end is emitted. -/
def finishIncidents (status : Status) (p : Pass σ P Req) : List (Incident Req Resp) :=
  emitIncidents method (.finish status p.call.context.trailers)
    (p.mapCall fun call => { call with context := { call.context with trailers := .empty } })

theorem ledger_finish (status : Status) (p : Pass σ P Req) :
    (finish method status p).ledger starts answers =
      (p.ledger starts answers).after method.shape.streamsRequests
        (finishIncidents method status p) :=
  ledger_emit method _ _

/-! ### Reception -/

/-- What happens when a part arrives: a rejection emits the end. -/
def requestIncidents (part : RequestPart Req) (p : Pass σ P Req) : List (Incident Req Resp) :=
  .arrival (.part part) ::
    match advance method.shape.streamsRequests p.call part with
    | (call, .reject reason) => finishIncidents method reason.status { p with call, receipts := [] }
    | _ => []

theorem ledger_onRequest (part : RequestPart Req) (p : Pass σ P Req) :
    (onRequest method part p).ledger starts answers =
      (p.ledger starts answers).after method.shape.streamsRequests
        (requestIncidents method part p) := by
  unfold requestIncidents Ledger.after
  rw [List.foldl_cons]
  cases advanced : advance method.shape.streamsRequests p.call part with
  | mk call reaction =>
    have taken : ∀ p' : Pass σ P Req, p'.call = call →
        p'.starts = p.starts ++ reaction.request?.toList →
          p'.ledger starts answers = (p.ledger starts answers).step method.shape.streamsRequests
            (.arrival (.part part) : Incident Req Resp) := by
      intro p' same ops
      refine ledger_take method part p p' ?_ ?_
      · rw [same, advanced]
      · rw [ops, advanced]
    unfold onRequest
    rw [advanced]
    cases reaction with
    | ignore => exact taken _ rfl (List.append_nil _).symm
    | start request => exact taken _ rfl (starts_append p [.start request])
    | reject reason =>
      have rejected := taken { p with call, receipts := [] } rfl (List.append_nil _).symm
      rw [← rejected]
      exact ledger_finish method reason.status _

def actIncidents (action : EdgeAction σ (ResponsePart Resp) (RequestPart Req))
    (p : Pass σ P Req) : List (Incident Req Resp) :=
  match action with
  | .arrive (.part part) => requestIncidents method part p
  | .arrive (.failure e) => [.arrival (.failure e)]
  | _ => []

theorem ledger_inbound (action : EdgeAction σ (ResponsePart Resp) (RequestPart Req))
    (p : Pass σ P Req) :
    ((inboundEdges method).act action p).ledger starts answers =
      (p.ledger starts answers).after method.shape.streamsRequests
        (actIncidents method action p) := by
  cases action with
  | transport part => exact ledger_toTransport method part p
  | note update => rfl
  | arrive arrival =>
    cases arrival with
    | part part => exact ledger_onRequest method part p
    | failure e => exact ledger_loseClient method e p

def replayIncidents :
    List (EdgeAction σ (ResponsePart Resp) (RequestPart Req)) → Pass σ P Req →
      List (Incident Req Resp)
  | [], _ => []
  | action :: rest, p =>
    actIncidents method action p ++ replayIncidents rest ((inboundEdges method).act action p)

theorem ledger_replay (actions : List (EdgeAction σ (ResponsePart Resp) (RequestPart Req)))
    (p : Pass σ P Req) :
    ((inboundEdges method).replay actions p).ledger starts answers =
      (p.ledger starts answers).after method.shape.streamsRequests
        (replayIncidents method actions p) := by
  induction actions generalizing p with
  | nil => rfl
  | cons action rest ih =>
    rw [Edges.replay_cons, ih, ledger_inbound, replayIncidents, Ledger.after_append]

/-- What happens while something that the transport delivers runs through the chain. -/
def arriveIncidents (arrival : Arrival (RequestPart Req)) (p : Pass σ P Req) :
    List (Incident Req Resp) :=
  replayIncidents method
    (method.chain.arriveTrace (inboundEdges method) p.call.context.path arrival p) p

theorem ledger_arrive (arrival : Arrival (RequestPart Req)) (p : Pass σ P Req) :
    (method.chain.arrive (inboundEdges method) p.call.context.path arrival p).ledger starts
        answers =
      (p.ledger starts answers).after method.shape.streamsRequests
        (arriveIncidents method arrival p) := by
  unfold arriveIncidents
  rw [← Chain.replay_arriveTrace, ledger_replay]

end Pass

/-! ### Events and runs -/

namespace Event

/-- What happens in an event, in order. -/
def incidents (method : Method σ P Req Resp) :
    Event σ P Req Resp → Call σ Req → List (Incident Req Resp)
  | receive part, call =>
    match part.tryMap method.requests.decode with
    | .ok decoded => Pass.arriveIncidents method (.part decoded) (.start call)
    | .error e =>
      .arrival (.failure e) ::
        Pass.finishIncidents method e.toStatus (.start (call.closeInbound e))
  | error e, call =>
    Pass.arriveIncidents method (.failure e) (.start call) ++ [.arrival (.failure e)]
  | release, call =>
    if call.isCancelled then [] else [.arrival (.failure Call.releasedError)]
  | write transport message compression, call =>
    let allowed := transport && call.context.compression
    let flags := MessageFlags.compressed (allowed && compression.resolve allowed)
    Pass.emitIncidents method (.message message flags) (.start call)
  | finish (.ok ()), call => Pass.finishIncidents method .success (.start call)
  | finish (.error e), call => Pass.finishIncidents method e.toStatus (.start call)
  | _, _ => []

/-- What a poll of the request stream gives, if this is one. -/
def answer? (call : Call σ Req) : Event σ P Req Resp → Option (Poll (Result (Option Req)))
  | poll => some call.requests.pull.1
  | _ => none

/-- What an event does to the request stream from the side of its consumer, or by leaving it. -/
def tend (l : Ledger Req) : Event σ P Req Resp → Ledger Req
  | poll => { l with requests := l.requests.pull.2, answers := l.answers ++ [l.requests.pull.1] }
  | abandon => { l with requests := l.requests.abandon }
  | _ => l

/-- An event does to the ledger what its incidents do, and what it does to the request stream
itself. -/
theorem ledger_pass (method : Method σ P Req Resp) (event : Event σ P Req Resp)
    (call : Call σ Req) (starts : List (Option Req))
    (answers : List (Poll (Result (Option Req)))) :
    (event.pass method call).ledger starts (answers ++ (event.answer? call).toList) =
      event.tend ((call.ledger starts answers).after method.shape.streamsRequests
        (event.incidents method call)) := by
  have begun : ∀ call : Call σ Req, (Pass.start call : Pass σ P Req).ledger starts answers =
      call.ledger starts answers := fun call => congrArg (call.ledger · answers) (List.append_nil _)
  have finished : ∀ status, (Pass.finish method status (.start call)).ledger starts
      (answers ++ []) = (call.ledger starts answers).after method.shape.streamsRequests
        (Pass.finishIncidents method status (.start call)) := by
    intro status
    rw [List.append_nil, Pass.ledger_finish, begun]
  cases event with
  | use how =>
    show (Pass.start _).ledger starts (answers ++ []) = _
    rw [List.append_nil]
    cases how <;> exact begun _
  | poll => exact congrArg (Call.ledger · _ _) (List.append_nil _)
  | abandon =>
    show (Pass.start _).ledger starts (answers ++ []) = _
    rw [List.append_nil]
    exact begun _
  | finish result =>
    cases result with
    | ok u => exact finished .success
    | error e => exact finished e.toStatus
  | write transport message compression =>
    show ((call.write method transport message compression).2).ledger starts (answers ++ []) = _
    rw [List.append_nil]
    simp only [Call.write, incidents]
    split <;> next heq =>
      rw [← begun, ← Pass.ledger_emit, heq]
      rfl
  | release =>
    show (Pass.start call.release).ledger starts (answers ++ []) = _
    rw [List.append_nil, begun]
    simp only [Call.release, incidents]
    by_cases gone : call.isCancelled = true
    · rw [if_pos gone, if_pos gone]
      rfl
    · rw [if_neg gone, if_neg gone]
      exact Pass.ledger_closeInbound Resp method.shape.streamsRequests call _
  | error e =>
    show (Pass.mapCall _ _).ledger starts (answers ++ []) = _
    rw [List.append_nil, Pass.ledger_loseClient method]
    unfold incidents
    rw [Ledger.after_append, ← begun]
    unfold Chain.fail
    rw [show (call.context.path : String) =
      (Pass.start call : Pass σ P Req).call.context.path from rfl, Pass.ledger_arrive]
    rfl
  | receive part =>
    show (call.receive method part).ledger starts (answers ++ []) = _
    rw [List.append_nil]
    simp only [Call.receive, incidents]
    cases part.tryMap method.requests.decode with
    | ok decoded =>
      simp only
      rw [← begun]
      exact Pass.ledger_arrive method (.part decoded) (.start call)
    | error e =>
      simp only
      rw [Pass.ledger_finish, begun, Pass.ledger_closeInbound Resp
        method.shape.streamsRequests]
      rfl

end Event

namespace Call

/-- What happens in a run, in order. -/
def incidents (method : Method σ P Req Resp) :
    List (Event σ P Req Resp) → Call σ Req → List (Incident Req Resp)
  | [], _ => []
  | event :: rest, call =>
    event.incidents method call ++ incidents method rest (event.pass method call).call

/-- The starts of the handler in a run. -/
def starts (method : Method σ P Req Resp) :
    List (Event σ P Req Resp) → Call σ Req → List (Option Req)
  | [], _ => []
  | event :: rest, call =>
    (event.pass method call).starts ++ starts method rest (event.pass method call).call

/-- What the polls of the request stream give in a run. -/
def answers (method : Method σ P Req Resp) :
    List (Event σ P Req Resp) → Call σ Req → List (Poll (Result (Option Req)))
  | [], _ => []
  | event :: rest, call =>
    (event.answer? call).toList ++ answers method rest (event.pass method call).call

theorem incidents_append (method : Method σ P Req Resp) (first second : List (Event σ P Req Resp))
    (call : Call σ Req) :
    call.incidents method (first ++ second) =
      call.incidents method first ++ (call.run method first).incidents method second := by
  induction first generalizing call with
  | nil => rfl
  | cons event rest ih =>
    rw [List.cons_append, incidents, incidents, ih, List.append_assoc]
    rfl

theorem starts_append (method : Method σ P Req Resp) (first second : List (Event σ P Req Resp))
    (call : Call σ Req) :
    call.starts method (first ++ second) =
      call.starts method first ++ (call.run method first).starts method second := by
  induction first generalizing call with
  | nil => rfl
  | cons event rest ih =>
    rw [List.cons_append, starts, starts, ih, List.append_assoc]
    rfl

theorem answers_append (method : Method σ P Req Resp) (first second : List (Event σ P Req Resp))
    (call : Call σ Req) :
    call.answers method (first ++ second) =
      call.answers method first ++ (call.run method first).answers method second := by
  induction first generalizing call with
  | nil => rfl
  | cons event rest ih =>
    rw [List.cons_append, answers, answers, ih, List.append_assoc]
    rfl

/-- The ledger of a run. -/
def account (method : Method σ P Req Resp) (events : List (Event σ P Req Resp))
    (call : Call σ Req) : Ledger Req :=
  (call.run method events).ledger (call.starts method events) (call.answers method events)

theorem account_concat (method : Method σ P Req Resp) (events : List (Event σ P Req Resp))
    (event : Event σ P Req Resp) (call : Call σ Req) :
    call.account method (events ++ [event]) =
      (event.pass method (call.run method events)).ledger (call.starts method events)
        (call.answers method events ++ (event.answer? (call.run method events)).toList) := by
  unfold account
  rw [run_append, starts_append, answers_append]
  simp only [starts, answers, List.append_nil]
  rfl

theorem incidents_concat (method : Method σ P Req Resp) (events : List (Event σ P Req Resp))
    (event : Event σ P Req Resp) (call : Call σ Req) :
    call.incidents method (events ++ [event]) =
      call.incidents method events ++ event.incidents method (call.run method events) := by
  rw [incidents_append]
  exact congrArg _ (List.append_nil _)

end Call

/-- A pass leaves the task as it is, or puts a handler there that was not polled yet. -/
theorem Serving.task_settle {S : Type} (s : Serving σ P Req Resp S) (p : Pass σ P Req) :
    (s.settle p).1.task = (p.starts.getLast?.map Task.spawned).getD s.task := by
  obtain ⟨call, ops, receipts⟩ := p
  show ops.foldl _ s.task = _
  unfold Pass.starts
  generalize s.task = task
  induction ops generalizing task with
  | nil => rfl
  | cons op rest ih =>
    rw [List.foldl_cons, ih]
    cases op with
    | send part => rfl
    | start request =>
      simp only [List.filterMap_cons, ServerOp.request?, List.getLast?_cons]
      cases (rest.filterMap ServerOp.request?).getLast? <;> rfl

end RemoteCall.Server
