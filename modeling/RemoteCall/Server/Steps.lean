import RemoteCall.ChainSteps
import RemoteCall.Server.Call

/-!
# Server calls step by step

`Server.Call` takes each operation of a call as a whole. Here the same operations are routines
over a `Floor`, in the steps after which others may come in: the tasks that write, the transport
that delivers, and whoever lets go of the call.

What one lock covers is one step: a move of the inbound automaton with what it pushes, one
decision of the order filter, the outbound flags, the staged headers, the staged trailers, each
part that goes to the transport. Only the outbound gate (`Floor.emitting`) is held from one step
to another, while an emitted part and the headers ahead of it run through the chain.

Run with nothing in between, each routine does what the operation of `Server.Call` does.
-/

namespace RemoteCall.Server

/-- What happens at the edges of a call. -/
inductive Act (Req Resp : Type) where
  /-- A request part has come through the chain. -/
  | arrives (part : RequestPart Req)
  | header (name value : String)
  | trailer (name value : String)
  /-- The staged headers are taken, ahead of the first part. -/
  | opens (staged : Metadata)
  /-- An attempt to end the call with this status takes the staged trailers. -/
  | takes (status : Status) (staged : Metadata)
  /-- A part has passed the outbound gate. -/
  | passes (part : ResponsePart Resp)

/-- What overlapping operations of a call share. -/
structure Floor (σ P Req Resp : Type) where
  call : Call σ Req
  /-- What was asked, in order. -/
  ops : List (ServerOp P Req) := []
  /-- What polls of the request stream have answered, in order. -/
  answers : List (Poll (Result (Option Req))) := []
  /-- What happened at the edges, in order. Nothing depends on it. -/
  acts : List (Act Req Resp) := []
  /-- Somebody holds the outbound gate. -/
  emitting : Bool := false

namespace Floor

variable {σ P Req Resp : Type}

def mapCall (f : Call σ Req → Call σ Req) (floor : Floor σ P Req Resp) : Floor σ P Req Resp :=
  { floor with call := f floor.call }

def ask (op : ServerOp P Req) (floor : Floor σ P Req Resp) : Floor σ P Req Resp :=
  { floor with ops := floor.ops ++ [op] }

def log (act : Act Req Resp) (floor : Floor σ P Req Resp) : Floor σ P Req Resp :=
  { floor with acts := floor.acts ++ [act] }

/-- One poll of the request stream. -/
def poll (floor : Floor σ P Req Resp) : Floor σ P Req Resp :=
  { floor with
    call := { floor.call with requests := floor.call.requests.pull.2 }
    answers := floor.answers ++ [floor.call.requests.pull.1] }

/-- Whether the end has entered the chain or the client is lost. -/
def isShut (floor : Floor σ P Req Resp) : Bool := floor.call.ended || floor.call.suppressed

def setEmitting (emitting : Bool) (floor : Floor σ P Req Resp) : Floor σ P Req Resp :=
  { floor with emitting }

end Floor

/-- Whether a stream of requests is being fed. -/
def Inbound.feeds {Req : Type} : Inbound Req → Bool
  | .streaming => true
  | _ => false

namespace Call

variable {σ Req : Type}

/-- Takes a part through the order filter. -/
def allow {Resp : Type} (part : ResponsePart Resp) (call : Call σ Req) :
    List (ResponsePart Resp) × Call σ Req :=
  ((call.order.allow part).1, { call with order := (call.order.allow part).2 })

/-- Closes the request side. The flag tells whether its stream is still to be finished. -/
def shutInbound (call : Call σ Req) : Bool × Call σ Req :=
  (call.inbound.feeds, { call with inbound := .closed })

def failRequests (e : CallError) (call : Call σ Req) : Call σ Req :=
  { call with requests := (call.requests.finishWith (.error e)).2 }

def suppress (call : Call σ Req) : Call σ Req := { call with suppressed := true }

/-- Notes that the first part has entered the chain. The flag tells whether another one had. -/
def openHeaders (call : Call σ Req) : Bool × Call σ Req :=
  (call.headersSent, { call with headersSent := true })

def takeHeaders (call : Call σ Req) : Metadata × Call σ Req :=
  (call.context.responseHeaders,
    { call with context := { call.context with responseHeaders := .empty } })

def takeTrailers (call : Call σ Req) : Metadata × Call σ Req :=
  (call.context.trailers, { call with context := { call.context with trailers := .empty } })

def close (call : Call σ Req) : Call σ Req := { call with ended := true }

end Call

namespace Steps

variable {σ P Req Resp : Type}

/-- A routine on the floor of a call. Its value is most often the receipts of its parts. -/
abbrev On (σ P Req Resp : Type) : Type → Type := Routine (Floor σ P Req Resp)

/-- One step that reads and changes the call. -/
def atCall {α : Type} (f : Call σ Req → α × Call σ Req) : On σ P Req Resp α :=
  .atomically fun floor => ((f floor.call).1, { floor with call := (f floor.call).2 })

/-- One step that changes the call. -/
def onCall (f : Call σ Req → Call σ Req) : On σ P Req Resp Unit := .act (·.mapCall f)

/-- `write`: hands one part to the transport. A part that cannot be encoded is rejected instead. -/
def write (method : Method σ P Req Resp) (part : ResponsePart Resp) :
    On σ P Req Resp (List Receipt) :=
  match part.tryMap method.responses.encode with
  | .ok encoded =>
    .atomically fun floor =>
      ([.issued floor.call.sent],
        (floor.mapCall fun call => { call with sent := call.sent + 1 }).ask (.send encoded))
  | .error e => return [.known (.error e)]

/-- `to_transport`: takes a part that made it through the chain. Asks the order filter, hands over
what it admits, and cancels the scope behind an end. -/
def toTransport (method : Method σ P Req Resp) (part : ResponsePart Resp) :
    On σ P Req Resp (List Receipt) := do
  let admitted ← atCall (Call.allow part)
  let receipts ← Routine.forEach (write method) admitted
  if admitted.any ResponsePart.isFinish then
    onCall Call.cancelScope
    return receipts
  else return receipts

/-- `close_inbound`: closes the request side, and then finishes its stream if that still runs. -/
def closeInbound (e : CallError) : On σ P Req Resp Unit := do
  let streams ← atCall Call.shutInbound
  if streams then onCall (Call.failRequests e) else return

/-- `on_inbound_error`: the client is lost. -/
def loseClient (e : CallError) : On σ P Req Resp (List Receipt) := do
  closeInbound e
  onCall Call.suppress
  onCall Call.cancelScope
  return []

/-- The transport lets go of the call, which may be over already. The flag tells whether its client
is lost with that. -/
def release : On σ P Req Resp Bool := do
  let cancelled ← .read fun floor => floor.call.isCancelled
  if cancelled then return false
  else
    let _ ← loseClient Call.releasedError
    return true

/-- One move of the inbound automaton. -/
def advance (method : Method σ P Req Resp) (part : RequestPart Req) :
    On σ P Req Resp (Pass.Reaction Req) :=
  .atomically fun floor =>
    ((Pass.advance method.shape.streamsRequests floor.call part).2,
      (floor.mapCall fun call => (Pass.advance method.shape.streamsRequests call part).1).log
        (.arrives part))

/-- An attempt to end the call with this status takes the staged trailers. -/
def takeTrailers (status : Status) : On σ P Req Resp Metadata :=
  .atomically fun floor =>
    (floor.call.takeTrailers.1,
      { floor with call := floor.call.takeTrailers.2 }.log
        (.takes status floor.call.takeTrailers.1))

/-- Takes a request part that a hook passes inward while a part is emitted. A rejection would have
to emit in turn, and waits for the gate that its own thread holds. -/
def onRequestWhileEmitting (method : Method σ P Req Resp) (part : RequestPart Req) :
    On σ P Req Resp (List Receipt) := do
  match ← advance method part with
  | .ignore => return []
  | .start request =>
    .act (·.ask (.start request))
    return []
  | .reject reason =>
    let _ ← takeTrailers reason.status
    .never []

/-- The edges of the chain while a part is emitted. -/
def outboundEdges (method : Method σ P Req Resp) :
    EdgeRoutines σ (ResponsePart Resp) (RequestPart Req) (Floor σ P Req Resp) Receipt where
  transport := toTransport method
  application := onRequestWhileEmitting method
  failure := loseClient
  shared floor := floor.call.context.shared
  note update := (·.mapCall fun call =>
    { call with context := { call.context with shared := update call.context.shared } })

/-- Runs an emitted part through the chain. -/
def send (method : Method σ P Req Resp) (part : ResponsePart Resp) :
    On σ P Req Resp (List Receipt) := do
  let path ← .read fun floor => floor.call.context.path
  method.chain.sendSteps (outboundEdges method) path part

/-- The staged headers are taken, ahead of the first part. -/
def takeHeaders : On σ P Req Resp Metadata :=
  .atomically fun floor =>
    (floor.call.takeHeaders.1,
      { floor with call := floor.call.takeHeaders.2 }.log (.opens floor.call.takeHeaders.1))

/-- Puts the staged headers ahead of the first part, as `Pass.openResponse` does: the part that is
left to send, and the receipts of what went ahead. -/
def openResponse (method : Method σ P Req Resp) (part : ResponsePart Resp) :
    On σ P Req Resp (ResponsePart Resp × List Receipt) := do
  let opened ← atCall Call.openHeaders
  if opened then return (part, [])
  else
    let staged ← takeHeaders
    match part with
    | .headers m => return (.headers (m.extend staged), [])
    | other =>
      let receipts ← send method (.headers staged)
      return (other, receipts)

/-- Before the end is sent, the gate is closed behind it. -/
def closeGate (part : ResponsePart Resp) : On σ P Req Resp Unit :=
  if part.isFinish then onCall Call.close else return

/-- What an emission does behind the gate. -/
def emitBehindGate (method : Method σ P Req Resp) (part : ResponsePart Resp) :
    On σ P Req Resp (List Receipt) := do
  let (part, opening) ← openResponse method part
  closeGate part
  let receipts ← send method part
  return opening ++ receipts

/-- Looks whether the call is shut. A part that finds it open has passed the gate. -/
def knock (part : ResponsePart Resp) : On σ P Req Resp Bool :=
  .atomically fun floor =>
    (floor.isShut, if floor.isShut then floor else floor.log (.passes part))

/-- `emit`: takes the gate, looks once whether the call is shut, emits the part if it is not, and
lets go of the gate. -/
def emit (method : Method σ P Req Resp) (part : ResponsePart Resp) :
    On σ P Req Resp (Result (List Receipt)) := do
  .await (fun floor => !floor.emitting) (Floor.setEmitting true)
  let shut ← knock part
  if shut then
    .act (Floor.setEmitting false)
    return .error .streamAlreadyClosed
  else
    let receipts ← emitBehindGate method part
    .act (Floor.setEmitting false)
    return .ok receipts

/-- `finish`: emits the end. Takes the staged trailers first, and then the gate. -/
def finish (method : Method σ P Req Resp) (status : Status) : On σ P Req Resp (List Receipt) := do
  let trailers ← takeTrailers status
  let _ ← emit method (.finish status trailers)
  return []

/-- `on_request`: takes a request part that made it through the chain. -/
def onRequest (method : Method σ P Req Resp) (part : RequestPart Req) :
    On σ P Req Resp (List Receipt) := do
  match ← advance method part with
  | .ignore => return []
  | .start request =>
    .act (·.ask (.start request))
    return []
  | .reject reason => finish method reason.status

/-- The edges of the chain while a part is received. -/
def inboundEdges (method : Method σ P Req Resp) :
    EdgeRoutines σ (ResponsePart Resp) (RequestPart Req) (Floor σ P Req Resp) Receipt :=
  { outboundEdges method with application := onRequest method }

/-- Runs an arrival through the chain. -/
def arrive (method : Method σ P Req Resp) (arrival : Arrival (RequestPart Req)) :
    On σ P Req Resp (List Receipt) := do
  let path ← .read fun floor => floor.call.context.path
  method.chain.arriveSteps (inboundEdges method) path arrival

/-- `Call.receive`, step by step. -/
def receive (method : Method σ P Req Resp) (part : RequestPart P) :
    On σ P Req Resp (List Receipt) :=
  match part.tryMap method.requests.decode with
  | .ok decoded => arrive method (.part decoded)
  | .error e => do
    closeInbound e
    finish method e.toStatus

/-- `Call.receiveError`, step by step. -/
def receiveError (method : Method σ P Req Resp) (e : CallError) :
    On σ P Req Resp (List Receipt) := do
  let _ ← arrive method (.failure e)
  loseClient e

/-- `Call.write`, step by step. -/
def writeMessage (method : Method σ P Req Resp) (transport : Bool) (message : Resp)
    (compression : Compression) : On σ P Req Resp (Result (List Receipt)) := do
  let allowed ← .read fun floor => transport && floor.call.context.compression
  let flags := MessageFlags.compressed (allowed && compression.resolve allowed)
  emit method (.message message flags)

/-- `Call.finish`, step by step. -/
def conclude (method : Method σ P Req Resp) : Result Unit → On σ P Req Resp (List Receipt)
  | .ok () => finish method .success
  | .error e => finish method e.toStatus

end Steps

end RemoteCall.Server
