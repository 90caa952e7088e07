import RemoteCall.Acceptance
import RemoteCall.Codec
import RemoteCall.Interceptor
import RemoteCall.MessageStream
import RemoteCall.Options
import RemoteCall.ResponseOrder

/-!
# Server calls

The core of one inbound call on the server's side. Request parts from the transport run through
the chain into the inbound automaton, which starts the handler once the request allows it. What
the handler writes, and the end, run through the chain to the transport.

Two gates guard the output. The outbound gate lets nothing into the chain after the end has
entered it, or after the client was lost (`suppressed`); it puts the staged headers ahead of the
first part. The order filter stands behind the chain and keeps what reaches the transport
well-formed, whatever the hooks send.

As with client calls, what a call asks for is data: each operation yields the requests it made,
to the transport and to start the handler.

Every operation is one step here: whatever else happens comes before it or after it. Its locks are
let go in between, so on several threads, or under a transport that calls back, operations may
overlap. `Server.Steps` has them in the steps between which that happens.
-/

namespace RemoteCall.Server

/-- What a call asks of its surroundings. -/
inductive ServerOp (P Req : Type) where
  /-- Hand a part to the transport. -/
  | send (part : ResponsePart P)
  /-- Start the handler with a single request, or with the stream of requests. -/
  | start (request : Option Req)

/-- How a method is served: its shape, its interceptors and its codecs. -/
structure Method (σ P Req Resp : Type) where
  shape : CallShape
  chain : Chain σ (ResponsePart Resp) (RequestPart Req) := .empty
  requests : Codec P Req
  responses : Codec P Resp

/-- What the handler of a call sees and stages. -/
structure Context (σ : Type) where
  path : String
  /-- The request headers. -/
  headers : Metadata := .empty
  /-- Response messages of this call may be compressed. -/
  compression : Bool := true
  /-- Headers staged for the first response part. -/
  responseHeaders : Metadata := .empty
  /-- Trailers staged for the end. -/
  trailers : Metadata := .empty
  /-- The call is over or its client is gone. -/
  cancelled : Bool := false
  /-- What the interceptors and the handler share. -/
  shared : σ

namespace Context

variable {σ : Type}

def stageHeader (c : Context σ) (name value : String) : Context σ :=
  { c with responseHeaders := c.responseHeaders.insert name value }

def stageTrailer (c : Context σ) (name value : String) : Context σ :=
  { c with trailers := c.trailers.insert name value }

end Context

/-- The request side of a call. -/
inductive Inbound (Req : Type) where
  /-- Waiting for the headers. -/
  | idle
  /-- Waiting for the one message. -/
  | awaiting
  /-- Holding the one message until the end. -/
  | holding (message : Req)
  /-- Feeding the handler. -/
  | streaming
  /-- The request is complete. -/
  | running
  /-- Nothing is taken any more. -/
  | closed

/-- The state of a call. -/
structure Call (σ Req : Type) where
  context : Context σ
  inbound : Inbound Req := .idle
  /-- The request messages for the handler, if it takes a stream. -/
  requests : MessageStream Req := .fresh
  /-- The first response part has entered the chain. -/
  headersSent : Bool := false
  /-- The end has entered the chain. -/
  ended : Bool := false
  /-- The client is lost: all further output is dropped. -/
  suppressed : Bool := false
  /-- The order of what reaches the transport. -/
  order : ResponseOrder := .fresh
  /-- The number of parts handed to the transport. -/
  sent : Nat := 0
  /-- An emission was asked for from inside an emission, which would wait for itself for ever. -/
  reentered : Bool := false

namespace Call

variable {σ Req : Type}

def isCancelled (call : Call σ Req) : Bool := call.context.cancelled

def cancelScope (call : Call σ Req) : Call σ Req :=
  { call with context := { call.context with cancelled := true } }

/-- `close_inbound`: closes the request side. A stream that still runs ends with an error. The state
is replaced under its lock, and the stream is finished behind it. -/
def closeInbound (call : Call σ Req) (e : CallError) : Call σ Req :=
  match call.inbound with
  | .streaming =>
    { call with inbound := .closed, requests := (call.requests.finishWith (.error e)).2 }
  | _ => { call with inbound := .closed }

/-- `on_inbound_error`: the client is lost, so the request side is closed, the output is dropped and
the handler is stopped, one after the other under no common lock. -/
def loseClient (call : Call σ Req) (e : CallError) : Call σ Req :=
  { call.closeInbound e with suppressed := true }.cancelScope

/-- What a request stream ends with when the transport lets go of the call. -/
def releasedError : CallError := .transport "call released by transport"

/-- The transport lets go of the call, which is then dropped. One that is over already stays as it
is. -/
def release (call : Call σ Req) : Call σ Req :=
  if call.isCancelled then call else call.loseClient releasedError

end Call

/-- A call while something runs through its chain. -/
structure Pass (σ P Req : Type) where
  call : Call σ Req
  /-- What was asked, in order. -/
  ops : List (ServerOp P Req) := []
  /-- The receipts of the parts, in order. -/
  receipts : List Receipt := []

namespace Pass

variable {σ P Req Resp : Type}

def start (call : Call σ Req) : Pass σ P Req := { call }

def mapCall (f : Call σ Req → Call σ Req) (p : Pass σ P Req) : Pass σ P Req :=
  { p with call := f p.call }

/-- `write`: hands one part to the transport. A part that cannot be encoded is rejected instead. -/
def write (method : Method σ P Req Resp) (p : Pass σ P Req) (part : ResponsePart Resp) :
    Pass σ P Req :=
  match part.tryMap method.responses.encode with
  | .ok encoded =>
    { call := { p.call with sent := p.call.sent + 1 }
      ops := p.ops ++ [.send encoded]
      receipts := p.receipts ++ [.issued p.call.sent] }
  | .error e => { p with receipts := p.receipts ++ [.known (.error e)] }

/-- `to_transport`: takes a part that made it through the chain. An end that is admitted cancels the
scope of the call. The lock of the order filter is held for its decision only, not while the parts
are handed over, and the scope is cancelled after that. -/
def toTransport (method : Method σ P Req Resp) (part : ResponsePart Resp) (p : Pass σ P Req) :
    Pass σ P Req :=
  let (admitted, order) := p.call.order.allow part
  let p := admitted.foldl (write method) { p with call := { p.call with order } }
  if admitted.any ResponsePart.isFinish then p.mapCall (·.cancelScope) else p

/-- Why a request is rejected. -/
inductive Rejection where
  | beforeHeaders
  | noMessage
  | manyMessages
  deriving DecidableEq

def Rejection.text : Rejection → String
  | beforeHeaders => "request part before request headers"
  | noMessage => "unary method received no request message"
  | manyMessages => "unary method received more than one request message"

def Rejection.status (r : Rejection) : Status := ⟨.failedPrecondition, r.text⟩

/-- What the request side does with a part. -/
inductive Reaction (Req : Type) where
  | ignore
  | start (request : Option Req)
  | reject (reason : Rejection)

/-- One move of the inbound automaton, which `on_request` makes under its lock. -/
def advance (streams : Bool) (call : Call σ Req) (part : RequestPart Req) :
    Call σ Req × Reaction Req :=
  match call.inbound, part with
  | .idle, .headers m =>
    let call := { call with context := { call.context with headers := m } }
    if streams then ({ call with inbound := .streaming }, .start none)
    else ({ call with inbound := .awaiting }, .ignore)
  | .idle, _ => ({ call with inbound := .closed }, .reject .beforeHeaders)
  | .awaiting, .message a _ => ({ call with inbound := .holding a }, .ignore)
  | .awaiting, .finish => ({ call with inbound := .closed }, .reject .noMessage)
  | .holding _, .message _ _ => ({ call with inbound := .closed }, .reject .manyMessages)
  | .holding a, .finish => ({ call with inbound := .running }, .start (some a))
  | .streaming, .message a _ => ({ call with requests := (call.requests.push a).2 }, .ignore)
  | .streaming, .finish =>
    ({ call with inbound := .running, requests := (call.requests.finishWith (.ok ())).2 },
      .ignore)
  | _, _ => (call, .ignore)

/-- Takes a request part that a hook passes inward while a part is emitted. A rejection would
have to emit in turn, so it is only noted that this was asked for. -/
def onRequestWhileEmitting (method : Method σ P Req Resp) (part : RequestPart Req)
    (p : Pass σ P Req) : Pass σ P Req :=
  let (call, reaction) := advance method.shape.streamsRequests p.call part
  match reaction with
  | .ignore => { p with call }
  | .start request => { p with call, ops := p.ops ++ [.start request] }
  | .reject _ => { p with call := { call with reentered := true } }

/-- The edges of the chain while a part is emitted. -/
def outboundEdges (method : Method σ P Req Resp) :
    Edges σ (ResponsePart Resp) (RequestPart Req) (Pass σ P Req) where
  transport := toTransport method
  application := onRequestWhileEmitting method
  failure e := mapCall (·.loseClient e)
  shared p := p.call.context.shared
  note update :=
    mapCall fun call =>
      { call with context := { call.context with shared := update call.context.shared } }

/-- Runs a part through the chain toward the transport. -/
def send (method : Method σ P Req Resp) (part : ResponsePart Resp) (p : Pass σ P Req) :
    Pass σ P Req :=
  method.chain.send (outboundEdges method) p.call.context.path part p

/-- Puts the staged headers ahead of the first part: into it if it is the headers, and in a part
of their own otherwise. -/
def openResponse (method : Method σ P Req Resp) (part : ResponsePart Resp) (p : Pass σ P Req) :
    ResponsePart Resp × Pass σ P Req :=
  if p.call.headersSent then (part, p)
  else
    let staged := p.call.context.responseHeaders
    let p := p.mapCall fun call =>
      { call with
        headersSent := true
        context := { call.context with responseHeaders := .empty } }
    match part with
    | .headers m => (.headers (m.extend staged), p)
    | other => (other, send method (.headers staged) p)

/-- `emit`: emits a part, unless the end has entered the chain or the client is lost. Whether the
client is lost is looked up once, before the headers and the part go through the chain; the loss
itself does not wait for the gate that is held meanwhile. -/
def emit (method : Method σ P Req Resp) (part : ResponsePart Resp) (p : Pass σ P Req) :
    Result Unit × Pass σ P Req :=
  if p.call.ended || p.call.suppressed then (.error .streamAlreadyClosed, p)
  else
    let (part, p) := openResponse method part p
    let p := if part.isFinish then p.mapCall fun call => { call with ended := true } else p
    (.ok (), send method part p)

/-- `finish`: emits the end with the staged trailers, unless the call has one already. The trailers
are taken before the gate is, also by an attempt that is refused then. -/
def finish (method : Method σ P Req Resp) (status : Status) (p : Pass σ P Req) :
    Pass σ P Req :=
  let trailers := p.call.context.trailers
  let p := p.mapCall fun call => { call with context := { call.context with trailers := .empty } }
  (emit method (.finish status trailers) p).2

/-- `on_request`: takes a request part that made it through the chain. What follows from the move of
the automaton happens outside of its lock. -/
def onRequest (method : Method σ P Req Resp) (part : RequestPart Req) (p : Pass σ P Req) :
    Pass σ P Req :=
  let (call, reaction) := advance method.shape.streamsRequests p.call part
  let p := { p with call }
  match reaction with
  | .ignore => p
  | .start request => { p with ops := p.ops ++ [.start request] }
  | .reject reason => { finish method reason.status { p with receipts := [] } with
      receipts := p.receipts }

/-- The edges of the chain while a part is received. -/
def inboundEdges (method : Method σ P Req Resp) :
    Edges σ (ResponsePart Resp) (RequestPart Req) (Pass σ P Req) :=
  { outboundEdges method with application := onRequest method }

end Pass

namespace Call

variable {σ P Req Resp : Type}

/-- A call that has received nothing. -/
def fresh (path : String) (shared : σ) : Call σ Req := { context := { path, shared } }

/-- `receive`: the transport delivers a part. One that cannot be decoded ends the call. -/
def receive (method : Method σ P Req Resp) (part : RequestPart P) (call : Call σ Req) :
    Pass σ P Req :=
  match part.tryMap method.requests.decode with
  | .ok decoded =>
    method.chain.receive (Pass.inboundEdges method) call.context.path decoded (.start call)
  | .error e => Pass.finish method e.toStatus (.start (call.closeInbound e))

/-- `receive_error`: the transport reports that the client cancelled or was lost. The call stops
even if the chain swallows the failure. -/
def receiveError (method : Method σ P Req Resp) (e : CallError) (call : Call σ Req) :
    Pass σ P Req :=
  (method.chain.fail (Pass.inboundEdges method) call.context.path e (.start call)).mapCall
    (·.loseClient e)

/-- `send_response_with`: the handler writes a message. The answer is the receipts to wait for, or
a refusal. `transport` says whether the transport permits compression; the wish of the writer
counts only if the transport and the call do. -/
def write (method : Method σ P Req Resp) (transport : Bool) (message : Resp)
    (compression : Compression) (call : Call σ Req) : Result (List Receipt) × Pass σ P Req :=
  let allowed := transport && call.context.compression
  let flags := MessageFlags.compressed (allowed && compression.resolve allowed)
  match Pass.emit method (.message message flags) (.start call) with
  | (.ok (), p) => (.ok p.receipts, p)
  | (.error e, p) => (.error e, p)

/-- The handler returns. -/
def finish (method : Method σ P Req Resp) (result : Result Unit) (call : Call σ Req) :
    Pass σ P Req :=
  match result with
  | .ok () => Pass.finish method .success (.start call)
  | .error e => Pass.finish method e.toStatus (.start call)

end Call

end RemoteCall.Server
