import RemoteCall.Acceptance
import RemoteCall.Client.Outcome
import RemoteCall.Codec
import RemoteCall.Interceptor
import RemoteCall.Options
import RemoteCall.ResponseOrder

/-!
# Client calls

The core of a call on the client's side. Request parts run through the chain to the transport,
and what the transport delivers runs back through the chain into the accumulator.

What a call asks of its transport is data: each operation yields the requests it made, in order
(`TransportOp`). The transport answers each part with an acceptance; the call knows it by its
number, and `Receipt` is that number or an outcome known at once. So an operation is a function
from `Pass` to `Pass`: the call, the requests made so far, and the receipts of the parts.

A call is terminated once, by whatever comes first: a cancellation, the deadline, an end that
reaches the accumulator, a violation or an undecodable part. Being terminated means that the
transport call was cancelled, or that it never started.

Every operation is one step here: whatever else happens comes before it or after it. The locks of
the order filter and of each slot are let go in between, so on several threads operations may
overlap. `Client.Steps` has them in the steps between which that happens.
-/

namespace RemoteCall

namespace Client

/-- What a call asks of its transport. -/
inductive TransportOp (P : Type) where
  | send (part : RequestPart P)
  | cancel
  deriving DecidableEq

/-- Everything that is fixed when a call is made. -/
structure Setup (σ P Req Resp : Type) where
  path : String
  shape : CallShape
  options : CallOptions := {}
  chain : Chain σ (RequestPart Req) (ResponsePart Resp) := .empty
  requests : Codec P Req
  responses : Codec P Resp

/-- The state of a call. -/
structure Call (σ Resp : Type) where
  accumulator : Accumulator Resp
  order : ResponseOrder := .fresh
  /-- The end of the request has entered the chain. -/
  closed : Bool := false
  terminated : Bool := false
  /-- The number of parts handed to the transport. -/
  sent : Nat := 0
  /-- What the interceptors share. -/
  shared : σ

/-- A call while something runs through its chain. -/
structure Pass (σ P Resp : Type) where
  call : Call σ Resp
  /-- What the transport was asked, in order. -/
  ops : List (TransportOp P) := []
  /-- The receipts of the parts, in order. -/
  receipts : List Receipt := []

namespace Call

variable {σ P Req Resp : Type}

def fresh (shape : CallShape) (shared : σ) : Call σ Resp where
  accumulator :=
    { response := if shape.streamsResponses then .freshStream else .freshSingle }
  shared := shared

/-- The status, once there is one. -/
def status? (call : Call σ Resp) : Option Status := call.accumulator.outcome.status.value?

end Call

namespace Pass

variable {σ P Req Resp : Type}

def start (call : Call σ Resp) : Pass σ P Resp := { call }

def mapAccumulator (f : Accumulator Resp → Accumulator Resp) (p : Pass σ P Resp) :
    Pass σ P Resp :=
  { p with call := { p.call with accumulator := f p.call.accumulator } }

/-- `abandon`: gives up on the transport, unless that was done. -/
def abandon (p : Pass σ P Resp) : Pass σ P Resp :=
  if p.call.terminated then p
  else { p with call := { p.call with terminated := true }, ops := p.ops ++ [.cancel] }

/-- `to_transport`: hands a part to the transport. A part that cannot be encoded is rejected
instead. -/
def toTransport (setup : Setup σ P Req Resp) (part : RequestPart Req) (p : Pass σ P Resp) :
    Pass σ P Resp :=
  match part.tryMap setup.requests.encode with
  | .ok encoded =>
    { call := { p.call with sent := p.call.sent + 1 }
      ops := p.ops ++ [.send encoded]
      receipts := p.receipts ++ [.issued p.call.sent] }
  | .error e => { p with receipts := p.receipts ++ [.known (.error e)] }

/-- `accumulate`: puts one part into the accumulator, and gives up on a violation. -/
def accumulate (p : Pass σ P Resp) (part : ResponsePart Resp) : Pass σ P Resp :=
  let (accumulator, violated) := p.call.accumulator.accept part
  let p := { p with call := { p.call with accumulator } }
  if violated then p.abandon else p

/-- `deliver`: takes a part that made it through the chain. An end that is admitted releases the
transport, whoever produced it. The lock of the order filter is held for its decision only, not
while the accumulator takes the parts. -/
def deliver (part : ResponsePart Resp) (p : Pass σ P Resp) : Pass σ P Resp :=
  let (admitted, order) := p.call.order.allow part
  let p := admitted.foldl accumulate { p with call := { p.call with order } }
  if admitted.any ResponsePart.isFinish then p.abandon else p

/-- `fail_application`: takes a failure that made it through the chain. -/
def failWith (e : CallError) (p : Pass σ P Resp) : Pass σ P Resp :=
  p.mapAccumulator (·.fail e)

/-- The edges of the chain of a call. -/
def edges (setup : Setup σ P Req Resp) :
    Edges σ (RequestPart Req) (ResponsePart Resp) (Pass σ P Resp) where
  transport := toTransport setup
  application := deliver
  failure := failWith
  shared p := p.call.shared
  note update p := { p with call := { p.call with shared := update p.call.shared } }

/-- Runs a part of the application through the chain. -/
def send (setup : Setup σ P Req Resp) (part : RequestPart Req) : Pass σ P Resp → Pass σ P Resp :=
  setup.chain.send (edges setup) setup.path part

/-- Runs a part of the transport through the chain. -/
def receive (setup : Setup σ P Req Resp) (part : ResponsePart Resp) :
    Pass σ P Resp → Pass σ P Resp :=
  setup.chain.receive (edges setup) setup.path part

/-- Runs a failure of the transport through the chain. -/
def fail (setup : Setup σ P Req Resp) (e : CallError) : Pass σ P Resp → Pass σ P Resp :=
  setup.chain.fail (edges setup) setup.path e

/-- `enqueue`: lets parts into the chain one by one, all under the lock of the sends. A part after
the end, or after the call was terminated, is refused with everything behind it. -/
def enqueue (setup : Setup σ P Req Resp) :
    List (RequestPart Req) → Pass σ P Resp → Result Unit × Pass σ P Resp
  | [], p => (.ok (), p)
  | part :: rest, p =>
    if p.call.closed then (.error .streamAlreadyClosed, p)
    else if p.call.terminated then (.error .cancelled, p)
    else
      let closed := part.kind == .finish
      enqueue setup rest (send setup part { p with call := { p.call with closed } })

end Pass

namespace Call

variable {σ P Req Resp : Type}

/-- Sends a batch: the receipts to wait for, or the reason why a part was refused. -/
def send (setup : Setup σ P Req Resp) (parts : List (RequestPart Req)) (call : Call σ Resp) :
    Result (List Receipt) × Pass σ P Resp :=
  match Pass.enqueue setup parts (.start call) with
  | (.ok (), p) => (.ok p.receipts, p)
  | (.error e, p) => (.error e, p)

/-- The parts that open a call. A request that is a stream only sends its headers. -/
def opening (setup : Setup σ P Req Resp) (request : Option Req) : List (RequestPart Req) :=
  .headers setup.options.requestHeaders ::
    match request with
    | some message => [.message message (.compressed setup.options.compress), .finish]
    | none => []

/-- Starts a call, given the answer of the transport to the invocation. A failed invocation
settles the call and leaves the transport alone; the receipts of the opening are dropped. -/
def start (setup : Setup σ P Req Resp) (invocation : Result Unit) (request : Option Req)
    (call : Call σ Resp) : Pass σ P Resp :=
  match invocation with
  | .error e => Pass.failWith e (.start { call with terminated := true })
  | .ok () => (call.send setup (opening setup request)).2

/-- `terminate`: fails the call and cancels the transport call, once. The flag tells whether this
was the time. No lock is held from the first of these to the last. -/
def terminate (setup : Setup σ P Req Resp) (e : CallError) (call : Call σ Resp) :
    Bool × Pass σ P Resp :=
  if call.terminated then (false, .start call)
  else
    let p := Pass.failWith e (Pass.fail setup e (.start { call with terminated := true }))
    (true, { p with ops := p.ops ++ [.cancel] })

def cancel (setup : Setup σ P Req Resp) (call : Call σ Resp) : Bool × Pass σ P Resp :=
  call.terminate setup .cancelled

/-- The deadline passes. A call that has its status is left alone. -/
def expire (setup : Setup σ P Req Resp) (call : Call σ Resp) : Bool × Pass σ P Resp :=
  match call.status? with
  | some _ => (false, .start call)
  | none => call.terminate setup .deadlineExceeded

/-- `on_part`: the transport delivers a part. One that cannot be decoded fails the call. -/
def onPart (setup : Setup σ P Req Resp) (part : ResponsePart P) (call : Call σ Resp) :
    Pass σ P Resp :=
  match part.tryMap setup.responses.decode with
  | .ok decoded => Pass.receive setup decoded (.start call)
  | .error e => (Pass.failWith e (Pass.fail setup e (.start call))).abandon

/-- `on_error`: the transport fails. Nothing follows, so the call is settled even if the chain
swallows the failure. -/
def onError (setup : Setup σ P Req Resp) (e : CallError) (call : Call σ Resp) :
    Pass σ P Resp :=
  Pass.failWith e (Pass.fail setup e (.start call))

/-- Changes the stream of messages, if the response is one. -/
def mapStream (f : MessageStream Resp → MessageStream Resp) (call : Call σ Resp) : Call σ Resp :=
  { call with
    accumulator := { call.accumulator with response := call.accumulator.response.mapStream f } }

/-- Polls the response stream. -/
def pull (call : Call σ Resp) : Poll (Result (Option Resp)) × Call σ Resp :=
  match call.accumulator.response.stream? with
  | some messages => (messages.pull.1, call.mapStream fun s => s.pull.2)
  | none => (.pending, call)

/-- Polls the response stream through the face that shows an error once. -/
def next (call : Call σ Resp) : Poll (Option (Result Resp)) × Call σ Resp :=
  match call.accumulator.response.stream? with
  | some messages => (messages.next.1, call.mapStream fun s => s.next.2)
  | none => (.pending, call)

/-- Pulls until something other than a message comes. -/
def drain (call : Call σ Resp) : List (Poll (Result (Option Resp))) × Call σ Resp :=
  match call.accumulator.response.stream? with
  | some messages => (messages.drain.1, call.mapStream fun s => s.drain.2)
  | none => ([], call)

end Call

end Client

end RemoteCall
