import RemoteCall.ChainSteps
import RemoteCall.Client.Call

/-!
# Client calls step by step

`Client.Call` takes each operation of a call as a whole. Here the same operations are routines over
a `Floor`, in the steps after which others may come in: the tasks that send, the transport that
delivers, the deadline, the consumer of the stream, and whoever cancels the call.

What one lock covers is one step: a decision of the order filter, the flag that a call is terminated
once, each slot of the outcome, the response. A part that is admitted reaches the response later,
and an ending is written to the slots and to the response one after the other. Only the lock of the
sends (`Floor.sending`) is held from one step to another.

Run with nothing in between, each routine does what the operation of `Client.Call` does.
-/

namespace RemoteCall.Client

/-- What overlapping operations of a call share. -/
structure Floor (σ P Resp : Type) where
  call : Call σ Resp
  /-- What the transport was asked, in order. -/
  ops : List (TransportOp P) := []
  /-- What polls of the response stream have answered, in order. -/
  answers : List (Poll (Result (Option Resp))) := []
  /-- What has reached the response, in order. Nothing depends on it. -/
  history : List (Arrival (ResponsePart Resp)) := []
  /-- The endings that have reached the status, in order. Nothing depends on them either. -/
  verdicts : List Ending := []
  /-- Somebody holds the lock of the sends. -/
  sending : Bool := false

namespace Floor

variable {σ P Resp : Type}

def mapCall (f : Call σ Resp → Call σ Resp) (floor : Floor σ P Resp) : Floor σ P Resp :=
  { floor with call := f floor.call }

def mapAccumulator (f : Accumulator Resp → Accumulator Resp) (floor : Floor σ P Resp) :
    Floor σ P Resp :=
  floor.mapCall fun call => { call with accumulator := f call.accumulator }

def ask (op : TransportOp P) (floor : Floor σ P Resp) : Floor σ P Resp :=
  { floor with ops := floor.ops ++ [op] }

/-- Something reaches the response. -/
def log (arrival : Arrival (ResponsePart Resp)) (floor : Floor σ P Resp) : Floor σ P Resp :=
  { floor with history := floor.history ++ [arrival] }

/-- An ending reaches the status. -/
def conclude (ending : Ending) (floor : Floor σ P Resp) : Floor σ P Resp :=
  { floor.mapAccumulator (fun a => { a with outcome := a.outcome.conclude ending.status }) with
    verdicts := floor.verdicts ++ [ending] }

/-- One poll of the response stream. -/
def poll (floor : Floor σ P Resp) : Floor σ P Resp :=
  { floor with call := floor.call.pull.2, answers := floor.answers ++ [floor.call.pull.1] }

def setSending (sending : Bool) (floor : Floor σ P Resp) : Floor σ P Resp := { floor with sending }

end Floor

namespace Accumulator

variable {Resp : Type}

def settleInitial (value : Result Metadata) (a : Accumulator Resp) : Accumulator Resp :=
  { a with outcome := { a.outcome with initial := a.outcome.initial.settle value } }

def settleTrailing (value : Result Metadata) (a : Accumulator Resp) : Accumulator Resp :=
  { a with outcome := { a.outcome with trailing := a.outcome.trailing.settle value } }

def failResponse (e : CallError) (a : Accumulator Resp) : Accumulator Resp :=
  { a with response := a.response.fail e }

/-- Offers a message to the response. The flag tells that there is one already where one is
allowed. -/
def offer (m : Resp) (a : Accumulator Resp) : Bool × Accumulator Resp :=
  match a.response with
  | .single message violation =>
    if message.isResolved then (true, a)
    else (false, { a with response := .single (message.settle (.ok m)) violation })
  | .stream messages => (false, { a with response := .stream (messages.push m).2 })

/-- Notes the first violation. -/
def violate (e : CallError) (a : Accumulator Resp) : Accumulator Resp :=
  match a.response with
  | .single message violation =>
    { a with response := .single message (some (violation.getD e)) }
  | .stream _ => a

/-- Finishes a response that is a stream. The flag tells that its one message is missing to
another. -/
def finishMessages (ending : Ending) (a : Accumulator Resp) : Bool × Accumulator Resp :=
  match a.response with
  | .single message _ => (!message.isResolved, a)
  | .stream messages =>
    (false, { a with response := .stream (messages.finishWith ending.outcome).2 })

end Accumulator

namespace Call

variable {σ Resp : Type}

/-- Takes a part through the order filter. -/
def allow (part : ResponsePart Resp) (call : Call σ Resp) :
    List (ResponsePart Resp) × Call σ Resp :=
  ((call.order.allow part).1, { call with order := (call.order.allow part).2 })

/-- Marks the call as terminated. The flag tells whether it was already. -/
def swapTerminated (call : Call σ Resp) : Bool × Call σ Resp :=
  (call.terminated, { call with terminated := true })

end Call

namespace Steps

variable {σ P Req Resp : Type}

/-- A routine on the floor of a call. Its value is most often the receipts of its parts. -/
abbrev On (σ P Resp : Type) : Type → Type := Routine (Floor σ P Resp)

/-- One step that reads and changes the call. -/
def atCall {α : Type} (f : Call σ Resp → α × Call σ Resp) : On σ P Resp α :=
  .atomically fun floor => ((f floor.call).1, { floor with call := (f floor.call).2 })

/-- One step that changes the accumulator. -/
def onAccumulator (f : Accumulator Resp → Accumulator Resp) : On σ P Resp Unit :=
  .act (·.mapAccumulator f)

/-- Writes an ending to the status. -/
def conclude (ending : Ending) : On σ P Resp Unit := .act (Floor.conclude ending)

/-- Fails the response. -/
def failResponse (e : CallError) : On σ P Resp Unit :=
  .act fun floor => (floor.mapAccumulator (·.failResponse e)).log (.failure e)

/-- `handle_error`: fails everything still open, the response first and the status last. -/
def handleError (e : CallError) : On σ P Resp Unit := do
  failResponse e
  onAccumulator (·.settleInitial (.error e))
  onAccumulator (·.settleTrailing (.error e))
  conclude (.failure e)

/-- A message reaches the response. -/
def offer (m : Resp) (flags : MessageFlags) : On σ P Resp Bool :=
  .atomically fun floor => ((floor.call.accumulator.offer m).1,
    (floor.mapAccumulator fun a => (a.offer m).2).log (.part (.message m flags)))

/-- An end reaches the response. -/
def finishMessages (status : Status) (trailers : Metadata) : On σ P Resp Bool :=
  .atomically fun floor => ((floor.call.accumulator.finishMessages (.finish status trailers)).1,
    (floor.mapAccumulator fun a => (a.finishMessages (.finish status trailers)).2).log
      (.part (.finish status trailers)))

/-- The status behind an end, if the one message is missing. -/
def lacking (status : Status) (trailers : Metadata) : On σ P Resp Unit :=
  if status.isOk then do
    failResponse Accumulator.noMessage
    conclude (.failure Accumulator.noMessage)
  else do
    failResponse (.status status)
    conclude (.finish status trailers)

/-- `handle` of an end: the trailers and the headers, the response, and last the status. -/
def finish (status : Status) (trailers : Metadata) : On σ P Resp Unit := do
  onAccumulator (·.settleTrailing (.ok trailers))
  onAccumulator (·.settleInitial (Ending.finish status trailers).headers)
  let missing ← finishMessages status trailers
  if missing then lacking status trailers else conclude (.finish status trailers)

/-- `handle`: takes a part. The flag tells of a violation of the protocol. -/
def accept : ResponsePart Resp → On σ P Resp Bool
  | .headers m => do
    onAccumulator (·.settleInitial (.ok m))
    return false
  | .message m flags => do
    let refused ← offer m flags
    if refused then
      onAccumulator (·.violate Accumulator.manyMessages)
      handleError Accumulator.manyMessages
      return true
    else return false
  | .finish status trailers => do
    finish status trailers
    return false

/-- `abandon`: gives up on the transport, unless that was done. -/
def abandon : On σ P Resp Unit := do
  let gone ← atCall Call.swapTerminated
  if gone then return else .act (·.ask .cancel)

/-- `accumulate`: puts one part into the accumulator, and gives up on a violation. Nothing is handed
over, so there are no receipts. -/
def accumulate (part : ResponsePart Resp) : On σ P Resp (List Receipt) := do
  let violated ← accept part
  if violated then
    abandon
    return []
  else return []

/-- `deliver`: takes a part that made it through the chain. Asks the order filter, takes what it
admits, and releases the transport behind an end. -/
def deliver (part : ResponsePart Resp) : On σ P Resp (List Receipt) := do
  let admitted ← atCall (Call.allow part)
  let receipts ← Routine.forEach accumulate admitted
  if admitted.any ResponsePart.isFinish then
    abandon
    return receipts
  else return receipts

/-- `fail_application`: takes a failure that made it through the chain. -/
def failWith (e : CallError) : On σ P Resp (List Receipt) := do
  handleError e
  return []

/-- `to_transport`: hands a part to the transport. A part that cannot be encoded is rejected
instead. -/
def toTransport (setup : Setup σ P Req Resp) (part : RequestPart Req) :
    On σ P Resp (List Receipt) :=
  match part.tryMap setup.requests.encode with
  | .ok encoded =>
    .atomically fun floor =>
      ([.issued floor.call.sent],
        (floor.mapCall fun call => { call with sent := call.sent + 1 }).ask (.send encoded))
  | .error e => return [.known (.error e)]

/-- The edges of the chain of a call. -/
def edges (setup : Setup σ P Req Resp) :
    EdgeRoutines σ (RequestPart Req) (ResponsePart Resp) (Floor σ P Resp) Receipt where
  transport := toTransport setup
  application := deliver
  failure := failWith
  shared floor := floor.call.shared
  note update := (·.mapCall fun call => { call with shared := update call.shared })

/-- Runs a part of the application through the chain. -/
def send (setup : Setup σ P Req Resp) (part : RequestPart Req) : On σ P Resp (List Receipt) :=
  setup.chain.sendSteps (edges setup) setup.path part

/-- Runs an arrival from the transport through the chain. -/
def arrive (setup : Setup σ P Req Resp) (arrival : Arrival (ResponsePart Resp)) :
    On σ P Resp (List Receipt) :=
  setup.chain.arriveSteps (edges setup) setup.path arrival

/-- Lets parts into the chain one by one. A part after the end, or after the call was terminated, is
refused with everything behind it. -/
def enqueue (setup : Setup σ P Req Resp) :
    List (RequestPart Req) → On σ P Resp (Result (List Receipt))
  | [] => return .ok []
  | part :: rest => do
    let closed ← .read fun floor => floor.call.closed
    if closed then return .error .streamAlreadyClosed
    else
      let gone ← .read fun floor => floor.call.terminated
      if gone then return .error .cancelled
      else
        .act (·.mapCall fun call => { call with closed := part.kind == .finish })
        let receipts ← send setup part
        let more ← enqueue setup rest
        return more.map (receipts ++ ·)

/-- `enqueue`: all of a batch is sent under the lock of the sends. -/
def sendBatch (setup : Setup σ P Req Resp) (parts : List (RequestPart Req)) :
    On σ P Resp (Result (List Receipt)) := do
  .await (fun floor => !floor.sending) (Floor.setSending true)
  let result ← enqueue setup parts
  .act (Floor.setSending false)
  return result

/-- `Call.start`, step by step. -/
def start (setup : Setup σ P Req Resp) (invocation : Result Unit) (request : Option Req) :
    On σ P Resp Unit :=
  match invocation with
  | .error e => do
    .act (·.mapCall fun call => { call with terminated := true })
    handleError e
  | .ok () => do
    let _ ← sendBatch setup (Call.opening setup request)
    return

/-- Fails the call: through the chain first, and then in any case, even if the chain swallows the
failure. -/
def failCall (setup : Setup σ P Req Resp) (e : CallError) : On σ P Resp Unit := do
  let _ ← arrive setup (.failure e)
  handleError e

/-- `terminate`: fails the call and cancels the transport call, once. -/
def terminate (setup : Setup σ P Req Resp) (e : CallError) : On σ P Resp Bool := do
  let gone ← atCall Call.swapTerminated
  if gone then return false
  else
    failCall setup e
    .act (·.ask .cancel)
    return true

/-- The deadline passes. A call that has its status is left alone. -/
def expire (setup : Setup σ P Req Resp) : On σ P Resp Bool := do
  let status ← .read fun floor => floor.call.status?
  if status.isSome then return false else terminate setup .deadlineExceeded

/-- `on_part`: the transport delivers a part. One that cannot be decoded fails the call. -/
def onPart (setup : Setup σ P Req Resp) (part : ResponsePart P) : On σ P Resp Unit :=
  match part.tryMap setup.responses.decode with
  | .ok decoded => do
    let _ ← arrive setup (.part decoded)
    return
  | .error e => do
    failCall setup e
    abandon

end Steps

end RemoteCall.Client
