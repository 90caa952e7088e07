import RemoteCall.Errand
import RemoteCall.Server.Handler

/-!
# Serving a call

`Serving` is an inbound call with everything that moves it: the task of its handler, and whoever
got hold of its writer, its context or its request stream. The transport's side of it are
`receive`, `receiveError` and `release`; the rest are moves, which happen by themselves:

* `moveTask?` lets the handler go on;
* `moveErrand?` lets somebody else's write or wait go on;
* `dissolve?` lets go of a call that nobody can write to any more.

Each move yields the parts for the transport. Which acceptances are settled is looked up in
`signals`, and `now` is the time in milliseconds.
-/

namespace RemoteCall.Server

/-- What others do at a call. -/
inductive Job (Resp : Type) where
  /-- Write a message. -/
  | write (message : Resp) (compression : Compression)
  /-- Wait until the parts of a write are accepted. -/
  | accept (batch : Result (List Receipt))
  /-- Wait until the call is cancelled or over. -/
  | awaitCancelled

/-- The value of a finished job. -/
inductive Answer where
  | written (result : Result Unit)
  | cancelled

/-- Who else holds on to what a handler was given. -/
structure Loan where
  writer : Bool := false
  context : Bool := false
  requests : Bool := false

/-- A call that is served. -/
structure Serving (σ P Req Resp S : Type) where
  method : Method σ P Req Resp
  handler : Handler σ Req Resp S
  /-- The transport permits compressed messages. -/
  compression : Bool
  call : Call σ Req
  task : Task Req S := .absent
  /-- The transport holds on to the call. -/
  held : Bool := true
  loan : Loan := {}
  /-- The request stream was given away. -/
  requestsLent : Bool := false
  errands : List (Errand (Job Resp)) := []
  /-- The values of finished errands, since the list was last emptied. -/
  finished : Named Answer := []
  /-- Nobody can write to the call any more. -/
  dissolved : Bool := false

/-- What a wait is followed by. -/
inductive Resumption (S : Type) where
  | state (state : S)
  | returned (result : Result Unit)

/-- What a wait is followed by, once it is over. -/
def Wait.resume? {σ Req S : Type} (now : Nat) (signals : Nat → Signal) (call : Call σ Req) :
    Wait Req S → Option (Resumption S × Call σ Req)
  | request go =>
    match call.requests.pull with
    | (.ready answer, requests) => some (.state (go answer), { call with requests })
    | (.pending, _) => none
  | receipts batch go =>
    (Receipt.awaitAll signals batch).map fun result => (.state (go result), call)
  | cancellation go => if call.isCancelled then some (.state go, call) else none
  | time due go => if due ≤ now then some (.state go, call) else none
  | response batch =>
    (Receipt.awaitAll signals batch).map fun result => (.returned result, call)

namespace Serving

variable {σ P Req Resp S : Type}

/-- A call that nothing has arrived for. -/
def fresh (method : Method σ P Req Resp) (handler : Handler σ Req Resp S) (compression : Bool)
    (path : String) (shared : σ) : Serving σ P Req Resp S where
  method := method
  handler := handler
  compression := compression
  call := .fresh path shared

def path (s : Serving σ P Req Resp S) : String := s.call.context.path

def isCancelled (s : Serving σ P Req Resp S) : Bool := s.call.isCancelled

/-- Carries out what a pass asked for: the handler is started, and parts go to the transport. -/
def settle (s : Serving σ P Req Resp S) (p : Pass σ P Req) :
    Serving σ P Req Resp S × List (ResponsePart P) :=
  let task := p.ops.foldl (fun task op =>
    match op with
    | .start request => .spawned request
    | .send _ => task) s.task
  let parts := p.ops.filterMap fun op =>
    match op with
    | .start _ => none
    | .send part => some part
  ({ s with call := p.call, task }, parts)

def withTask (s : Serving σ P Req Resp S) (task : Task Req S) : Serving σ P Req Resp S :=
  { s with task }

/-- The transport delivers a part. -/
def receive (s : Serving σ P Req Resp S) (part : RequestPart P) :
    Serving σ P Req Resp S × List (ResponsePart P) :=
  s.settle (s.call.receive s.method part)

/-- The transport reports that the client cancelled or was lost. -/
def receiveError (s : Serving σ P Req Resp S) (e : CallError) :
    Serving σ P Req Resp S × List (ResponsePart P) :=
  s.settle (s.call.receiveError s.method e)

/-- The transport lets go of the call. -/
def release (s : Serving σ P Req Resp S) : Serving σ P Req Resp S :=
  { s with call := s.call.release, held := false }

/-- The handler has returned. -/
def conclude (s : Serving σ P Req Resp S) (result : Result Unit) :
    Serving σ P Req Resp S × List (ResponsePart P) :=
  let (s, parts) := s.settle (s.call.finish s.method result)
  (s.withTask .gone, parts)

/-- Goes on after a wait. -/
def resume (s : Serving σ P Req Resp S) (r : Resumption S × Call σ Req) :
    Serving σ P Req Resp S × List (ResponsePart P) :=
  let s := { s with call := r.2 }
  match r.1 with
  | .state state => (s.withTask (.awake state), [])
  | .returned result => s.conclude result

/-- Whether the handler has a request stream to read from. -/
def hasRequests (s : Serving σ P Req Resp S) : Bool :=
  s.method.shape.streamsRequests && !s.requestsLent

/-- Acts on a wish. -/
def grant (s : Serving σ P Req Resp S) (now : Nat) :
    Wish σ Req Resp S → Serving σ P Req Resp S × List (ResponsePart P)
  | .pull go =>
    if s.hasRequests then (s.withTask (.checking (.request go)), [])
    else (s.withTask (.awake (go (.ok none))), [])
  | .write message compression go =>
    match s.call.write s.method s.compression message compression with
    | (.ok receipts, p) =>
      let (s, parts) := s.settle p
      (s.withTask (.checking (.receipts receipts go)), parts)
    | (.error e, p) =>
      let (s, parts) := s.settle p
      (s.withTask (.awake (go (.error e))), parts)
  | .stageHeader name value go =>
    ({ s with
        call := { s.call with context := s.call.context.stageHeader name value }
        task := .awake go }, [])
  | .stageTrailer name value go =>
    ({ s with
        call := { s.call with context := s.call.context.stageTrailer name value }
        task := .awake go }, [])
  | .allowCompression allowed go =>
    ({ s with
        call := { s.call with context := { s.call.context with compression := allowed } }
        task := .awake go }, [])
  | .observe go => (s.withTask (.awake (go s.call.context.view)), [])
  | .note update go =>
    let context := { s.call.context with shared := update s.call.context.shared }
    ({ s with call := { s.call with context }, task := .awake go }, [])
  | .awaitCancelled go => (s.withTask (.checking (.cancellation go)), [])
  | .sleep milliseconds go => (s.withTask (.checking (.time (now + milliseconds) go)), [])
  | .lend go =>
    let loan := { s.loan with writer := s.method.shape.streamsResponses, context := true }
    ({ s with loan, task := .awake go }, [])
  | .lendStream go =>
    let loan := { s.loan with requests := s.method.shape.streamsRequests }
    ({ s with loan, requestsLent := true, task := .awake go }, [])
  | .finish (.error e) => s.conclude (.error e)
  | .finish (.ok none) => s.conclude (.ok ())
  | .finish (.ok (some response)) =>
    match s.call.write s.method s.compression response .deferred with
    | (.ok receipts, p) =>
      let (s, parts) := s.settle p
      (s.withTask (.checking (.response receipts)), parts)
    | (.error e, p) =>
      let (s, parts) := s.settle p
      let (s, more) := s.conclude (.error e)
      (s, parts ++ more)

/-- One move of the handler's task. A poll that begins after the cancellation drops the handler. -/
def moveTask? (s : Serving σ P Req Resp S) (now : Nat) (signals : Nat → Signal) :
    Option (Serving σ P Req Resp S × List (ResponsePart P)) :=
  match s.task with
  | .absent => none
  | .gone => none
  | .spawned request =>
    if s.isCancelled then some (s.withTask .gone, [])
    else some (s.withTask (.awake (s.handler.start s.path request)), [])
  | .awake state => some (s.grant now (s.handler.wish state))
  | .checking wait =>
    match wait.resume? now signals s.call with
    | some r => some (s.resume r)
    | none => some (s.withTask (.waiting wait), [])
  | .waiting wait =>
    if s.isCancelled then some (s.withTask .gone, [])
    else (wait.resume? now signals s.call).map s.resume

/-- The clock has moved: a handler whose time has come is polled. -/
def tick (s : Serving σ P Req Resp S) (now : Nat) : Serving σ P Req Resp S :=
  match s.task with
  | .waiting wait@(.time due _) =>
    if due ≤ now && !s.isCancelled then s.withTask (.checking wait) else s
  | _ => s

def moveJob? (s : Serving σ P Req Resp S) (signals : Nat → Signal) :
    Job Resp → Option (Turn (Job Resp) Answer × Pass σ P Req)
  | .write message compression =>
    let (batch, p) := s.call.write s.method s.compression message compression
    some (.goesOn (.accept batch), p)
  | .accept (.error e) => some (.done (.written (.error e)), .start s.call)
  | .accept (.ok receipts) =>
    (Receipt.awaitAll signals receipts).map fun result =>
      (.done (.written result), .start s.call)
  | .awaitCancelled =>
    if s.isCancelled then some (.done .cancelled, .start s.call) else none

/-- One move of somebody else's errand. -/
def moveErrand? (s : Serving σ P Req Resp S) (signals : Nat → Signal) :
    Option (Serving σ P Req Resp S × List (ResponsePart P)) :=
  match Errand.next? (s.moveJob? signals) s.errands with
  | none => none
  | some (before, errand, (turn, p), behind) =>
    let (s, parts) := s.settle p
    match turn with
    | .goesOn job => some ({ s with errands := before ++ { errand with job } :: behind }, parts)
    | .done answer =>
      let finished :=
        match errand.id with
        | some id => s.finished ++ [(id, answer)]
        | none => s.finished
      some ({ s with errands := before ++ behind, finished }, parts)

def Job.writes {Resp : Type} : Job Resp → Bool
  | .awaitCancelled => false
  | _ => true

/-- Whether somebody can still write to the call. -/
def isHeld (s : Serving σ P Req Resp S) : Bool :=
  s.held || s.task.isAlive || s.loan.writer || s.errands.any fun errand => Job.writes errand.job

/-- Lets go of a call that nobody can write to any more. -/
def dissolve? (s : Serving σ P Req Resp S) : Option (Serving σ P Req Resp S) :=
  if s.isHeld || s.dissolved then none
  else some { s with
    call := { s.call with requests := s.call.requests.abandon }
    dissolved := true }

def engage (s : Serving σ P Req Resp S) (errand : Errand (Job Resp)) : Serving σ P Req Resp S :=
  { s with errands := s.errands ++ [errand] }

end Serving

end RemoteCall.Server
