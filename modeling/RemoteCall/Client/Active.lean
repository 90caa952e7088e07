import RemoteCall.Client.Forwarder

/-!
# Client calls at work

`Active` is a client call with everything that moves it: the errands of the application, the
cleanups that forwarders leave behind, and the watchdog of its deadline. The transport's side of
it are `onPart` and `onError`; the rest are moves, which happen by themselves:

* `moveErrand?` lets an errand go on;
* `expire?` lets the watchdog act once its time has come;
* `dissolve?` lets go of a call that nobody refers to any more.

Each move yields what the transport is asked, in order. Which acceptances are settled is looked
up in `signals` for parts and in `cancelSignal` for the cancellation.
-/

namespace RemoteCall.Client

/-- What the application does at a call. -/
inductive Job (Req : Type) where
  /-- Send a batch of parts. -/
  | send (parts : List (RequestPart Req))
  /-- Wait until the parts of a batch are accepted. -/
  | accept (batch : Result (List Receipt))
  /-- Cancel the call. -/
  | cancel
  /-- Wait until the cancellation is accepted. -/
  | awaitCancel
  /-- Forward requests. -/
  | forward (source : Forwarder Req)
  /-- Forward requests, and then wait for the response. -/
  | collect (source : Forwarder Req)
  /-- Wait for the response. -/
  | awaitResponse

/-- The value of a finished job. -/
inductive Answer (Resp : Type) where
  | sent (result : Result Unit)
  | cancelled
  | responded (result : Result Resp)

namespace Job

/-- Whether a job leaves a cleanup behind unless it succeeds. -/
def isGuarded {Req : Type} : Job Req → Bool
  | forward _ => true
  | collect _ => true
  | _ => false

end Job

def Answer.isFailure {Resp : Type} : Answer Resp → Bool
  | sent (.error _) => true
  | responded (.error _) => true
  | _ => false

/-- A call at work. -/
structure Active (σ P Req Resp : Type) where
  setup : Setup σ P Req Resp
  call : Call σ Resp
  /-- When the watchdog acts. -/
  due : Option Nat := none
  errands : List (Errand (Job Req)) := []
  /-- The values of finished errands, since the list was last emptied. -/
  finished : Named (Answer Resp) := []
  /-- The application holds on to the call. -/
  held : Bool := true
  /-- The application holds on to a handle for sending. -/
  senderHeld : Bool := false
  /-- Nobody refers to the call any more. -/
  dissolved : Bool := false

namespace Active

variable {σ P Req Resp : Type}

/-- Takes over the call of a pass, and yields what it asked. -/
def settle (a : Active σ P Req Resp) (p : Pass σ P Resp) :
    Active σ P Req Resp × List (TransportOp P) :=
  ({ a with call := p.call }, p.ops)

/-- Starts a call at a time. The watchdog is set if the invocation succeeds. -/
def start (setup : Setup σ P Req Resp) (shared : σ) (now : Nat) (invocation : Result Unit)
    (request : Option Req) : Active σ P Req Resp × List (TransportOp P) :=
  let call := Call.fresh setup.shape shared
  let due :=
    match invocation with
    | .ok () => setup.options.timeout.map (now + ·)
    | .error _ => none
  settle { setup, call, due } (call.start setup invocation request)

/-- The transport delivers a part. -/
def onPart (a : Active σ P Req Resp) (part : ResponsePart P) :
    Active σ P Req Resp × List (TransportOp P) :=
  a.settle (a.call.onPart a.setup part)

/-- The transport fails. -/
def onError (a : Active σ P Req Resp) (e : CallError) :
    Active σ P Req Resp × List (TransportOp P) :=
  a.settle (a.call.onError a.setup e)

def engage (a : Active σ P Req Resp) (errand : Errand (Job Req)) : Active σ P Req Resp :=
  { a with errands := a.errands ++ [errand] }

/-- Sends a batch at once; its acceptance is an errand. -/
def enqueue (a : Active σ P Req Resp) (parts : List (RequestPart Req)) :
    Result (List Receipt) × Active σ P Req Resp × List (TransportOp P) :=
  let (batch, p) := a.call.send a.setup parts
  (batch, a.settle p)

/-- The cleanup that a forwarder leaves behind. -/
def cleanup : Errand (Job Req) := { job := .cancel }

def moveJob? (a : Active σ P Req Resp) (signals : Nat → Signal) (cancelSignal : Signal) :
    Job Req → Option (Turn (Job Req) (Answer Resp) × Pass σ P Resp)
  | .send parts =>
    let (batch, p) := a.call.send a.setup parts
    some (.goesOn (.accept batch), p)
  | .accept (.error e) => some (.done (.sent (.error e)), .start a.call)
  | .accept (.ok receipts) =>
    (Receipt.awaitAll signals receipts).map fun result => (.done (.sent result), .start a.call)
  | .cancel =>
    let (first, p) := a.call.cancel a.setup
    some (if first then .goesOn .awaitCancel else .done .cancelled, p)
  | .awaitCancel => cancelSignal.outcome?.map fun _ => (.done .cancelled, .start a.call)
  | .forward source =>
    (source.move? a.setup signals a.call).map fun (turn, p) => (turn.map .forward .sent, p)
  | .collect source =>
    (source.move? a.setup signals a.call).map fun (turn, p) =>
      match turn with
      | .goesOn source => (.goesOn (.collect source), p)
      | .done (.ok ()) => (.goesOn .awaitResponse, p)
      | .done (.error e) => (.done (.responded (.error e)), p)
  | .awaitResponse =>
    a.call.accumulator.response.value?.map fun result =>
      (.done (.responded result), .start a.call)

/-- One move of an errand. A guarded job that fails leaves its cleanup. -/
def moveErrand? (a : Active σ P Req Resp) (signals : Nat → Signal) (cancelSignal : Signal) :
    Option (Active σ P Req Resp × List (TransportOp P)) :=
  match Errand.next? (a.moveJob? signals cancelSignal) a.errands with
  | none => none
  | some (before, errand, (turn, p), behind) =>
    let (a, ops) := a.settle p
    match turn with
    | .goesOn job => some ({ a with errands := before ++ { errand with job } :: behind }, ops)
    | .done answer =>
      let finished :=
        match errand.id with
        | some id => a.finished ++ [(id, answer)]
        | none => a.finished
      let left := if errand.job.isGuarded && answer.isFailure then [cleanup] else []
      some ({ a with errands := before ++ behind ++ left, finished }, ops)

/-- The watchdog acts once its time has come: it fails a call that has no status yet. -/
def expire? (a : Active σ P Req Resp) (now : Nat) :
    Option (Active σ P Req Resp × List (TransportOp P)) :=
  match a.due with
  | none => none
  | some due =>
    if now < due then none
    else
      let (first, p) := a.call.expire a.setup
      let (a, ops) := { a with due := none }.settle p
      some (if first then a.engage { job := .awaitCancel } else a, ops)

/-- Drops the errand of a name. A guarded job on its way leaves its cleanup. -/
def drop (a : Active σ P Req Resp) (id : String) : Active σ P Req Resp :=
  let left := a.errands.filterMap fun errand =>
    if errand.isNamed id && errand.begun && errand.job.isGuarded then some cleanup else none
  { a with errands := Errand.erase a.errands id ++ left }

/-- Lets go of a call that nobody refers to any more. `transportHolds` says whether the transport
still has the call to deliver to. -/
def dissolve? (a : Active σ P Req Resp) (transportHolds : Bool) : Option (Active σ P Req Resp) :=
  if a.held || a.senderHeld || transportHolds || !a.errands.isEmpty || a.dissolved then none
  else some { a with
    due := none
    dissolved := true
    call := a.call.mapStream (·.abandon) }

end Active

end RemoteCall.Client
