import RemoteCall.Description
import RemoteCall.Session.Step

/-!
# Sessions

A session is a list of calls over one server in virtual time. `Session.perform` does what a step
says and lets every circuit move until it is quiet; `Session.step` also reports what that showed:
the answer of the step, the values of errands that finished, what the transports saw, what the
handlers and the interceptors logged, and a snapshot of each client call.

Handlers get their names, `h1`, `h2` and so on, when they start.
-/

namespace RemoteCall

namespace Session

/-- A call of a session. -/
structure Entry where
  /-- The name of the call, unless only an errand knows it. -/
  name : Option String
  /-- The name of its handler, once that has started. -/
  handler : Option String := none
  circuit : Circuit

end Session

open Session

/-- The state of a session. -/
structure Session where
  /-- The codec of clients. -/
  codec : Codec Bytes String
  /-- The options of a call that brings none. -/
  defaults : CallOptions := {}
  server : Registry
  /-- The time in milliseconds. -/
  now : Nat := 0
  entries : List Entry := []
  /-- How many handlers have started. -/
  handlers : Nat := 0
  /-- Uses of the client that wait for their first poll. -/
  prospects : Named ClientUse := []

namespace Session

/-- The name of an errand whose value answers the step itself. Names of a session do not hold a
line break. -/
def directId : String := "\n"

/-- The errand for a job whose value is wanted in a certain manner. -/
def Manner.errand {J : Type} (job : J) : Manner → Errand J
  | tracked id begun => ⟨some id, begun, job⟩
  | direct => ⟨some directId, true, job⟩

/-- The answer of a step that starts an errand, unless the errand has to give it. -/
def Manner.answer? : Manner → Option Json.Value
  | tracked _ _ => some .null
  | direct => none

/-- What a step leads to: its answer, unless an errand has to give it, and the state. -/
abbrev Outcome (α : Type) := Option Json.Value × α

def answering {α : Type} (answer : Json.Value) (state : α) : Outcome α := (some answer, state)

/-! ### Acting on a circuit -/

/-- Starts an errand at a client call. -/
def engageNear (manner : Manner) (job : Client.Job String) (near : NearEnd) :
    Outcome (NearEnd × List (Client.TransportOp Bytes)) :=
  (manner.answer?, near.engage (manner.errand job), [])

/-- The form of what the face `next` of a stream shows. -/
def ofNext : Poll (Option (Result String)) → Json.Value
  | .pending => .string "pending"
  | .ready none => .string "none"
  | .ready (some result) => .object [("some", Json.ofTextResult result)]

/-- What a client call tells about itself, after counting. -/
def ofInfo (near : NearEnd) : Json.Value :=
  .object
    [("path", .string near.setup.path),
      ("options", Json.ofOptions near.setup.options),
      ("count", Json.ofNat near.call.shared.count)]

/-- What the application does at a client call. -/
def useCall (near : NearEnd) : CallUse → Outcome (NearEnd × List (Client.TransportOp Bytes))
  | .send message compression manner =>
    engageNear manner (.send [near.setup.message message compression]) near
  | .sendMany messages manner =>
    let (batch, near, ops) := near.enqueue (messages.map (near.setup.message · .deferred))
    (manner.answer?, near.engage (manner.errand (.accept batch)), ops)
  | .sendEnd manner => engageNear manner (.send [.finish]) near
  | .cancel manner => engageNear manner .cancel near
  | .forward source manner => engageNear manner (.forward source) near
  | .pull =>
    let (answer, call) := near.call.pull
    answering (Json.ofPoll Json.ofItem answer) ({ near with call }, [])
  | .next =>
    let (answer, call) := near.call.next
    answering (ofNext answer) ({ near with call }, [])
  | .drain =>
    let (answers, call) := near.call.drain
    answering (.array (answers.map (Json.ofPoll Json.ofItem))) ({ near with call }, [])
  | .holdSender => answering (.string Description.sender) ({ near with senderHeld := true }, [])
  | .dropSender => answering (.bool near.senderHeld) ({ near with senderHeld := false }, [])
  | .intoStream => answering .null ({ near with held := false }, [])
  | .drop =>
    let call := near.call.mapStream (·.dropConsumer)
    answering (.bool near.held) ({ near with held := false, call }, [])
  | .info =>
    let near :=
      { near with call := { near.call with shared := near.call.shared.increment } }
    answering (ofInfo near) (near, [])

/-- The answer when a transport has nobody to deliver to. -/
def noHandler : Json.Value := .string "no handler"

/-- The answer when there is no acceptance to settle. -/
def noSignal : Json.Value := .string "no signal"

/-- What a hand-played transport does for a client call. -/
def playOutgoing (codec : Codec Bytes String) (c : Outgoing) : TransportPlay → Outcome Outgoing
  | .part part =>
    if c.handlerHeld then
      match part.tryMap (Payload.encode codec) with
      | .ok part => answering .null (c.request (c.near.onPart part))
      | .error e => answering (Json.ofError e) c
    else answering noHandler c
  | .error e =>
    if c.handlerHeld then answering .null (c.request (c.near.onError e))
    else answering noHandler c
  | .releaseHandler => answering (.bool c.handlerHeld) { c with handlerHeld := false }
  | .settle ofCancel index outcome =>
    match c.transport.settle ofCancel index outcome with
    | some transport => answering .null { c with transport }
    | none => answering noSignal c
  | .takeStance stance =>
    answering .null { c with transport := c.transport.withStance stance }

/-- What a hand-played transport does for an inbound call, apart from its events. -/
def playIncoming (c : Incoming) : TransportPlay → Outcome Incoming
  | .settle ofCancel index outcome =>
    match c.transport.settle ofCancel index outcome with
    | some transport => answering .null { c with transport }
    | none => answering noSignal c
  | .takeStance stance =>
    answering .null { c with transport := c.transport.withStance stance }
  | _ => answering noHandler c

/-- What a hand-played transport does. -/
def playTransport (codec : Codec Bytes String) (play : TransportPlay) :
    Circuit → Outcome Circuit
  | .outgoing c => (playOutgoing codec c play).map id .outgoing
  | .incoming c => (playIncoming c play).map id .incoming
  | other => answering noHandler other

/-- What a hand-played transport tells an inbound call. -/
def tellInbound (c : Incoming) (event : InboundEvent) : Outcome Incoming :=
  match c.serving with
  | none =>
    match event with
    | .release => answering (.bool false) c
    | _ => answering noHandler c
  | some serving =>
    match event with
    | .part part codec =>
      if serving.held then
        match part.tryMap (Payload.encode codec) with
        | .ok part => answering .null (c.respond (serving.receive part))
        | .error e => answering (Json.ofError e) c
      else answering noHandler c
    | .error e =>
      if serving.held then answering .null (c.respond (serving.receiveError e))
      else answering noHandler c
    | .release =>
      if serving.held then answering (.bool true) { c with serving := some serving.release }
      else answering (.bool false) c

/-- Stages what a change of context asks for. Trailers come first. -/
def changeContext (change : ContextChange) (context : Server.Context Notebook) :
    Server.Context Notebook :=
  let context := change.trailers.foldl (fun c entry => c.stageTrailer entry.1 entry.2) context
  let context := change.headers.foldl (fun c entry => c.stageHeader entry.1 entry.2) context
  { context with
    compression := change.compression.getD context.compression
    shared := context.shared.increment }

/-- What a context tells about its call. -/
def ofContext (context : Server.Context Notebook) : Json.Value :=
  .object
    [("path", .string context.path),
      ("headers", Json.ofMetadata context.headers),
      ("cancelled", .bool context.cancelled),
      ("compression", .bool context.compression),
      ("count", Json.ofNat context.shared.count),
      ("debug", .string (Description.context context.path context.cancelled))]

/-- The answer when a handler left no context. -/
def noContext : Json.Value := .string "no context"

/-- What is done with things that a handler left. -/
def useLoan (serving : ServedCall) : LoanUse → Outcome ServedCall
  | .send message compression manner =>
    if serving.loan.writer then
      (manner.answer?, serving.engage (manner.errand (.write message compression)))
    else answering (.string "no writer") serving
  | .writerText =>
    answering (if serving.loan.writer then .string Description.writer else .null) serving
  | .context change =>
    if serving.loan.context then
      let context := changeContext change serving.call.context
      answering (ofContext context) { serving with call := { serving.call with context } }
    else answering noContext serving
  | .awaitCancelled manner =>
    if serving.loan.context then
      (manner.answer?, serving.engage (manner.errand .awaitCancelled))
    else answering noContext serving
  | .drain =>
    if serving.loan.requests then
      let (answers, requests) := serving.call.requests.drain
      answering (.array (answers.map (Json.ofPoll Json.ofItem)))
        { serving with call := { serving.call with requests } }
    else answering (.string "no stream") serving
  | .forget =>
    answering
      (.array
        [.bool serving.loan.writer, .bool serving.loan.context, .bool serving.loan.requests])
      { serving with loan := {} }

/-- What is done with things of a handler that never started. -/
def useNoLoan : LoanUse → Json.Value
  | .send _ _ _ => .string "no writer"
  | .writerText => .null
  | .context _ => noContext
  | .awaitCancelled _ => noContext
  | .drain => .string "no stream"
  | .forget => .array [.bool false, .bool false, .bool false]

/-- The name of an errand that is wanted in a certain manner, and whether it was polled. -/
def Manner.name : Manner → String × Bool
  | tracked id begun => (id, begun)
  | direct => (directId, true)

/-- What is done with a bare link that was made. -/
def useLink (codec : Codec Bytes String) (c : Recorder) : LinkUse → Outcome Recorder
  | .make _ _ _ => answering .null c
  | .invoke =>
    let (result, link) := c.far.link.invoke
    answering (Json.ofUnitResult result) { c with far := { c.far with link } }
  | .send part manner =>
    match part.tryMap (Payload.encode codec) with
    | .ok part => (manner.answer?, c.send part manner.name.1 manner.name.2)
    | .error e => answering (Json.ofError e) c
  | .cancel manner => (manner.answer?, c.cancel manner.name.1 manner.name.2)
  | .drop => answering (.bool true) c

end Session

namespace Session

/-! ### Acting on a session -/

/-- The answer when a call is not there. -/
def noCall : Json.Value := .string "no call"

/-- Lets the first entry that is wanted act. -/
def visit (s : Session) (wanted : Entry → Bool) (absent : Json.Value)
    (act : Circuit → Outcome Circuit) : Outcome Session :=
  let found := pickFirst? (fun entry => if wanted entry then some (act entry.circuit) else none)
    s.entries
  match found with
  | some (before, entry, (answer, circuit), behind) =>
    (answer, { s with entries := before ++ { entry with circuit } :: behind })
  | none => answering absent s

def visitCall (s : Session) (call : String) (act : Circuit → Outcome Circuit) : Outcome Session :=
  s.visit (fun entry => entry.name == some call) noCall act

/-- Adds a call. One of the same name loses it, and the application lets go of it. -/
def add (s : Session) (name : Option String) (circuit : Circuit) : Session :=
  let retire (entry : Entry) : Entry :=
    if name.isSome && entry.name == name then
      { entry with
        name := none
        circuit := entry.circuit.mapNear fun near => { near with held := false } }
    else entry
  { s with entries := s.entries.map retire ++ [{ name, circuit }] }

def circuit? (s : Session) (call : String) : Option Circuit :=
  (s.entries.find? fun entry => entry.name == some call).map Entry.circuit

/-- A link to the server of the session, for a path. -/
def farEnd (s : Session) (path : String) : SessionFarEnd where
  path := path
  target := s.server.target? path
  compression := s.server.config.compression
  shared := {}

def setup (s : Session) (path : String) (shape : CallShape) (options : CallOptions)
    (hooks : List HookSpec.Client) : Client.Setup Notebook Bytes String String where
  path := path
  shape := shape
  options := options
  chain := HookSpec.clientChain hooks
  requests := s.codec
  responses := s.codec

/-- Starts a client call over a link. -/
def connect (s : Session) (path : String) (shape : CallShape) (options : CallOptions)
    (hooks : List HookSpec.Client) (request : Option String) : SessionLoopback :=
  Loopback.start (s.setup path shape options hooks) {} s.now (s.farEnd path) request

/-- Starts a client call over a transport played by hand. -/
def dial (s : Session) (setup : Client.Setup Notebook Bytes String String)
    (transport : ManualTransport) (invocation : Result Unit) (owner : Option String)
    (request : Option String) : Outgoing :=
  let out := Client.Active.start setup {} s.now invocation request
  let handlerHeld :=
    match invocation with
    | .ok () => true
    | .error _ => false
  Outgoing.request { near := out.1, transport, handlerHeld, owner } out

/-- Starts a client call. One that borrows a transport also takes its path and options, and its
invocation fails. -/
def start (s : Session) (call : String) (o : Opening) : Outcome Session :=
  let describe (setup : Client.Setup Notebook Bytes String String) : Json.Value :=
    if o.describe then
      .string (Description.setup setup.path setup.shape setup.chain.size ++ " " ++
        Description.codecs)
    else .null
  match o.medium with
  | .link =>
    let options := o.options.getD s.defaults
    answering (describe (s.setup o.path o.shape options o.hooks))
      (s.add call (.loopback (s.connect o.path o.shape options o.hooks o.request)))
  | .manual parts cancels refusal =>
    let setup := s.setup o.path o.shape (o.options.getD {}) o.hooks
    let invocation :=
      match refusal with
      | some e => .error e
      | none => .ok ()
    let transport := .withStances parts cancels
    answering (describe setup)
      (s.add call (.outgoing (s.dial setup transport invocation none o.request)))
  | .shared owner =>
    let setup :=
      match (s.circuit? owner).bind Circuit.near? with
      | some near => s.setup near.setup.path o.shape near.setup.options o.hooks
      | none => s.setup o.path o.shape (o.options.getD {}) o.hooks
    answering (describe setup)
      (s.add call
        (.outgoing (s.dial setup {} (.error .alreadyInvoked) (some owner) o.request)))

/-- The call whose transport carries a call. -/
def carrier (s : Session) (call : String) : String :=
  match s.circuit? call with
  | some (.outgoing c) => c.owner.getD call
  | _ => call

/-- Adds a client call that only an errand knows. -/
def launch (s : Session) (loopback : SessionLoopback) (errand : Errand (Client.Job String)) :
    Session :=
  let near := { loopback.near with held := false }.engage errand
  s.add none (.loopback { loopback with near })

def useClientNow (s : Session) : ClientUse → Outcome Session
  | .unary path request manner =>
    (manner.answer?, s.launch (s.connect path .unary s.defaults [] (some request))
      (manner.errand .awaitResponse))
  | .collectWith path source manner =>
    (manner.answer?, s.launch (s.connect path .clientStreaming s.defaults [] none)
      (manner.errand (.collect source)))
  | .updateWith call path source =>
    let loopback := s.connect path .bidirectional s.defaults [] none
    let near := loopback.near.engage { job := .forward source }
    answering .null (s.add call (.loopback { loopback with near }))
  | .options => answering (Json.ofOptions s.defaults) s

/-- The name under which a use of the client waits for its first poll, if it does, and the use
once it is polled. -/
def ClientUse.prospect? : ClientUse → Option (String × ClientUse)
  | .unary path request (.tracked id false) => some (id, .unary path request (.tracked id true))
  | .collectWith path source (.tracked id false) =>
    some (id, .collectWith path source (.tracked id true))
  | _ => none

/-- Uses the client, at the first poll. -/
def useClient (s : Session) (use : ClientUse) : Outcome Session :=
  match use.prospect? with
  | some prospect => answering .null { s with prospects := s.prospects ++ [prospect] }
  | none => s.useClientNow use

/-- Opens an inbound call. -/
def serve (s : Session) (call : String) (a : Arrangement) : Outcome Session :=
  let quiet : Incoming := { serving := none, transport := .withStances a.stance .accepting }
  let (found, circuit) :=
    if a.answers then s.server.dispatch Incoming.apply a.path quiet
    else (s.server.handle? a.path, quiet)
  let compression := a.compression.getD s.server.config.compression
  let serving := found.map fun (route, codec) =>
    let target := route.target codec
    .fresh target.method target.handler compression a.contextPath {}
  answering
    (.object
      [("found", .bool found.isSome), ("debug", .string (Description.inbound a.contextPath))])
    (s.add call (.incoming { circuit with serving }))

/-- Makes or uses a bare link. -/
def useLinkNamed (s : Session) (call : String) (use : LinkUse) : Outcome Session :=
  match use with
  | .make path shape options =>
    answering
      (.object
        [("path", .string path),
          ("call_type", .string shape.label),
          ("options", Json.ofOptions options),
          ("same_server", .bool true)])
      (s.add call (.bare { shape, options, far := s.farEnd path }))
  | use =>
    s.visitCall call fun circuit =>
      match circuit with
      | .bare c => (useLink s.codec c use).map id .bare
      | other => answering noCall other

/-- Changes every circuit. -/
def mapCircuits (s : Session) (f : Circuit → Circuit) : Session :=
  { s with entries := s.entries.map fun entry => { entry with circuit := f entry.circuit } }

/-- Polls the errand of a name. -/
def poll (s : Session) (id : String) : Session :=
  match s.prospects.find? id with
  | some use => ({ s with prospects := s.prospects.erase id }.useClientNow use).2
  | none => s.mapCircuits (Circuit.poll id)

/-- Drops the errand of a name. Answers whether it was there. -/
def drop (s : Session) (id : String) : Bool × Session :=
  ((s.prospects.find? id).isSome || s.entries.any fun entry => entry.circuit.has id,
    { s with prospects := s.prospects.erase id }.mapCircuits (Circuit.drop id))

/-- What a step does by itself. -/
def act (s : Session) : Step → Outcome Session
  | .start call opening => s.start call opening
  | .atCall call use =>
    s.visitCall call fun circuit =>
      match circuit with
      | .outgoing c => (useCall c.near use).map id fun out => .outgoing (c.request out)
      | .loopback c => (useCall c.near use).map id fun out => .loopback (c.request out)
      | other => answering noCall other
  | .atTransport call play => s.visitCall (s.carrier call) (playTransport s.codec play)
  | .atClient use => s.useClient use
  | .serve call arrangement => s.serve call arrangement
  | .atInbound call event =>
    s.visitCall call fun circuit =>
      match circuit with
      | .incoming c => (tellInbound c event).map id .incoming
      | other => answering noHandler other
  | .atHandler handler use =>
    s.visit (fun entry => entry.handler == some handler) (useNoLoan use) fun circuit =>
      match circuit.serving? with
      | some serving =>
        (useLoan serving use).map id fun serving => circuit.mapServing fun _ => serving
      | none => answering (useNoLoan use) circuit
  | .atLink call use => s.useLinkNamed call use
  | .poll id => answering .null (s.poll id)
  | .drop id =>
    let (was, s) := s.drop id
    answering (.bool was) s
  | .advance milliseconds =>
    let s := { s with now := s.now + milliseconds }
    answering .null (s.mapCircuits (Circuit.tick s.now))
  | .nothing => answering .null s

/-- Lets every circuit move until it is quiet. -/
def settle (s : Session) : Session := s.mapCircuits (·.settle s.now)

/-- The values of the errands that have finished. -/
def finished (s : Session) : Named Json.Value :=
  s.entries.flatMap fun entry => entry.circuit.finished

/-- Does what a step says. An errand whose value answers the step is dropped if it does not finish
by itself. -/
def perform (s : Session) (step : Step) : Json.Value × Session :=
  let (answer, s) := s.act step
  let s := s.settle
  match answer with
  | some answer => (answer, s)
  | none =>
    match s.finished.find? directId with
    | some answer => (answer, s)
    | none => (.string "pending", (s.drop directId).2.settle)

/-- Names the handlers that have started. -/
def nameHandlers (s : Session) : Session :=
  let name (entry : Entry) (before : List Entry × Nat) : List Entry × Nat :=
    if entry.handler.isNone && !entry.circuit.handlerLines.isEmpty then
      (before.1 ++ [{ entry with handler := some ("h" ++ toString (before.2 + 1)) }],
        before.2 + 1)
    else (before.1 ++ [entry], before.2)
  let (entries, handlers) :=
    s.entries.foldl (fun before entry => name entry before) ([], s.handlers)
  { s with entries, handlers }

/-- What a step showed. -/
structure Report where
  answer : Json.Value
  done : Named Json.Value
  events : Named (List Json.Value)
  handlers : Named (List String)
  clientLines : List String
  serverLines : List String
  state : Named Json.Value

/-- Reports on what happened since the last report. -/
def report (s : Session) (answer : Json.Value) : Report where
  answer := answer
  done := s.finished.erase directId
  events := s.entries.filterMap fun entry =>
    match entry.name, entry.circuit.events with
    | some name, events@(_ :: _) => some (name, events)
    | _, _ => none
  handlers := s.entries.filterMap fun entry =>
    match entry.handler, entry.circuit.handlerLines with
    | some name, lines@(_ :: _) => some (name, lines)
    | _, _ => none
  clientLines := s.entries.flatMap fun entry => entry.circuit.clientLines
  serverLines := s.entries.flatMap fun entry => entry.circuit.serverLines
  state := s.entries.filterMap fun entry =>
    match entry.name, entry.circuit.near? with
    | some name, some near => some (name, snapshot near)
    | _, _ => none

def step (s : Session) (step : Step) : Report × Session :=
  let (answer, s) := s.perform step
  let s := s.nameHandlers
  (s.report answer, s.mapCircuits Circuit.reported)

def run : Session → List Step → List Report
  | _, [] => []
  | s, step :: rest =>
    let (report, s) := s.step step
    report :: s.run rest

def ofLines (lines : List String) : Json.Value := .array (lines.map .string)

/-- A member of a report, unless it is empty. -/
def Report.member (name : String) (members : Named Json.Value) : Named Json.Value :=
  if members.isEmpty then [] else [(name, .object members)]

/-- The form of a report. Members without content are left out. -/
def Report.form (r : Report) : Json.Value :=
  let lines (name : String) (lines : List String) : Named Json.Value :=
    if lines.isEmpty then [] else [(name, ofLines lines)]
  .object <|
    [("r", r.answer)] ++
      member "done" r.done ++
      member "events" (r.events.map fun entry => (entry.1, .array entry.2)) ++
      member "handlers" (r.handlers.map fun entry => (entry.1, ofLines entry.2)) ++
      member "hooks" (lines "client" r.clientLines ++ lines "server" r.serverLines) ++
      member "state" r.state

end Session

end RemoteCall
