import RemoteCall.Client.Active
import RemoteCall.Link
import RemoteCall.Server.Routing
import RemoteCall.Server.Serving

/-!
# Calls inside one process

`FarEnd` is a link together with the server behind it, and `Loopback` adds the client in front of
it. Both are transition systems: a move is something that happens by itself, and each kind of move
has a function of its own that says whether it is possible and what it leads to. `FarEnd.move?`
and `Loopback.move?` try them in a fixed order. A handler in the middle of a poll goes first, so
that nothing happens between two of its steps within a poll.
-/

namespace RemoteCall

/-- How calls of a path are served. -/
structure Target (σ P Req Resp S : Type) where
  method : Server.Method σ P Req Resp
  handler : Server.Handler σ Req Resp S

/-- A link and the server behind it. -/
structure FarEnd (σ P Req Resp S : Type) where
  path : String
  /-- What the path leads to. -/
  target : Option (Target σ P Req Resp S)
  /-- The server permits compressed messages. -/
  compression : Bool
  /-- What the interceptors and the handler of a new call share. -/
  shared : σ
  link : Link P := {}
  /-- The call, once it was dispatched. -/
  serving : Option (Server.Serving σ P Req Resp S) := none

namespace FarEnd

variable {σ P Req Resp S : Type}

/-- The acceptance of a part of the server. -/
def responseSignals (far : FarEnd σ P Req Resp S) (ticket : Nat) : Signal :=
  (far.link.responseSignals[ticket]?).getD .waiting

/-- The acceptance of a part of the client. -/
def requestSignals (far : FarEnd σ P Req Resp S) (ticket : Nat) : Signal :=
  (far.link.requestSignals[ticket]?).getD .waiting

/-- The acceptance of a cancellation. -/
def cancelSignal (far : FarEnd σ P Req Resp S) (ticket : Nat) : Signal :=
  (far.link.cancelSignals[ticket]?).getD .waiting

/-- Takes over a served call, and sends its parts to the client. -/
def respond (far : FarEnd σ P Req Resp S)
    (out : Server.Serving σ P Req Resp S × List (ResponsePart P)) : FarEnd σ P Req Resp S :=
  { far with serving := some out.1, link := out.2.foldl Link.respond far.link }

/-- Looks the path up. A path that leads nowhere is answered, and the server lets go. -/
def dispatch (far : FarEnd σ P Req Resp S) : FarEnd σ P Req Resp S :=
  match far.target with
  | some target =>
    { far with
      serving := some (.fresh target.method target.handler far.compression far.path far.shared) }
  | none => { far with link := (far.link.respond (Server.notFound P)).dropServer }

/-- Changes the served call, if there is one. -/
def onServing (far : FarEnd σ P Req Resp S)
    (f : Server.Serving σ P Req Resp S → Server.Serving σ P Req Resp S × List (ResponsePart P)) :
    FarEnd σ P Req Resp S :=
  match far.serving with
  | some serving => far.respond (f serving)
  | none => far

/-- One step of the serving pump. -/
def serve? (far : FarEnd σ P Req Resp S) : Option (FarEnd σ P Req Resp S) :=
  match far.link.serve? with
  | none => none
  | some (step, link) =>
    let far := { far with link }
    some <| match step with
      | .dispatch => far.dispatch
      | .part part ticket =>
        let far := far.onServing (·.receive part)
        { far with link := far.link.acceptRequest ticket }
      | .cancel ticket =>
        let far := far.onServing (·.receiveError .cancelled)
        { far with link := far.link.acceptCancel ticket }
      | .release => far.onServing fun serving => (serving.release, [])

def moveTask? (far : FarEnd σ P Req Resp S) (now : Nat) : Option (FarEnd σ P Req Resp S) :=
  match far.serving with
  | none => none
  | some serving => (serving.moveTask? now far.responseSignals).map far.respond

/-- One move of whoever got hold of the writer or the context. -/
def moveErrand? (far : FarEnd σ P Req Resp S) : Option (FarEnd σ P Req Resp S) :=
  match far.serving with
  | none => none
  | some serving => (serving.moveErrand? far.responseSignals).map far.respond

/-- The server lets go of the link once nobody can write to the call any more. -/
def dissolve? (far : FarEnd σ P Req Resp S) : Option (FarEnd σ P Req Resp S) :=
  match far.serving with
  | none => none
  | some serving =>
    serving.dissolve?.map fun serving =>
      { far with serving := some serving, link := far.link.dropServer }

/-- Whether the handler is in the middle of a poll. -/
def isPolled (far : FarEnd σ P Req Resp S) : Bool :=
  match far.serving with
  | some serving => serving.task.isPolled
  | none => false

/-- The clock has moved. -/
def tick (far : FarEnd σ P Req Resp S) (now : Nat) : FarEnd σ P Req Resp S :=
  { far with serving := far.serving.map (·.tick now) }

/-- One move behind the link. -/
def move? (far : FarEnd σ P Req Resp S) (now : Nat) : Option (FarEnd σ P Req Resp S) :=
  if far.isPolled then far.moveTask? now
  else far.serve? <|> far.moveTask? now <|> far.moveErrand? <|> far.dissolve?

end FarEnd

/-- A client call over a link. `τ` is what the client's interceptors share, and `σ` what those of
the server share. -/
structure Loopback (τ σ P Req Resp S : Type) where
  near : Client.Active τ P Req Resp
  far : FarEnd σ P Req Resp S

namespace Loopback

variable {τ σ P Req Resp S : Type}

def apply (link : Link P) : Client.TransportOp P → Link P
  | .send part => link.send part
  | .cancel => link.cancel

/-- Takes over the client, and does what it asks of the link. -/
def request (l : Loopback τ σ P Req Resp S)
    (out : Client.Active τ P Req Resp × List (Client.TransportOp P)) :
    Loopback τ σ P Req Resp S :=
  { near := out.1, far := { l.far with link := out.2.foldl apply l.far.link } }

/-- Starts a call over a fresh link. -/
def start (setup : Client.Setup τ P Req Resp) (shared : τ) (now : Nat)
    (far : FarEnd σ P Req Resp S) (request : Option Req) : Loopback τ σ P Req Resp S :=
  let (invocation, link) := far.link.invoke
  let (near, ops) := Client.Active.start setup shared now invocation request
  { near, far := { far with link := ops.foldl apply link } }

/-- One step of the delivering pump. -/
def deliver? (l : Loopback τ σ P Req Resp S) : Option (Loopback τ σ P Req Resp S) :=
  match l.far.link.deliver? with
  | none => none
  | some (step, link) =>
    let l := { l with far := { l.far with link } }
    some <| match step with
      | .part part ticket =>
        let l := l.request (l.near.onPart part)
        { l with far := { l.far with link := l.far.link.acceptResponse part ticket } }
      | .error => l.request (l.near.onError Link.noStatus)

def moveErrand? (l : Loopback τ σ P Req Resp S) : Option (Loopback τ σ P Req Resp S) :=
  (l.near.moveErrand? l.far.requestSignals (l.far.cancelSignal 0)).map l.request

/-- The watchdog acts. -/
def expire? (l : Loopback τ σ P Req Resp S) (now : Nat) : Option (Loopback τ σ P Req Resp S) :=
  (l.near.expire? now).map l.request

/-- The client lets go of the call. -/
def dissolve? (l : Loopback τ σ P Req Resp S) : Option (Loopback τ σ P Req Resp S) :=
  (l.near.dissolve? (l.far.link.delivering == .running)).map fun near => { l with near }

/-- One move behind the link. -/
def moveFar? (l : Loopback τ σ P Req Resp S) (now : Nat) : Option (Loopback τ σ P Req Resp S) :=
  (l.far.move? now).map fun far => { l with far }

/-- The clock has moved: the timers whose time has come fire before anything else moves. -/
def tick (l : Loopback τ σ P Req Resp S) (now : Nat) : Loopback τ σ P Req Resp S :=
  let l := (l.expire? now).getD l
  { l with far := l.far.tick now }

def move? (l : Loopback τ σ P Req Resp S) (now : Nat) : Option (Loopback τ σ P Req Resp S) :=
  if l.far.isPolled then l.moveFar? now
  else
    l.moveFar? now <|> l.deliver? <|> l.moveErrand? <|> l.expire? now <|> l.dissolve?

end Loopback

/-- Moves until nothing can move, but at most so many times. -/
def settleWithin {W : Type} (move? : W → Option W) : (moves : Nat) → W → W
  | 0, w => w
  | moves + 1, w =>
    match move? w with
    | some w => settleWithin move? moves w
    | none => w

end RemoteCall
