import RemoteCall.Json.Form
import RemoteCall.Session.ManualTransport
import RemoteCall.Session.Registry
import RemoteCall.Text.Utf8

/-!
# Circuits

A circuit is one call of a session with all that belongs to it. There are four kinds: a client
call over a transport played by hand, a server call over such a transport, a client call over a
link to the server of the session, and a bare link whose client side only records what comes back.

Circuits do not influence each other, so each moves by itself until it is quiet.
-/

namespace RemoteCall.Session

/-- A client call of a session. -/
abbrev NearEnd := Client.Active Notebook Bytes String String

abbrev ServedCall := Server.Serving Notebook Bytes String String Script

/-- A link of a session and the server behind it. -/
abbrev SessionFarEnd := FarEnd Notebook Bytes String String Script

/-- A client call over a link. -/
abbrev SessionLoopback := Loopback Notebook Notebook Bytes String String Script

/-- A client call over a transport played by hand. -/
structure Outgoing where
  near : NearEnd
  transport : ManualTransport := {}
  /-- The transport has somebody to deliver to. -/
  handlerHeld : Bool := true
  /-- The call whose transport this one borrows. -/
  owner : Option String := none
  /-- What the transport was asked since the last report. -/
  events : List (Client.TransportOp Bytes) := []

namespace Outgoing

/-- Does what a client asks. -/
def apply (c : Outgoing) (op : Client.TransportOp Bytes) : Outgoing :=
  let transport :=
    match op with
    | .send _ => { c.transport with parts := c.transport.parts.give }
    | .cancel => { c.transport with cancels := c.transport.cancels.give }
  { c with transport, events := c.events ++ [op] }

/-- Takes over the client, and does what it asks. -/
def request (c : Outgoing) (out : NearEnd × List (Client.TransportOp Bytes)) : Outgoing :=
  out.2.foldl apply { c with near := out.1 }

def move? (c : Outgoing) (now : Nat) : Option Outgoing :=
  (c.near.moveErrand? c.transport.parts.signal (c.transport.cancels.signal 0)).map c.request <|>
    (c.near.expire? now).map c.request <|>
    (c.near.dissolve? c.handlerHeld).map fun near => { c with near }

/-- The clock has moved. -/
def tick (c : Outgoing) (now : Nat) : Outgoing := ((c.near.expire? now).map c.request).getD c

end Outgoing

/-- A server call over a transport played by hand. -/
structure Incoming where
  /-- The call, if its path led somewhere. -/
  serving : Option ServedCall
  transport : ManualTransport := {}
  /-- What was handed to the transport since the last report. -/
  events : List (ResponsePart Bytes) := []

namespace Incoming

def apply (c : Incoming) (part : ResponsePart Bytes) : Incoming :=
  { c with
    transport := { c.transport with parts := c.transport.parts.give }
    events := c.events ++ [part] }

/-- Takes over a served call, and takes its parts. -/
def respond (c : Incoming) (out : ServedCall × List (ResponsePart Bytes)) : Incoming :=
  out.2.foldl apply { c with serving := some out.1 }

def move? (c : Incoming) (now : Nat) : Option Incoming :=
  match c.serving with
  | none => none
  | some serving =>
    (serving.moveTask? now c.transport.parts.signal).map c.respond <|>
      (serving.moveErrand? c.transport.parts.signal).map c.respond <|>
      serving.dissolve?.map fun serving => { c with serving := some serving }

end Incoming

/-- What the application awaits at a bare link: the acceptance of a part, or of a
cancellation. -/
inductive LinkJob where
  | part (ticket : Nat)
  | cancel (ticket : Nat)

/-- A bare link. -/
structure Recorder where
  shape : CallShape
  options : CallOptions
  far : SessionFarEnd
  errands : List (Errand LinkJob) := []
  finished : Named (Result Unit) := []
  /-- What came back since the last report. -/
  events : List (Arrival (ResponsePart Bytes)) := []

namespace Recorder

/-- One step of the delivering pump. -/
def deliver? (c : Recorder) : Option Recorder :=
  match c.far.link.deliver? with
  | none => none
  | some (.part part ticket, link) =>
    some { c with
      far := { c.far with link := link.acceptResponse part ticket }
      events := c.events ++ [.part part] }
  | some (.error, link) =>
    some { c with
      far := { c.far with link }
      events := c.events ++ [.failure Link.noStatus] }

/-- The outcome of an acceptance, once there is one. -/
def outcome? (c : Recorder) : LinkJob → Option (Result Unit)
  | .part ticket => (c.far.requestSignals ticket).outcome?
  | .cancel ticket => (c.far.cancelSignal ticket).outcome?

def moveErrand? (c : Recorder) : Option Recorder :=
  match Errand.next? c.outcome? c.errands with
  | none => none
  | some (before, errand, result, behind) =>
    let finished :=
      match errand.id with
      | some id => c.finished ++ [(id, result)]
      | none => c.finished
    some { c with errands := before ++ behind, finished }

def move? (c : Recorder) (now : Nat) : Option Recorder :=
  (c.far.move? now).map (fun far => { c with far }) <|> c.deliver? <|> c.moveErrand?

/-- Sends a part. The errand awaits its acceptance. -/
def send (c : Recorder) (part : RequestPart Bytes) (id : String) (begun : Bool) : Recorder :=
  let ticket := c.far.link.requestSignals.length
  { c with
    far := { c.far with link := c.far.link.send part }
    errands := c.errands ++ [⟨some id, begun, .part ticket⟩] }

/-- Cancels. The errand awaits the acceptance. -/
def cancel (c : Recorder) (id : String) (begun : Bool) : Recorder :=
  let ticket := c.far.link.cancelSignals.length
  { c with
    far := { c.far with link := c.far.link.cancel }
    errands := c.errands ++ [⟨some id, begun, .cancel ticket⟩] }

end Recorder

/-- A call of a session. -/
inductive Circuit where
  | outgoing (c : Outgoing)
  | incoming (c : Incoming)
  | loopback (c : SessionLoopback)
  | bare (c : Recorder)

namespace Circuit

def move? (now : Nat) : Circuit → Option Circuit
  | outgoing c => (c.move? now).map outgoing
  | incoming c => (c.move? now).map incoming
  | loopback c => (c.move? now).map loopback
  | bare c => (c.move? now).map bare

/-- The clock has moved: the timers whose time has come fire before anything else moves. -/
def tick (now : Nat) : Circuit → Circuit
  | outgoing c => outgoing (c.tick now)
  | incoming c => incoming { c with serving := c.serving.map (·.tick now) }
  | loopback c => loopback (c.tick now)
  | bare c => bare { c with far := c.far.tick now }

/-- A bound for the moves of one circuit in one step of a session. -/
def moveLimit : Nat := 1000000

/-- Moves until the circuit is quiet. -/
def settle (c : Circuit) (now : Nat) : Circuit := settleWithin (move? now) moveLimit c

/-! ### The client call -/

/-- The client call. -/
def near? : Circuit → Option NearEnd
  | outgoing c => some c.near
  | loopback c => some c.near
  | incoming _ => none
  | bare _ => none

/-- Lets the client call act. -/
def onNear (f : NearEnd → NearEnd × List (Client.TransportOp Bytes)) : Circuit → Circuit
  | outgoing c => outgoing (c.request (f c.near))
  | loopback c => loopback (c.request (f c.near))
  | other => other

/-- Changes the client call. -/
def mapNear (f : NearEnd → NearEnd) : Circuit → Circuit := onNear fun near => (f near, [])

/-! ### The served call -/

def serving? : Circuit → Option ServedCall
  | outgoing _ => none
  | incoming c => c.serving
  | loopback c => c.far.serving
  | bare c => c.far.serving

def mapServing (f : ServedCall → ServedCall) : Circuit → Circuit
  | outgoing c => outgoing c
  | incoming c => incoming { c with serving := c.serving.map f }
  | loopback c => loopback { c with far := { c.far with serving := c.far.serving.map f } }
  | bare c => bare { c with far := { c.far with serving := c.far.serving.map f } }

/-! ### Errands by name -/

/-- Whether there is an errand of a name. -/
def has (id : String) (c : Circuit) : Bool :=
  (match c.near? with
    | some near => Errand.has near.errands id
    | none => false) ||
  (match c.serving? with
    | some serving => Errand.has serving.errands id
    | none => false) ||
  (match c with
    | bare c => Errand.has c.errands id
    | _ => false)

/-- Changes a bare link. -/
def mapBare (f : Recorder → Recorder) : Circuit → Circuit
  | bare c => bare (f c)
  | other => other

/-- Polls the errand of a name. -/
def poll (id : String) (c : Circuit) : Circuit :=
  ((c.mapNear fun near => { near with errands := Errand.poll near.errands id }).mapServing
    fun serving => { serving with errands := Errand.poll serving.errands id }).mapBare
    fun c => { c with errands := Errand.poll c.errands id }

/-- Drops the errand of a name. -/
def drop (id : String) (c : Circuit) : Circuit :=
  ((c.mapNear fun near => near.drop id).mapServing
    fun serving => { serving with errands := Errand.erase serving.errands id }).mapBare
    fun c => { c with errands := Errand.erase c.errands id }

/-! ### What is reported -/

def ofClientAnswer : Client.Answer String → Json.Value
  | .sent result => Json.ofUnitResult result
  | .cancelled => .string "cancelled"
  | .responded result => Json.ofTextResult result

/-- The form of an answer at a served call. -/
def ofServerAnswer : Server.Answer → Json.Value
  | .written result => Json.ofUnitResult result
  | .cancelled => .string "cancelled"

/-- The values of the errands that have finished. -/
def finished (c : Circuit) : Named Json.Value :=
  (match c.near? with
    | some near => near.finished.map fun entry => (entry.1, ofClientAnswer entry.2)
    | none => []) ++
  (match c.serving? with
    | some serving => serving.finished.map fun entry => (entry.1, ofServerAnswer entry.2)
    | none => []) ++
  (match c with
    | bare c => c.finished.map fun entry => (entry.1, Json.ofUnitResult entry.2)
    | _ => [])

def payloadText (payload : Bytes) : Result String := .ok ((Text.ofBytes? payload).getD "")

/-- The form of a request part with a payload. -/
def ofRequest (part : RequestPart Bytes) : Json.Value :=
  match part.tryMap payloadText with
  | .ok part => Json.ofRequestPart part
  | .error e => Json.ofError e

/-- The form of a response part with a payload. -/
def ofResponse (part : ResponsePart Bytes) : Json.Value :=
  match part.tryMap payloadText with
  | .ok part => Json.ofResponsePart part
  | .error e => Json.ofError e

/-- What a transport or a recorder saw. -/
def events : Circuit → List Json.Value
  | outgoing c => c.events.map fun op =>
    match op with
    | .send part => ofRequest part
    | .cancel => .string "cancel"
  | incoming c => c.events.map ofResponse
  | loopback _ => []
  | bare c => c.events.map fun arrival =>
    match arrival with
    | .part part => ofResponse part
    | .failure e => Json.ofError e

/-- What the interceptors of the client logged. -/
def clientLines (c : Circuit) : List String :=
  match c.near? with
  | some near => near.call.shared.hookLines
  | none => []

/-- What the interceptors of the server logged. -/
def serverLines (c : Circuit) : List String :=
  match c.serving? with
  | some serving => serving.call.context.shared.hookLines
  | none => []

def handlerLines (c : Circuit) : List String :=
  match c.serving? with
  | some serving => serving.call.context.shared.handlerLines
  | none => []

def mapBook (f : Notebook → Notebook) (serving : ServedCall) : ServedCall :=
  let context := { serving.call.context with shared := f serving.call.context.shared }
  { serving with call := { serving.call with context } }

def reported (c : Circuit) : Circuit :=
  let c := c.mapNear fun near =>
    { near with finished := [], call := { near.call with shared := near.call.shared.reported } }
  let c := c.mapServing fun serving =>
    { mapBook Notebook.reported serving with finished := [] }
  match c with
  | outgoing c => outgoing { c with events := [] }
  | incoming c => incoming { c with events := [] }
  | loopback c => loopback c
  | bare c => bare { c with events := [], finished := [] }

end Circuit

/-- The form of a slot: what it holds, or that it waits. -/
def ofSlot {V : Type} (form : V → Json.Value) : Option V → Json.Value
  | some value => form value
  | none => .string "pending"

/-- What a client call reports: its slots, and the response if it answers once. A call that the
application let go of reports nothing. -/
def snapshot (near : NearEnd) : Json.Value :=
  if near.held then
    let outcome := near.call.accumulator.outcome
    let response :=
      if near.setup.shape.streamsResponses then []
      else [("response", ofSlot Json.ofTextResult near.call.accumulator.response.value?)]
    .object <|
      [("initial", ofSlot (Json.ofResult Json.ofMetadata) outcome.initial.value?)] ++ response ++
        [("status", ofSlot Json.ofStatus outcome.status.value?),
          ("trailing", ofSlot (Json.ofResult Json.ofMetadata) outcome.trailing.value?)]
  else .null

end RemoteCall.Session
