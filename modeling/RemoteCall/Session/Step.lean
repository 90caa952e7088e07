import RemoteCall.Session.Circuit

/-!
# Steps of a session

A `Step` is one thing that is done from outside: the application starts or uses a call, a
transport played by hand delivers something, somebody uses what a handler left, or time passes.
-/

namespace RemoteCall.Session

/-- What travels in a message of a hand-played transport: a text still to be encoded, or bytes. -/
inductive Payload where
  | text (text : String)
  | bytes (bytes : Bytes)

def Payload.encode (codec : Codec Bytes String) : Payload → Result Bytes
  | .text message => codec.encode message
  | .bytes payload => .ok payload

/-- What carries a client call. -/
inductive Medium where
  /-- A link to the server of the session. -/
  | link
  /-- A transport played by hand, with its stances on parts and cancellations, and the reason why
  it refuses to be invoked, if it does. -/
  | manual (parts cancels : Stance) (refusal : Option CallError)
  /-- The transport of another call. -/
  | shared (owner : String)

/-- How a client call is started. -/
structure Opening where
  shape : CallShape
  path : String
  request : Option String := none
  options : Option CallOptions := none
  hooks : List HookSpec.Client := []
  medium : Medium
  /-- The setup of the call is described. -/
  describe : Bool := false

/-- How an inbound call is opened. -/
structure Arrangement where
  /-- The path that is looked up. -/
  path : String
  /-- The path that the call carries. -/
  contextPath : String
  /-- Whether the transport permits compression, if it differs from the server's setting. -/
  compression : Option Bool := none
  stance : Stance := .accepting
  /-- A path that leads nowhere is answered. -/
  answers : Bool := true

/-- How the value of an errand is wanted: under a name, after a first poll at once or later, or as
the answer of the step itself. -/
inductive Manner where
  | tracked (id : String) (begun : Bool)
  | direct

/-- What is added to the context that a handler left. -/
structure ContextChange where
  headers : List (String × String) := []
  trailers : List (String × String) := []
  compression : Option Bool := none

/-- What the application does at a call. -/
inductive CallUse where
  | send (message : String) (compression : Compression) (manner : Manner)
  | sendMany (messages : List String) (manner : Manner)
  | sendEnd (manner : Manner)
  | cancel (manner : Manner)
  | forward (source : Client.Forwarder String) (manner : Manner)
  | pull
  | next
  | drain
  | holdSender
  | dropSender
  /-- Keep only the response stream. -/
  | intoStream
  | drop
  | info

/-- What a hand-played transport does for a call. -/
inductive TransportPlay where
  | part (part : ResponsePart Payload)
  | error (e : CallError)
  /-- Let go of the call. -/
  | releaseHandler
  /-- Settle an acceptance that was left open. -/
  | settle (ofCancel : Bool) (index : Nat) (outcome : Signal)
  /-- Take a stance on parts from now on. -/
  | takeStance (stance : Stance)

/-- What is done with the client of the session. -/
inductive ClientUse where
  | unary (path request : String) (manner : Manner)
  | collectWith (path : String) (source : Client.Forwarder String) (manner : Manner)
  | updateWith (call path : String) (source : Client.Forwarder String)
  | options

/-- What a hand-played transport does for an inbound call. -/
inductive InboundEvent where
  /-- Deliver a part, its message encoded with a codec. -/
  | part (part : RequestPart Payload) (codec : Codec Bytes String)
  | error (e : CallError)
  | release

/-- What is done with things that a handler left. -/
inductive LoanUse where
  | send (message : String) (compression : Compression) (manner : Manner)
  | writerText
  | context (change : ContextChange)
  | awaitCancelled (manner : Manner)
  /-- Take what is in the request stream. -/
  | drain
  | forget

/-- What is done with a bare link. -/
inductive LinkUse where
  | make (path : String) (shape : CallShape) (options : CallOptions)
  | invoke
  | send (part : RequestPart Payload) (manner : Manner)
  | cancel (manner : Manner)
  | drop

/-- One step of a session. -/
inductive Step where
  | start (call : String) (opening : Opening)
  | atCall (call : String) (use : CallUse)
  | atTransport (call : String) (play : TransportPlay)
  | atClient (use : ClientUse)
  | serve (call : String) (arrangement : Arrangement)
  | atInbound (call : String) (event : InboundEvent)
  | atHandler (handler : String) (use : LoanUse)
  | atLink (call : String) (use : LinkUse)
  /-- Poll the errand of a name. -/
  | poll (id : String)
  /-- Drop the errand of a name. -/
  | drop (id : String)
  /-- Let time pass. -/
  | advance (milliseconds : Nat)
  | nothing

end RemoteCall.Session
