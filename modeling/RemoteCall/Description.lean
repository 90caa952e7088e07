import RemoteCall.CallError
import RemoteCall.MessageStream
import RemoteCall.Metadata
import RemoteCall.Options
import RemoteCall.Server.Routing
import RemoteCall.Text.Quoted
import RemoteCall.UserInfo
import RemoteCall.WriteOnce

/-!
# Descriptions of values

The one-line descriptions of statuses and failures, of slots and streams, and of options, chains,
setups, contexts and handles.
-/

namespace RemoteCall.Description

open Text

def status (s : Status) : String :=
  fullRecord "Status"
    [("code", s.code.name), ("message", optional (s.message.map quoted))]

def failure : CallError → String
  | .status s => "Status(" ++ status s ++ ")"
  | .protocolViolation reason => "ProtocolViolation(" ++ quoted reason ++ ")"
  | .transport reason => "Transport(" ++ quoted reason ++ ")"
  | .codec reason => "Codec(" ++ quoted reason ++ ")"
  | e => e.kind

def ending : Result Unit → String
  | .ok () => "Ok(())"
  | .error e => "Err(" ++ failure e ++ ")"

def resultSlot {V : Type} (slot : WriteOnce V) : String :=
  fullRecord "ResultCell" [("resolved", truth slot.isResolved)]

def statusSlot (slot : WriteOnce Status) : String :=
  fullRecord "StatusCell" [("status", optional (slot.value?.map status))]

/-- The producers' side of a stream. -/
def streamSender {α : Type} (s : MessageStream α) : String :=
  fullRecord "StreamSender" [("finished", truth s.isFinished)]

/-- The consumer's side of a stream. -/
def stream {α : Type} (s : MessageStream α) : String :=
  openRecord "MessageStream" [("terminal", optional (s.observed.map ending))]

/-- A map of extensions. -/
def userInfo (info : UserInfo) : String :=
  fullRecord "UserInfo" [("entries", toString info.size)]

/-- A list of header entries. -/
def metadata (m : Metadata) : String :=
  fullRecord "Metadata"
    [("entries", listed (m.entries.map fun entry =>
      "(" ++ quoted entry.1 ++ ", " ++ quoted entry.2 ++ ")"))]

def options (o : CallOptions) : String :=
  fullRecord "CallOptions"
    [("metadata", metadata o.metadata),
      ("timeout", optional (o.timeout.map duration)),
      ("compress_messages", truth o.compress),
      ("request_id", optional (o.requestId.map quoted))]

def client (o : CallOptions) : String := openRecord "Client" [("default_options", options o)]

def chain (size : Nat) : String := fullRecord "InterceptorChain" [("len", toString size)]

def setup (path : String) (shape : CallShape) (size : Nat) : String :=
  fullRecord "CallSetup"
    [("path", quoted path), ("call_type", shape.name), ("interceptors", chain size)]

def codecs : String := "CodecPair \x7b .. \x7d"

def route (shape : CallShape) (size : Nat) : String :=
  openRecord "Route" [("call_type", shape.name), ("interceptors", chain size)]

def channel {K R : Type} (server : Server K R) : String :=
  fullRecord "LocalChannel" [("server", server.text)]

/-- What a server is told of an inbound call. -/
def inbound (path : String) : String := openRecord "CallHandlerContext" [("path", quoted path)]

/-- What a handler sees of its call. -/
def context (path : String) (cancelled : Bool) : String :=
  openRecord "ServerCallContext" [("path", quoted path), ("cancelled", truth cancelled)]

/-- A handle for sending requests. -/
def sender : String := "RequestSender \x7b .. \x7d"

/-- A handle for writing responses. -/
def writer : String := "ResponseStreamWriter \x7b .. \x7d"

end RemoteCall.Description
