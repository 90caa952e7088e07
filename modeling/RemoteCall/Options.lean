import RemoteCall.Metadata

/-!
# Shapes and settings of calls

The four shapes of a call, the settings a client gives to one call, and the settings of a server.
-/

namespace RemoteCall

/-- How many messages a call carries in each direction. -/
inductive CallShape where
  | unary
  | clientStreaming
  | serverStreaming
  | bidirectional
  deriving DecidableEq, Inhabited

namespace CallShape

/-- Whether the client sends a stream of messages. -/
def streamsRequests : CallShape → Bool
  | clientStreaming => true
  | bidirectional => true
  | _ => false

/-- Whether the server sends a stream of messages. -/
def streamsResponses : CallShape → Bool
  | serverStreaming => true
  | bidirectional => true
  | _ => false

def label : CallShape → String
  | unary => "unary"
  | clientStreaming => "client_streaming"
  | serverStreaming => "server_streaming"
  | bidirectional => "bidirectional_streaming"

/-- The identifier of a shape in descriptions of values. -/
def name : CallShape → String
  | unary => "Unary"
  | clientStreaming => "ClientStreaming"
  | serverStreaming => "ServerStreaming"
  | bidirectional => "BidirectionalStreaming"

end CallShape

/-- The header that carries the correlation id of a call. -/
def requestIdHeader : String := "x-request-id"

/-- What a client may set for one call. Times are in milliseconds. -/
structure CallOptions where
  /-- Custom headers. -/
  metadata : Metadata := .empty
  /-- Fail the call if it has no status after this time. -/
  timeout : Option Nat := none
  /-- Compress request messages unless a message says otherwise. -/
  compress : Bool := false
  /-- Correlation id, sent in the header `requestIdHeader`. -/
  requestId : Option String := none
  deriving DecidableEq, Inhabited

/-- The headers that open a call: the custom ones, then the correlation id. -/
def CallOptions.requestHeaders (options : CallOptions) : Metadata :=
  match options.requestId with
  | some id => options.metadata.insert requestIdHeader id
  | none => options.metadata

/-- Settings of a whole server. -/
structure ServerConfig where
  /-- Handlers may compress response messages. -/
  compression : Bool := false
  deriving DecidableEq, Inhabited

/-- What the background tasks of a call do. -/
inductive TaskClass where
  | handler
  | cleanup
  | watchdog
  | forwarder
  | transport
  deriving DecidableEq

namespace TaskClass

def label : TaskClass → String
  | handler => "handler"
  | cleanup => "cleanup"
  | watchdog => "watchdog"
  | forwarder => "forwarder"
  | transport => "transport"

/-- The identifier of a class in descriptions of values. -/
def name : TaskClass → String
  | handler => "Handler"
  | cleanup => "Cleanup"
  | watchdog => "Watchdog"
  | forwarder => "Forwarder"
  | transport => "Transport"

def all : List TaskClass := [handler, cleanup, watchdog, forwarder, transport]

end TaskClass

end RemoteCall
