import RemoteCall.Status

/-!
# Failures seen by calls, streams and handlers

`CallError` lists the causes. `CallError.text` is the wording of each, and `CallError.status` is
the status that reports the failure to the other side: a status error reports itself, and every
other cause reports a fixed code with its own wording as the message.
-/

namespace RemoteCall

/-- Why a call, a stream or a handler failed. -/
inductive CallError where
  /-- The peer or the handler ended the call with this status. -/
  | status (status : Status)
  /-- The call was cancelled on this side. -/
  | cancelled
  /-- The deadline passed before a status arrived. -/
  | deadlineExceeded
  /-- A send after the request stream was closed, or a write after the response ended. -/
  | streamAlreadyClosed
  /-- The peer sent parts that the shape of the call does not allow. -/
  | protocolViolation (reason : String)
  /-- The transport failed or went away. -/
  | transport (reason : String)
  /-- A message could not be encoded or decoded. -/
  | codec (reason : String)
  /-- A write-once slot was resolved twice. -/
  | alreadyResolved
  /-- A transport call was invoked twice. -/
  | alreadyInvoked
  deriving DecidableEq, Inhabited

namespace CallError

/-- The name of the cause. -/
def kind : CallError → String
  | status _ => "Status"
  | cancelled => "Cancelled"
  | deadlineExceeded => "DeadlineExceeded"
  | streamAlreadyClosed => "StreamAlreadyClosed"
  | protocolViolation _ => "ProtocolViolation"
  | transport _ => "Transport"
  | codec _ => "Codec"
  | alreadyResolved => "AlreadyResolved"
  | alreadyInvoked => "AlreadyInvoked"

/-- The wording of a failure. -/
def text : CallError → String
  | status s => s.text
  | cancelled => "call cancelled"
  | deadlineExceeded => "deadline exceeded"
  | streamAlreadyClosed => "stream already closed"
  | protocolViolation reason => "protocol violation: " ++ reason
  | transport reason => "transport error: " ++ reason
  | codec reason => "codec error: " ++ reason
  | alreadyResolved => "result already resolved"
  | alreadyInvoked => "transport call already invoked"

/-- The status that reports a failure to the other side of the call. -/
def toStatus : CallError → Status
  | status s => s
  | e@cancelled => ⟨.cancelled, e.text⟩
  | e@deadlineExceeded => ⟨.deadlineExceeded, e.text⟩
  | e@streamAlreadyClosed => ⟨.failedPrecondition, e.text⟩
  | e@(protocolViolation _) => ⟨.failedPrecondition, e.text⟩
  | e@(transport _) => ⟨.unavailable, e.text⟩
  | e@(codec _) => ⟨.internal, e.text⟩
  | e@alreadyResolved => ⟨.internal, e.text⟩
  | e@alreadyInvoked => ⟨.internal, e.text⟩

@[simp] theorem toStatus_status (s : Status) : (status s).toStatus = s := rfl

end CallError

/-- The result of an operation that may fail with a `CallError`. -/
abbrev Result (α : Type) := Except CallError α

end RemoteCall
