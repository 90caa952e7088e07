import RemoteCall.MessageStream
import RemoteCall.Part
import RemoteCall.WriteOnce

/-!
# What a client call reports

The `Outcome` of a call is three write-once slots: the initial metadata, the trailing metadata and
the status. An `Accumulator` adds the response itself: one message for the shapes that answer
once, a stream of messages for the others. `Accumulator.accept` takes the parts of the response
as they leave the chain, and `Accumulator.fail` settles with a failure everything that is still
open. In every slot the first resolution stays.

An accumulator takes a part, or a failure, in one step here. In fact its slots and its stream are
written one after the other under no common lock, each in a write where the first one counts;
`Client.Steps` has these writes one by one.
-/

namespace RemoteCall.Client

/-- How a response ends. -/
inductive Ending where
  | finish (status : Status) (trailers : Metadata)
  | failure (e : CallError)

namespace Ending

/-- The status that an end says, or that stands for a failure. -/
def status : Ending → Status
  | finish status _ => status
  | failure e => e.toStatus

/-- How a stream of messages ends. -/
def outcome : Ending → Result Unit
  | finish status _ => if status.isOk then .ok () else .error (.status status)
  | failure e => .error e

def trailers : Ending → Result Metadata
  | finish _ trailers => .ok trailers
  | failure e => .error e

/-- What stands for headers that never came. -/
def headers : Ending → Result Metadata
  | finish status _ => if status.isOk then .ok .empty else .error (.status status)
  | failure e => .error e

end Ending

/-- The slots that every call has. -/
structure Outcome where
  initial : WriteOnce (Result Metadata) := .unresolved
  trailing : WriteOnce (Result Metadata) := .unresolved
  status : WriteOnce Status := .unresolved

namespace Outcome

/-- Takes the headers of the response. -/
def headers (o : Outcome) (m : Metadata) : Outcome := { o with initial := o.initial.settle (.ok m) }

/-- `end`: takes the trailers. Headers that never came are empty after a success and an error else.
The status is left open. -/
def finish (o : Outcome) (status : Status) (trailers : Metadata) : Outcome :=
  { o with
    trailing := o.trailing.settle (.ok trailers)
    initial := o.initial.settle (if status.isOk then .ok .empty else .error (.status status)) }

def conclude (o : Outcome) (status : Status) : Outcome :=
  { o with status := o.status.settle status }

/-- Settles all slots with a failure. -/
def fail (o : Outcome) (e : CallError) : Outcome where
  initial := o.initial.settle (.error e)
  trailing := o.trailing.settle (.error e)
  status := o.status.settle e.toStatus

end Outcome

/-- The messages of a response. -/
inductive Response (Resp : Type) where
  /-- One message. A violation of the protocol spoils it for good. -/
  | single (message : WriteOnce (Result Resp)) (violation : Option CallError)
  | stream (messages : MessageStream Resp)

namespace Response

variable {Resp : Type}

/-- The response of a call that answers once. -/
def freshSingle : Response Resp := single .unresolved none

/-- The response of a call that answers with a stream. -/
def freshStream : Response Resp := stream .fresh

/-- Settles an open response with a failure. -/
def fail (r : Response Resp) (e : CallError) : Response Resp :=
  match r with
  | single message violation => single (message.settle (.error e)) violation
  | stream messages => stream (messages.finishWith (.error e)).2

/-- What the application gets for the one message: a violation if there was one, and else the
first resolution. -/
def value? : Response Resp → Option (Result Resp)
  | single ⟨none⟩ _ => none
  | single ⟨some _⟩ (some violation) => some (.error violation)
  | single ⟨some outcome⟩ none => some outcome
  | stream _ => none

def stream? : Response Resp → Option (MessageStream Resp)
  | single _ _ => none
  | stream messages => some messages

def mapStream (f : MessageStream Resp → MessageStream Resp) : Response Resp → Response Resp
  | single message violation => single message violation
  | stream messages => stream (f messages)

end Response

/-- The parts of a response, gathered. -/
structure Accumulator (Resp : Type) where
  outcome : Outcome := {}
  response : Response Resp

namespace Accumulator

variable {Resp : Type}

/-- Why a second message is refused. -/
def manyMessages : CallError :=
  .protocolViolation "unary call received more than one response message"

/-- Why a success without a message is refused. -/
def noMessage : CallError :=
  .protocolViolation "unary call ended without a response message"

/-- `handle_error`: fails everything still open, the response first and the status last. -/
def fail (a : Accumulator Resp) (e : CallError) : Accumulator Resp where
  outcome := a.outcome.fail e
  response := a.response.fail e

/-- The end of a call that answers once. A success needs its message. -/
def finishSingle (outcome : Outcome) (message : WriteOnce (Result Resp))
    (violation : Option CallError) (status : Status) (trailers : Metadata) : Accumulator Resp :=
  let outcome := outcome.finish status trailers
  if message.isResolved then ⟨outcome.conclude status, .single message violation⟩
  else if status.isOk then
    ⟨outcome.conclude noMessage.toStatus, .single (message.settle (.error noMessage)) violation⟩
  else
    ⟨outcome.conclude status, .single (message.settle (.error (.status status))) violation⟩

/-- The end of a call that answers with a stream. The stream is finished before the status is
published. -/
def finishStream (outcome : Outcome) (messages : MessageStream Resp) (status : Status)
    (trailers : Metadata) : Accumulator Resp :=
  let ending := if status.isOk then .ok () else .error (.status status)
  ⟨(outcome.finish status trailers).conclude status, .stream (messages.finishWith ending).2⟩

/-- `handle`: takes a part. The flag tells of a violation of the protocol: a second message where
one is allowed, which fails everything still open. -/
def accept (a : Accumulator Resp) (part : ResponsePart Resp) : Accumulator Resp × Bool :=
  match part, a.response with
  | .headers m, _ => ({ a with outcome := a.outcome.headers m }, false)
  | .message m _, .single message violation =>
    if message.isResolved then
      (fail { a with response := .single message (some (violation.getD manyMessages)) }
        manyMessages, true)
    else ({ a with response := .single (message.settle (.ok m)) violation }, false)
  | .message m _, .stream messages => ({ a with response := .stream (messages.push m).2 }, false)
  | .finish status trailers, .single message violation =>
    (finishSingle a.outcome message violation status trailers, false)
  | .finish status trailers, .stream messages =>
    (finishStream a.outcome messages status trailers, false)

end Accumulator

end RemoteCall.Client
