import RemoteCall.Metadata
import RemoteCall.Status

/-!
# Parts of a call

A call is a sequence of parts in each direction. `RequestPart` travels from the client to the
server and `ResponsePart` back; both are generic in the payload of a message, so the same type
serves for messages and for their encoded bytes. `tryMap` changes the payload of a message and
leaves the other parts as they are.
-/

namespace RemoteCall

/-- Hints to the transport about one message. -/
structure MessageFlags where
  /-- The transport should compress the message. -/
  compress : Bool := false
  /-- The transport should flush after the message. -/
  flush : Bool := true
  deriving DecidableEq, Inhabited

/-- The flags of a message that is compressed as told and otherwise has the defaults. -/
def MessageFlags.compressed (compress : Bool) : MessageFlags := { compress }

/-- The wish of a sender about compressing one message. -/
inductive Compression where
  | enabled
  | disabled
  /-- Follow the default of the call. -/
  | deferred
  deriving DecidableEq, Inhabited

/-- Settles a wish against the default of the call. -/
def Compression.resolve : Compression → (callDefault : Bool) → Bool
  | enabled, _ => true
  | disabled, _ => false
  | deferred, callDefault => callDefault

/-- One event in the request direction. -/
inductive RequestPart (α : Type) where
  | headers (metadata : Metadata)
  | message (payload : α) (flags : MessageFlags)
  | finish
  deriving DecidableEq

/-- One event in the response direction. -/
inductive ResponsePart (α : Type) where
  | headers (metadata : Metadata)
  | message (payload : α) (flags : MessageFlags)
  | finish (status : Status) (trailers : Metadata)
  deriving DecidableEq

/-- The three kinds of part, shared by both directions. -/
inductive PartKind where
  | metadata
  | message
  | finish
  deriving DecidableEq

def PartKind.label : PartKind → String
  | metadata => "metadata"
  | message => "message"
  | finish => "end"

namespace RequestPart

variable {α β ε : Type}

def kind : RequestPart α → PartKind
  | headers _ => .metadata
  | message _ _ => .message
  | finish => .finish

/-- Converts the payload of a message by a function that may fail. -/
def tryMap (f : α → Except ε β) : RequestPart α → Except ε (RequestPart β)
  | headers metadata => .ok (headers metadata)
  | message payload flags =>
    match f payload with
    | .ok converted => .ok (message converted flags)
    | .error e => .error e
  | finish => .ok finish

theorem kind_of_tryMap {f : α → Except ε β} {part : RequestPart α} {converted : RequestPart β}
    (h : part.tryMap f = .ok converted) : converted.kind = part.kind := by
  cases part with
  | headers m => cases h; rfl
  | finish => cases h; rfl
  | message payload flags =>
    simp only [tryMap] at h
    cases hf : f payload with
    | ok value => rw [hf] at h; cases h; rfl
    | error e => rw [hf] at h; cases h

end RequestPart

namespace ResponsePart

variable {α β ε : Type}

def kind : ResponsePart α → PartKind
  | headers _ => .metadata
  | message _ _ => .message
  | finish _ _ => .finish

/-- Whether this part ends the call. -/
def isFinish : ResponsePart α → Bool
  | finish _ _ => true
  | _ => false

/-- Converts the payload of a message by a function that may fail. -/
def tryMap (f : α → Except ε β) : ResponsePart α → Except ε (ResponsePart β)
  | headers metadata => .ok (headers metadata)
  | message payload flags =>
    match f payload with
    | .ok converted => .ok (message converted flags)
    | .error e => .error e
  | finish status trailers => .ok (finish status trailers)

theorem isFinish_of_tryMap {f : α → Except ε β} {part : ResponsePart α}
    {converted : ResponsePart β} (h : part.tryMap f = .ok converted) :
    converted.isFinish = part.isFinish := by
  cases part with
  | headers m => cases h; rfl
  | finish status trailers => cases h; rfl
  | message payload flags =>
    simp only [tryMap] at h
    cases hf : f payload with
    | ok value => rw [hf] at h; cases h; rfl
    | error e => rw [hf] at h; cases h

end ResponsePart

end RemoteCall
