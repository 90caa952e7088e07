import RemoteCall.CallError
import RemoteCall.Json.Value
import RemoteCall.Options
import RemoteCall.Part
import RemoteCall.Poll

/-!
# JSON forms of what calls carry

How statuses, failures, metadata, parts and options are shown as JSON documents. Members of
objects stand in the order of their names.
-/

namespace RemoteCall.Json

def ofText? : Option String → Value
  | some text => .string text
  | none => .null

def ofNat (n : Nat) : Value := .number (.whole n)

/-- A failure: its cause and its wording. -/
def ofError (e : CallError) : Value :=
  .object [("error", .string e.kind), ("message", .string e.text)]

def ofResult {α : Type} (form : α → Value) : Result α → Value
  | .ok value => .object [("ok", form value)]
  | .error e => ofError e

def ofUnitResult : Result Unit → Value := ofResult fun _ => .null

def ofTextResult : Result String → Value := ofResult .string

/-- An item of a stream, or its end. -/
def ofItem : Result (Option String) → Value := ofResult ofText?

def ofPoll {α : Type} (form : α → Value) : Poll α → Value
  | .pending => .string "pending"
  | .ready value => form value

def ofStatus (status : Status) : Value :=
  .object [("code", .number (.whole status.code.number)), ("message", ofText? status.message)]

/-- Header entries. -/
def ofMetadata (m : Metadata) : Value :=
  .array (m.entries.map fun entry => .array [.string entry.1, .string entry.2])

def ofMessage (text : String) (flags : MessageFlags) : Value :=
  .object
    [("compress", .bool flags.compress), ("flush", .bool flags.flush), ("message", .string text)]

def ofRequestPart : RequestPart String → Value
  | .headers m => .object [("metadata", ofMetadata m)]
  | .message text flags => ofMessage text flags
  | .finish => .object [("end", .bool true)]

def ofResponsePart : ResponsePart String → Value
  | .headers m => .object [("metadata", ofMetadata m)]
  | .message text flags => ofMessage text flags
  | .finish status trailers =>
    .object [("end", ofStatus status), ("trailers", ofMetadata trailers)]

def ofOptions (options : CallOptions) : Value :=
  .object
    [("compress", .bool options.compress),
      ("metadata", ofMetadata options.metadata),
      ("request_id", ofText? options.requestId),
      ("timeout_ms", match options.timeout with
        | some timeout => ofNat timeout
        | none => .null)]

end RemoteCall.Json
