/-!
# Status codes and statuses

A call ends with a `Status`: one of seventeen canonical codes and, optionally, a text for a
human reader. `Code.ofNumber` reads a wire value; every value outside the canonical range is
`Code.unknown`, so reading is total and `Code.number` is a section of it.
-/

namespace RemoteCall

/-- The canonical outcome codes, in the order of their wire values. -/
inductive Code where
  | ok
  | cancelled
  | unknown
  | invalidArgument
  | deadlineExceeded
  | notFound
  | alreadyExists
  | permissionDenied
  | resourceExhausted
  | failedPrecondition
  | aborted
  | outOfRange
  | unimplemented
  | internal
  | unavailable
  | dataLoss
  | unauthenticated
  deriving DecidableEq, Inhabited

namespace Code

/-- The wire value of a code. -/
def number : Code → Int
  | ok => 0
  | cancelled => 1
  | unknown => 2
  | invalidArgument => 3
  | deadlineExceeded => 4
  | notFound => 5
  | alreadyExists => 6
  | permissionDenied => 7
  | resourceExhausted => 8
  | failedPrecondition => 9
  | aborted => 10
  | outOfRange => 11
  | unimplemented => 12
  | internal => 13
  | unavailable => 14
  | dataLoss => 15
  | unauthenticated => 16

/-- Every code, in the order of the wire values. -/
def all : List Code :=
  [ok, cancelled, unknown, invalidArgument, deadlineExceeded, notFound, alreadyExists,
    permissionDenied, resourceExhausted, failedPrecondition, aborted, outOfRange, unimplemented,
    internal, unavailable, dataLoss, unauthenticated]

/-- The code with a given wire value; a value that belongs to no code reads as `unknown`. -/
def ofNumber (value : Int) : Code :=
  (all.find? fun code => code.number == value).getD unknown

/-- The lowercase label a status shows. -/
def label : Code → String
  | ok => "ok"
  | cancelled => "cancelled"
  | unknown => "unknown"
  | invalidArgument => "invalid argument"
  | deadlineExceeded => "deadline exceeded"
  | notFound => "not found"
  | alreadyExists => "already exists"
  | permissionDenied => "permission denied"
  | resourceExhausted => "resource exhausted"
  | failedPrecondition => "failed precondition"
  | aborted => "aborted"
  | outOfRange => "out of range"
  | unimplemented => "unimplemented"
  | internal => "internal"
  | unavailable => "unavailable"
  | dataLoss => "data loss"
  | unauthenticated => "unauthenticated"

/-- The identifier of a code in descriptions of values. -/
def name : Code → String
  | ok => "Ok"
  | cancelled => "Cancelled"
  | unknown => "Unknown"
  | invalidArgument => "InvalidArgument"
  | deadlineExceeded => "DeadlineExceeded"
  | notFound => "NotFound"
  | alreadyExists => "AlreadyExists"
  | permissionDenied => "PermissionDenied"
  | resourceExhausted => "ResourceExhausted"
  | failedPrecondition => "FailedPrecondition"
  | aborted => "Aborted"
  | outOfRange => "OutOfRange"
  | unimplemented => "Unimplemented"
  | internal => "Internal"
  | unavailable => "Unavailable"
  | dataLoss => "DataLoss"
  | unauthenticated => "Unauthenticated"

end Code

/-- The final outcome of a call. -/
structure Status where
  code : Code
  message : Option String := none
  deriving DecidableEq, Inhabited

namespace Status

/-- Successful completion without a message. -/
def success : Status := ⟨.ok, none⟩

/-- A status counts as success by its code alone. -/
def isOk (status : Status) : Bool := status.code == .ok

/-- The one-line text of a status: its label, and the message after a colon if there is one. -/
def text (status : Status) : String :=
  match status.message with
  | some message => status.code.label ++ ": " ++ message
  | none => status.code.label

end Status

end RemoteCall
