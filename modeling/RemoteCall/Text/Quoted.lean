import RemoteCall.Text.Printable

/-!
# Quoted text and descriptions of values

A description of a value is one line: texts in double quotes with escapes (`quoted`), lists in
brackets, optional values as `Some(…)` or `None`, and records as a name with named fields in
braces, with two dots last when some fields are left out.
-/

namespace RemoteCall.Text

/-- The escaped form of a character inside double quotes. -/
def escapeChar (c : Char) : List Char :=
  if c = '"' then ['\\', '"']
  else if c = '\\' then ['\\', '\\']
  else if c = '\n' then ['\\', 'n']
  else if c = '\r' then ['\\', 'r']
  else if c = '\t' then ['\\', 't']
  else if c.toNat = 0 then ['\\', '0']
  else if isVisible c then [c]
  else ['\\', 'u', '\x7b'] ++ Nat.toDigits 16 c.toNat ++ ['\x7d']

/-- A text in double quotes, every character without a visible form escaped. -/
def quoted (text : String) : String :=
  "\"" ++ String.ofList (text.toList.flatMap escapeChar) ++ "\""

/-- A list of descriptions in brackets. -/
def listed (items : List String) : String := "[" ++ ", ".intercalate items ++ "]"

def optional : Option String → String
  | some item => "Some(" ++ item ++ ")"
  | none => "None"

/-- A record with named fields; `partially` says that further fields are not shown. -/
def record (name : String) (fields : List (String × String)) (partially : Bool) : String :=
  let shown := fields.map fun field => field.1 ++ ": " ++ field.2
  let all := if partially then shown ++ [".."] else shown
  name ++ " \x7b " ++ ", ".intercalate all ++ " \x7d"

def fullRecord (name : String) (fields : List (String × String)) : String :=
  record name fields false

/-- A record that leaves some fields out. -/
def openRecord (name : String) (fields : List (String × String)) : String :=
  record name fields true

/-- A truth value in a description. -/
def truth : Bool → String
  | true => "true"
  | false => "false"

/-- A decimal number with trailing zeros of its fraction dropped. `places` is the number of
digits of the fraction. -/
def decimal (whole fraction places : Nat) : String :=
  if fraction = 0 then toString whole
  else
    let digits := Nat.toDigits 10 fraction
    let padded := List.replicate (places - digits.length) '0' ++ digits
    let trimmed := (padded.reverse.dropWhile (· = '0')).reverse
    toString whole ++ "." ++ String.ofList trimmed

/-- A duration given in milliseconds: seconds from one second on, else milliseconds, and zero
in the smallest unit. -/
def duration (milliseconds : Nat) : String :=
  if milliseconds = 0 then "0ns"
  else if milliseconds < 1000 then toString milliseconds ++ "ms"
  else decimal (milliseconds / 1000) (milliseconds % 1000) 3 ++ "s"

end RemoteCall.Text
