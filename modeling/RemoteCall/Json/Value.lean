import RemoteCall.Decimal.Shortest

/-!
# JSON values and their text

`Value` is a JSON document; the members of an object stand in a list in the order in which they
are written. `Value.text` is the compact form: no blanks, only the escapes that the grammar
demands, and each floating-point number in the shortest form that reads back.
-/

namespace RemoteCall.Json

/-- A JSON number: a whole number, or a double. -/
inductive Number where
  | whole (value : Int)
  | double (value : Float)

/-- A JSON document. -/
inductive Value where
  | null
  | bool (value : Bool)
  | number (value : Number)
  | string (value : String)
  | array (items : List Value)
  | object (members : List (String × Value))

instance : Inhabited Value := ⟨.null⟩

/-- How a floating-point number is written: positional while the decimal point stands at most
`widest` places to the right and less than `leading` zeros precede the digits, and with a power
of ten otherwise. A whole number keeps one zero after the point. -/
structure NumberStyle where
  widest : Int
  leading : Int

def numberStyle : NumberStyle := ⟨16, 5⟩

/-- The digits of a positive decimal, laid out in a style. -/
def layOut (style : NumberStyle) (s : Decimal.Scaled) : String :=
  let digits := Nat.toDigits 10 s.digits
  let point : Int := digits.length + s.exponent
  if 0 ≤ s.exponent && point ≤ style.widest then
    String.ofList (digits ++ List.replicate s.exponent.toNat '0') ++ ".0"
  else if 0 < point && point ≤ style.widest then
    String.ofList (digits.take point.toNat) ++ "." ++ String.ofList (digits.drop point.toNat)
  else if -style.leading < point && point ≤ 0 then
    "0." ++ String.ofList (List.replicate (-point).toNat '0' ++ digits)
  else
    let power := toString (point - 1)
    match digits with
    | [] => "0.0"
    | [d] => String.ofList [d] ++ "e" ++ power
    | d :: rest => String.ofList [d] ++ "." ++ String.ofList rest ++ "e" ++ power

def doubleText (value : Float) : String :=
  let bits := value.toBits.toNat
  let sign := if Nat.pow 2 63 ≤ bits then "-" else ""
  let magnitude := bits % Nat.pow 2 63
  if magnitude = 0 then sign ++ "0.0"
  else sign ++ layOut numberStyle (Decimal.Binary.ofBits magnitude).shortest.trim

/-- The text of a number. What is not finite has no JSON form and is written as `null`. -/
def Number.text : Number → String
  | .whole value => toString value
  | .double value => if value.isFinite then doubleText value else "null"

/-- The escaped form of a character inside a JSON string. -/
def escapeChar (c : Char) : List Char :=
  if c = '"' then ['\\', '"']
  else if c = '\\' then ['\\', '\\']
  else if c.toNat = 8 then ['\\', 'b']
  else if c.toNat = 12 then ['\\', 'f']
  else if c = '\n' then ['\\', 'n']
  else if c = '\r' then ['\\', 'r']
  else if c = '\t' then ['\\', 't']
  else if c.toNat < 0x20 then
    ['\\', 'u', '0', '0'] ++ (if c.toNat < 0x10 then ['0'] else []) ++ Nat.toDigits 16 c.toNat
  else [c]

/-- A JSON string literal. -/
def quote (text : String) : String :=
  "\"" ++ String.ofList (text.toList.flatMap escapeChar) ++ "\""

mutual

/-- The compact text of a document. -/
def Value.text : Value → String
  | .null => "null"
  | .bool true => "true"
  | .bool false => "false"
  | .number n => n.text
  | .string s => quote s
  | .array items => "[" ++ ",".intercalate (itemTexts items) ++ "]"
  | .object members => "\x7b" ++ ",".intercalate (memberTexts members) ++ "\x7d"

def itemTexts : List Value → List String
  | [] => []
  | v :: rest => v.text :: itemTexts rest

def memberTexts : List (String × Value) → List String
  | [] => []
  | (name, v) :: rest => (quote name ++ ":" ++ v.text) :: memberTexts rest

end

/-- Puts a member into a list sorted by name, in place of a member of the same name. -/
def insertMember (name : String) (value : Value) :
    List (String × Value) → List (String × Value)
  | [] => [(name, value)]
  | (other, old) :: rest =>
    if name = other then (name, value) :: rest
    else if name < other then (name, value) :: (other, old) :: rest
    else (other, old) :: insertMember name value rest

/-- An object whose members are sorted by name; the last of several of one name counts. -/
def Value.sortedObject (members : List (String × Value)) : Value :=
  .object (members.foldl (fun sorted m => insertMember m.1 m.2 sorted) [])

end RemoteCall.Json
