import RemoteCall.Json.Value
import RemoteCall.Text.Quoted
import RemoteCall.Text.Utf8

/-!
# Reading JSON

A `Cursor` walks over the bytes of a document and knows its line and its column, the number of
bytes read on that line. A `Schema` states which documents are wanted, and `read` yields the
document or a `Fault`: a reason with a position. A fault found at a byte that was not read yet
stands one column further than one found after reading.

The depth of nesting is bounded by `depthLimit`, on which `readAs` and `readAny` recur. Lists of
items recur on the number of bytes left, for every item takes at least one byte.
-/

namespace RemoteCall.Json

/-- What a document must look like. -/
inductive Schema where
  | text
  /-- A whole number from zero to the largest of this many bits. -/
  | unsigned (bits : Nat)
  /-- A whole number of this many bits in two's complement. -/
  | signed (bits : Nat)
  | bool
  | unit
  /-- The document wanted, or null. -/
  | optional (schema : Schema)
  | sequence (schema : Schema)
  | pair (first second : Schema)
  /-- An object whose members all look like this. -/
  | mapping (schema : Schema)
  | any

/-- What was met in place of the wanted document. -/
inductive Met where
  | null
  | bool (value : Bool)
  | number (value : Number)
  | text (value : String)
  | sequence
  | map

/-- Why a document was refused. -/
inductive Reason where
  | endInList
  | endInObject
  | endInText
  | endInValue
  | colonExpected
  | listCommaOrEndExpected
  | objectCommaOrEndExpected
  | wordExpected
  | valueExpected
  | invalidEscape
  | invalidNumber
  | numberOutOfRange
  | invalidCodePoint
  | controlCharacter
  | keyNotText
  | loneSurrogate
  | trailingComma
  | trailingCharacters
  | endOfHexEscape
  | tooDeep
  /-- A document of another type than the wanted one. -/
  | otherType (met : Met) (wanted : String)
  /-- A number outside the wanted range. -/
  | otherValue (met : Met) (wanted : String)
  /-- A sequence of another length than the wanted one. -/
  | otherLength (met : Nat) (wanted : String)

def Met.describe : Met → String
  | .null => "null"
  | .bool value => "boolean `" ++ Text.truth value ++ "`"
  | .number (.whole value) => "integer `" ++ toString value ++ "`"
  | .number (.double value) => "floating point `" ++ doubleText value ++ "`"
  | .text value => "string " ++ Text.quoted value
  | .sequence => "sequence"
  | .map => "map"

def Reason.text : Reason → String
  | .endInList => "EOF while parsing a list"
  | .endInObject => "EOF while parsing an object"
  | .endInText => "EOF while parsing a string"
  | .endInValue => "EOF while parsing a value"
  | .colonExpected => "expected `:`"
  | .listCommaOrEndExpected => "expected `,` or `]`"
  | .objectCommaOrEndExpected => "expected `,` or `\x7d`"
  | .wordExpected => "expected ident"
  | .valueExpected => "expected value"
  | .invalidEscape => "invalid escape"
  | .invalidNumber => "invalid number"
  | .numberOutOfRange => "number out of range"
  | .invalidCodePoint => "invalid unicode code point"
  | .controlCharacter => "control character (\\u0000-\\u001F) found while parsing a string"
  | .keyNotText => "key must be a string"
  | .loneSurrogate => "lone leading surrogate in hex escape"
  | .trailingComma => "trailing comma"
  | .trailingCharacters => "trailing characters"
  | .endOfHexEscape => "unexpected end of hex escape"
  | .tooDeep => "recursion limit exceeded"
  | .otherType met wanted => "invalid type: " ++ met.describe ++ ", expected " ++ wanted
  | .otherValue met wanted => "invalid value: " ++ met.describe ++ ", expected " ++ wanted
  | .otherLength met wanted => "invalid length " ++ toString met ++ ", expected " ++ wanted

/-- A reason and the place where it arose. -/
structure Fault where
  reason : Reason
  line : Nat
  column : Nat

def Fault.text (fault : Fault) : String :=
  fault.reason.text ++ " at line " ++ toString fault.line ++ " column " ++ toString fault.column

/-- The bytes not read yet, and the place reached. -/
structure Cursor where
  rest : Bytes
  line : Nat
  column : Nat

namespace Cursor

def start (bytes : Bytes) : Cursor := ⟨bytes, 1, 0⟩

/-- The cursor after a byte that was read. -/
def past (c : Cursor) (byte : UInt8) (rest : Bytes) : Cursor :=
  if byte = 0x0a then ⟨rest, c.line + 1, 0⟩ else ⟨rest, c.line, c.column + 1⟩

/-- The cursor after the next byte, if there is one. -/
def skip (c : Cursor) : Cursor :=
  match c.rest with
  | [] => c
  | b :: rest => c.past b rest

/-- The next byte, unread. -/
def peek (c : Cursor) : Option UInt8 := c.rest.head?

/-- A fault at the place reached. -/
def fault (c : Cursor) (reason : Reason) : Fault := ⟨reason, c.line, c.column⟩

/-- A fault at the next byte. -/
def faultAhead (c : Cursor) (reason : Reason) : Fault := c.skip.fault reason

def skipBlanks (c : Cursor) : Cursor := go c.rest c
where
  /-- The bytes drive the recursion and are those of the cursor. -/
  go : Bytes → Cursor → Cursor
    | [], c => c
    | b :: rest, c =>
      if b = 0x20 || b = 0x0a || b = 0x09 || b = 0x0d then go rest (c.past b rest) else c

end Cursor

/-- The outcome of reading: what was read and where reading stopped, or a fault. -/
abbrev Read (α : Type) := Except Fault (α × Cursor)

/-- Whether a byte is a decimal digit. -/
def isDigit (b : UInt8) : Bool := 0x30 ≤ b && b ≤ 0x39

def digitValue (b : UInt8) : Nat := b.toNat - 0x30

/-- The value of a hexadecimal digit. -/
def hexValue? (b : UInt8) : Option Nat :=
  if isDigit b then some (digitValue b)
  else if 0x61 ≤ b && b ≤ 0x66 then some (b.toNat - 0x61 + 10)
  else if 0x41 ≤ b && b ≤ 0x46 then some (b.toNat - 0x41 + 10)
  else none

/-! ### Words and numbers -/

/-- Reads the remaining bytes of a word whose first byte was read. -/
def readWord : (word : Bytes) → Cursor → Except Fault Cursor
  | [], c => .ok c
  | w :: word, c =>
    match c.rest with
    | [] => .error (c.fault .endInValue)
    | b :: rest =>
      if b = w then readWord word (c.past b rest)
      else .error ((c.past b rest).fault .wordExpected)

/-- The largest number that is kept exactly while its digits are read. -/
def exactLimit : Nat := Nat.pow 2 64 - 1

/-- Reads digits while the number they spell stays within a limit. Yields the number, how many
digits were read, and the cursor. -/
def readDigits (limit : Nat) : Bytes → (value count : Nat) → Cursor → Nat × Nat × Cursor
  | [], value, count, c => (value, count, c)
  | b :: rest, value, count, c =>
    if isDigit b && value * 10 + digitValue b ≤ limit then
      readDigits limit rest (value * 10 + digitValue b) (count + 1) (c.past b rest)
    else (value, count, c)

def skipDigits : Bytes → (count : Nat) → Cursor → Nat × Cursor
  | [], count, c => (count, c)
  | b :: rest, count, c =>
    if isDigit b then skipDigits rest (count + 1) (c.past b rest) else (count, c)

/-- Whether the next byte is a digit. -/
def digitAhead (c : Cursor) : Bool :=
  match c.peek with
  | some b => isDigit b
  | none => false

/-- Whether the next byte is `e` or `E`. -/
def exponentAhead (c : Cursor) : Bool := c.peek == some 0x65 || c.peek == some 0x45

/-- The double nearest to `10 ^ power`. -/
def powerOfTen (power : Nat) : Float := Float.ofScientific 1 false power

/-- Divides by ten to the `power`, in steps of at most `10 ^ 308`. -/
def divideByTens : (fuel : Nat) → Float → (power : Nat) → Float
  | 0, value, _ => value
  | fuel + 1, value, power =>
    if power ≤ 308 then value / powerOfTen power
    else if value == 0.0 then value
    else divideByTens fuel (value / powerOfTen 308) (power - 308)

/-- The double for `significand · 10 ^ exponent`: one conversion, then one multiplication or
division by a power of ten. `none` if it is too large. -/
def scaleDouble? (significand : Nat) (exponent : Int) : Option Float :=
  let value := significand.toUInt64.toFloat
  if 0 ≤ exponent then
    if exponent ≤ 308 then
      let scaled := value * powerOfTen exponent.toNat
      if scaled.isInf then none else some scaled
    else if significand = 0 then some value
    else none
  else
    let power := (-exponent).toNat
    some (divideByTens (power / 308 + 1) value power)

def signed (positive : Bool) (value : Float) : Number :=
  .double (if positive then value else -value)

def scaled (positive : Bool) (significand : Nat) (exponent : Int) (c : Cursor) : Read Number :=
  match scaleDouble? significand exponent with
  | some value => .ok (signed positive value, c)
  | none => .error (c.fault .numberOutOfRange)

/-- The largest exponent that is read as a number. -/
def exponentLimit : Nat := Nat.pow 2 31 - 1

/-- Keeps an exponent within 32 bits. -/
def clampExponent (exponent : Int) : Int := max (-Nat.pow 2 31) (min (Nat.pow 2 31 - 1) exponent)

/-- Reads an exponent; the cursor stands before its letter. -/
def readExponent (positive : Bool) (significand : Nat) (exponent : Int) (c : Cursor) :
    Read Number :=
  let c := c.skip
  let (up, c) :=
    match c.peek with
    | some 0x2b => (true, c.skip)
    | some 0x2d => (false, c.skip)
    | _ => (true, c)
  match c.rest with
  | [] => .error (c.fault .endInValue)
  | b :: rest =>
    let c := c.past b rest
    if !isDigit b then .error (c.fault .invalidNumber)
    else
      let (value, _, c) := readDigits exponentLimit rest (digitValue b) 0 c
      if digitAhead c then
        let c := c.skip
        if significand != 0 && up then .error (c.fault .numberOutOfRange)
        else .ok (signed positive 0.0, (skipDigits c.rest 0 c).2)
      else
        let total := if up then exponent + value else exponent - value
        scaled positive significand (clampExponent total) c

/-- Reads the digits after a decimal point; the cursor stands before the point. -/
def readFraction (positive : Bool) (significand : Nat) (exponent : Int) (c : Cursor) :
    Read Number :=
  let c := c.skip
  let (value, count, c) := readDigits exactLimit c.rest significand 0 c
  let exponent := exponent - count
  if digitAhead c then
    let c := (skipDigits c.rest 0 c).2
    if exponentAhead c then readExponent positive value exponent c
    else scaled positive value exponent c
  else if count = 0 then
    match c.peek with
    | some _ => .error (c.faultAhead .invalidNumber)
    | none => .error (c.faultAhead .endInValue)
  else if exponentAhead c then readExponent positive value exponent c
  else scaled positive value exponent c

/-- What follows the digits of a number that is still exact. -/
def readTail (positive : Bool) (significand : Nat) (c : Cursor) : Read Number :=
  if c.peek == some 0x2e then readFraction positive significand 0 c
  else if exponentAhead c then readExponent positive significand 0 c
  else if positive then .ok (.whole significand, c)
  else if significand = 0 || Nat.pow 2 63 < significand then
    .ok (.double (-significand.toUInt64.toFloat), c)
  else .ok (.whole (-(significand : Int)), c)

/-- What follows digits that no longer fit: further digits only count. -/
def readLong (positive : Bool) (significand : Nat) (c : Cursor) : Read Number :=
  let (count, c) := skipDigits c.rest 0 c
  if c.peek == some 0x2e then readFraction positive significand count c
  else if exponentAhead c then readExponent positive significand count c
  else scaled positive significand count c

/-- Reads a number; a sign was read before. -/
def readNumber (positive : Bool) (c : Cursor) : Read Number :=
  match c.rest with
  | [] => .error (c.fault .endInValue)
  | b :: rest =>
    let c' := c.past b rest
    if b = 0x30 then
      if digitAhead c' then .error (c'.faultAhead .invalidNumber) else readTail positive 0 c'
    else if isDigit b then
      let (value, _, c) := readDigits exactLimit rest (digitValue b) 0 c'
      if digitAhead c then readLong positive value c else readTail positive value c
    else .error (c'.fault .invalidNumber)

/-! ### Texts -/

/-- The UTF-8 bytes of a code point. -/
def pointBytes (point : Nat) : Bytes := Text.toBytes (String.ofList [Char.ofNat point])

/-- Reads four hexadecimal digits. -/
def readHex (c : Cursor) : Read Nat :=
  match c.rest with
  | a :: b :: d :: e :: rest =>
    let after := { c with rest, column := c.column + 4 }
    match hexValue? a, hexValue? b, hexValue? d, hexValue? e with
    | some a, some b, some d, some e => .ok (((a * 16 + b) * 16 + d) * 16 + e, after)
    | _, _, _, _ =>
      .error ((((((c.past a (b :: d :: e :: rest)).past b (d :: e :: rest)).past d
        (e :: rest)).past e rest)).fault .invalidEscape)
  | short => .error ((short.foldl (fun c b => c.past b c.rest.tail) c).fault .endInText)

/-- Reads the code point of an escape whose letter `u` was read. Code points outside the basic
plane are written as two surrogates. -/
def readCodePoint (c : Cursor) : Read Nat :=
  match readHex c with
  | .error fault => .error fault
  | .ok (high, c) =>
    if 0xdc00 ≤ high && high ≤ 0xdfff then .error (c.fault .loneSurrogate)
    else if high < 0xd800 || 0xdbff < high then .ok (high, c)
    else
      match c.rest with
      | [] => .error (c.fault .endInText)
      | b :: rest =>
        let c := c.past b rest
        if b != 0x5c then .error (c.fault .endOfHexEscape)
        else
          match c.rest with
          | [] => .error (c.fault .endInText)
          | b :: rest =>
            let c := c.past b rest
            if b != 0x75 then .error (c.fault .endOfHexEscape)
            else
              match readHex c with
              | .error fault => .error fault
              | .ok (low, c) =>
                if low < 0xdc00 || 0xdfff < low then .error (c.fault .loneSurrogate)
                else .ok ((high - 0xd800) * 1024 + (low - 0xdc00) + 0x10000, c)

/-- The bytes for an escape, read after its backslash. -/
def readEscape (c : Cursor) : Read Bytes :=
  match c.rest with
  | [] => .error (c.fault .endInText)
  | b :: rest =>
    let c := c.past b rest
    if b = 0x22 || b = 0x5c || b = 0x2f then .ok ([b], c)
    else if b = 0x62 then .ok ([8], c)
    else if b = 0x66 then .ok ([12], c)
    else if b = 0x6e then .ok ([10], c)
    else if b = 0x72 then .ok ([13], c)
    else if b = 0x74 then .ok ([9], c)
    else if b = 0x75 then
      match readCodePoint c with
      | .ok (point, c) => .ok (pointBytes point, c)
      | .error fault => .error fault
    else .error (c.fault .invalidEscape)

/-- The text of decoded bytes. Each byte comes with the column just after it, which places the
fault if the bytes are ill-formed. -/
def finishText (read : List (UInt8 × Nat)) (c : Cursor) : Read String :=
  match Text.decode (read.map Prod.fst) with
  | .ok cs => .ok (String.ofList cs, c)
  | .error index =>
    .error ⟨.invalidCodePoint, c.line, ((read[index]?).map Prod.snd).getD c.column⟩

/-- Reads a text whose opening quote was read. `read` holds the decoded bytes, last one first.
Every step takes a byte, so the number of bytes left bounds the recursion. -/
def readTextFrom : (fuel : Nat) → (read : List (UInt8 × Nat)) → Cursor → Read String
  | 0, _, c => .error (c.fault .endInText)
  | fuel + 1, read, c =>
    match c.rest with
    | [] => .error (c.fault .endInText)
    | b :: rest =>
      let c := c.past b rest
      if b = 0x22 then finishText read.reverse c
      else if b = 0x5c then
        match readEscape c with
        | .error fault => .error fault
        | .ok (bytes, c) =>
          readTextFrom fuel ((bytes.map fun b => (b, c.column)).reverse ++ read) c
      else if b < 0x20 then .error (c.fault .controlCharacter)
      else readTextFrom fuel ((b, c.column) :: read) c

/-- Reads a text; the cursor stands before its opening quote. -/
def readText (c : Cursor) : Read String := readTextFrom (c.rest.length + 1) [] c.skip

/-! ### Arrays and objects -/

/-- Whether another item of an array follows. -/
def itemAhead (first : Bool) (c : Cursor) : Read Bool :=
  let c := c.skipBlanks
  match c.peek with
  | none => .error (c.faultAhead .endInList)
  | some b =>
    if b = 0x5d then .ok (false, c)
    else if first then .ok (true, c)
    else if b = 0x2c then
      let c := c.skip.skipBlanks
      match c.peek with
      | none => .error (c.faultAhead .endInValue)
      | some b => if b = 0x5d then .error (c.faultAhead .trailingComma) else .ok (true, c)
    else .error (c.faultAhead .listCommaOrEndExpected)

/-- Reads the end of an array. -/
def endList (c : Cursor) : Except Fault Cursor :=
  let c := c.skipBlanks
  match c.peek with
  | none => .error (c.faultAhead .endInList)
  | some b =>
    if b = 0x5d then .ok c.skip
    else if b = 0x2c then
      let c := c.skip.skipBlanks
      if c.peek == some 0x5d then .error (c.faultAhead .trailingComma)
      else .error (c.faultAhead .trailingCharacters)
    else .error (c.faultAhead .trailingCharacters)

def readItems (item : Cursor → Read Value) :
    (fuel : Nat) → (first : Bool) → Cursor → Read (List Value)
  | 0, _, c => .error (c.fault .endInList)
  | fuel + 1, first, c =>
    match itemAhead first c with
    | .error fault => .error fault
    | .ok (false, c) => .ok ([], c)
    | .ok (true, c) =>
      match item c with
      | .error fault => .error fault
      | .ok (value, c) =>
        match readItems item fuel false c with
        | .error fault => .error fault
        | .ok (values, c) => .ok (value :: values, c)

/-- Whether another member of an object follows. -/
def memberAhead (first : Bool) (c : Cursor) : Read Bool :=
  let c := c.skipBlanks
  match c.peek with
  | none => .error (c.faultAhead .endInObject)
  | some b =>
    if b = 0x7d then .ok (false, c)
    else if first then
      if b = 0x22 then .ok (true, c) else .error (c.faultAhead .keyNotText)
    else if b = 0x2c then
      let c := c.skip.skipBlanks
      match c.peek with
      | none => .error (c.faultAhead .endInValue)
      | some b =>
        if b = 0x22 then .ok (true, c)
        else if b = 0x7d then .error (c.faultAhead .trailingComma)
        else .error (c.faultAhead .keyNotText)
    else .error (c.faultAhead .objectCommaOrEndExpected)

/-- Reads the colon after a name. -/
def readColon (c : Cursor) : Except Fault Cursor :=
  let c := c.skipBlanks
  match c.peek with
  | none => .error (c.faultAhead .endInObject)
  | some b => if b = 0x3a then .ok c.skip else .error (c.faultAhead .colonExpected)

def readMember (value : Cursor → Read Value) (c : Cursor) : Read (String × Value) :=
  match readText c with
  | .error fault => .error fault
  | .ok (name, c) =>
    match readColon c with
    | .error fault => .error fault
    | .ok c =>
      match value c with
      | .error fault => .error fault
      | .ok (v, c) => .ok ((name, v), c)

def readMembers (value : Cursor → Read Value) :
    (fuel : Nat) → (first : Bool) → Cursor → Read (List (String × Value))
  | 0, _, c => .error (c.fault .endInObject)
  | fuel + 1, first, c =>
    match memberAhead first c with
    | .error fault => .error fault
    | .ok (false, c) => .ok ([], c)
    | .ok (true, c) =>
      match readMember value c with
      | .error fault => .error fault
      | .ok (member, c) =>
        match readMembers value fuel false c with
        | .error fault => .error fault
        | .ok (members, c) => .ok (member :: members, c)

/-- Reads an array; the cursor stands before its bracket. -/
def readList (item : Cursor → Read Value) (c : Cursor) : Read (List Value) :=
  match readItems item (c.rest.length + 1) true c.skip with
  | .error fault => .error fault
  | .ok (values, c) =>
    match endList c with
    | .error fault => .error fault
    | .ok c => .ok (values, c)

/-- Reads an object; the cursor stands before its brace. -/
def readObject (value : Cursor → Read Value) (c : Cursor) : Read Value :=
  match readMembers value (c.rest.length + 1) true c.skip with
  | .error fault => .error fault
  | .ok (members, c) => .ok (.sortedObject members, c.skip)

/-! ### Documents -/

/-- How deep arrays and objects may nest. -/
def depthLimit : Nat := 128

def readConstant (word : Bytes) (value : Value) (c : Cursor) : Read Value :=
  match readWord word c.skip with
  | .ok c => .ok (value, c)
  | .error fault => .error fault

/-- The bytes of `null` after the first. -/
def nullWord : Bytes := [0x75, 0x6c, 0x6c]

/-- The bytes of `true` after the first. -/
def trueWord : Bytes := [0x72, 0x75, 0x65]

/-- The bytes of `false` after the first. -/
def falseWord : Bytes := [0x61, 0x6c, 0x73, 0x65]

def readNumberValue (positive : Bool) (c : Cursor) : Read Value :=
  match readNumber positive c with
  | .ok (n, c) => .ok (.number n, c)
  | .error fault => .error fault

/-- Reads any document. `depth` is how many levels may still open. -/
def readAny : (depth : Nat) → Cursor → Read Value
  | depth, c =>
    let c := c.skipBlanks
    match c.peek with
    | none => .error (c.faultAhead .endInValue)
    | some b =>
      if b = 0x6e then readConstant nullWord .null c
      else if b = 0x74 then readConstant trueWord (.bool true) c
      else if b = 0x66 then readConstant falseWord (.bool false) c
      else if b = 0x2d then readNumberValue false c.skip
      else if isDigit b then readNumberValue true c
      else if b = 0x22 then
        match readText c with
        | .ok (s, c) => .ok (.string s, c)
        | .error fault => .error fault
      else if b = 0x5b || b = 0x7b then
        match depth with
        | 0 => .error (c.faultAhead .tooDeep)
        | 1 => .error (c.faultAhead .tooDeep)
        | depth + 1 =>
          if b = 0x5b then
            match readList (readAny depth) c with
            | .ok (values, c) => .ok (.array values, c)
            | .error fault => .error fault
          else readObject (readAny depth) c
      else .error (c.faultAhead .valueExpected)

/-- The fault for a document of another type than the wanted one. Scalars are read to the end
first, and a fault inside one counts. -/
def otherType (wanted : String) (c : Cursor) : Fault :=
  match c.peek with
  | none => c.faultAhead .valueExpected
  | some b =>
    if b = 0x6e then
      match readWord nullWord c.skip with
      | .ok c => c.fault (.otherType .null wanted)
      | .error fault => fault
    else if b = 0x74 then
      match readWord trueWord c.skip with
      | .ok c => c.fault (.otherType (.bool true) wanted)
      | .error fault => fault
    else if b = 0x66 then
      match readWord falseWord c.skip with
      | .ok c => c.fault (.otherType (.bool false) wanted)
      | .error fault => fault
    else if b = 0x2d || isDigit b then
      match readNumber (b != 0x2d) (if b = 0x2d then c.skip else c) with
      | .ok (n, c) => c.fault (.otherType (.number n) wanted)
      | .error fault => fault
    else if b = 0x22 then
      match readText c with
      | .ok (s, c) => c.fault (.otherType (.text s) wanted)
      | .error fault => fault
    else if b = 0x5b then c.fault (.otherType .sequence wanted)
    else if b = 0x7b then c.fault (.otherType .map wanted)
    else c.faultAhead .valueExpected

/-- A whole number within bounds. -/
def readWhole (low high : Int) (wanted : String) (c : Cursor) : Read Value :=
  match c.peek with
  | none => .error (c.faultAhead .endInValue)
  | some b =>
    if b = 0x2d || isDigit b then
      match readNumber (b != 0x2d) (if b = 0x2d then c.skip else c) with
      | .error fault => .error fault
      | .ok (.double value, c) => .error (c.fault (.otherType (.number (.double value)) wanted))
      | .ok (.whole value, c) =>
        if low ≤ value && value ≤ high then .ok (.number (.whole value), c)
        else .error (c.fault (.otherValue (.number (.whole value)) wanted))
    else .error (otherType wanted c)

/-- Reads two items and the end of their array; the cursor stands before the bracket. -/
def readPair (first second : Cursor → Read Value) (c : Cursor) : Read Value :=
  let wanted := "a tuple of size 2"
  let short := fun (count : Nat) (c : Cursor) =>
    match endList c with
    | .ok c => c.fault (.otherLength count wanted)
    | .error _ => c.fault (.otherLength count wanted)
  match itemAhead true c.skip with
  | .error fault => .error fault
  | .ok (false, c) => .error (short 0 c)
  | .ok (true, c) =>
    match first c with
    | .error fault => .error fault
    | .ok (a, c) =>
      match itemAhead false c with
      | .error fault => .error fault
      | .ok (false, c) => .error (short 1 c)
      | .ok (true, c) =>
        match second c with
        | .error fault => .error fault
        | .ok (b, c) =>
          match endList c with
          | .ok c => .ok (.array [a, b], c)
          | .error fault => .error fault

/-- Reads a document of the wanted form. -/
def readAs : Schema → (depth : Nat) → Cursor → Read Value
  | .any, depth, c => readAny depth c
  | .optional schema, depth, c =>
    let c := c.skipBlanks
    if c.peek == some 0x6e then readConstant nullWord .null c else readAs schema depth c
  | .text, _, c =>
    let c := c.skipBlanks
    match c.peek with
    | none => .error (c.faultAhead .endInValue)
    | some b =>
      if b = 0x22 then
        match readText c with
        | .ok (s, c) => .ok (.string s, c)
        | .error fault => .error fault
      else .error (otherType "a string" c)
  | .unsigned bits, _, c => readWhole 0 (Nat.pow 2 bits - 1) ("u" ++ toString bits) c.skipBlanks
  | .signed bits, _, c =>
    readWhole (-Nat.pow 2 (bits - 1)) (Nat.pow 2 (bits - 1) - 1) ("i" ++ toString bits) c.skipBlanks
  | .bool, _, c =>
    let c := c.skipBlanks
    match c.peek with
    | none => .error (c.faultAhead .endInValue)
    | some b =>
      if b = 0x74 then readConstant trueWord (.bool true) c
      else if b = 0x66 then readConstant falseWord (.bool false) c
      else .error (otherType "a boolean" c)
  | .unit, _, c =>
    let c := c.skipBlanks
    match c.peek with
    | none => .error (c.faultAhead .endInValue)
    | some b =>
      if b = 0x6e then readConstant nullWord .null c else .error (otherType "unit" c)
  | .sequence schema, depth, c =>
    let c := c.skipBlanks
    match c.peek with
    | none => .error (c.faultAhead .endInValue)
    | some b =>
      if b = 0x5b then
        if depth ≤ 1 then .error (c.faultAhead .tooDeep)
        else
          match readList (readAs schema (depth - 1)) c with
          | .ok (values, c) => .ok (.array values, c)
          | .error fault => .error fault
      else .error (otherType "a sequence" c)
  | .pair first second, depth, c =>
    let c := c.skipBlanks
    match c.peek with
    | none => .error (c.faultAhead .endInValue)
    | some b =>
      if b = 0x5b then
        if depth ≤ 1 then .error (c.faultAhead .tooDeep)
        else readPair (readAs first (depth - 1)) (readAs second (depth - 1)) c
      else .error (otherType "a tuple of size 2" c)
  | .mapping schema, depth, c =>
    let c := c.skipBlanks
    match c.peek with
    | none => .error (c.faultAhead .endInValue)
    | some b =>
      if b = 0x7b then
        if depth ≤ 1 then .error (c.faultAhead .tooDeep)
        else readObject (readAs schema (depth - 1)) c
      else .error (otherType "a map" c)

/-- Reads a whole text as one document: nothing but blanks may follow it. -/
def read (schema : Schema) (bytes : Bytes) : Except Fault Value :=
  match readAs schema depthLimit (Cursor.start bytes) with
  | .error fault => .error fault
  | .ok (value, c) =>
    let c := c.skipBlanks
    match c.peek with
    | none => .ok value
    | some _ => .error (c.faultAhead .trailingCharacters)

end RemoteCall.Json
