/-!
# UTF-8

Decoding of byte lists. `decode` yields the characters, or the index of the first byte at which
no well-formed sequence starts.
-/

namespace RemoteCall

/-- An encoded message. -/
abbrev Bytes := List UInt8

namespace Text

/-- The low six bits of a continuation byte, if it is one. -/
def continuation? (b : UInt8) : Option Nat :=
  if 0x80 ≤ b && b < 0xc0 then some (b.toNat - 0x80) else none

/-- The character that starts a byte list, and the number of its bytes. Overlong forms,
surrogates and values above the last code point are refused. -/
def firstChar? : Bytes → Option (Char × Nat)
  | [] => none
  | a :: rest =>
    if a < 0x80 then some (Char.ofNat a.toNat, 1)
    else if a < 0xc2 then none
    else if a < 0xe0 then
      match rest with
      | b :: _ => do
        let b ← continuation? b
        some (Char.ofNat ((a.toNat - 0xc0) * 64 + b), 2)
      | _ => none
    else if a < 0xf0 then
      match rest with
      | b :: c :: _ => do
        let b ← continuation? b
        let c ← continuation? c
        let point := (a.toNat - 0xe0) * 4096 + b * 64 + c
        if point < 0x800 || (0xd800 ≤ point && point < 0xe000) then none
        else some (Char.ofNat point, 3)
      | _ => none
    else if a < 0xf5 then
      match rest with
      | b :: c :: d :: _ => do
        let b ← continuation? b
        let c ← continuation? c
        let d ← continuation? d
        let point := (a.toNat - 0xf0) * 262144 + b * 4096 + c * 64 + d
        if point < 0x10000 || 0x110000 ≤ point then none else some (Char.ofNat point, 4)
      | _ => none
    else none

/-- Decodes from index `at`; `skip` bytes still belong to the character decoded last. -/
def decodeFrom (index skip : Nat) : Bytes → Except Nat (List Char)
  | [] => .ok []
  | bytes@(_ :: rest) =>
    match skip with
    | skip + 1 => decodeFrom (index + 1) skip rest
    | 0 =>
      match firstChar? bytes with
      | none => .error index
      | some (c, length) =>
        match decodeFrom (index + 1) (length - 1) rest with
        | .ok cs => .ok (c :: cs)
        | .error e => .error e

/-- The characters of a byte list, or the index of the first ill-formed byte. -/
def decode (bytes : Bytes) : Except Nat (List Char) := decodeFrom 0 0 bytes

/-- The text of a well-formed byte list. -/
def ofBytes? (bytes : Bytes) : Option String :=
  match decode bytes with
  | .ok cs => some (String.ofList cs)
  | .error _ => none

def toBytes (text : String) : Bytes := text.toUTF8.toList

end Text

end RemoteCall
