/-!
# Blanks and words

The characters with the Unicode property White_Space, and the words of a text between them.
-/

namespace RemoteCall.Text

/-- Whether a character is white space in the sense of the Unicode property of that name. -/
def isBlank (c : Char) : Bool :=
  let n := c.toNat
  (0x9 ≤ n && n ≤ 0xd) || n == 0x20 || n == 0x85 || n == 0xa0 || n == 0x1680 ||
    (0x2000 ≤ n && n ≤ 0x200a) || n == 0x2028 || n == 0x2029 || n == 0x202f || n == 0x205f ||
    n == 0x3000

/-- Splits characters into maximal runs without a blank. `current` holds the word being read,
last character first. -/
def wordsFrom : (current : List Char) → List Char → List (List Char)
  | [], [] => []
  | current@(_ :: _), [] => [current.reverse]
  | current, c :: rest =>
    if isBlank c then
      match current with
      | [] => wordsFrom [] rest
      | _ :: _ => current.reverse :: wordsFrom [] rest
    else wordsFrom (c :: current) rest

def words (text : String) : List String := (wordsFrom [] text.toList).map String.ofList

end RemoteCall.Text
