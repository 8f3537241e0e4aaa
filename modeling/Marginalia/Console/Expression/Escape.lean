import Marginalia.Console.Expression.Token

/-!
# Escapes

What stands between quotation marks is a text or, behind the letter b, a list of bytes.  A backslash
starts an escape, unless the letter r stands in front of the marks.  Only escapes that give the code
of a character may be refused: they need a number of digits.

The refusal says where the escape stands, counted in the characters of the text as it is written,
where a character outside of the ASCII range counts as the longest escape for it.
-/

namespace Marginalia.Console.Expression

/-- The number of places that a character counts for. -/
def places (c : Char) : Nat :=
  if c.toNat < 0x80 then 1 else 10

/-- The refusal of an escape that stands between two places, the last one included. -/
def badEscape (first last : Nat) (reason : String) : Text :=
  "(unicode error) 'unicodeescape' codec can't decode bytes in position ".toList
    ++ Text.ofNat first ++ '-' :: Text.ofNat last ++ ": ".toList ++ reason.toList

/-- The refusal of an escape at a place that needs a number of digits, which a text goes on with. -/
def shortOf? (place count : Nat) (s : Text) (reason : String) : Option Text :=
  let digits := (s.take count).takeWhile Text.isHexDigit
  if digits.length < count then some (badEscape place (place + 1 + digits.length) reason)
  else if 0x110000 ≤ Text.valueIn 16 digits then
    some (badEscape place (place + 1 + count) "illegal Unicode character")
  else none

/-- Whether a text has the form of the name of a character. -/
def namesCharacter (name : Text) : Bool :=
  2 ≤ name.length && name.all fun c => c.isAlphanum || c == ' ' || c == '-'

/-- The refusal of the escape at a place that names a character, where a text goes on behind its
letter.  Every name counts as known that has the form of one. -/
def unnamed? (place : Nat) : Text → Option Text
  | '{' :: s =>
    let name := s.takeWhile (· != '}')
    let width := name.foldl (fun n c => n + places c) 0
    if name.length = s.length then
      some (badEscape place (place + 2 + width) "malformed \\N character escape")
    else if name.isEmpty then some (badEscape place (place + 2) "malformed \\N character escape")
    else if namesCharacter name then none
    else some (badEscape place (place + 3 + width) "unknown Unicode character name")
  | _ => some (badEscape place (place + 1) "malformed \\N character escape")

/-- The first refusal in a text with escapes that starts at a place. -/
def escapeRefusal? (place : Nat) : Text → Option Text
  | '\\' :: c :: s =>
    let refusal := match c with
      | 'x' => shortOf? place 2 s "truncated \\xXX escape"
      | 'u' => shortOf? place 4 s "truncated \\uXXXX escape"
      | 'U' => shortOf? place 8 s "truncated \\UXXXXXXXX escape"
      | 'N' => unnamed? place s
      | _ => none
    match refusal with
    | some message => some message
    | none => escapeRefusal? (place + (if c.toNat < 0x80 then 2 else 16)) s
  | c :: s => escapeRefusal? (place + places c) s
  | [] => none

/-- The first refusal in bytes with escapes that start at a place. -/
def byteRefusal? (place : Nat) : Text → Option Text
  | '\\' :: c :: s =>
    if c = 'x' && ((s.take 2).takeWhile Text.isHexDigit).length < 2 then
      some ("(value error) invalid \\x escape at position ".toList ++ Text.ofNat place)
    else byteRefusal? (place + 2) s
  | _ :: s => byteRefusal? (place + 1) s
  | [] => none

namespace Quotation

/-- Whether a quotation is of bytes. -/
def isBytes (q : Quotation) : Bool := q.lead.contains 'b'

/-- Whether the backslashes of a quotation stand for themselves. -/
def isRaw (q : Quotation) : Bool := q.lead.contains 'r'

/-- Whether a quotation has expressions within it. -/
def isFilled (q : Quotation) : Bool := q.lead.contains 'f'

end Quotation

example : escapeRefusal? 0 "é\\x1".toList
    = some (badEscape 10 12 "truncated \\xXX escape") := by decide +kernel
example : escapeRefusal? 0 "\\n\\x41\\N\x7bdash\x7d".toList = none := by decide +kernel

end Marginalia.Console.Expression
