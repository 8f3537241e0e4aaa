import Marginalia.Text.Basic
import Marginalia.Text.Visible

/-!
# Quoted text

A text in quotation marks, as it stands inside a message.  The mark is the apostrophe, and the
double quote for a text that holds an apostrophe and no double quote.  A character that would not
show, or would end the quotation, is written as an escape.
-/

namespace Marginalia.Text

/-- The last `width` digits of a number in base sixteen. -/
def hexDigits (width n : Nat) : Text :=
  let digits := Nat.toDigits 16 n
  List.replicate (width - digits.length) '0' ++ digits

/-- A character as it is written between the marks. -/
def quoteChar (mark c : Char) : Text :=
  if c = mark || c = '\\' then ['\\', c]
  else if c = '\n' then "\\n".toList
  else if c = '\r' then "\\r".toList
  else if c = '\t' then "\\t".toList
  else if isVisible c then [c]
  else if c.toNat < 0x100 then "\\x".toList ++ hexDigits 2 c.toNat
  else if c.toNat < 0x10000 then "\\u".toList ++ hexDigits 4 c.toNat
  else "\\U".toList ++ hexDigits 8 c.toNat

/-- The mark that goes around a text. -/
def quoteMark (s : Text) : Char :=
  if s.contains '\'' && !s.contains '"' then '"' else '\''

/-- A text in quotation marks. -/
def quoted (s : Text) : Text :=
  let mark := quoteMark s
  mark :: s.flatMap (quoteChar mark) ++ [mark]

example : quoted "a.go".toList = "'a.go'".toList := by decide +kernel
example : quoted "it's".toList = "\"it's\"".toList := by decide +kernel
example : quoted "'\"\n\u200b".toList = "'\\'\"\\n\\u200b'".toList := by decide +kernel

end Marginalia.Text
