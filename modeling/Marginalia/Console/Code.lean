import Marginalia.Text.Numeral

/-!
# Codes for terminals

A code has a terminal do something: behind the escape character and an opening bracket stand
numbers, and a letter that says what is to be done.

`withoutCodes` leaves codes out of a text, and `withoutCodes_sublist` says that it adds nothing.
-/

namespace Marginalia.Console

/-- The character that codes start with. -/
def escape : Char := '\x1b'

/-- Whether a character may stand among the numbers of a code. -/
def isCodeNumber (c : Char) : Bool :=
  Text.isAsciiDigit c || c == ';' || c == '?'

/-- Whether a character says what a code does. -/
def isCodeLetter (c : Char) : Bool :=
  ('a' ≤ c && c ≤ 'z') || ('A' ≤ c && c ≤ 'Z')

/-- The number of characters behind the escape character that belong to a code, if there is one. -/
def codeLength? : Text → Option Nat
  | '[' :: s =>
    let numbers := s.takeWhile isCodeNumber
    if (s[numbers.length]?.map isCodeLetter).getD false then some (numbers.length + 2) else none
  | _ => none

/-- The text without the codes in it. -/
def withoutCodes : Text → Text
  | [] => []
  | c :: s =>
    match if c = escape then codeLength? s else none with
    | some n => withoutCodes (s.drop n)
    | none => c :: withoutCodes s
termination_by s => s.length
decreasing_by
  · simp only [List.length_drop, List.length_cons]
    omega
  · simp

theorem withoutCodes_sublist (s : Text) : (withoutCodes s).Sublist s := by
  fun_induction withoutCodes s with
  | case1 => exact List.Sublist.slnil
  | case2 c s n _ ih => exact (ih.trans (List.drop_sublist n s)).cons c
  | case3 c s _ ih => exact ih.cons_cons c

example : withoutCodes "a\x1b[1;2Kb\x1b[c\x1b[/".toList = "ab\x1b[/".toList := by decide +kernel

end Marginalia.Console
