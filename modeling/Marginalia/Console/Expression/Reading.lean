import Marginalia.Console.Expression.Filled
import Marginalia.Console.Expression.Phrase

/-!
# Reading tokens

A reading takes tokens from the front of a list.  It finds what it looks for, or it finds something
else and the next reading may have a try at the same tokens, or it refuses the tokens for good.

The end of an expression with an open bracket, and a backslash within a line, are refused as soon as
a reading comes across them.
-/

namespace Marginalia.Console.Expression

/-- A reading of tokens. -/
abbrev Reading := StateT (List Token) (OptionT (Except Refusal))

namespace Reading

/-- The reading that refuses the tokens for good. -/
def refuseWith {α : Type} (refusal : Refusal) : Reading α :=
  fun _ => .mk (.error refusal)

/-- The reading that refuses the tokens for good, for a reason. -/
def refuse {α : Type} (reason : Text) : Reading α :=
  refuseWith (.of reason)

/-- The next token, which stays where it is. -/
def next : Reading Token := do
  match (← get).head? with
  | some (.unclosed bracket) => refuse ('\'' :: bracket :: "' was never closed".toList)
  | some .backslash =>
    refuse "unexpected character after line continuation character".toList
  | some t => pure t
  | none => failure

/-- Whether a sign is next. -/
def isNext (s : String) : Reading Bool :=
  return (← next) == .sign s.toList

/-- One of some signs is taken. -/
def oneOf (signs : List String) : Reading Unit := do
  match ← next with
  | .sign s => if signs.contains (String.ofList s) then modify List.tail else failure
  | _ => failure

/-- A sign is taken. -/
def sign (s : String) : Reading Unit := oneOf [s]

/-- A name is taken. -/
def name : Reading Text := do
  match ← next with
  | .name s => modify List.tail; pure s
  | _ => failure

/-- Whether a reading finds anything; nothing is taken. -/
def finds {α : Type} (r : Reading α) : Reading Bool := do
  let tokens ← get
  let found ← optional r
  set tokens
  pure found.isSome

/-- What a reading finds again and again, up to a number of times. -/
def manyUpTo {α : Type} (r : Reading α) : Nat → Reading (List α)
  | 0 => pure []
  | n + 1 => do
    match ← optional r with
    | some a => return a :: (← manyUpTo r n)
    | none => pure []

/-- What a reading that takes tokens finds again and again. -/
def many {α : Type} (r : Reading α) : Reading (List α) := do
  manyUpTo r (← get).length

/-- What a reading finds behind each of some commas, where one more comma may stand at the end. -/
def afterCommas {α : Type} (r : Reading α) : Reading (List α) := do
  let found ← many do
    sign ","
    r
  let _ ← optional (sign ",")
  pure found

/-- A reading finds nothing unless something holds. -/
def require (holds : Bool) : Reading Unit :=
  if holds then pure () else failure

end Reading

end Marginalia.Console.Expression
