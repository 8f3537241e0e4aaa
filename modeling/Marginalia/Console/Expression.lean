import Marginalia.Console.Expression.Grammar
import Marginalia.Text.Blank

/-!
# What happens with a text

The value of a tag that stands for something that happens is the name of an action with its
arguments in round brackets, or an expression of its own.  The arguments are an expression as well,
and there are none if the name stands alone.  `eventRefusal?` says why a value is refused.
-/

namespace Marginalia.Console

/-- The expression in the value of a tag. -/
def eventExpression (value : Text) : Text :=
  let s := Text.strip value
  match s.dropWhile fun c => Text.isWordChar c || c == '.' with
  | [] => "()".toList
  | '(' :: rest =>
    if rest.getLast? = some ')' && !rest.contains '\n' then '(' :: rest else s
  | _ => s

/-- Why the value of a tag is refused. -/
inductive EventRefusal where
  /-- Its expression is none, for the reason that is given. -/
  | unread (value reason : Text)
  /-- Its expression has no value, for the reason that is given. -/
  | worthless (value reason : Text)
deriving DecidableEq, Repr

/-- A refusal in words. -/
def EventRefusal.message : EventRefusal → Text
  | unread value reason =>
    "error parsing ".toList ++ Text.quoted (eventExpression value) ++ " in ".toList
      ++ Text.quoted value ++ "; ".toList ++ reason
  | worthless value reason =>
    "error parsing ".toList ++ Text.quoted value ++ "; ".toList ++ reason

/-- Why the value of a tag is refused, if it is.  A value without characters is none. -/
def eventRefusal? (value : Text) : Option EventRefusal :=
  if value.isEmpty then none
  else
    match Expression.read (eventExpression value) with
    | .error reason => some (.unread value reason)
    | .ok p => p.complaint?.map (.worthless value)

example : eventExpression " app.open('a', 1) ".toList = "('a', 1)".toList := by decide +kernel
example : eventExpression "open".toList = "()".toList := by decide +kernel
example : eventExpression "1 + 2".toList = "1 + 2".toList := by decide +kernel
example : eventRefusal? "open('a', 1)".toList = none := by decide +kernel
example : (eventRefusal? "open(1 2)".toList).map EventRefusal.message
    = some ("error parsing '(1 2)' in 'open(1 2)'; ".toList
      ++ "invalid syntax. Perhaps you forgot a comma?".toList) := by decide +kernel
example : (eventRefusal? "f('a'".toList).map EventRefusal.message
    = some "error parsing \"f('a'\" in \"f('a'\"; '(' was never closed".toList := by
  decide +kernel

end Marginalia.Console
