import Marginalia.Text.Blank
import Marginalia.Validation

/-!
# Diagnostics

A diagnostic is one remark of the compiler about a place in a source file.  Lines and columns count
from one, and a message has no blanks at its ends.

A diagnostic never changes: `assign` refuses every field, and a private name changes nothing that
shows.
-/

namespace Marginalia

/-- A remark about a place in a source file. -/
structure Diagnostic where
  /-- The file as the compiler spells it. -/
  sourceFile : Text
  /-- The line. -/
  line : Positive
  /-- The column. -/
  column : Positive
  /-- What the compiler has to say. -/
  message : Text
deriving DecidableEq

namespace Diagnostic

/-- The text of a message that a value is. -/
def messageOf (v : Value) : Checked Text :=
  match v.toText with
  | .ok s => .ok (Text.strip s)
  | .error issues => .error issues

/-- The diagnostic that a table stands for; fields it does not need are passed over. -/
def ofFields (fields : Fields) : Checked Diagnostic :=
  (Checked.pure Diagnostic.mk).ap (fields.required "source_file".toList Value.toText)
    |>.ap (fields.required "line".toList Value.toPositive)
    |>.ap (fields.required "column".toList Value.toPositive)
    |>.ap (fields.required "message".toList messageOf)

/-- The diagnostic that a value stands for. -/
def ofValue : Value → Checked Diagnostic
  | .table fields => ofFields fields
  | _ => Checked.refuse .modelType

/-- The diagnostic with a field changed: every change that would show is refused. -/
def assign (d : Diagnostic) (name : Text) (_ : Value) : Except Unassigned Diagnostic :=
  if Checked.isPrivate name then Checked.withOther d name
  else .error (.invalid [⟨[.field name], .frozen⟩])

end Diagnostic

end Marginalia
