import Marginalia.Diagnostic
import Marginalia.Text.Lines

/-!
# Outcomes

The outcome of one analysis: what was run, how it ended, what it wrote and the diagnostics found in
that.  A run that could not be started has an error in place of a status.
-/

namespace Marginalia

/-- What came of an analysis. -/
structure Outcome where
  /-- The package that was analysed. -/
  unitId : Text
  /-- The command that was run. -/
  command : List Text
  /-- The status it ended with, if it was started. -/
  status : Option Int
  /-- The lines it wrote. -/
  output : List Text
  /-- The diagnostics among them. -/
  diagnostics : List Diagnostic
  /-- Why it could not be started. -/
  error : Option Text
deriving DecidableEq

namespace Outcome

/-- Whether the command was started. -/
def spawned (o : Outcome) : Bool :=
  o.status.isSome

/-- The lines that a captured value holds: a text is cut into lines, and every other value is
written as a text. -/
def linesOf : Value → List Text
  | .null => []
  | .list items => items.map Value.display
  | .text s => Text.splitLines s
  | v => [v.display]

/-- The diagnostics that a value holds. -/
def diagnosticsOf : Value → Checked (List Diagnostic)
  | .list items => Checked.items Diagnostic.ofValue 0 items
  | _ => Checked.refuse .listType

/-- The outcome of a run of which nothing is known yet. -/
def begun (unitId : Text) (command : List Text) : Outcome :=
  ⟨unitId, command, none, [], [], none⟩

/-- The outcome that a table stands for; fields it does not need are passed over. -/
def ofFields (fields : Fields) : Checked Outcome :=
  (Checked.pure Outcome.mk).ap (fields.required "unit_id".toList Value.toText)
    |>.ap (fields.withDefault "command".toList [] (Value.toTexts .tupleType))
    |>.ap (fields.withDefault "returncode".toList none (Value.orNull Value.toInt))
    |>.ap (fields.withDefault "output".toList [] fun v => .ok (linesOf v))
    |>.ap (fields.withDefault "diagnostics".toList [] diagnosticsOf)
    |>.ap (fields.withDefault "error".toList none (Value.orNull Value.toText))

/-- The outcome with one field read from a value. -/
def assign (o : Outcome) (name : Text) (v : Value) : Except Unassigned Outcome :=
  if name = "unit_id".toList then
    v.toText.assigned name fun unitId => { o with unitId }
  else if name = "command".toList then
    (v.toTexts .tupleType).assigned name fun command => { o with command }
  else if name = "returncode".toList then
    (v.orNull Value.toInt).assigned name fun status => { o with status }
  else if name = "output".toList then
    .ok { o with output := linesOf v }
  else if name = "diagnostics".toList then
    (diagnosticsOf v).assigned name fun diagnostics => { o with diagnostics }
  else if name = "error".toList then
    (v.orNull Value.toText).assigned name fun error => { o with error }
  else if name = "spawned".toList then .error .computed
  else Checked.withOther o name

example : linesOf (.text "a\r\nb\n".toList) = [['a'], ['b']] := by decide
example : linesOf (.list [.integer 1, .text "a\nb".toList]) = [['1'], "a\nb".toList] := by decide
example : linesOf (.boolean true) = ["True".toList] := by decide

end Outcome

end Marginalia
