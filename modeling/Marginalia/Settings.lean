import Marginalia.Validation

/-!
# Settings

The settings of an analysis: which messages are wanted, how much detail the compiler gives, which
program the compiler is, and how the findings are shown.

Settings are read from tables.  `withChanges` lays a table over settings and reads the whole afresh,
so that the result is as valid as what was read in the first place.
-/

namespace Marginalia

/-- The settings of an analysis. -/
structure Settings where
  /-- The pieces of text of which a wanted message holds one. -/
  allowList : List Text
  /-- How much detail the compiler gives. -/
  detailLevel : Positive
  /-- The program that is the compiler. -/
  goBinary : Text
  /-- Whether messages start with a pictogram. -/
  emoji : Bool
  /-- Whether messages are coloured. -/
  color : Bool
deriving DecidableEq

namespace Settings

/-- The settings where nothing is set. -/
def standard : Settings where
  allowList := ["leaking param", "escapes to heap", "moved to heap"].map String.toList
  detailLevel := ⟨1, by decide⟩
  goBinary := "go".toList
  emoji := true
  color := true

/-! ## Detail -/

/-- The flags for a detail level; more than two levels are not told apart. -/
def flagsFor (verbose : Bool) : Text :=
  if verbose then "-m -m".toList else "-m".toList

/-- The flags that the compiler is given. -/
def flags (s : Settings) : Text :=
  flagsFor (2 ≤ s.detailLevel.val)

/-- Why a value is no detail level. -/
inductive LevelRefusal where
  /-- It is no number. -/
  | notNumber
  /-- It is less than one. -/
  | tooLow (level : Value)

/-- A refusal in words. -/
def LevelRefusal.message : LevelRefusal → Text
  | .notNumber => "Detail level must be a number".toList
  | .tooLow level => "Detail level must be >= 1, got ".toList ++ level.display

/-- The flags for a value that is taken as a detail level. -/
def levelFlags (level : Value) : Except LevelRefusal Text :=
  let judge (low verbose : Bool) : Except LevelRefusal Text :=
    if low then .error (.tooLow level) else .ok (flagsFor verbose)
  match level with
  | .boolean b => judge (!b) false
  | .integer n => judge (n < 1) (2 ≤ n)
  | .number x => judge (x.ltInt 1) (x.geInt 2)
  | _ => .error .notNumber

/-- Flags that are meant for one package only. -/
def scopedTo (unitId flags : Text) : Text :=
  unitId ++ '=' :: flags

/-- The command that has the compiler report on a package. -/
def command (s : Settings) (unitId : Text) : List Text :=
  [s.goBinary, "build".toList, "-gcflags=".toList ++ scopedTo unitId s.flags, ['.']]

/-! ## Reading -/

/-- The pieces of text that a value holds; a text stands for itself alone. -/
def allowListOf : Value → Checked (List Text)
  | .text s => .ok [s]
  | v => v.toTexts .tupleType

/-- The names of the settings. -/
def names : List Text :=
  ["allow_list", "detail_level", "go_binary", "emoji", "color"].map String.toList

/-- The settings that a table stands for. -/
def ofFields (fields : Fields) : Checked Settings :=
  (Checked.pure fun allowList detailLevel goBinary emoji color (_ : Unit) =>
      (⟨allowList, detailLevel, goBinary, emoji, color⟩ : Settings))
    |>.ap (fields.withDefault "allow_list".toList standard.allowList allowListOf)
    |>.ap (fields.withDefault "detail_level".toList standard.detailLevel Value.toPositive)
    |>.ap (fields.withDefault "go_binary".toList standard.goBinary Value.toText)
    |>.ap (fields.withDefault "emoji".toList standard.emoji Value.toBool)
    |>.ap (fields.withDefault "color".toList standard.color Value.toBool)
    |>.ap (fields.onlyKnown names)

/-- The table that stands for settings. -/
def toFields (s : Settings) : Fields :=
  [("allow_list".toList, .list (s.allowList.map .text)),
   ("detail_level".toList, .integer s.detailLevel.val),
   ("go_binary".toList, .text s.goBinary),
   ("emoji".toList, .boolean s.emoji),
   ("color".toList, .boolean s.color)]

/-! ## Changing -/

/-- The changes that are more than a null. -/
def actual (changes : Fields) : Fields :=
  changes.filter fun change =>
    match change.2 with
    | .null => false
    | _ => true

/-- Whether there is nothing to change. -/
def isIdle (changes : Fields) : Bool :=
  (actual changes).isEmpty

/-- The settings with changes laid over them; a null changes nothing. -/
def withChanges (s : Settings) (changes : Fields) : Checked Settings :=
  if isIdle changes then .ok s else ofFields (s.toFields.update (actual changes))

/-- The settings with one of them read from a value. -/
def assign (s : Settings) (name : Text) (v : Value) : Except Unassigned Settings :=
  if name = "allow_list".toList then
    (allowListOf v).assigned name fun allowList => { s with allowList }
  else if name = "detail_level".toList then
    v.toPositive.assigned name fun detailLevel => { s with detailLevel }
  else if name = "go_binary".toList then
    v.toText.assigned name fun goBinary => { s with goBinary }
  else if name = "emoji".toList then
    v.toBool.assigned name fun emoji => { s with emoji }
  else if name = "color".toList then
    v.toBool.assigned name fun color => { s with color }
  else if name = "flags".toList then .error .computed
  else Checked.withOther s name

example : standard.command "m/a".toList
    = ["go", "build", "-gcflags=m/a=-m", "."].map String.toList := by decide
example : ofFields standard.toFields = .ok standard := rfl
example : ofFields [("x".toList, .null), ("emoji".toList, .null)]
    = .error [⟨[.field "emoji".toList], .boolType⟩, ⟨[.field "x".toList], .extraForbidden⟩] := rfl

end Settings

end Marginalia
