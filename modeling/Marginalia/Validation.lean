import Marginalia.Text.Blank
import Marginalia.Text.Digit
import Marginalia.Text.Numeral
import Marginalia.Value

/-!
# Validation

A reader takes a value and returns what the value stands for, or the issues that keep it from
standing for anything.  Readers are lenient: a number may be written as a text, a truth value as a
number or a word, and a whole number as a floating-point number.

The issues of several fields are all reported, in the order of the fields.  `ap_eq_ok_iff` says that
a record is read exactly if each of its fields is.
-/

namespace Marginalia

/-- A number from one on. -/
abbrev Positive := { n : Nat // 1 ≤ n }

/-! ## Issues -/

/-- A step on the way from a value to a part of it. -/
inductive Locator where
  /-- The field of a table. -/
  | field (name : Text)
  /-- The item of a list, counted from zero. -/
  | index (n : Nat)
deriving DecidableEq, Repr

namespace Issue

/-- What is wrong with a part of a value. -/
inductive Kind where
  /-- A field that is needed is not there. -/
  | missing
  /-- A field is there that nobody asked for. -/
  | extraForbidden
  /-- A number is less than one. -/
  | lessThanOne
  /-- The value is no whole number. -/
  | intType
  /-- The text writes no whole number. -/
  | intParsing
  /-- The number has a fractional part. -/
  | intFromFloat
  /-- The number is too large to be read. -/
  | intParsingSize
  /-- The number is infinite or no number at all. -/
  | finiteNumber
  /-- The value is no truth value. -/
  | boolType
  /-- The text or number stands for no truth value. -/
  | boolParsing
  /-- The value is no text. -/
  | stringType
  /-- The value is no list, where its length does not change later. -/
  | tupleType
  /-- The value is no list. -/
  | listType
  /-- The value is no table of the fields of a diagnostic. -/
  | modelType
  /-- The record does not change. -/
  | frozen
  /-- The record has no such field. -/
  | noSuchField (name : Text)
deriving DecidableEq, Repr

/-- The short name of a kind. -/
def Kind.code : Kind → Text
  | .missing => "missing".toList
  | .extraForbidden => "extra_forbidden".toList
  | .lessThanOne => "greater_than_equal".toList
  | .intType => "int_type".toList
  | .intParsing => "int_parsing".toList
  | .intFromFloat => "int_from_float".toList
  | .intParsingSize => "int_parsing_size".toList
  | .finiteNumber => "finite_number".toList
  | .boolType => "bool_type".toList
  | .boolParsing => "bool_parsing".toList
  | .stringType => "string_type".toList
  | .tupleType => "tuple_type".toList
  | .listType => "list_type".toList
  | .modelType => "model_type".toList
  | .frozen => "frozen_instance".toList
  | .noSuchField _ => "no_such_attribute".toList

/-- A kind in words. -/
def Kind.message : Kind → Text
  | .missing => "Field required".toList
  | .extraForbidden => "Extra inputs are not permitted".toList
  | .lessThanOne => "Input should be greater than or equal to 1".toList
  | .intType => "Input should be a valid integer".toList
  | .intParsing => "Input should be a valid integer, unable to parse string as an integer".toList
  | .intFromFloat =>
    "Input should be a valid integer, got a number with a fractional part".toList
  | .intParsingSize =>
    "Unable to parse input string as an integer, exceeded maximum size".toList
  | .finiteNumber => "Input should be a finite number".toList
  | .boolType => "Input should be a valid boolean".toList
  | .boolParsing => "Input should be a valid boolean, unable to interpret input".toList
  | .stringType => "Input should be a valid string".toList
  | .tupleType => "Input should be a valid tuple".toList
  | .listType => "Input should be a valid list".toList
  | .modelType => "Input should be a valid dictionary or instance of Diagnostic".toList
  | .frozen => "Instance is frozen".toList
  | .noSuchField name => "Object has no attribute '".toList ++ name ++ ['\'']

end Issue

/-- What is wrong, and with which part of the value. -/
structure Issue where
  /-- The way to the part. -/
  place : List Locator
  /-- What is wrong with it. -/
  kind : Issue.Kind
deriving DecidableEq, Repr

/-! ## Results -/

/-- What a value stands for, or what is wrong with it. -/
abbrev Checked (α : Type) := Except (List Issue) α

namespace Checked

variable {α β : Type}

/-- A value with one thing wrong. -/
def refuse (kind : Issue.Kind) : Checked α :=
  .error [⟨[], kind⟩]

/-- What is wrong with a part, as seen from the whole. -/
def inside (step : Locator) : Checked α → Checked α
  | .ok a => .ok a
  | .error issues => .error (issues.map fun issue => { issue with place := step :: issue.place })

/-- What nothing is wrong with. -/
def pure (a : α) : Checked α :=
  .ok a

/-- A function applied to an argument, with what is wrong with either. -/
def ap : Checked (α → β) → Checked α → Checked β
  | .ok f, .ok a => .ok (f a)
  | .ok _, .error issues => .error issues
  | .error issues, .ok _ => .error issues
  | .error issues, .error more => .error (issues ++ more)

theorem inside_eq_ok_iff {step : Locator} {x : Checked α} {a : α} :
    inside step x = .ok a ↔ x = .ok a := by
  cases x <;> simp [inside]

theorem ap_eq_ok_iff {f : Checked (α → β)} {x : Checked α} {b : β} :
    ap f x = .ok b ↔ ∃ g a, f = .ok g ∧ x = .ok a ∧ g a = b := by
  cases f <;> cases x <;> simp [ap]

/-- The results of the items of a list, the first of which has the number `n`. -/
def items (read : Value → Checked α) (n : Nat) : List Value → Checked (List α)
  | [] => .ok []
  | v :: rest =>
    ap (ap (pure List.cons) (inside (.index n) (read v))) (items read (n + 1) rest)

end Checked

namespace Value

/-! ## Readers -/

/-- What a numeral goes on with behind the zeros at its start, among which underscores may stand.
`last` is the character read before.  A numeral that ends with the zeros keeps the last of them, and
so does one that goes on with a point. -/
def behindZeros? (last : Char) : Text → Option Text
  | [] => some [last]
  | c :: s =>
    if c = '0' || c = '_' then behindZeros? c s
    else if c = '-' || Text.isAsciiDigit c then some (c :: s)
    else if c = '.' then some (last :: c :: s)
    else none

/-- A numeral without the zeros at its start. -/
def withoutZeros? : Text → Option Text
  | [] => none
  | c :: s =>
    if c = '0' then behindZeros? c s
    else if c = '-' || Text.isAsciiDigit c then some (c :: s)
    else none

/-- A numeral without a fraction of nothing but zeros. -/
def withoutFraction (s : Text) : Text :=
  let whole := s.takeWhile (· != '.')
  let zeros := s.drop (whole.length + 1)
  if !zeros.isEmpty && zeros.all (· == '0') then whole else s

/-- A numeral without its underscores, each of which must stand alone between two characters. -/
def withoutUnderscores (s : Text) : Text :=
  if s.head? == some '_' || s.getLast? == some '_' || Text.occursIn "__".toList s then s
  else s.filter (· != '_')

/-- The whole number that digits write behind a minus sign or none, if the number starts with a zero
only if it is zero.  A number has too many digits even if it goes on with something else. -/
def plainInt (s : Text) : Checked Int :=
  let digits := if s.head? = some '-' then s.tail else s
  let run := digits.takeWhile Text.isAsciiDigit
  let n : Int := Text.valueIn 10 run
  if run.isEmpty || (run.head? = some '0' && 1 < run.length) then Checked.refuse .intParsing
  else if Text.digitLimit < run.length then Checked.refuse .intParsingSize
  else if run.length < digits.length then Checked.refuse .intParsing
  else .ok (if run.length < s.length then -n else n)

/-- A numeral without white space around it, a plus sign, zeros at its start, underscores between
the digits and a fraction of zeros. -/
def tidyNumeral? (s : Text) : Option Text :=
  let tidy (unsigned : Text) : Option Text := (withoutZeros? unsigned).map withoutFraction
  match Text.stripSpace s with
  | '+' :: '-' :: _ => none
  | '+' :: s => (tidy s).map withoutUnderscores
  | '-' :: s => (tidy s).map fun numeral => withoutUnderscores ('-' :: numeral)
  | s => (tidy s).map withoutUnderscores

/-- The whole number that a text writes, perhaps untidily.  Only of a text that starts with the
digits of a number it is said that they are too many. -/
def intOfText (s : Text) : Checked Int :=
  match plainInt s with
  | .ok n => .ok n
  | .error [⟨[], .intParsingSize⟩] => Checked.refuse .intParsingSize
  | .error _ =>
    match (tidyNumeral? s).map plainInt with
    | some (.ok n) => .ok n
    | _ => Checked.refuse .intParsing

/-- Whether a floating-point number lies strictly between the ends of the range of 64-bit words. -/
def fitsWord (x : Binary64) : Bool :=
  x.ltInt 9223372036854775808 && !x.ltInt (-9223372036854775807)

/-- Whether a number is one of the 64-bit words. -/
def isWord (n : Int) : Bool :=
  -9223372036854775808 ≤ n && n ≤ 9223372036854775807

/-- The whole number that a floating-point number is. -/
def intOfNumber : Binary64 → Checked Int
  | .finite negative m e =>
    let x := Binary64.finite negative m e
    if !x.isIntegral then Checked.refuse .intFromFloat
    else if fitsWord x then .ok x.truncate
    else Checked.refuse .intParsingSize
  | _ => Checked.refuse .finiteNumber

/-- The whole number that a value stands for. -/
def toInt : Value → Checked Int
  | .integer n => .ok n
  | .boolean b => .ok (if b then 1 else 0)
  | .number x => intOfNumber x
  | .text s => intOfText s
  | _ => Checked.refuse .intType

/-- The number from one on that a value stands for. -/
def toPositive (v : Value) : Checked Positive :=
  match v.toInt with
  | .ok n => if h : 1 ≤ n.toNat then .ok ⟨n.toNat, h⟩ else Checked.refuse .lessThanOne
  | .error issues => .error issues

theorem toPositive_integer (n : Positive) : toPositive (.integer n.val) = .ok n := by
  have hn : 1 ≤ ((n.val : Int)).toNat := n.property
  rw [toPositive, toInt]
  exact dif_pos hn

/-- The words that stand for truth. -/
def yesWords : List Text :=
  ["1", "true", "t", "yes", "y", "on"].map String.toList

/-- The words that stand for falsehood. -/
def noWords : List Text :=
  ["0", "false", "f", "no", "n", "off"].map String.toList

/-- The truth value that a value stands for. -/
def toBool : Value → Checked Bool
  | .boolean b => .ok b
  | .integer n =>
    if n = 1 then .ok true
    else if n = 0 then .ok false
    else if isWord n then Checked.refuse .boolParsing
    else Checked.refuse .boolType
  | .number x =>
    match intOfNumber x with
    | .ok n =>
      if n = 1 then .ok true else if n = 0 then .ok false else Checked.refuse .boolParsing
    | .error _ => Checked.refuse .boolType
  | .text s =>
    let word := s.map Char.toLower
    if yesWords.contains word then .ok true
    else if noWords.contains word then .ok false
    else Checked.refuse .boolParsing
  | _ => Checked.refuse .boolType

/-- The text that a value is. -/
def toText : Value → Checked Text
  | .text s => .ok s
  | _ => Checked.refuse .stringType

/-- The texts that a list holds. -/
def toTexts (kind : Issue.Kind) : Value → Checked (List Text)
  | .list items => Checked.items toText 0 items
  | _ => Checked.refuse kind

/-- What a value stands for that may also be absent. -/
def orNull {α : Type} (read : Value → Checked α) : Value → Checked (Option α)
  | .null => .ok none
  | v =>
    match read v with
    | .ok a => .ok (some a)
    | .error issues => .error issues

end Value

namespace Fields

variable {α : Type}

/-! ## Fields of records -/

/-- The field of a record that must be there. -/
def required (fields : Fields) (name : Text) (read : Value → Checked α) : Checked α :=
  Checked.inside (.field name)
    (match fields.get? name with
    | some v => read v
    | none => Checked.refuse .missing)

/-- The field of a record that has a default. -/
def withDefault (fields : Fields) (name : Text) (default : α) (read : Value → Checked α) :
    Checked α :=
  match fields.get? name with
  | some v => Checked.inside (.field name) (read v)
  | none => .ok default

/-- What is wrong with a table that has fields outside of `known`. -/
def onlyKnown (fields : Fields) (known : List Text) : Checked Unit :=
  match fields.filter fun field => !known.contains field.1 with
  | [] => .ok ()
  | extra => .error (extra.map fun field => ⟨[.field field.1], .extraForbidden⟩)

end Fields

/-! ## Changes of records -/

/-- Why a field of a record does not take a value. -/
inductive Unassigned where
  /-- The field is computed from others. -/
  | computed
  /-- The name stands for what the record is made of. -/
  | structural
  /-- The value does not fit, or there is no such field. -/
  | invalid (issues : List Issue)
deriving DecidableEq, Repr

/-- A record with one of its fields read from a value. -/
def Checked.assigned {ρ α : Type} (name : Text) (change : α → ρ) (x : Checked α) :
    Except Unassigned ρ :=
  match inside (.field name) x with
  | .ok a => .ok (change a)
  | .error issues => .error (.invalid issues)

/-- The refusal of a field that a record does not have. -/
def Unassigned.unknown (name : Text) : Unassigned :=
  .invalid [⟨[.field name], .noSuchField name⟩]

namespace Checked

/-- Whether a name is private to a record: such a name takes every value, and no answer shows it. -/
def isPrivate (name : Text) : Bool :=
  name.head? == some '_'

/-- The names of what every record computes about itself, and of what it never lets go of. -/
def computedNames : List Text :=
  ["model_extra", "model_fields_set", "__fields_set__", "__weakref__"].map String.toList

/-- The names of what every record is made of. -/
def structuralNames : List Text :=
  ["__class__", "__dict__"].map String.toList

/-- A record after a change of a name that is none of its fields. -/
def withOther {ρ : Type} (r : ρ) (name : Text) : Except Unassigned ρ :=
  if computedNames.contains name then .error .computed
  else if structuralNames.contains name then .error .structural
  else if isPrivate name then .ok r
  else .error (.unknown name)

end Checked

/-! ## Works of records -/

/-- What a record takes values with.  Each part stands under a private name, and a value given to
that name takes the place of the part. -/
structure Works where
  /-- What stands in the place of the table of setters. -/
  setters : Option Value
  /-- Whether there is still a reader of values. -/
  reads : Bool
  /-- Whether the place for further fields holds fields or nothing. -/
  gathers : Bool
  /-- Whether there is still a list of the fields that were set. -/
  marks : Bool

namespace Works

/-- The works of a new record. -/
def sound : Works := ⟨none, true, true, true⟩

/-- Whether a private name is that of a part of the works. -/
def names (part : String) (name : Text) : Bool :=
  "__".toList.isPrefixOf name && ('_' :: part.toList ++ "__".toList).isSuffixOf name

/-- Whether a value may stand in the place for further fields. -/
def canGather : Value → Bool
  | .null | .table _ => true
  | _ => false

/-- The works after a private name has been given a value. -/
def replace (w : Works) (name : Text) (v : Value) : Works :=
  if names "handlers" name then { w with setters := some v }
  else if names "validator" name then { w with reads := false }
  else if names "extra" name then { w with gathers := canGather v }
  else if names "fields_set" name then { w with marks := false }
  else w

/-- Why the table of setters lets no value through to a name, if it does not. -/
def barrier? (w : Works) (name : Text) : Option Unassigned :=
  match w.setters with
  | none => none
  | some (.table fields) =>
    match Fields.get? fields name with
    | none | some .null => none
    | some _ => some .structural
  | some _ => some .computed

end Works

/-- Whether a value is refused before it is looked at. -/
def Unassigned.isFirm : Unassigned → Bool
  | .computed => true
  | .structural => false
  | .invalid issues => issues.any fun issue => issue.kind == .frozen

/-- A record and its works. -/
structure Kept (ρ : Type) where
  /-- The record. -/
  record : ρ
  /-- Its works. -/
  works : Works

namespace Kept

variable {ρ : Type}

/-- A new record. -/
def ofRecord (r : ρ) : Kept ρ := ⟨r, .sound⟩

/-- A record after a name has been given a value, where `assign` says what comes of that as long as
the works are sound. -/
def assign (assign : ρ → Text → Value → Except Unassigned ρ) (k : Kept ρ) (name : Text)
    (v : Value) : Except Unassigned (Kept ρ) :=
  match k.works.barrier? name, assign k.record name v with
  | some e, _ => .error e
  | none, result =>
    if Checked.isPrivate name then result.map (⟨·, k.works.replace name v⟩)
    else
      match result with
      | .error e =>
        if e.isFirm then .error e
        else if !k.works.reads then .error .computed
        else if !k.works.gathers then .error .structural
        else .error e
      | .ok r =>
        if !k.works.reads then .error .computed
        else if k.works.gathers && k.works.marks then .ok { k with record := r }
        else .error .structural

/-- As long as the works are sound, a field changes as `assign` says. -/
theorem assign_ofRecord (f : ρ → Text → Value → Except Unassigned ρ) (r : ρ) (name : Text)
    (v : Value) (h : Checked.isPrivate name = false) :
    (ofRecord r).assign f name v = (f r name v).map ofRecord := by
  cases hf : f r name v with
  | error e =>
    cases he : e.isFirm <;>
      simp [assign, ofRecord, Works.sound, Works.barrier?, h, hf, he, Except.map]
  | ok => simp [assign, ofRecord, Works.sound, Works.barrier?, h, hf, Except.map]

end Kept

namespace Value

/-! ## Examples -/

example : toInt (.text " +02.00\n".toList) = .ok 2 := rfl
example : toInt (.text "1__0".toList) = Checked.refuse .intParsing := rfl
example : toInt (.text "2.".toList) = Checked.refuse .intParsing := rfl
example : toInt (.text ['\u0662']) = Checked.refuse .intParsing := rfl
example : toInt (.text "00_0-1_2.0".toList) = .ok (-12) := rfl
example : toInt (.text " -0_1".toList) = .ok (-1) := rfl
example : toInt (.text "-_1".toList) = Checked.refuse .intParsing := rfl
example : toInt (.text "-0-1".toList) = Checked.refuse .intParsing := rfl
example : toInt (.number (.ofDecimal false 25 (-1))) = Checked.refuse .intFromFloat := rfl
example : toInt (.number (.finite false 1 63)) = Checked.refuse .intParsingSize := rfl
example : toPositive (.integer 0) = Checked.refuse .lessThanOne := rfl
example : toBool (.text "Off".toList) = .ok false := rfl
example : toTexts .tupleType (.list [.text [], .null]) = .error [⟨[.index 1], .stringType⟩] := rfl

end Value

end Marginalia
