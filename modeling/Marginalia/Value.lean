import Marginalia.Decimal.Shortest
import Marginalia.Moment
import Marginalia.Text.Quoted

/-!
# Values

What a settings file or a host hands over before anything is known about it.  The fields of a table
are kept in the order in which they were first written.

A field list stands for a partial function from names to values: `get?_set` says how a change shows
in it.
-/

namespace Marginalia

/-- A value of any kind. -/
inductive Value where
  /-- Nothing. -/
  | null
  /-- A truth value. -/
  | boolean (b : Bool)
  /-- A whole number. -/
  | integer (n : Int)
  /-- A floating-point number. -/
  | number (x : Binary64)
  /-- A text. -/
  | text (s : Text)
  /-- A date or a time. -/
  | moment (m : Moment)
  /-- A list. -/
  | list (items : List Value)
  /-- A table of named values. -/
  | table (fields : List (Text × Value))

/-- Named values, in order. -/
abbrev Fields := List (Text × Value)

namespace Fields

/-- The value of a name. -/
def get? (fields : Fields) (name : Text) : Option Value :=
  List.lookup name fields

/-- The fields with `name` standing for `value`; a new name goes to the end. -/
def set (fields : Fields) (name : Text) (value : Value) : Fields :=
  match fields with
  | [] => [(name, value)]
  | (k, v) :: rest => if k = name then (k, value) :: rest else (k, v) :: set rest name value

/-- The fields with each of `changes` made in turn. -/
def update (fields changes : Fields) : Fields :=
  changes.foldl (fun fields change => fields.set change.1 change.2) fields

theorem get?_set (fields : Fields) (name other : Text) (value : Value) :
    (fields.set name value).get? other
      = if other = name then some value else fields.get? other := by
  induction fields with
  | nil =>
    by_cases h : other = name
    · simp [set, get?, h]
    · simp [set, get?, h, List.lookup_cons, beq_eq_false_iff_ne.mpr h]
  | cons field rest ih =>
    obtain ⟨k, v⟩ := field
    simp only [get?] at ih
    by_cases hk : k = name
    · subst hk
      by_cases h : other = k
      · simp [set, get?, h]
      · simp [set, get?, h, List.lookup_cons, beq_eq_false_iff_ne.mpr h]
    · by_cases h : other = k
      · subst h
        simp [set, get?, hk]
      · simp [set, get?, hk, List.lookup_cons, beq_eq_false_iff_ne.mpr h, ih]

end Fields

namespace Value

/-- How a floating-point number is written: without an exponent from `0.0001` up to sixteen digits
in front of the point. -/
def numberFormat : DecimalFormat :=
  ⟨-4, 16, 2, "inf".toList, "nan".toList⟩

mutual

/-- The text of a value inside a list or a table: texts stand in quotation marks. -/
def inner : Value → Text
  | .null => "None".toList
  | .boolean true => "True".toList
  | .boolean false => "False".toList
  | .integer n => Text.ofInt n
  | .number x => numberFormat.render x
  | .text s => Text.quoted s
  | .moment m => m.toText
  | .list items => ['['] ++ Text.join ", ".toList (innerAll items) ++ [']']
  | .table fields => ['{'] ++ Text.join ", ".toList (innerFields fields) ++ ['}']

/-- The texts of the items of a list. -/
def innerAll : List Value → List Text
  | [] => []
  | v :: rest => inner v :: innerAll rest

/-- The texts of the fields of a table. -/
def innerFields : List (Text × Value) → List Text
  | [] => []
  | (name, v) :: rest => (Text.quoted name ++ ": ".toList ++ inner v) :: innerFields rest

end

/-- The text of a value: a text is itself, and every other value is as inside a list. -/
def display : Value → Text
  | .text s => s
  | v => inner v

/-- Whether a value counts as true: it is neither nothing, false, zero nor empty. -/
def isTruthy : Value → Bool
  | .null => false
  | .boolean b => b
  | .integer n => n != 0
  | .number x => !x.isZero
  | .text s => !s.isEmpty
  | .moment _ => true
  | .list items => !items.isEmpty
  | .table fields => !fields.isEmpty

example : display (.list [.null, .boolean true, .text "a'b".toList, .integer (-3)])
    = "[None, True, \"a'b\", -3]".toList := by decide
example : display (.number (.ofDecimal false 1 16)) = "1e+16".toList := by decide +kernel
example : display (.number (.ofDecimal false 10 (-1))) = "1.0".toList := by decide +kernel
example : display (.number (.ofDecimal false 1 (-5))) = "1e-05".toList := by decide +kernel

end Value

end Marginalia
