import Marginalia.Console.Color
import Marginalia.Console.Piece

/-!
# Faces

A face is how characters are drawn: which attributes are switched on or off, the colour of the
characters and the colour behind them.  What a face leaves open is taken from the face below it.

A face is written as words, and `words` writes a face in one way only: `readWords` may read several
texts as the same face, and these then have the same words.
-/

namespace Marginalia.Console

/-! ## Attributes -/

/-- What is switched on or off about characters. -/
inductive Attribute where
  /-- Heavy characters. -/
  | bold
  /-- Faint characters. -/
  | dim
  /-- Slanted characters. -/
  | italic
  /-- A line below. -/
  | underline
  /-- Slow blinking. -/
  | blink
  /-- Fast blinking. -/
  | fastBlink
  /-- The two colours exchanged. -/
  | reverse
  /-- Nothing to be seen. -/
  | conceal
  /-- A line through the middle. -/
  | strike
  /-- Two lines below. -/
  | doubleUnderline
  /-- A frame around. -/
  | frame
  /-- A circle around. -/
  | encircle
  /-- A line above. -/
  | overline
deriving DecidableEq, Repr

namespace Attribute

/-- All attributes, in the order in which they are written. -/
def all : List Attribute :=
  [.bold, .dim, .italic, .underline, .blink, .fastBlink, .reverse, .conceal, .strike,
    .doubleUnderline, .frame, .encircle, .overline]

/-- The name of an attribute. -/
def name : Attribute → Text
  | .bold => "bold".toList
  | .dim => "dim".toList
  | .italic => "italic".toList
  | .underline => "underline".toList
  | .blink => "blink".toList
  | .fastBlink => "blink2".toList
  | .reverse => "reverse".toList
  | .conceal => "conceal".toList
  | .strike => "strike".toList
  | .doubleUnderline => "underline2".toList
  | .frame => "frame".toList
  | .encircle => "encircle".toList
  | .overline => "overline".toList

/-- The short names of attributes. -/
def shortNames : List (Text × Attribute) :=
  [(['d'], .dim), (['b'], .bold), (['i'], .italic), (['u'], .underline), (['r'], .reverse),
    (['c'], .conceal), (['s'], .strike), (['u', 'u'], .doubleUnderline), (['o'], .overline)]

/-- The attribute of a name. -/
def ofName? (word : Text) : Option Attribute :=
  match all.find? fun a => a.name == word with
  | some a => some a
  | none => shortNames.lookup word

/-- The code that switches an attribute on. -/
def code : Attribute → Text
  | .bold => ['1']
  | .dim => ['2']
  | .italic => ['3']
  | .underline => ['4']
  | .blink => ['5']
  | .fastBlink => ['6']
  | .reverse => ['7']
  | .conceal => ['8']
  | .strike => ['9']
  | .doubleUnderline => "21".toList
  | .frame => "51".toList
  | .encircle => "52".toList
  | .overline => "53".toList

theorem mem_all (a : Attribute) : a ∈ all := by
  cases a <;> decide

end Attribute

/-! ## Faces -/

/-- How characters are drawn. -/
structure Face where
  /-- The attributes that are switched on or off; the first entry of an attribute counts. -/
  switches : List (Attribute × Bool)
  /-- The colour of the characters. -/
  front : Option Color
  /-- The colour behind the characters. -/
  back : Option Color
  /-- Where the characters lead, which is not drawn. -/
  link : Option Text
deriving DecidableEq, Repr

namespace Face

/-- The face that leaves everything open. -/
def plain : Face := ⟨[], none, none, none⟩

/-- The face `upper` laid over the face `lower`. -/
def atop (upper lower : Face) : Face :=
  ⟨upper.switches ++ lower.switches, upper.front.or lower.front, upper.back.or lower.back,
    upper.link.or lower.link⟩

/-- The codes that have a face drawn. -/
def codes (f : Face) : List Text :=
  ((Attribute.all.filter fun a => f.switches.lookup a == some true).map Attribute.code)
    ++ (f.front.map fun c => c.shade.code true).toList
    ++ (f.back.map fun c => c.shade.code false).toList

/-- The paint of a face. -/
def paint (f : Face) : Paint :=
  Text.join [';'] f.codes

theorem atop_plain (f : Face) : f.atop plain = f := by
  simp [atop, plain]

theorem plain_atop (f : Face) : plain.atop f = f := by
  simp [atop, plain]

theorem atop_assoc (f g h : Face) : (f.atop g).atop h = f.atop (g.atop h) := by
  simp [atop, List.append_assoc, Option.or_assoc]

/-! ## Writing -/

/-- The words for an attribute that is switched on or off. -/
def switchWords (f : Face) (a : Attribute) : Option Text :=
  (f.switches.lookup a).map fun on => if on then a.name else "not ".toList ++ a.name

/-- A face in words. -/
def words (f : Face) : Text :=
  let said :=
    (Attribute.all.filterMap f.switchWords)
      ++ (f.front.map Color.name).toList
      ++ (f.back.map fun c => "on ".toList ++ c.name).toList
      ++ (f.link.map fun target => "link ".toList ++ target).toList
  if said.isEmpty then "none".toList else Text.join [' '] said

/-! ## Reading -/

/-- The face `f` with what further words say. -/
def readWords (f : Face) : List Text → Except Color.Refusal Face
  | [] => .ok f
  | word :: rest =>
    let small := Text.lower word
    if small = "on".toList then
      match rest with
      | [] => .error .unknown
      | next :: rest =>
        match Color.ofWord next with
        | .ok c => readWords { f with back := some c } rest
        | .error r => .error r
    else if small = "not".toList then
      match rest with
      | [] => .error .unknown
      | next :: rest =>
        match Attribute.ofName? next with
        | some a => readWords { f with switches := (a, false) :: f.switches } rest
        | none => .error .unknown
    else if small = "link".toList then
      match rest with
      | [] => .error .unknown
      | next :: rest => readWords { f with link := some next } rest
    else
      match Attribute.ofName? small with
      | some a => readWords { f with switches := (a, true) :: f.switches } rest
      | none =>
        match Color.ofWord small with
        | .ok c => readWords { f with front := some c } rest
        | .error r => .error r

/-- The face that a text says in words. -/
def ofText (s : Text) : Except Color.Refusal Face :=
  if Text.strip s = "none".toList then .ok plain else readWords plain (Text.words s)

/-- The text that says the same as another one in the words that `words` uses.  A text that says
nothing is written in small letters. -/
def normalize (s : Text) : Except Color.Refusal Text :=
  match ofText s with
  | .ok f => .ok f.words
  | .error .unknown => .ok (Text.lower (Text.strip s))
  | .error r => .error r

example : (ofText "not b bold on Red link x".toList).toOption
    = some ⟨[(.bold, true), (.bold, false)], none, some ⟨"red".toList, .numbered 1⟩,
      some ['x']⟩ := by
  decide +kernel
example : (normalize "on Red i not d".toList).toOption = some "not dim italic on red".toList := by
  decide +kernel
example : (normalize " Foo".toList).toOption = some "foo".toList := by decide +kernel
example : paint ⟨[(.overline, true), (.dim, true)], some ⟨[], .numbered 9⟩, none, none⟩
    = "2;53;91".toList := by decide +kernel

end Face

end Marginalia.Console
