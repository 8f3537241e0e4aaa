import Marginalia.Console.Expression
import Marginalia.Console.Marked
import Marginalia.Console.Pictogram
import Marginalia.Console.Theme

/-!
# Markup

A text is marked up by tags in square brackets.  An opening tag says in words how the text behind it
is drawn, a closing tag starts with a slash and ends the latest open tag of its name, or the latest
of all if it has no name.  Tags that are not closed reach to the end of the text.  A tag whose words
are not understood marks nothing, but has to be closed like any other one.  A tag that starts with
an at sign stands for something that happens, and its value is read where it is closed.

A tag starts with a small letter, a number sign, a slash or an at sign, so that other brackets are
text.  Backslashes in front of a tag stand for half as many backslashes; if their number is odd, the
tag is text.

`tokens` cuts a text up into tags and what stands between them, and `markup` reads it.
-/

namespace Marginalia.Console

/-! ## Tags -/

/-- A tag. -/
structure Tag where
  /-- What stands in front of its first equals sign. -/
  name : Text
  /-- What stands behind its first equals sign, if it has one. -/
  value : Option Text
deriving DecidableEq, Repr

namespace Tag

/-- The tag that is written as a text between brackets. -/
def ofText (s : Text) : Tag :=
  let name := s.takeWhile (· != '=')
  ⟨name, if name.length < s.length then some (s.drop (name.length + 1)) else none⟩

/-- A tag as it is written. -/
def toText (t : Tag) : Text :=
  '[' :: t.name ++ (t.value.map ('=' :: ·)).getD [] ++ [']']

/-- The words of a tag. -/
def words (t : Tag) : Text :=
  match t.value with
  | some value => t.name ++ ' ' :: value
  | none => t.name

/-- Whether a tag stands for something that happens, and not for a face. -/
def isEvent (t : Tag) : Bool :=
  t.name.head? = some '@'

/-- The name that a closing tag has behind its slash. -/
def closes? (t : Tag) : Option Text :=
  match t.name with
  | '/' :: name => some (Text.strip name)
  | _ => none

end Tag

/-- Whether a character may be the first one of a tag. -/
def startsTag (c : Char) : Bool :=
  ('a' ≤ c && c ≤ 'z') || c == '#' || c == '/' || c == '@'

/-- The text between brackets that a text goes on with behind an opening bracket. -/
def tagText? : Text → Option Text
  | [] => none
  | c :: s =>
    let more := s.takeWhile fun c => c != '[' && c != ']'
    if startsTag c && s[more.length]? = some ']' then some (c :: more) else none

/-! ## Tokens -/

/-- A part of a text that is marked up. -/
inductive Token where
  /-- Text. -/
  | plain (s : Text)
  /-- A tag, and the number of characters in front of it. -/
  | tag (position : Nat) (t : Tag)
deriving DecidableEq, Repr

/-- The tokens up to a tag, which is written as `written` between brackets, where what stands in
front of it is given backward. -/
def tokensAt (position : Nat) (seen written : Text) : List Token :=
  let slashes := (seen.takeWhile (· == '\\')).length
  let before := (seen.drop slashes).reverse
  let plain (s : Text) : List Token := if s.isEmpty then [] else [.plain s]
  plain before ++ plain (List.replicate (slashes / 2) '\\')
    ++ [if slashes % 2 = 1 then .plain ('[' :: written ++ [']'])
        else .tag position (.ofText written)]

/-- The tokens of a text that goes on at a position, where what stands between it and the tag before
is given backward. -/
def tokensFrom (position : Nat) (seen : Text) : Text → List Token
  | [] => if seen.isEmpty then [] else [.plain seen.reverse]
  | c :: s =>
    match if c = '[' then tagText? s else none with
    | some written =>
      tokensAt position seen written
        ++ tokensFrom (position + written.length + 2) [] (s.drop (written.length + 1))
    | none => tokensFrom (position + 1) (c :: seen) s
termination_by s => s.length
decreasing_by
  · simp only [List.length_drop, List.length_cons]
    omega
  · simp

/-- The tokens of a text. -/
def tokens (s : Text) : List Token :=
  tokensFrom 0 [] s

/-! ## Reading -/

/-- Why a text is not read. -/
inductive Markup.Refusal where
  /-- A closing tag has a name that no open tag has. -/
  | notOpen (position : Nat) (t : Tag)
  /-- A closing tag has no name, and no tag is open. -/
  | nothingOpen (position : Nat)
  /-- The share of a colour is no number. -/
  | color (r : Color.Refusal)
  /-- The value of a tag for something that happens is refused. -/
  | event (r : EventRefusal)
deriving DecidableEq, Repr

namespace Markup

/-- A refusal in words. -/
def Refusal.message : Refusal → Text
  | .notOpen position t =>
    "closing tag '".toList ++ t.toText ++ "' at position ".toList ++ Text.ofNat position
      ++ " doesn't match any open tag".toList
  | .nothingOpen position =>
    "closing tag '[/]' at position ".toList ++ Text.ofNat position
      ++ " has nothing to close".toList
  | .color _ => "invalid literal for int() with base 10: ''".toList
  | .event r => r.message

/-- What a tag marks. -/
structure Mark where
  /-- The number of characters in front of it. -/
  start : Nat
  /-- The number of characters up to its end. -/
  stop : Nat
  /-- The words for its face, if the tag does not stand for something that happens. -/
  words : Option Text

/-- What the tag that has been open since `start` marks up to `stop`. -/
def Mark.ofTag (start stop : Nat) (t : Tag) : Mark :=
  ⟨start, stop, if t.isEvent then none else some t.words⟩

/-- What has been read of a text. -/
structure State where
  /-- The text. -/
  text : Text
  /-- The tags that are open, the latest one first, and where each of them starts. -/
  opened : List (Nat × Tag)
  /-- What the closed tags mark, the tag first that was closed last. -/
  closed : List Mark

/-- The state before anything is read. -/
def State.start : State := ⟨[], [], []⟩

/-- What a colour refuses is refused in a text as well. -/
def orColor {α : Type} : Except Color.Refusal α → Except Refusal α
  | .ok a => .ok a
  | .error r => .error (.color r)

/-- The state after the open tag of a number has been closed. -/
def State.close (st : State) (n : Nat) : Except Refusal State :=
  match st.opened[n]? with
  | none => .ok st
  | some (start, t) =>
    match if t.isEvent then t.value.bind eventRefusal? else none with
    | some r => .error (.event r)
    | none =>
      .ok { st with
        opened := st.opened.eraseIdx n
        closed := Mark.ofTag start st.text.length t :: st.closed }

/-- The state after a tag. -/
def State.readTag (st : State) (position : Nat) (t : Tag) : Except Refusal State :=
  match t.closes? with
  | none => do
    let name ← orColor (Face.normalize t.name)
    .ok { st with opened := (st.text.length, { t with name }) :: st.opened }
  | some [] => if st.opened.isEmpty then .error (.nothingOpen position) else st.close 0
  | some name => do
    let name ← orColor (Face.normalize name)
    match st.opened.findIdx? fun entry => entry.2.name == name with
    | some n => st.close n
    | none => .error (.notOpen position t)

/-- The text with a bracket in the place of each bracket that has a backslash in front of it. -/
def unescaped : Text → Text
  | '\\' :: '[' :: s => '[' :: unescaped s
  | c :: s => c :: unescaped s
  | [] => []

/-- The state after further tokens, given whether names stand for pictograms. -/
def State.read (pictured : Bool) (st : State) : List Token → Except Refusal State
  | [] => .ok st
  | .plain s :: rest =>
    let s := unescaped s
    read pictured
      { st with text := st.text ++ shown (if pictured then withPictograms s else s) } rest
  | .tag position t :: rest => do
    read pictured (← st.readTag position t) rest

/-- What all tags mark, by where it starts; of marks that start together that of the tag comes first
that is still open or was closed last. -/
def State.marks (st : State) : List Mark :=
  let unclosed := st.opened.reverse.map fun (start, t) => ⟨start, st.text.length, some t.words⟩
  (unclosed ++ st.closed).mergeSort fun a b => a.start ≤ b.start

/-- The span of a mark. -/
def Mark.span (m : Mark) : Except Refusal Span := do
  match m.words with
  | some words => .ok ⟨m.start, m.stop, ← orColor (faceOf words)⟩
  | none => .ok ⟨m.start, m.stop, .plain⟩

end Markup

/-- The marked text that a text with tags stands for, given whether names between colons stand for
pictograms. -/
def markup (pictured : Bool) (s : Text) : Except Markup.Refusal Marked := do
  let st ← Markup.State.start.read pictured (tokens s)
  let spans ← st.marks.mapM Markup.Mark.span
  .ok ⟨st.text, spans⟩

example : tokens "a\\\\[b]c\\[d][x".toList
    = [.plain ['a'], .plain ['\\'], .tag 3 ⟨['b'], none⟩, .plain ['c'], .plain "[d]".toList,
      .plain "[x".toList] := by decide +kernel
example : Tag.ofText "a=b=c".toList = ⟨['a'], some "b=c".toList⟩ := by decide
end Marginalia.Console
