import Marginalia.Text.Digit

/-!
# Diagnostic lines

The compiler writes a diagnostic on a line of its own as `file:line:column: message`, where the name
of the file ends in `.go`.  File names and messages may hold colons, and a message may quote another
place, so a line may be cut in several ways.  `parts?` takes the cut with the shortest file name.
-/

namespace Marginalia.Diagnostic

/-- The end of the name of a source file. -/
def sourceSuffix : Text := ".go".toList

/-- The four parts of a diagnostic line. -/
structure Parts where
  /-- The name of the file. -/
  file : Text
  /-- The digits of the line number. -/
  line : Text
  /-- The digits of the column number. -/
  column : Text
  /-- The rest of the line. -/
  message : Text
deriving DecidableEq, Repr

/-- A line and a column behind the name of a file. -/
def positionText (line column : Text) : Text :=
  ':' :: line ++ ':' :: column ++ ": ".toList

/-- The line that is made of four parts. -/
def Parts.toText (p : Parts) : Text :=
  p.file ++ positionText p.line p.column ++ p.message

/-- The line number, the column number and the message of a text that goes on behind the name of a
file. -/
def position? : Text → Option (Text × Text × Text)
  | ':' :: s =>
    let line := s.takeWhile Text.isDigit
    match s.dropWhile Text.isDigit with
    | ':' :: s =>
      let column := s.takeWhile Text.isDigit
      match s.dropWhile Text.isDigit with
      | ':' :: ' ' :: message =>
        if line.isEmpty || column.isEmpty then none else some (line, column, message)
      | _ => none
    | _ => none
  | _ => none

/-- Whether a text, read backward, ends as the name of a source file does. -/
def endsFile (seen : Text) : Bool :=
  sourceSuffix.reverse.isPrefixOf seen && sourceSuffix.length < seen.length

/-- The parts of a line of which `seen` has been read, backward, and which goes on with `rest`. -/
def partsFrom? (seen : Text) : Text → Option Parts
  | [] => none
  | c :: rest =>
    match if endsFile seen then position? (c :: rest) else none with
    | some (line, column, message) => some ⟨seen.reverse, line, column, message⟩
    | none => partsFrom? (c :: seen) rest

/-- The parts of a diagnostic line. -/
def parts? (line : Text) : Option Parts :=
  if line.contains '\n' then none else partsFrom? [] line

example : parts? "a.go:1:b.go:2:3: m".toList
    = some ⟨"a.go:1:b.go".toList, ['2'], ['3'], ['m']⟩ := by decide
example : parts? "a.go:1:2: b.go:3:4: c".toList
    = some ⟨"a.go".toList, ['1'], ['2'], "b.go:3:4: c".toList⟩ := by decide
example : parts? ".go:1:2: m".toList = none := by decide
example : parts? "a.go:1:2:".toList = none := by decide

end Marginalia.Diagnostic
