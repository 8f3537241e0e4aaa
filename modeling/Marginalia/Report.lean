import Marginalia.Diagnostic
import Marginalia.Diagnostic.Line
import Marginalia.Path
import Marginalia.Text.Lines

/-!
# Compiler reports

The compiler reports on a whole package.  `parse` keeps the diagnostics that speak of one document
and whose message holds one of the wanted pieces of text, in the order of the report.  A line that
is no diagnostic, or has a line or column number zero, is passed over.
-/

namespace Marginalia.Report

/-- What a line grammar finds in the lines of a report, blank lines passed over if so asked. -/
def matching {α : Type} (grammar : Text → Option α) (skipBlank : Bool) (lines : List Text) :
    List α :=
  lines.filterMap fun line =>
    let line := Text.dropLineEnd line
    if skipBlank && Text.allBlank line then none else grammar line

/-- The spellings that a report may use for a document: with a dot for the directory, and in
full. -/
def aliases (cwd document : Path) : List Text :=
  ["./".toList ++ document.name, (document.absolute cwd).toText]

/-! ## Wanted messages -/

/-- Why a report cannot be read. -/
inductive Refusal where
  /-- A line or a column number has too many digits. -/
  | tooManyDigits
  /-- A wanted piece of text is no text. -/
  | notText
deriving DecidableEq, Repr

/-- A refusal in words. -/
def Refusal.message : Refusal → Text
  | .tooManyDigits => "Number has too many digits".toList
  | .notText => "Wanted piece of text is no text".toList

/-- Whether a message holds one of the wanted pieces of text. -/
def isInteresting (wanted : List Text) (message : Text) : Bool :=
  wanted.any fun piece => Text.occursIn piece message

/-- Whether a message holds one of the pieces of text that values are.  A value behind the first
piece that the message holds is not looked at. -/
def holdsOne (message : Text) : List Value → Except Refusal Bool
  | [] => .ok false
  | .text piece :: rest => if Text.occursIn piece message then .ok true else holdsOne message rest
  | _ :: _ => .error .notText

theorem holdsOne_text (message : Text) (wanted : List Text) :
    holdsOne message (wanted.map .text) = .ok (isInteresting wanted message) := by
  induction wanted with
  | nil => rfl
  | cons piece rest ih =>
    by_cases h : Text.occursIn piece message <;> simp_all [holdsOne, isInteresting]

/-! ## Reading -/

/-- The diagnostic that the parts of a line write, unless a number is zero. -/
def diagnostic (parts : Diagnostic.Parts) : Except Refusal (Option Diagnostic) :=
  match Text.readNumber? parts.line, Text.readNumber? parts.column with
  | some line, some column =>
    if h : 1 ≤ line ∧ 1 ≤ column then
      .ok (some ⟨parts.file, ⟨line, h.1⟩, ⟨column, h.2⟩, Text.strip parts.message⟩)
    else .ok none
  | _, _ => .error .tooManyDigits

/-- The diagnostic that the parts of a line write, if the line speaks of the document with these
names and its message is wanted. -/
def relevant (wants : Text → Except Refusal Bool) (names : List Text) (parts : Diagnostic.Parts) :
    Except Refusal (Option Diagnostic) := do
  if !names.contains parts.file then .ok none
  else if ← wants (Text.strip parts.message) then diagnostic parts
  else .ok none

/-- The diagnostics of a report, given as its lines, for the document with these names, where
`wants` says which messages are wanted. -/
def parseBy (wants : Text → Except Refusal Bool) (names lines : List Text) :
    Except Refusal (List Diagnostic) := do
  let found ← (matching Diagnostic.parts? true lines).mapM (relevant wants names)
  .ok (found.filterMap id)

/-- The diagnostics of a report, given as its lines, for the document with these names. -/
def parse (names wanted : List Text) (lines : List Text) : Except Refusal (List Diagnostic) :=
  parseBy (fun message => .ok (isInteresting wanted message)) names lines

end Marginalia.Report
