import Marginalia.Document
import Marginalia.Launch
import Marginalia.Outcome
import Marginalia.Package
import Marginalia.Report
import Marginalia.Settings

/-!
# Analyses

An analysis runs the compiler in the directory of a document and reads its report.  Whether the
compiler ends well does not matter, since it reports also on what it cannot build.  A compiler that
cannot be started leaves an outcome with an error.
-/

namespace Marginalia.Analysis

/-- Why there is no outcome. -/
inductive Refusal where
  /-- The document has no package. -/
  | package (r : Package.Refusal)
  /-- The package is not named by a text. -/
  | invalid (issues : List Issue)
  /-- A word of the command holds the character that ends every word. -/
  | endsInside
  /-- The report cannot be read. -/
  | report (r : Report.Refusal)
deriving DecidableEq, Repr

/-- A refusal in words. -/
def Refusal.message : Refusal → Text
  | .package r => r.message
  | .invalid _ => "Invalid value".toList
  | .endsInside => FileTree.Cause.endsInside.describe
  | .report r => r.message

/-- The outcome of a command that was not started, and why not. -/
def notStarted (outcome : Outcome) (r : Launch.Refusal) : Except Refusal Outcome :=
  match r with
  | .notStarted ⟨.endsInside, _⟩ => .error .endsInside
  | r => .ok { outcome with error := some r.message }

/-- The outcome of a command that has ended, for the document at `file`. -/
def completed (outcome : Outcome) (cwd file : Path) (wanted : List Text)
    (c : Launch.Completed) : Except Refusal Outcome :=
  let output := Text.splitLines c.output
  match Report.parse (Report.aliases cwd file) wanted output with
  | .ok diagnostics => .ok { outcome with status := some c.status, output, diagnostics }
  | .error r => .error (.report r)

/-- The attempts to start the compiler for a document, and the outcome. -/
def analyse (h : Host) (d : Document) (unitId : Text) (s : Settings) :
    List Launch.Call × Except Refusal Outcome :=
  match d.file with
  | none => ([], .error (.package (.noFile d.id)))
  | some file =>
    let words := s.command unitId
    let outcome := Outcome.begun unitId words
    let (calls, result) := Launch.run h words (some file.parent)
    (calls,
      match result with
      | .error r => notStarted outcome r
      | .ok c => completed outcome h.cwd file s.allowList c)

/-- The attempts to start the compiler for a document, and the outcome, where a value is to name the
package. -/
def analyseNamed (h : Host) (d : Document) (unitId : Value) (s : Settings) :
    List Launch.Call × Except Refusal Outcome :=
  match d.file, Checked.inside (.field "unit_id".toList) unitId.toText with
  | some _, .error issues => ([], .error (.invalid issues))
  | _, .ok unitId => analyse h d unitId s
  | none, _ => analyse h d [] s

end Marginalia.Analysis
