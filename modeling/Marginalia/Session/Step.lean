import Marginalia.Console
import Marginalia.Store
import Marginalia.Outcome

/-!
# Steps

A host drives a session step by step.  A step is a request and the numbers of the document and of
the controller it is about.  A callback of the host makes requests of its own, so requests hold
steps.
-/

namespace Marginalia.Session

/-- A request, and what it is about. -/
structure About (α : Type) where
  /-- The number of the document. -/
  document : Nat
  /-- The number of the controller. -/
  controller : Nat
  /-- The request. -/
  request : α

/-- What a host may ask for. -/
inductive Request where
  /-- The number of lines. -/
  | lineCount
  /-- The lines. -/
  | lines
  /-- The end of a line. -/
  | lineEnd (line : Position)
  /-- The ends of all lines. -/
  | lineEnds
  /-- A new decoration. -/
  | decorate (offset : Position) (text style : Text)
  /-- One decoration less. -/
  | remove (handle : Nat)
  /-- The state of all decorations that have been shown. -/
  | handles
  /-- More text, unless what is given is no text. -/
  | insert (offset : Position) (text : Option Text)
  /-- Less text. -/
  | delete (start stop : Position)
  /-- Another text in the place of the whole. -/
  | setText (text : Text)
  /-- Another file. -/
  | setFile (file : Option Path)
  /-- The text in its file. -/
  | save
  /-- A callback to be told about saves, and what it does then. -/
  | subscribe (callback : Text) (actions : List (About Request))
  /-- One subscription less. -/
  | unsubscribe (subscription : Nat)
  /-- Which subscriptions are alive. -/
  | subscriptions
  /-- Diagnostics shown in the document, and the annotations kept under a name. -/
  | render (diagnostics : List Fields) (style : Style) (slot : Text)
  /-- Annotations that are kept under a name taken into the store. -/
  | install (slot : Text)
  /-- No annotations. -/
  | clear
  /-- Nothing kept for the document. -/
  | forget
  /-- Diagnostics shown in the place of the annotations, unless that fails in the end. -/
  | replace (diagnostics : List Fields) (style : Style) (failure : Option Text)
  /-- The annotations, in the shared store or in that of a controller. -/
  | annotations (controller : Option Nat)
  /-- The number of annotations in the shared store. -/
  | size
  /-- Lines with what is shown at their ends. -/
  | annotated (lines : Option (List Text))
  /-- Something else at a path. -/
  | putFile (path : Path) (content : FileTree.Content)
  /-- One file less. -/
  | dropFile (path : Path)
  /-- The text of a file. -/
  | fileText (path : Path)
  /-- A program and where it is to stand, or none, in the place of all programs there are. -/
  | setProgram (program : Option (Path × Program))
  /-- The mode on. -/
  | enable
  /-- The mode off. -/
  | disable
  /-- The mode the other way. -/
  | toggle
  /-- One run, whatever the mode. -/
  | run
  /-- The mode. -/
  | state
  /-- The outcome of the latest run. -/
  | lastOutcome
  /-- Another value for a setting. -/
  | assign (name : Text) (value : Value)
  /-- What has such a name, given something of a kind that is never fit for it. -/
  | unfit (name : Text)

/-- One step of a host. -/
abbrev Step := About Request

/-- What a request is called. -/
def Request.name : Request → Text
  | .lineCount => "line_count".toList
  | .lines => "lines".toList
  | .lineEnd _ => "line_end".toList
  | .lineEnds => "line_ends".toList
  | .decorate .. => "add".toList
  | .remove _ => "remove".toList
  | .handles => "handles".toList
  | .insert .. => "insert".toList
  | .delete .. => "delete".toList
  | .setText _ => "set_text".toList
  | .setFile _ => "set_path".toList
  | .save => "save".toList
  | .subscribe .. => "subscribe".toList
  | .unsubscribe _ => "unsubscribe".toList
  | .subscriptions => "sub_active".toList
  | .render .. => "render".toList
  | .install _ => "install".toList
  | .clear => "clear".toList
  | .forget => "forget".toList
  | .replace .. => "replace".toList
  | .annotations _ => "annotations".toList
  | .size => "len".toList
  | .annotated _ => "annotated".toList
  | .putFile .. => "write_file".toList
  | .dropFile _ => "remove_file".toList
  | .fileText _ => "read_file".toList
  | .setProgram .. => "set_go".toList
  | .enable => "enable".toList
  | .disable => "disable".toList
  | .toggle => "toggle".toList
  | .run => "run".toList
  | .state => "state".toList
  | .lastOutcome => "last_outcome".toList
  | .assign .. => "set_config".toList
  | .unfit name => name

/-! ## Answers -/

/-- An annotation as a host sees it. -/
structure Shown where
  /-- The handle of its decoration. -/
  handle : Nat
  /-- Its diagnostic. -/
  diagnostic : Diagnostic
  /-- Its decoration. -/
  decoration : Decoration

/-- What a request is answered with. -/
inductive Answer where
  /-- Nothing. -/
  | done
  /-- A number. -/
  | number (n : Nat)
  /-- Numbers. -/
  | numbers (ns : List Nat)
  /-- A text. -/
  | text (s : Text)
  /-- Texts. -/
  | texts (ss : List Text)
  /-- Truth values. -/
  | truths (bs : List Bool)
  /-- Decorations. -/
  | decorations (ds : List Decoration)
  /-- Annotations. -/
  | annotations (shown : List Shown)
  /-- Lines with notes. -/
  | rows (rows : List (Text × List Text))
  /-- The mode after a change. -/
  | mode (on : Bool)
  /-- The mode. -/
  | state (on : Bool)
  /-- An outcome, if there is one. -/
  | outcome (o : Option Outcome)

/-- What happened during a step. -/
inductive Entry where
  /-- A runner was asked for an outcome. -/
  | runner (unitId : Text) (detailLevel : Nat)
  /-- A step was made during a run. -/
  | during (request : Text) (answer : Answer)
  /-- A callback was told about a save. -/
  | callback (name : Text)
  /-- A callback made a step. -/
  | action (request : Text) (answer : Answer)

/-- All that shows of a step, apart from its answer. -/
structure Trace where
  /-- What happened, in order. -/
  log : List Entry
  /-- The messages that were recorded. -/
  messages : List (Console.Level × Text)
  /-- The attempts to start a process. -/
  calls : List (List Text × Option Path)
  /-- What was printed. -/
  printed : Text

/-- Nothing has happened. -/
def Trace.empty : Trace := ⟨[], [], [], []⟩

end Marginalia.Session
