import Marginalia.FileTree
import Marginalia.Settings
import Marginalia.Toml.Document

/-!
# Layered settings

Settings come from files above a directory: a table in the nearest `pyproject.toml`, and over it the
nearest `.goescape.toml`.  The two may lie in different directories.  The tables are laid over each
other field by field before anything is read from them, so a value that a later layer replaces need
not be valid.
-/

namespace Marginalia

namespace Settings

/-! ## Refusals -/

/-- Why there are no settings. -/
inductive Refusal where
  /-- The values of the named layers do not fit. -/
  | invalid (source : Text) (issues : List Issue)
  /-- The file is not written as a settings file. -/
  | unreadable (file : Path)
  /-- The wanted table of the file is no table. -/
  | notTable (file : Path)
  /-- The bytes of the file are no text. -/
  | bytes (r : Utf8.Refusal)
  /-- A number in the file has too many digits. -/
  | tooManyDigits
  /-- The tree does not say whether there is a file. -/
  | tree (r : FileTree.Refusal)
  /-- The file may not be read. -/
  | closed (file : Path) (r : FileTree.Refusal)
  /-- The name does not stand for a change. -/
  | reserved (name : Text)

/-- A refusal in words.  Two of them end early: a colon and the issues belong behind the source of
values that do not fit, and a colon and what is wrong where behind a file that is not written as a
settings file.  The words for a number of too many digits and for a reserved name are this
library's own. -/
def Refusal.message : Refusal → Text
  | .invalid source _ => "Invalid configuration from ".toList ++ source
  | .unreadable file => "Unable to read configuration at ".toList ++ file.toText
  | .notTable file => "Configuration at ".toList ++ file.toText ++ " must be a table".toList
  | .bytes r => r.message
  | .tooManyDigits => "Number has too many digits".toList
  | .tree r => r.message
  | .closed file r =>
    "Unable to read configuration at ".toList ++ file.toText ++ ": ".toList ++ r.message
  | .reserved name => "Reserved name ".toList ++ name

/-- The settings that a table from a named source stands for. -/
def load (source : Text) (fields : Fields) : Except Refusal Settings :=
  match ofFields fields with
  | .ok s => .ok s
  | .error issues => .error (.invalid source issues)

/-- The name that stands for the settings themselves where changes are laid over them. -/
def ownName : Text := "self".toList

/-- The settings with changes laid over them. -/
def override (s : Settings) (changes : Fields) : Except Refusal Settings :=
  if (changes.get? ownName).isSome then .error (.reserved ownName)
  else
    match s.withChanges changes with
    | .ok s => .ok s
    | .error issues => .error (.invalid "overrides".toList issues)

/-! ## Layers -/

/-- A table in a settings file. -/
structure Layer where
  /-- The file. -/
  file : Path
  /-- The names that lead to the table. -/
  table : List Text
deriving DecidableEq, Repr

namespace Layer

/-- What a layer is called. -/
def describe (layer : Layer) : Text :=
  if layer.table.isEmpty then layer.file.toText
  else layer.file.toText ++ " [".toList ++ Text.join ['.'] layer.table ++ [']']

/-- The value that names lead to; a name that is not there leads to an empty table. -/
def follow : List Text → Value → Value
  | [], v => v
  | name :: rest, .table fields => follow rest ((Fields.get? fields name).getD (.table []))
  | _ :: _, _ => .table []

/-- The fields that the bytes of the file of a layer write. -/
def fieldsIn (layer : Layer) (bytes : List UInt8) : Except Refusal Fields :=
  match Utf8.decode bytes with
  | .error r => .error (.bytes r)
  | .ok s =>
    match Toml.parse s with
    | .error .malformed => .error (.unreadable layer.file)
    | .error .tooManyDigits => .error .tooManyDigits
    | .ok fields =>
      match follow layer.table (.table fields) with
      | .table fields => .ok fields
      | _ => .error (.notTable layer.file)

/-- The fields of a layer.  A file that is not there has none. -/
def load (t : FileTree) (cwd : List Text) (layer : Layer) : Except Refusal Fields :=
  match t.isFile cwd layer.file.toText with
  | .error r => .error (.tree r)
  | .ok false => .ok []
  | .ok true =>
    match t.read cwd layer.file.toText with
    | .error r => .error (.closed layer.file r)
    | .ok bytes => layer.fieldsIn bytes

end Layer

/-- The name of the file that holds the settings of all tools of a project. -/
def projectFile : Text := "pyproject.toml".toList

/-- The name of the file that holds the settings of this tool alone. -/
def ownFile : Text := ".goescape.toml".toList

/-- The table of this tool in the file of all tools. -/
def projectTable : List Text := ["tool".toList, "goescape".toList]

/-- The layers for a directory, the one that counts least first. -/
def layersAbove (t : FileTree) (cwd : Path) (directory : Path) :
    Except FileTree.Refusal (List Layer) := do
  let nearest := t.nearestFile? cwd.names (directory.absolute cwd)
  let project ← nearest (Path.ofText projectFile)
  let own ← nearest (Path.ofText ownFile)
  .ok ((project.map (⟨·, projectTable⟩)).toList ++ (own.map (⟨·, []⟩)).toList)

/-- The fields of all layers together, and what those layers are called that have any. -/
def merge : List (Layer × Fields) → Fields × List Text
  | [] => ([], [])
  | layers =>
    let used := layers.filter fun (_, fields) => !fields.isEmpty
    (used.foldl (fun merged layer => Fields.update merged layer.2) [],
      used.map fun (layer, _) => layer.describe)

/-- The settings that layers stand for. -/
def ofLayers (t : FileTree) (cwd : Path) (layers : List Layer) : Except Refusal Settings := do
  let tables ← layers.mapM fun layer => do
    let fields ← layer.load t cwd.names
    .ok (layer, fields)
  let (fields, sources) := merge tables
  load (if sources.isEmpty then "defaults".toList else Text.join ", ".toList sources) fields

/-- The settings for a directory. -/
def above (t : FileTree) (cwd : Path) (directory : Path) : Except Refusal Settings :=
  match layersAbove t cwd directory with
  | .error r => .error (.tree r)
  | .ok layers => ofLayers t cwd layers

end Settings

end Marginalia
