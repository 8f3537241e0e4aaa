import Marginalia.FileTree
import Marginalia.Text.Blank

/-!
# Manifests

A manifest is a file that names a module and stands at the top of its source tree.  `declaration?`
reads one line of it and `moduleName` takes the first name that is not empty.
-/

namespace Marginalia.Manifest

/-- The name of a manifest. -/
def fileName : Text := "go.mod".toList

/-! ## Declarations -/

/-- The name that a line declares. -/
inductive Declaration where
  /-- A name between double quotes. -/
  | quoted (name : Text)
  /-- A name without quotes. -/
  | bare (name : Text)
deriving DecidableEq, Repr

/-- The declared name. -/
def Declaration.name : Declaration → Text
  | .quoted name => name
  | .bare name => name

/-- Whether a character may stand in a name without quotes. -/
def isBare (c : Char) : Bool :=
  !Text.isBlank c && c != '"'

/-- The declaration that a line starts with: the word `module`, blanks, and a name.  What follows
the name does not matter. -/
def declaration? (line : Text) : Option Declaration :=
  match Text.after? "module".toList (line.dropWhile Text.isBlank) with
  | none => none
  | some s =>
    match s.dropWhile Text.isBlank with
    | rest =>
      if rest.length = s.length then none
      else
        match rest with
        | '"' :: rest =>
          let name := rest.takeWhile (· != '"')
          if name.length < rest.length then some (.quoted name) else none
        | rest =>
          let name := rest.takeWhile isBare
          if name.isEmpty then none else some (.bare name)

/-- The first name that a manifest declares, empty ones passed over. -/
def moduleName? (text : Text) : Option Text :=
  ((Text.splitLines text).filterMap fun line => (declaration? line).map Declaration.name).find?
    fun name => !name.isEmpty

/-! ## Files -/

/-- Why there is no module name. -/
inductive Refusal where
  /-- No directory from `start` upward has a manifest. -/
  | notFound (start : Path)
  /-- The manifest names no module. -/
  | unreadable (manifest : Path) (reason : Text)
  /-- The tree does not say whether there is a manifest. -/
  | tree (r : FileTree.Refusal)

/-- A refusal in words. -/
def Refusal.message : Refusal → Text
  | .notFound start => "No go.mod found above ".toList ++ start.toText
  | .unreadable manifest reason =>
    "Cannot read module name from ".toList ++ manifest.toText ++ ": ".toList ++ reason
  | .tree r => r.message

/-- The nearest manifest of a directory. -/
def find (t : FileTree) (cwd : List Text) (start name : Path) : Except Refusal Path :=
  match t.nearestFile? cwd start name with
  | .ok (some manifest) => .ok manifest
  | .ok none => .error (.notFound start)
  | .error r => .error (.tree r)

/-- The name of the module that a manifest stands for. -/
def moduleName (t : FileTree) (cwd : List Text) (manifest : Path) : Except Refusal Text :=
  match t.readText cwd manifest.toText with
  | .error (.tree ⟨.endsInside, path⟩) => .error (.tree ⟨.endsInside, path⟩)
  | .error r => .error (.unreadable manifest r.message)
  | .ok text =>
    match moduleName? text with
    | some name => .ok name
    | none => .error (.unreadable manifest "no module declaration".toList)

example : declaration? " module\t\"a b\" c".toList = some (.quoted "a b".toList) := by decide
example : declaration? "module a\"b\"".toList = some (.bare ['a']) := by decide
example : declaration? "modulea".toList = none := by decide
example : declaration? "module \"a".toList = none := by decide
example : moduleName? "module \"\"\n\nmodule m // x".toList = some ['m'] := by decide

end Marginalia.Manifest
