import Marginalia.Manifest

/-!
# Packages

The package of a source file is what the compiler knows it by: the name of the module whose manifest
is nearest above the file, and the names of the directories that lead from the manifest to the file.
A file without a usable manifest above it goes by the name of its directory.
-/

namespace Marginalia.Package

/-! ## Directories -/

/-- The package of a directory without a usable manifest. -/
def fallback (directory : Path) : Text :=
  if directory.name.isEmpty then ['.'] else directory.name

/-- The package of the directory that `names` lead to from the top of a module. -/
def within (moduleName : Text) (names : List Text) : Text :=
  if names.isEmpty then moduleName else moduleName ++ '/' :: Path.joined names

/-- The package of an absolute directory. -/
def ofDirectory (t : FileTree) (directory : Path) : Except FileTree.Refusal Text :=
  match Manifest.find t [] directory (Path.ofText Manifest.fileName) with
  | .error (.tree r) => .error r
  | .error _ => .ok (fallback directory)
  | .ok manifest =>
    match Manifest.moduleName t [] manifest, manifest.parent.below? directory with
    | .ok moduleName, some names => .ok (within moduleName names)
    | _, _ => .ok (fallback directory)

/-! ## Files -/

/-- The package of a file. -/
def ofFile (t : FileTree) (cwd : Path) (file : Path) : Except FileTree.Refusal Text :=
  ofDirectory t (file.absolute cwd).parent

/-- Why a document has no package. -/
inductive Refusal where
  /-- The document is kept in no file. -/
  | noFile (document : Text)
  /-- The tree does not say whether there is a manifest. -/
  | tree (r : FileTree.Refusal)
deriving DecidableEq, Repr

/-- A refusal in words. -/
def Refusal.message : Refusal → Text
  | .noFile document => "Document '".toList ++ document ++ "' has no backing file".toList
  | .tree r => r.message

/-- The package of a document, given the text of the path it is kept at. -/
def ofDocument (t : FileTree) (cwd : Path) (file : Option Text) : Except Refusal Text :=
  match file.getD [] with
  | [] => .error (.noFile "<unsaved>".toList)
  | name =>
    match ofFile t cwd (Path.ofText name) with
    | .ok package => .ok package
    | .error r => .error (.tree r)

end Marginalia.Package
