import Marginalia.Launch.Script

/-!
# Launching programs

A command is a list of words, the first of which names a program: an absolute path, a path with a
slash that is looked up from the working directory, or a plain name that is looked up in the
directories of the search path.  `locate` finds the program and `start` runs it in a directory.

A path with a slash is looked up from the working directory of the host, but run from the directory
of the new process, so the two may mean different files.

A file whose program is not given is run if it is a script for a shell.  What it does is then what
`Script` makes of it, which is less than a shell does: five commands are known, and which paths are
shells is a list that does not ask whether the tree holds them.  Results about such files rest on
it; results about files whose programs are given do not.
-/

namespace Marginalia

/-- Where programs are launched. -/
structure Host where
  /-- The files. -/
  tree : FileTree
  /-- The working directory. -/
  cwd : Path
  /-- The directories in which programs are looked up by name.  They are paths, so none of them is
  empty: what is found by an empty one is a plain name, which the new process looks up again. -/
  searchPath : List Path

/-- The files without any programs in the directories of the search path. -/
def Host.withoutPrograms (h : Host) : FileTree :=
  h.searchPath.foldl (fun t directory => t.clear directory.names) h.tree

namespace Launch

/-- An attempt to start a process. -/
structure Call where
  /-- The words of the command. -/
  words : List Text
  /-- The directory of the process, if it is not that of the host. -/
  directory : Option Path
deriving DecidableEq, Repr

/-- A process that has ended. -/
structure Completed where
  /-- The status it ended with. -/
  status : Int
  /-- What it wrote, each line end as a newline. -/
  output : Text
deriving DecidableEq, Repr

/-- Why there is no process that has ended. -/
inductive Refusal where
  /-- The command has no words. -/
  | noWords
  /-- There is no such program. -/
  | notFound (name : Text)
  /-- The process could not be started. -/
  | notStarted (r : FileTree.Refusal)
deriving DecidableEq, Repr

/-- A refusal in words. -/
def Refusal.message : Refusal → Text
  | .noWords => "subprocess command requires at least one argument".toList
  | .notFound name => "Executable '".toList ++ name ++ "' was not found on PATH".toList
  | .notStarted r => r.message

/-! ## Finding programs -/

/-- Whether a program stands at a path. -/
def isProgram (h : Host) (path : Text) : Bool :=
  match h.tree.locate h.cwd.names path with
  | .ok (_, .file f) => f.mode.executable
  | _ => false

/-- A name inside a directory, with one slash between them. -/
def inside (directory : Path) (name : Text) : Text :=
  if directory.toText.getLast? = some '/' then directory.toText ++ name
  else directory.toText ++ '/' :: name

example : inside ⟨.top, []⟩ "go".toList = "/go".toList := by decide
example : inside ⟨.here, [['b']]⟩ "go".toList = "b/go".toList := by decide

/-- The path that a relative name is run by. -/
def lookUp (h : Host) (name : Text) : Option Text :=
  if name.contains '/' then
    if isProgram h name then some name else none
  else (h.searchPath.map (inside · name)).find? (isProgram h)

/-- The command with its first word replaced by the path of the program. -/
def locate (h : Host) : List Text → Except Refusal (List Text)
  | [] => .error .noWords
  | name :: rest =>
    let path := Path.ofText name
    if path.isAbsolute then .ok (path.toText :: rest)
    else
      match lookUp h name with
      | some found => .ok (found :: rest)
      | none => .error (.notFound name)

/-! ## Starting programs -/

/-- The place of the directory a process starts in. -/
def startPlace (h : Host) : Option Path → Except FileTree.Refusal (List Text)
  | none => .ok h.cwd.names
  | some directory =>
    match h.tree.locate h.cwd.names directory.toText with
    | .ok (place, .directory) => .ok place
    | .ok (_, .file _) => .error ⟨.notDirectory, directory.toText⟩
    | .error cause => .error ⟨cause, directory.toText⟩

/-- The program that a path leads to from the directory of a process: the one that is given for the
file, or else what `Script` makes of a script. -/
def programAt (t : FileTree) (place : List Text) (path : Text) :
    Except FileTree.Refusal Program :=
  match t.locate place path with
  | .error cause => .error ⟨cause, path⟩
  | .ok (_, .directory) => .error ⟨.denied, path⟩
  | .ok (_, .file f) =>
    if !f.mode.executable then .error ⟨.denied, path⟩
    else
      match f.program, Script.ofBytes? f.content with
      | some program, _ => .ok program
      | none, none => .error ⟨.notProgram, path⟩
      | none, some script =>
        match script.program? path with
        | some program => .ok program
        | none => .error ⟨.missing, path⟩

/-- The most bytes that a word may have. -/
def wordLimit : Nat := 131071

/-- What comes of an attempt to start a process. -/
def start (h : Host) (call : Call) : Except FileTree.Refusal Completed :=
  let name := call.words.headD []
  if call.words.any (·.contains '\u0000') then .error ⟨.endsInside, name⟩
  else do
    let place ← startPlace h call.directory
    if call.words.any (wordLimit < FileTree.bytesOf ·) then .error ⟨.wordTooLong, name⟩
    else
      let program ← programAt h.tree place name
      .ok ⟨program.status, Text.foldNewlines (Utf8.decodeLossy program.output)⟩

/-- The attempts to start a process for a command, and what comes of the command. -/
def run (h : Host) (words : List Text) (directory : Option Path) :
    List Call × Except Refusal Completed :=
  match locate h words with
  | .error r => ([], .error r)
  | .ok words =>
    let call : Call := ⟨words, directory⟩
    ([call],
      match start h call with
      | .ok completed => .ok completed
      | .error r => .error (.notStarted r))

end Launch

end Marginalia
