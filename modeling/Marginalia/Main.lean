import Marginalia.CommandLine

/-!
# The program

The program reads the report of the compiler from standard input: whoever calls it runs the compiler
and hands the report on.  Apart from that it is `CommandLine.execute`, with detail levels that are
whole numbers.  Of the files of the host it reads the words of the command line and the manifests
and settings above them.
-/

open Marginalia

namespace Marginalia.Shell

/-- The names of the files that are looked for above a directory. -/
def sought : List Text :=
  [Manifest.fileName, Settings.projectFile, Settings.ownFile]

/-- The paths that a word may stand for. -/
def readings (word : Text) : List Text :=
  [word, (word.dropWhile (· != '=')).drop 1]

/-- The paths of the files that a command line may need. -/
def needed (cwd : Path) (words : List Text) : List Path :=
  let starts := cwd :: (words.flatMap readings).map fun word => (Path.ofText word).resolved cwd
  starts ++ (starts.flatMap Path.selfAndParents).flatMap fun directory =>
    sought.map directory.child

/-- The directory of the program that hands on the report. -/
def programs : Path := Path.ofText "/programs".toList

/-- The tree with a program by the name of the compiler. -/
def withCompiler (h : Host) (name : Text) (report : List UInt8) : Host :=
  let path := if name.contains '/' then (Path.ofText name).resolved h.cwd else programs.child name
  { h with tree := h.tree.put path.names (.file ⟨[], .program, some ⟨report, 0⟩⟩) }

/-- The host in which a command runs the compiler, given its report. -/
def hostFor (h : Host) (words : List Text) (report : List UInt8) : Host :=
  match CommandLine.command? CommandLine.detail? h words with
  | some (.annotate a) =>
    match CommandLine.settings h a with
    | .ok s => withCompiler h s.goBinary report
    | .error _ => h
  | _ => h

/-- The bytes of a file of the host, if they can be read. -/
def bytes? (path : Path) : IO (Option (List UInt8)) := do
  try
    let bytes ← IO.FS.readBinFile (String.ofList path.toText)
    return some bytes.toList
  catch _ => return none

/-- The tree of those files that can be read. -/
def load : List Path → FileTree → IO FileTree
  | [], t => return t
  | path :: rest, t => do
    match ← bytes? path with
    | some bytes => load rest (t.put path.names (.file ⟨bytes, .plain, none⟩))
    | none => load rest t

end Marginalia.Shell

def main (arguments : List String) : IO UInt32 := do
  let words := arguments.map String.toList
  let cwd := Path.ofText (← IO.currentDir).toString.toList
  let tree ← Shell.load (Shell.needed cwd words) .empty
  let host : Host := ⟨tree, cwd, [Shell.programs]⟩
  let report ← (← IO.getStdin).readBinToEnd
  let host := Shell.hostFor host words report.toList
  match CommandLine.execute host (← (← IO.getStdout).isTty) words CommandLine.detail? with
  | .ok ending =>
    IO.print (String.ofList (ending.printed.getD []))
    return ending.status.toUInt32
  | .error fault =>
    IO.eprintln (String.ofList fault.message)
    return 1
