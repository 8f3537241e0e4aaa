import Marginalia.FileTree
import Marginalia.Text.Numeral

/-!
# Scripts

A file that starts with a number sign and an exclamation mark is a script.  Its first line goes on
with the path of the program that reads it, which is a shell as a rule.

A shell runs the commands of a script one after another.  Commands stand on lines of their own or
between semicolons, and are words between blanks, which quotation marks and backslashes may join.
Only five commands are known here, `echo`, `printf`, `true`, `false` and `exit`, and `:` as another
name for `true`; of every other one the shell says that there is none.  The shells are those of a
list, whether or not a tree holds them.
-/

namespace Marginalia

/-- A command of a script. -/
structure Instruction where
  /-- The number of its line. -/
  line : Nat
  /-- Its words. -/
  words : List Text
deriving DecidableEq, Repr

/-- A script. -/
structure Script where
  /-- The program that reads it. -/
  reader : Text
  /-- Its text. -/
  text : Text
deriving DecidableEq, Repr

namespace Script

/-! ## Instructions -/

/-- Where the reading of a script stands. -/
structure Reader where
  /-- The number of the line. -/
  line : Nat
  /-- The quotation mark that is open. -/
  mark : Option Char
  /-- Whether a backslash stands in front of the next character. -/
  escaped : Bool
  /-- Whether a remark goes on to the end of the line. -/
  remark : Bool
  /-- The word that goes on, given backward. -/
  word : Option Text
  /-- The words in front of it, the latest one first. -/
  words : List Text
  /-- The instructions, the latest one first. -/
  done : List Instruction

namespace Reader

/-- The reading of a script starts. -/
def start : Reader := ⟨1, none, false, false, none, [], []⟩

/-- The reading after one more character of a word. -/
def push (r : Reader) (c : Char) : Reader :=
  { r with word := some (c :: r.word.getD []), escaped := false }

/-- The reading behind a word. -/
def endWord (r : Reader) : Reader :=
  match r.word with
  | none => r
  | some word => { r with word := none, words := word.reverse :: r.words }

/-- The reading behind an instruction. -/
def endInstruction (r : Reader) : Reader :=
  let r := r.endWord
  if r.words.isEmpty then r
  else { r with words := [], done := ⟨r.line, r.words.reverse⟩ :: r.done }

/-- The reading behind a line. -/
def endLine (r : Reader) : Reader :=
  let r := r.endInstruction
  { r with line := r.line + 1, remark := false }

/-- The reading behind a character that nothing quotes. -/
def readPlain (r : Reader) (c : Char) : Reader :=
  if c = '\n' then r.endLine
  else if r.remark then r
  else if c = ';' then r.endInstruction
  else if c = ' ' || c = '\t' then r.endWord
  else if c = '#' && r.word.isNone then { r with remark := true }
  else if c = '\\' then { r with escaped := true }
  else if c = '\'' || c = '"' then { r with mark := some c, word := some (r.word.getD []) }
  else r.push c

/-- The reading behind a character. -/
def read (r : Reader) (c : Char) : Reader :=
  if r.escaped then
    if c = '\n' then { r with line := r.line + 1, escaped := false } else r.push c
  else
    match r.mark with
    | none => r.readPlain c
    | some mark => if c = mark then { r with mark := none } else r.push c

end Reader

/-- The instructions of a text. -/
def instructions (text : Text) : List Instruction :=
  (text.foldl Reader.read .start).endInstruction.done.reverse

/-! ## Running -/

/-- The text with the characters that a letter behind a backslash stands for. -/
def unescape : Text → Text
  | '\\' :: 'n' :: s => '\n' :: unescape s
  | '\\' :: 't' :: s => '\t' :: unescape s
  | '\\' :: '\\' :: s => '\\' :: unescape s
  | c :: s => c :: unescape s
  | [] => []

/-- What an instruction prints, the status it ends with, and whether it ends the script, given the
name of the script and the status of the instruction before. -/
def perform (name : Text) (status : Nat) (i : Instruction) : Text × Nat × Bool :=
  let aside := [">&2".toList, "1>&2".toList]
  let words := i.words.filter fun word => !aside.contains word
  match words.map fun word => (String.ofList word, word) with
  | ("exit", _) :: rest =>
    ([], ((rest.head?.map fun word => Text.valueIn 10 word.2).getD status) % 256, true)
  | ("echo", _) :: rest => (unescape (Text.join [' '] (rest.map Prod.snd)) ++ ['\n'], 0, false)
  | ("printf", _) :: rest => (unescape ((rest.head?.map Prod.snd).getD []), 0, false)
  | ("true", _) :: _ | (":", _) :: _ | [] => ([], 0, false)
  | ("false", _) :: _ => ([], 1, false)
  | (_, word) :: _ =>
    (name ++ ": ".toList ++ Text.ofNat i.line ++ ": ".toList ++ word ++ ": not found\n".toList, 127,
      false)

/-- What instructions print, and the status they end with. -/
def performAll (name : Text) (status : Nat) : List Instruction → Text × Nat
  | [] => ([], status)
  | i :: rest =>
    let (printed, status, ends) := perform name status i
    if ends then (printed, status)
    else
      let (more, status) := performAll name status rest
      (printed ++ more, status)

/-- The shells. -/
def shells : List Text :=
  ["/bin/sh", "/usr/bin/sh", "/bin/dash", "/usr/bin/dash", "/bin/bash", "/usr/bin/bash"].map
    String.toList

/-- The script that a file holds. -/
def ofBytes? (bytes : List UInt8) : Option Script :=
  match Utf8.decodeLossy bytes with
  | '#' :: '!' :: s =>
    let isBlank (c : Char) := c == ' ' || c == '\t'
    let reader := (s.dropWhile isBlank).takeWhile fun c => !isBlank c && c != '\n'
    if reader.isEmpty then none else some ⟨reader, '#' :: '!' :: s⟩
  | _ => none

/-- What a script of a name does when it is run, if a shell reads it. -/
def program? (s : Script) (name : Text) : Option Program :=
  if shells.contains s.reader then
    let (printed, status) := performAll name 0 (instructions s.text)
    some ⟨Utf8.encode printed, status⟩
  else none

example : instructions "#!/bin/sh\necho 'a b'\"c\" d\\ # e\n\n: ; exit 3 # f".toList
    = [⟨2, ["echo".toList, "a bc".toList, "d #".toList, ['e']]⟩, ⟨4, [[':']]⟩,
      ⟨4, ["exit".toList, ['3']]⟩] := by decide +kernel
example : performAll ['n'] 0 (instructions "echo a >&2\nb\nexit\necho c".toList)
    = ("a\nn: 2: b: not found\n".toList, 127) := by decide +kernel

end Script

end Marginalia
