import Marginalia.Document.Index
import Marginalia.Session.Mode
import Marginalia.Session.Opening

/-!
# The command line

There are two commands.  `annotate` runs the analysis of a file and prints the file with its
annotations.  `resolve` prints the package of a file, without the codes for a terminal that its name
may hold if it is not printed to one.

Options may stand before and after the file.  A value may be joined to a short option, or to a long
one with an equals sign.  The last of several values counts, except for the wanted messages, which
add up.  Behind two dashes there are no options.

Words that make no command end with status two, and nothing is printed.  There is no help here: to
ask for it is to make no command, and so is to say nothing.
-/

namespace Marginalia.CommandLine

/-! ## Options -/

/-- An option that has a value. -/
inductive Valued where
  /-- How much detail the compiler gives. -/
  | detail
  /-- A piece of text of a wanted message. -/
  | allow
  /-- Where the search for settings starts. -/
  | root
deriving DecidableEq, Repr

/-- What a word that starts with a dash says. -/
inductive Flag where
  /-- Pictograms are on or off. -/
  | emoji (on : Bool)
  /-- Colours are on or off. -/
  | color (on : Bool)
  /-- An option has a value, which is the next word if it is not joined to this one. -/
  | valued (option : Valued) (joined : Option Text)
deriving DecidableEq, Repr

/-- The flag of a long option. -/
def longFlag? (name : Text) (joined : Option Text) : Option Flag :=
  if name = "--detail".toList then some (.valued .detail joined)
  else if name = "--allow".toList then some (.valued .allow joined)
  else if name = "--root".toList then some (.valued .root joined)
  else if joined.isSome then none
  else if name = "--emoji".toList then some (.emoji true)
  else if name = "--no-emoji".toList then some (.emoji false)
  else if name = "--color".toList then some (.color true)
  else if name = "--no-color".toList then some (.color false)
  else none

/-- The flag of a word that starts with a dash. -/
def flag? (word : Text) : Option Flag :=
  match word with
  | '-' :: '-' :: _ =>
    let name := word.takeWhile (· != '=')
    longFlag? name (if name.length < word.length then some (word.drop (name.length + 1)) else none)
  | '-' :: 'd' :: value => some (.valued .detail (if value.isEmpty then none else some value))
  | '-' :: 'a' :: value => some (.valued .allow (if value.isEmpty then none else some value))
  | _ => none

/-- Whether a word is taken for an option. -/
def isFlag (word : Text) : Bool :=
  word.head? == some '-' && 2 ≤ word.length

/-- What the words of a command say. -/
structure Given where
  /-- The detail level. -/
  detail : Option Text
  /-- The wanted messages. -/
  allow : List Text
  /-- Where the search for settings starts. -/
  root : Option Text
  /-- Whether messages start with a pictogram. -/
  emoji : Bool
  /-- Whether messages are coloured. -/
  color : Bool
  /-- The words that are no options. -/
  words : List Text
deriving DecidableEq, Repr

namespace Given

/-- Nothing is said. -/
def nothing : Given := ⟨none, [], none, true, true, []⟩

/-- One more value. -/
def value (g : Given) (text : Text) : Valued → Given
  | .detail => { g with detail := some text }
  | .allow => { g with allow := g.allow ++ [text] }
  | .root => { g with root := some text }

end Given

/-- What further words of a command say, if they say anything. -/
def read? (g : Given) : List Text → Option Given
  | [] => some g
  | word :: rest =>
    if word = "--".toList then some { g with words := g.words ++ rest }
    else if isFlag word then
      match flag? word with
      | none => none
      | some (.emoji on) => read? { g with emoji := on } rest
      | some (.color on) => read? { g with color := on } rest
      | some (.valued option (some text)) => read? (g.value text option) rest
      | some (.valued option none) =>
        match rest with
        | [] => none
        | text :: rest => read? (g.value text option) rest
    else read? { g with words := g.words ++ [word] } rest

/-- The words of a command that has no options. -/
def plainWords? (seen : List Text) : List Text → Option (List Text)
  | [] => some seen
  | word :: rest =>
    if word = "--".toList then some (seen ++ rest)
    else if isFlag word then none
    else plainWords? (seen ++ [word]) rest

/-! ## Detail levels -/

/-- A reading of the text that an option gives as the detail level.  It belongs to the library that
takes a command apart, and such libraries differ: to some `2.0` writes a number, to others it does
not but digits of all scripts do.  So what is said of commands is said of any reading. -/
abbrev LevelReading := Text → Option Positive

/-- The detail level that a text writes as a whole number. -/
def detail? : LevelReading := fun s =>
  match Text.integer? s with
  | some (.ofNat n) => if h : 1 ≤ n then some ⟨n, h⟩ else none
  | _ => none

/-- The detail level that a text in a settings file stands for. -/
def settingDetail? : LevelReading := fun s =>
  (Value.text s).toPositive.toOption

/-! ## Commands -/

/-- What is to be analysed, and how. -/
structure Annotate where
  /-- The file. -/
  file : Path
  /-- The detail level. -/
  detail : Option Positive
  /-- The wanted messages. -/
  allow : List Text
  /-- Where the search for settings starts. -/
  root : Option Path
  /-- Whether messages start with a pictogram. -/
  emoji : Bool
  /-- Whether messages are coloured. -/
  color : Bool
deriving DecidableEq

/-- A command. -/
inductive Command where
  /-- A file is printed with its annotations. -/
  | annotate (a : Annotate)
  /-- The package of a file is printed. -/
  | resolve (file : Path)
deriving DecidableEq

/-- The absolute path of the file that a word names, if there is such a file and it may be read. -/
def file? (h : Host) (word : Text) : Option Path :=
  let path : Path := { (Path.ofText word).resolved h.cwd with root := .top }
  match h.tree.locate h.cwd.names path.toText with
  | .ok (_, .file f) => if f.mode.readable then some path else none
  | _ => none

/-- The path that a word writes, unless it is no path or leads to a file that may not be read. -/
def root? (h : Host) (word : Text) : Option Path :=
  match h.tree.locate h.cwd.names word with
  | .error .endsInside => none
  | .ok (_, .file f) => if f.mode.readable then some (Path.ofText word) else none
  | _ => some (Path.ofText word)

/-- The command that the words behind `annotate` make. -/
def annotate? (level? : LevelReading) (h : Host) (words : List Text) : Option Command := do
  let g ← read? .nothing words
  let [word] := g.words | none
  let file ← file? h word
  let detail ←
    match g.detail with
    | none => some none
    | some text => (level? text).map some
  let root ←
    match g.root with
    | none => some none
    | some word => (root? h word).map some
  some (.annotate ⟨file, detail, g.allow, root, g.emoji, g.color⟩)

/-- The command that the words behind `resolve` make. -/
def resolve? (h : Host) (words : List Text) : Option Command := do
  let [word] ← plainWords? [] words | none
  some (.resolve (← file? h word))

/-- The command that starts with a name. -/
def named? (level? : LevelReading) (h : Host) (name : Text) (words : List Text) : Option Command :=
  if name = "annotate".toList then annotate? level? h words
  else if name = "resolve".toList then resolve? h words
  else none

/-- The command that words make. -/
def command? (level? : LevelReading) (h : Host) : List Text → Option Command
  | [] => none
  | word :: rest =>
    if word = "--".toList then
      match rest with
      | [] => none
      | name :: words => named? level? h name words
    else if isFlag word then none
    else named? level? h word rest

/-! ## Annotating -/

/-- How a command ends. -/
structure Ending where
  /-- The status. -/
  status : Nat
  /-- What is printed, if this library decides what. -/
  printed : Option Text
  /-- The attempts to start a process. -/
  calls : List (List Text × Option Path)

/-- The settings that the options of a command change. -/
def changes (a : Annotate) : Fields :=
  [("detail_level".toList, (a.detail.map fun n => Value.integer n.val).getD .null),
   ("allow_list".toList, if a.allow.isEmpty then .null else .list (a.allow.map .text)),
   ("emoji".toList, .boolean a.emoji),
   ("color".toList, .boolean a.color)]

/-- The settings of a command. -/
def settings (h : Host) (a : Annotate) : Except Settings.Refusal Settings := do
  let found ← Settings.above h.tree h.cwd (a.root.getD a.file.parent)
  found.override (changes a)

/-- Who prints the messages of a command. -/
def messenger (a : Annotate) : Console.Messenger :=
  ⟨a.emoji, if a.color then none else some false⟩

/-- The style of a note behind a line. -/
def notePaint : Console.Paint := "3;33".toList

/-- A line of a file with its number and its notes. -/
def row (paint : Console.Paint) (width number : Nat) (line : Text) (notes : List Text) :
    List Console.Piece :=
  ⟨[], Text.padLeft width (Text.ofNat number) ++ " │ ".toList ++ line⟩
    :: notes.map fun note => ⟨paint, "  ".toList ++ note⟩

/-- The lines of a file with their numbers and notes, printed. -/
def rows (m : Console.Messenger) (terminal : Bool) (width : Nat)
    (lines : List (Text × List Text)) : Text :=
  let paint := if m.wantsColor terminal then notePaint else []
  lines.zipIdx.flatMap fun ((line, notes), n) =>
    m.print terminal (row paint width (n + 1) line notes)

/-- A file with its annotations, printed. -/
def listing (m : Console.Messenger) (terminal : Bool) (d : Document) :
    Except Session.Fault Text := do
  let (count, lines) ←
    match (Indexed.numbered.run (.ofDocument d)).1 with
    | .ok numbered => .ok numbered
    | .error r => .error (.range r)
  match m.heading terminal ((d.file.map Path.name).getD d.id) with
  | .ok title => .ok (title ++ rows m terminal (Text.ofNat count).length lines)
  | .error r => .error (.markup r)

/-- The ending of a command that fails with a message. -/
def failing (m : Console.Messenger) (terminal : Bool) (trace : Session.Trace) (message : Text) :
    Ending :=
  ⟨1, some (trace.printed ++ m.emit terminal .fail message), trace.calls⟩

/-- Why an outcome, if there is one, does not allow the file to be printed. -/
def problem (file : Path) (s : Settings) : Option Outcome → Option Text
  | none => some ("Cannot analyse ".toList ++ file.toText)
  | some o =>
    if o.spawned then none
    else some (o.error.getD ("Unable to run ".toList ++ s.goBinary))

/-- The ending of a command whose settings are known. -/
def annotateWith (h : Host) (terminal : Bool) (m : Console.Messenger) (file : Path)
    (s : Settings) : Except Session.Fault Ending := do
  let d ←
    match Document.ofFile h.tree h.cwd file with
    | .ok d => .ok d
    | .error (.tree r) => .error (.tree r)
    | .error (.bytes r) => .error (.bytes r)
  let plan : Session.Plan := ⟨0, false, s, .standard, some (.printed m), []⟩
  let (result, w) :=
    (Session.run (fun _ => throw .nothing) 0).run (.start h terminal [d] [plan])
  match problem file s (← result) with
  | some message => .ok (failing m terminal w.trace message)
  | none => do
    let text ← listing m terminal (w.documents.headD d)
    .ok ⟨0, some (w.trace.printed ++ text), w.trace.calls⟩

/-- The ending of `annotate`. -/
def annotate (h : Host) (terminal : Bool) (a : Annotate) : Except Session.Fault Ending :=
  let m := messenger a
  match settings h a with
  | .ok s => annotateWith h terminal m a.file s
  | .error (.bytes r) => .error (.bytes r)
  | .error (.tree r) => .error (.tree r)
  | .error .tooManyDigits => .error (.settings .tooManyDigits)
  | .error r => .ok (failing m terminal .empty r.message)

/-- The ending of a command line.  If no other reading is given, detail levels are read as in
settings files. -/
def execute (h : Host) (terminal : Bool) (words : List Text)
    (level? : LevelReading := settingDetail?) : Except Session.Fault Ending :=
  match command? level? h words with
  | none => .ok ⟨2, none, []⟩
  | some (.annotate a) => annotate h terminal a
  | some (.resolve file) =>
    match Package.ofFile h.tree h.cwd file with
    | .ok package =>
      let line := package ++ ['\n']
      .ok ⟨0, some (if terminal then line else Console.withoutCodes line), []⟩
    | .error r => .error (.tree r)

example : flag? "-d=2".toList = some (.valued .detail (some "=2".toList)) := by decide
example : flag? "--allow=a=b".toList = some (.valued .allow (some "a=b".toList)) := by decide
example : flag? "--emoji=1".toList = none := by decide
example : ["+2".toList, "2.0".toList, ['\u0662']].map (fun s => (detail? s).map Subtype.val)
    = [some 2, none, some 2] := by decide
example : ["+2".toList, "2.0".toList, ['\u0662']].map (fun s => (settingDetail? s).map Subtype.val)
    = [some 2, some 2, none] := by decide
example : (read? .nothing ["-d".toList, "-x".toList, "f".toList]).map (·.words) = some [['f']] := by
  decide

end Marginalia.CommandLine
