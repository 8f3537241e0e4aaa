import Marginalia.Path
import Marginalia.Text.Lines
import Marginalia.Text.Quoted
import Marginalia.Text.Utf8

/-!
# File trees

A tree of directories and files, as a list of places and what stands there.  A place is the list of
names that leads to it from the top, so it holds neither `.` nor `..`.

`walk` follows the names of a path from a place.  Every place it passes must be a directory, also
in front of `..` and of a trailing slash.  There are no links, so `..` leads back to the place the
walk came through.

A file says what its owner may do with it; the owner is who asks.  The answers of a tree are files,
or the cause why there is none.  `node?_set` and `node?_erase` say what a change does to every
place.
-/

namespace Marginalia

/-- What a program does when it is run: what it writes on its two streams, in the order of writing,
and the status it ends with, which is the negated number of the signal that ends it. -/
structure Program where
  /-- The bytes it writes. -/
  output : List UInt8
  /-- The status it ends with. -/
  status : Int
deriving DecidableEq, Repr

/-- What the owner of a file may do with it. -/
structure Mode where
  /-- Whether it may be read. -/
  readable : Bool
  /-- Whether it may be written. -/
  writable : Bool
  /-- Whether it may be run. -/
  executable : Bool
deriving DecidableEq, Repr

/-- The mode of a file that is read and written. -/
def Mode.plain : Mode := ⟨true, true, false⟩

/-- The mode of a file that is also run. -/
def Mode.program : Mode := ⟨true, true, true⟩

/-- A file. -/
structure File where
  /-- Its bytes. -/
  content : List UInt8
  /-- What may be done with it. -/
  mode : Mode
  /-- What it does when it is run, if that is known. -/
  program : Option Program
deriving DecidableEq, Repr

/-- What stands at a place of a tree. -/
inductive Node where
  /-- A directory. -/
  | directory
  /-- A file. -/
  | file (f : File)
deriving DecidableEq, Repr

/-- A tree of directories and files. -/
structure FileTree where
  /-- The places below the top and what stands there; the first entry of a place counts. -/
  nodes : List (List Text × Node)

namespace FileTree

/-- Why the tree does not do what it is asked to. -/
inductive Cause where
  /-- Nothing stands at the path. -/
  | missing
  /-- The mode of the file does not allow it. -/
  | denied
  /-- Something stands at the path already. -/
  | occupied
  /-- The path leads through a file. -/
  | notDirectory
  /-- A directory stands at the path. -/
  | isDirectory
  /-- The file is no program. -/
  | notProgram
  /-- The path, or a name on it, has too many bytes. -/
  | nameTooLong
  /-- A word for a program has too many bytes. -/
  | wordTooLong
  /-- The path holds the character that ends every path. -/
  | endsInside
deriving DecidableEq, Repr

/-- A cause and the path it stands for. -/
structure Refusal where
  /-- Why the tree refuses. -/
  cause : Cause
  /-- The path as it was given. -/
  path : Text
deriving DecidableEq, Repr

/-- The number of a cause. -/
def Cause.number : Cause → Nat
  | .missing => 2
  | .wordTooLong => 7
  | .notProgram => 8
  | .denied => 13
  | .occupied => 17
  | .notDirectory => 20
  | .isDirectory => 21
  | .nameTooLong => 36
  | .endsInside => 0

/-- A cause in words. -/
def Cause.describe : Cause → Text
  | .missing => "No such file or directory".toList
  | .wordTooLong => "Argument list too long".toList
  | .notProgram => "Exec format error".toList
  | .denied => "Permission denied".toList
  | .occupied => "File exists".toList
  | .notDirectory => "Not a directory".toList
  | .isDirectory => "Is a directory".toList
  | .nameTooLong => "File name too long".toList
  | .endsInside => "embedded null byte".toList

/-- A refusal in words. -/
def Refusal.message (r : Refusal) : Text :=
  if r.cause = .endsInside then r.cause.describe
  else
    "[Errno ".toList ++ Text.ofNat r.cause.number ++ "] ".toList ++ r.cause.describe
      ++ ": ".toList ++ Text.quoted r.path

/-! ## Places -/

/-- The tree of which only the top exists. -/
def empty : FileTree := ⟨[]⟩

/-- What stands at a place. -/
def node? (t : FileTree) (place : List Text) : Option Node :=
  if place = [] then some .directory else t.nodes.lookup place

/-- The tree with `node` at a place. -/
def set (t : FileTree) (place : List Text) (node : Node) : FileTree :=
  ⟨(place, node) :: t.nodes.filter fun entry => !(entry.1 == place)⟩

/-- The tree with nothing at a place. -/
def erase (t : FileTree) (place : List Text) : FileTree :=
  ⟨t.nodes.filter fun entry => !(entry.1 == place)⟩

/-- The tree with nothing below a place. -/
def clear (t : FileTree) (place : List Text) : FileTree :=
  ⟨t.nodes.filter fun entry => !(place.isPrefixOf entry.1 && entry.1 != place)⟩

theorem lookup_filter_ne {α β : Type} [BEq α] [LawfulBEq α] (l : List (α × β)) (a b : α) :
    (l.filter fun entry => !(entry.1 == a)).lookup b = if b == a then none else l.lookup b := by
  induction l with
  | nil => simp
  | cons x l ih =>
    obtain ⟨k, v⟩ := x
    by_cases hk : k = a
    · subst hk
      by_cases hb : b = k
      · subst hb
        simpa using ih
      · simp [ih, List.lookup_cons, beq_eq_false_iff_ne.mpr hb]
    · by_cases hb : b = k
      · simp [hk, hb]
      · simp [hk, ih, List.lookup_cons, beq_eq_false_iff_ne.mpr hb]

theorem node?_set (t : FileTree) (place other : List Text) (node : Node) (h : place ≠ []) :
    (t.set place node).node? other = if other = place then some node else t.node? other := by
  by_cases ho : other = place
  · subst ho
    simp [node?, set, h]
  · by_cases hn : other = []
    · simp [node?, hn, Ne.symm h]
    · simp [node?, set, ho, hn, List.lookup_cons, beq_eq_false_iff_ne.mpr ho, lookup_filter_ne]

theorem node?_erase (t : FileTree) (place other : List Text) (h : other ≠ []) :
    (t.erase place).node? other = if other = place then none else t.node? other := by
  simp [node?, erase, h, lookup_filter_ne]

/-- The tree with a directory at each place on the way to `place`. -/
def makeParents (t : FileTree) (place : List Text) : FileTree :=
  (List.range place.length).foldl
    (fun t k => if (t.node? (place.take k)).isNone then t.set (place.take k) .directory else t) t

/-- The tree with `node` at a place and directories on the way to it. -/
def put (t : FileTree) (place : List Text) (node : Node) : FileTree :=
  (t.makeParents place).set place node

/-! ## Following paths -/

/-- The most bytes that a name may have. -/
def nameLimit : Nat := 255

/-- The most bytes that a path may have. -/
def pathLimit : Nat := 4095

/-- The number of bytes of a text. -/
def bytesOf (s : Text) : Nat :=
  (Utf8.encode s).length

/-- The place that `names` lead to from `place`, each place on the way being a directory. -/
def walk (t : FileTree) (place : List Text) : List Text → Except Cause (List Text)
  | [] => .ok place
  | name :: rest =>
    match t.node? place with
    | none => .error .missing
    | some (.file _) => .error .notDirectory
    | some .directory =>
      if nameLimit < bytesOf name then .error .nameTooLong
      else
        t.walk
          (if Path.isIdle name then place
           else if name = ['.', '.'] then place.dropLast
           else place ++ [name])
          rest

/-- The place that the path which a text writes leads to, read from the place `cwd`. -/
def placeOf (t : FileTree) (cwd : List Text) (path : Text) : Except Cause (List Text) :=
  if path.contains '\u0000' then .error .endsInside
  else if path = [] then .error .missing
  else if pathLimit < bytesOf path then .error .nameTooLong
  else t.walk (if path.head? = some '/' then [] else cwd) (path.splitOn '/')

/-- What stands at the path that a text writes, read from the place `cwd`. -/
def locate (t : FileTree) (cwd : List Text) (path : Text) : Except Cause (List Text × Node) := do
  let place ← t.placeOf cwd path
  match t.node? place with
  | none => .error .missing
  | some node => .ok (place, node)

/-- Whether a file stands at a path.  Only of a path that is too long the tree does not say so. -/
def isFile (t : FileTree) (cwd : List Text) (path : Text) : Except Refusal Bool :=
  match t.locate cwd path with
  | .ok (_, .file _) => .ok true
  | .error .nameTooLong => .error ⟨.nameTooLong, path⟩
  | _ => .ok false

/-- Whether a directory stands at a path. -/
def isDirectory (t : FileTree) (cwd : List Text) (path : Text) : Bool :=
  match t.locate cwd path with
  | .ok (_, .directory) => true
  | _ => false

/-- The bytes of the file at a path. -/
def read (t : FileTree) (cwd : List Text) (path : Text) : Except Refusal (List UInt8) :=
  match t.locate cwd path with
  | .ok (_, .file f) => if f.mode.readable then .ok f.content else .error ⟨.denied, path⟩
  | .ok (_, .directory) => .error ⟨.isDirectory, path⟩
  | .error cause => .error ⟨cause, path⟩

/-- The tree after a file has been written at a path, given the mode of the file that was there, or
that of a new file.  The directory of the file must exist. -/
def writeAs (t : FileTree) (cwd : List Text) (path : Text) (file : Mode → File) :
    Except Refusal FileTree :=
  match t.placeOf cwd path with
  | .error cause => .error ⟨cause, path⟩
  | .ok place =>
    match t.node? place with
    | some .directory => .error ⟨.isDirectory, path⟩
    | some (.file f) =>
      if f.mode.writable then .ok (t.set place (.file (file f.mode))) else .error ⟨.denied, path⟩
    | none => .ok (t.set place (.file (file .plain)))

/-- The tree after `bytes` have been written to the file at a path.  A file that was there keeps its
mode. -/
def write (t : FileTree) (cwd : List Text) (path : Text) (bytes : List UInt8) :
    Except Refusal FileTree :=
  t.writeAs cwd path fun mode => ⟨bytes, mode, none⟩

/-- The tree without the file at a path. -/
def remove (t : FileTree) (cwd : List Text) (path : Text) : Except Refusal FileTree :=
  match t.locate cwd path with
  | .ok (place, .file _) => .ok (t.erase place)
  | .ok (_, .directory) => .error ⟨.isDirectory, path⟩
  | .error cause => .error ⟨cause, path⟩

/-! ## Making directories -/

/-- The tree with a new directory at a path. -/
def makeDirectory (t : FileTree) (cwd : List Text) (path : Text) : Except Refusal FileTree :=
  match t.placeOf cwd path with
  | .error cause => .error ⟨cause, path⟩
  | .ok place =>
    match t.node? place with
    | some _ => .error ⟨.occupied, path⟩
    | none => .ok (t.set place .directory)

/-- The tree with a directory at a path, whether there was one before or not. -/
def withDirectory (t : FileTree) (cwd : List Text) (path : Text) : Except Refusal FileTree :=
  match t.makeDirectory cwd path with
  | .ok t => .ok t
  | .error r => if t.isDirectory cwd path then .ok t else .error r

/-- The tree with directories at a path, the names of which are given from the last on, and on the
way to it. -/
def withDirectories (t : FileTree) (cwd : List Text) (root : Path.Root) :
    List Text → Except Refusal FileTree
  | [] => t.withDirectory cwd (Path.mk root []).toText
  | name :: rest =>
    let path := (Path.mk root (name :: rest).reverse).toText
    match t.withDirectory cwd path with
    | .error ⟨.missing, _⟩ => do (← t.withDirectories cwd root rest).withDirectory cwd path
    | made => made

/-- The tree with directories at a path and on the way to it. -/
def ensureDirectories (t : FileTree) (cwd : List Text) (path : Path) : Except Refusal FileTree :=
  t.withDirectories cwd path.root path.names.reverse

/-- What is to stand at a path. -/
inductive Content where
  /-- A directory. -/
  | directory
  /-- A file, perhaps with another mode. -/
  | file (bytes : List UInt8) (mode : Option Mode)
  /-- A file that does something when it is run. -/
  | program (p : Program)
deriving DecidableEq, Repr

/-- The tree with something at a path, and with directories on the way to it. -/
def make (t : FileTree) (cwd : List Text) (path : Path) : Content → Except Refusal FileTree
  | .directory => t.ensureDirectories cwd path
  | .file bytes mode => do
    (← t.ensureDirectories cwd path.parent).writeAs cwd path.toText
      fun old => ⟨bytes, mode.getD old, none⟩
  | .program p => do
    (← t.ensureDirectories cwd path.parent).writeAs cwd path.toText
      fun _ => ⟨[], .program, some p⟩

/-! ## Reading text -/

/-- Why a file cannot be read as text. -/
inductive TextRefusal where
  /-- The tree refuses. -/
  | tree (r : Refusal)
  /-- The bytes are no text. -/
  | bytes (r : Utf8.Refusal)
deriving DecidableEq, Repr

/-- A refusal in words. -/
def TextRefusal.message : TextRefusal → Text
  | .tree r => r.message
  | .bytes r => r.message

/-- The text of the file at a path, each line end written as a newline. -/
def readText (t : FileTree) (cwd : List Text) (path : Text) : Except TextRefusal Text :=
  match t.read cwd path with
  | .error r => .error (.tree r)
  | .ok bytes =>
    match Utf8.decode bytes with
    | .error r => .error (.bytes r)
    | .ok s => .ok (Text.foldNewlines s)

/-! ## Searching upward -/

/-- The first of several paths at which a file stands. -/
def firstFile? (t : FileTree) (cwd : List Text) : List Path → Except Refusal (Option Path)
  | [] => .ok none
  | path :: rest => do
    if ← t.isFile cwd path.toText then .ok (some path) else t.firstFile? cwd rest

/-- The path of the nearest file of a name: in `start` itself or in the first of its ancestors that
has one. -/
def nearestFile? (t : FileTree) (cwd : List Text) (start : Path) (name : Path) :
    Except Refusal (Option Path) :=
  t.firstFile? cwd (start.selfAndParents.map (·.join name))

end FileTree

end Marginalia
