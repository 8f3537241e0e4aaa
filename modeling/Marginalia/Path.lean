import Marginalia.Text.Basic

/-!
# Paths

A path is a root and a list of names.  Reading a text drops the empty names and the names `.`; it
keeps `..`, whose meaning depends on the tree.  Two texts that differ only in what is dropped are
the same path.

The chain `selfAndParents` of a path runs from the path to its root, and each member is the parent
of the one before it.
-/

namespace Marginalia

/-- What a path starts from. -/
inductive Path.Root where
  /-- The directory the reader is in. -/
  | here
  /-- The top of the tree. -/
  | top
  /-- The top of the tree, written with two slashes. -/
  | doubleTop
deriving DecidableEq, Repr

/-- A path. -/
structure Path where
  /-- What it starts from. -/
  root : Path.Root
  /-- The names on the way, none of them empty or `.`. -/
  names : List Text
deriving DecidableEq, Repr

namespace Path

/-! ## Reading and writing -/

/-- Whether a name leads nowhere else. -/
def isIdle (name : Text) : Bool :=
  name == [] || name == ['.']

/-- The root that a text starts with. -/
def Root.ofText : Text → Root
  | '/' :: '/' :: '/' :: _ => .top
  | '/' :: '/' :: _ => .doubleTop
  | '/' :: _ => .top
  | _ => .here

/-- The text of a root. -/
def Root.toText : Root → Text
  | .here => []
  | .top => ['/']
  | .doubleTop => ['/', '/']

/-- The path that a text writes. -/
def ofText (s : Text) : Path :=
  ⟨Root.ofText s, (s.splitOn '/').filter fun name => !isIdle name⟩

/-- The names of a path with slashes between them. -/
def joined (names : List Text) : Text :=
  Text.join ['/'] names

/-- The text of a path; a path that leads nowhere is written as a dot. -/
def toText (p : Path) : Text :=
  if p.root = .here && p.names.isEmpty then ['.'] else p.root.toText ++ joined p.names

/-! ## Parts -/

/-- The last name of a path, empty if there is none. -/
def name (p : Path) : Text :=
  p.names.getLastD []

/-- The path without its last name. -/
def parent (p : Path) : Path :=
  ⟨p.root, p.names.dropLast⟩

/-- The path of a name inside the directory `p`. -/
def child (p : Path) (name : Text) : Path :=
  ⟨p.root, p.names ++ [name]⟩

/-- The path and its ancestors, nearest first. -/
def selfAndParents (p : Path) : List Path :=
  (List.range (p.names.length + 1)).map fun k => ⟨p.root, p.names.take (p.names.length - k)⟩

/-- What stands in a name from its last dot on, empty if that dot is the first or the last
character. -/
def suffixOf (name : Text) : Text :=
  let tail := (name.reverse.takeWhile (· ≠ '.')).reverse
  let stem := name.length - tail.length
  if stem ≤ 1 || tail.isEmpty then [] else '.' :: tail

/-- What stands in the last name of a path from its last dot on. -/
def suffix (p : Path) : Text :=
  suffixOf p.name

/-! ## Joining -/

/-- Whether a path does not depend on where the reader is. -/
def isAbsolute (p : Path) : Bool :=
  p.root != .here

/-- The path `q` read from the directory `p`. -/
def join (p q : Path) : Path :=
  if q.isAbsolute then q else ⟨p.root, p.names ++ q.names⟩

/-- The path read from the working directory `cwd`. -/
def absolute (p cwd : Path) : Path :=
  cwd.join p

/-- The names of a path with each `..` cancelling the name before it. -/
def collapse (names : List Text) : List Text :=
  names.foldl (fun done name => if name = ['.', '.'] then done.dropLast else done ++ [name]) []

/-- The absolute path with no `..` in it. -/
def resolved (p cwd : Path) : Path :=
  let q := p.absolute cwd
  ⟨q.root, collapse q.names⟩

/-- The names that lead from the directory `p` to `q`, if `q` lies in it. -/
def below? (p q : Path) : Option (List Text) :=
  if p.root = q.root && p.names.isPrefixOf q.names then some (q.names.drop p.names.length) else none

/-! ## Laws -/

theorem names_child (p : Path) (name : Text) : (p.child name).names = p.names ++ [name] := rfl

@[simp] theorem parent_child (p : Path) (name : Text) : (p.child name).parent = p := by
  simp [child, parent]

@[simp] theorem name_child (p : Path) (name : Text) : (p.child name).name = name := by
  simp [child, Path.name, List.getLastD_eq_getLast?]

theorem below?_eq_some_iff {p q : Path} {names : List Text} :
    p.below? q = some names ↔ q = ⟨p.root, p.names ++ names⟩ := by
  obtain ⟨proot, pnames⟩ := p
  obtain ⟨qroot, qnames⟩ := q
  simp only [below?, mk.injEq]
  constructor
  · intro h
    split at h
    · next hp =>
      simp only [Bool.and_eq_true, decide_eq_true_eq, List.isPrefixOf_iff_prefix] at hp
      obtain ⟨t, ht⟩ := hp.2
      subst ht
      simp at h
      exact ⟨hp.1.symm, by rw [h]⟩
    · simp at h
  · rintro ⟨rfl, rfl⟩
    simp

example : (ofText "a//./b/../c/".toList).toText = "a/b/../c".toList := by decide
example : (ofText "///a".toList).toText = "/a".toList := by decide
example : (ofText "//a".toList).toText = "//a".toList := by decide
example : (ofText []).toText = ".".toList := by decide
example : suffixOf "a.tar.gz".toList = ".gz".toList := by decide
example : suffixOf ".go".toList = [] := by decide
example : suffixOf "a.".toList = [] := by decide
example : suffixOf "go".toList = [] := by decide

end Path

end Marginalia
