import Mathlib.Algebra.GroupWithZero.Nat
import Mathlib.Data.List.Induction
import Mathlib.Order.Lattice
import Marginalia.Proofs.Files.Reach

/-!
# Spelled paths

A path may be spelled with names `..`, which lead back.  The directories along such a path, one for
each number of its names, are all passed by a walk, but not all of them are ancestors of where the
walk arrives: some have been left again.  Every ancestor is passed (`exists_passed`).

A search upward from a spelled path looks into every directory it passes, the last one first, so it
finds the file of `lastPassed?`, as `nearestFile?_of_reached` says.  That file stands in an ancestor,
or in a directory that was left again, and then a search along the real names does not find it
(`lastPassed?_collapse`).
-/

namespace Marginalia

/-! ## Collapsing names -/

namespace Path

theorem collapse_concat (names : List Text) (name : Text) :
    collapse (names ++ [name])
      = if name = ['.', '.'] then (collapse names).dropLast else collapse names ++ [name] := by
  rw [collapse, List.foldl_append]
  rfl

theorem collapse_append_of_notMem (front : List Text) {back : List Text}
    (hback : ['.', '.'] ∉ back) : collapse (front ++ back) = collapse front ++ back := by
  induction back using List.reverseRecOn with
  | nil => rw [List.append_nil, List.append_nil]
  | append_singleton back name ih =>
    obtain ⟨hback, hname⟩ := not_or.mp (mt List.mem_append.mpr hback)
    have hname : name ≠ ['.', '.'] := fun heq => hname (List.mem_singleton.mpr heq.symm)
    rw [← List.append_assoc, collapse_concat, if_neg hname, ih hback, List.append_assoc]

theorem collapse_of_notMem {names : List Text} (hnames : ['.', '.'] ∉ names) :
    collapse names = names :=
  collapse_append_of_notMem [] hnames

theorem notMem_collapse (names : List Text) : ['.', '.'] ∉ collapse names := by
  induction names using List.reverseRecOn with
  | nil => exact List.not_mem_nil
  | append_singleton names name ih =>
    rw [collapse_concat]
    split
    · exact fun hmem => ih (List.dropLast_subset _ hmem)
    · next hname =>
      intro hmem
      rcases List.mem_append.mp hmem with hmem | hmem
      · exact ih hmem
      · exact hname (List.mem_singleton.mp hmem).symm

theorem collapse_sublist (names : List Text) : (collapse names).Sublist names := by
  induction names using List.reverseRecOn with
  | nil => exact .slnil
  | append_singleton names name ih =>
    rw [collapse_concat]
    split
    · exact ((List.dropLast_sublist _).trans ih).trans (List.sublist_append_left _ _)
    · exact ih.append_right _

/-- Every ancestor of where the names lead is passed, and from any directory that is passed on the
way, so are the ancestors below it. -/
theorem exists_passed {names : List Text} {k i : Nat} (hk : k ≤ names.length)
    (hlow : (collapse (names.take k)).length ≤ i) (hhigh : i ≤ (collapse names).length) :
    ∃ j, k ≤ j ∧ j ≤ names.length ∧ collapse (names.take j) = (collapse names).take i := by
  induction names using List.reverseRecOn with
  | nil =>
    cases Nat.le_zero.mp hk
    exact ⟨0, le_rfl, le_rfl, List.take_nil.symm⟩
  | append_singleton names name ih =>
    rcases hhigh.eq_or_lt with rfl | hlt
    · exact ⟨_, hk, le_rfl, by rw [List.take_length, List.take_length]⟩
    · have hne : k ≠ (names ++ [name]).length := by
        rintro rfl
        rw [List.take_length] at hlow
        exact absurd hlt (not_lt.mpr hlow)
      rw [List.length_append, List.length_singleton] at hk hne
      have hk : k ≤ names.length := by omega
      rw [List.take_append_of_le_length hk] at hlow
      -- the last name adds one directory below, or leads back
      have hback : i ≤ (collapse names).length ∧
          (collapse (names ++ [name])).take i = (collapse names).take i := by
        rw [collapse_concat] at hlt ⊢
        split at hlt
        · next hname =>
          rw [List.length_dropLast] at hlt
          rw [if_pos hname, List.dropLast_eq_take, List.take_take, min_eq_left (by omega)]
          exact ⟨by omega, rfl⟩
        · next hname =>
          rw [List.length_append, List.length_singleton] at hlt
          rw [if_neg hname, List.take_append_of_le_length (by omega)]
          exact ⟨by omega, rfl⟩
      obtain ⟨j, hkj, hj, hplace⟩ := ih hk hlow hback.1
      refine ⟨j, hkj, ?_, ?_⟩
      · rw [List.length_append]
        omega
      · rw [List.take_append_of_le_length hj, hplace, hback.2]

theorem IsPlain.of_child {d : Path} {name : Text} (h : (d.child name).IsPlain) : d.IsPlain :=
  fun n hn => h n (List.mem_append_left _ hn)

end Path

/-! ## The file that is passed last -/

namespace FileTree

open Marginalia.Path (collapse)

/-- The file that stands at a place under a name. -/
def fileAt? (t : FileTree) (place : List Text) (name : Text) : Option File :=
  match t.node? (place ++ [name]) with
  | some (.file f) => some f
  | _ => none

/-- The file of a name that is passed last along the first `k` of some names, and how many names
lead to the directory it stands in. -/
def lastPassed? (t : FileTree) (name : Text) (names : List Text) : Nat → Option (Nat × File)
  | 0 => (t.fileAt? [] name).map (0, ·)
  | k + 1 =>
    match t.fileAt? (collapse (names.take (k + 1))) name with
    | some f => some (k + 1, f)
    | none => t.lastPassed? name names k

section
variable {t : FileTree} {name : Text} {names : List Text} {n : Nat}

theorem lastPassed?_eq_some_iff {k : Nat} {f : File} :
    t.lastPassed? name names n = some (k, f) ↔
      k ≤ n ∧ t.fileAt? (collapse (names.take k)) name = some f ∧
        ∀ j, k < j → j ≤ n → t.fileAt? (collapse (names.take j)) name = none := by
  induction n with
  | zero =>
    rw [lastPassed?, Option.map_eq_some_iff]
    constructor
    · rintro ⟨g, hg, heq⟩
      cases heq
      exact ⟨le_rfl, hg, fun j hj hj' => absurd hj (by omega)⟩
    · rintro ⟨hk, hf, -⟩
      cases Nat.le_zero.mp hk
      exact ⟨f, hf, rfl⟩
  | succ n ih =>
    rw [lastPassed?]
    cases hlast : t.fileAt? (collapse (names.take (n + 1))) name with
    | some g =>
      constructor
      · intro heq
        cases heq
        exact ⟨le_rfl, hlast, fun j hj hj' => absurd hj (by omega)⟩
      · rintro ⟨hk, hf, hnone⟩
        rcases hk.eq_or_lt with rfl | hlt
        · cases hlast.symm.trans hf
          rfl
        · cases hlast.symm.trans (hnone _ hlt le_rfl)
    | none =>
      simp only
      rw [ih]
      constructor
      · rintro ⟨hk, hf, hnone⟩
        refine ⟨by omega, hf, fun j hj hj' => ?_⟩
        rcases hj'.eq_or_lt with rfl | hlt
        · exact hlast
        · exact hnone j hj (by omega)
      · rintro ⟨hk, hf, hnone⟩
        rcases hk.eq_or_lt with rfl | hlt
        · cases hlast.symm.trans hf
        · exact ⟨by omega, hf, fun j hj hj' => hnone j hj (by omega)⟩

theorem lastPassed?_eq_none_iff :
    t.lastPassed? name names n = none ↔
      ∀ j, j ≤ n → t.fileAt? (collapse (names.take j)) name = none := by
  induction n with
  | zero =>
    rw [lastPassed?, Option.map_eq_none_iff]
    constructor
    · intro hnone j hj
      cases Nat.le_zero.mp hj
      exact hnone
    · exact fun hnone => hnone 0 le_rfl
  | succ n ih =>
    rw [lastPassed?]
    cases hlast : t.fileAt? (collapse (names.take (n + 1))) name with
    | some g =>
      constructor
      · intro heq
        cases heq
      · intro hnone
        cases hlast.symm.trans (hnone _ le_rfl)
    | none =>
      simp only
      rw [ih]
      constructor
      · intro hnone j hj
        rcases hj.eq_or_lt with rfl | hlt
        · exact hlast
        · exact hnone j (by omega)
      · exact fun hnone j hj => hnone j (by omega)

end

/-- The file of a name that is passed last on the way along all of some names. -/
def passed? (t : FileTree) (name : Text) (names : List Text) : Option (Nat × File) :=
  t.lastPassed? name names names.length

section
variable {t : FileTree} {name : Text} {names : List Text}

theorem collapse_take_collapse (names : List Text) (i : Nat) :
    collapse ((collapse names).take i) = (collapse names).take i :=
  Path.collapse_of_notMem fun hmem => Path.notMem_collapse names (List.mem_of_mem_take hmem)

/-- Where no file is passed, no ancestor holds one. -/
theorem passed?_collapse_of_none (hnone : t.passed? name names = none) :
    t.passed? name (collapse names) = none := by
  rw [passed?, lastPassed?_eq_none_iff] at hnone ⊢
  intro i hi
  obtain ⟨j, -, hj, hplace⟩ := Path.exists_passed (Nat.zero_le _) (Nat.zero_le i) hi
  rw [collapse_take_collapse, ← hplace]
  exact hnone j hj

/-- A file that is passed last is the nearest one if it stands in an ancestor. -/
theorem passed?_collapse_of_prefix {k : Nat} {f : File} (hfile : t.passed? name names = some (k, f))
    (hancestor : collapse (names.take k) <+: collapse names) :
    t.passed? name (collapse names) = some ((collapse (names.take k)).length, f) := by
  rw [passed?, lastPassed?_eq_some_iff] at hfile ⊢
  obtain ⟨hk, hf, hnone⟩ := hfile
  refine ⟨hancestor.length_le, ?_, fun i hlow hhigh => ?_⟩
  · rw [collapse_take_collapse, ← List.prefix_iff_eq_take.mp hancestor]
    exact hf
  · obtain ⟨j, hkj, hj, hplace⟩ := Path.exists_passed hk hlow.le hhigh
    rw [collapse_take_collapse, ← hplace]
    refine hnone j (hkj.lt_of_ne ?_) hj
    rintro rfl
    rw [hplace, List.length_take] at hlow
    omega

end

/-! ## Reaching spelled directories -/

/-- A path leads from directory to directory, and the tree can look each of its names up. -/
structure Reached (t : FileTree) (d : Path) : Prop where
  plain : d.IsPlain
  absolute : d.isAbsolute = true
  named : ∀ n ∈ d.names, '\u0000' ∉ n
  short : ∀ n ∈ d.names, bytesOf n ≤ nameLimit
  directories : ∀ k, t.node? (collapse (d.names.take k)) = some .directory

theorem walk_concat (t : FileTree) (place names : List Text) (name : Text) :
    t.walk place (names ++ [name]) = (t.walk place names).bind fun p => t.walk p [name] := by
  induction names generalizing place with
  | nil => rfl
  | cons first rest ih =>
    rw [List.cons_append, walk, walk]
    split
    · rfl
    · rfl
    · split
      · rfl
      · exact ih _

theorem walk_one {t : FileTree} {place other : List Text} {name : Text}
    (hname : Path.isIdle name = false) :
    t.walk place [name] = .ok other ↔ t.node? place = some .directory ∧ bytesOf name ≤ nameLimit ∧
      other = if name = ['.', '.'] then place.dropLast else place ++ [name] := by
  rw [walk]
  split
  · next hplace => simp [hplace]
  · next hplace => simp [hplace]
  · next hplace =>
    split
    · next hlong => simp [Nat.not_le.mpr hlong]
    · next hshort =>
      simp only [hplace, hname, walk, Bool.false_eq_true, if_false, Nat.le_of_not_lt hshort,
        true_and, Except.ok.injEq]
      exact eq_comm

/-- A walk from the top arrives where its names collapse to, past directories only. -/
theorem walk_eq_ok_iff {t : FileTree} {names place : List Text}
    (hnames : ∀ n ∈ names, Path.isIdle n = false) :
    t.walk [] names = .ok place ↔ place = collapse names ∧ (∀ n ∈ names, bytesOf n ≤ nameLimit) ∧
      ∀ k, k < names.length → t.node? (collapse (names.take k)) = some .directory := by
  induction names using List.reverseRecOn generalizing place with
  | nil =>
    simp only [walk, Except.ok.injEq, List.not_mem_nil, List.length_nil, Nat.not_lt_zero,
      false_implies, implies_true, and_true]
    exact eq_comm
  | append_singleton names name ih =>
    have hname : Path.isIdle name = false := hnames name (by simp)
    have hbind : t.walk [] (names ++ [name]) = .ok place ↔
        ∃ p, t.walk [] names = .ok p ∧ t.walk p [name] = .ok place := by
      rw [walk_concat]
      cases t.walk [] names with
      | error => simp [Except.bind]
      | ok p => simp [Except.bind]
    have hway : (∀ k, k < (names ++ [name]).length →
          t.node? (collapse ((names ++ [name]).take k)) = some .directory) ↔
        (∀ k, k < names.length → t.node? (collapse (names.take k)) = some .directory) ∧
          t.node? (collapse names) = some .directory := by
      rw [List.length_append, List.length_singleton, Nat.forall_lt_succ_right, List.take_left]
      refine and_congr_left fun _ => forall₂_congr fun k hk => ?_
      rw [List.take_append_of_le_length hk.le]
    simp only [hbind, walk_one hname, ih fun n hn => hnames n (List.mem_append_left _ hn),
      Path.collapse_concat, hway, List.forall_mem_append, List.forall_mem_singleton]
    constructor
    · rintro ⟨p, ⟨rfl, hshort, hdirectories⟩, hlast, hlong, rfl⟩
      exact ⟨rfl, ⟨hshort, hlong⟩, hdirectories, hlast⟩
    · rintro ⟨rfl, ⟨hshort, hlong⟩, hdirectories, hlast⟩
      exact ⟨_, ⟨rfl, hshort, hdirectories⟩, hlast, hlong, rfl⟩

theorem reached_of_locate_child {t : FileTree} {d : Path} {name : Text} {place : List Text}
    {node : Node} (hplain : (d.child name).IsPlain) (habs : d.isAbsolute = true)
    (hlocate : t.locate [] (d.child name).toText = .ok (place, node)) :
    Reached t d ∧ place = collapse (d.names ++ [name]) ∧ t.node? place = some node ∧
      '\u0000' ∉ name ∧ bytesOf name ≤ nameLimit := by
  rw [locate, placeOf_child hplain habs] at hlocate
  split at hlocate
  · cases hlocate
  · next hends =>
    split at hlocate
    · cases hlocate
    · cases hwalk : t.walk [] (d.names ++ [name]) with
      | error cause =>
        rw [hwalk] at hlocate
        cases hlocate
      | ok other =>
        obtain ⟨hother, hshort, hway⟩ := (walk_eq_ok_iff fun n hn => (hplain n hn).1).mp hwalk
        rw [Path.names_child] at hshort hway
        simp only [hwalk, bind, Except.bind] at hlocate
        split at hlocate
        · cases hlocate
        · next hnode =>
          cases hlocate
          have hlast := hway d.names.length (by simp)
          rw [List.take_left] at hlast
          have hended : ∀ n ∈ d.names ++ [name], '\u0000' ∉ n := fun n hn hmem => hends ⟨n, hn, hmem⟩
          refine ⟨⟨hplain.of_child, habs, ?_, ?_, fun k => ?_⟩, hother, hnode, ?_, ?_⟩
          · exact fun n hn => hended n (List.mem_append_left _ hn)
          · exact fun n hn => hshort n (List.mem_append_left _ hn)
          · rcases Nat.lt_or_ge k d.names.length with hlt | hge
            · have hk := hway k (by rw [List.length_append]; omega)
              rwa [List.take_append_of_le_length hlt.le] at hk
            · rwa [List.take_of_length_le hge]
          · exact hended name (List.mem_append_right _ (List.mem_singleton_self name))
          · exact hshort name (List.mem_append_right _ (List.mem_singleton_self name))

/-- An absolute path at which a directory stands is reached. -/
theorem reached_of_locate {t : FileTree} {d : Path} {place : List Text} (hplain : d.IsPlain)
    (habs : d.isAbsolute = true) (hlocate : t.locate [] d.toText = .ok (place, .directory)) :
    Reached t d := by
  obtain ⟨root, names⟩ := d
  induction names using List.reverseRecOn with
  | nil =>
    refine ⟨hplain, habs, nofun, nofun, fun k => ?_⟩
    rw [List.take_nil]
    rfl
  | append_singleton names name =>
    obtain ⟨hparent, rfl, hnode, hended, hshort⟩ :=
      reached_of_locate_child (d := ⟨root, names⟩) hplain habs hlocate
    refine ⟨hplain, habs, ?_, ?_, fun k => ?_⟩
    · exact List.forall_mem_append.mpr ⟨hparent.named, List.forall_mem_singleton.mpr hended⟩
    · exact List.forall_mem_append.mpr ⟨hparent.short, List.forall_mem_singleton.mpr hshort⟩
    · rcases Nat.lt_or_ge names.length k with hlt | hge
      · rwa [List.take_of_length_le (by rw [List.length_append]; exact hlt)]
      · rw [List.take_append_of_le_length hge]
        exact hparent.directories k

/-- The path without `..` leads from ancestor to ancestor. -/
theorem Reached.straight {t : FileTree} {d : Path} (hd : Reached t d) :
    Reached t ⟨d.root, collapse d.names⟩ := by
  have hsub := (Path.collapse_sublist d.names).subset
  refine ⟨fun n hn => hd.plain n (hsub hn), hd.absolute, fun n hn => hd.named n (hsub hn),
    fun n hn => hd.short n (hsub hn), fun k => ?_⟩
  obtain ⟨j, -, -, hplace⟩ := Path.exists_passed (Nat.zero_le _) (Nat.zero_le _)
    (Nat.min_le_right k (collapse d.names).length)
  rw [collapse_take_collapse, List.take_eq_take_min, ← hplace]
  exact hd.directories j

/-! ## Room for names -/

/-- A name that can be looked up in a directory. -/
def IsFileName (name : Text) : Prop :=
  Path.isIdle name = false ∧ '/' ∉ name ∧ name ≠ ['.', '.'] ∧ '\u0000' ∉ name ∧
    bytesOf name ≤ nameLimit

instance (name : Text) : Decidable (IsFileName name) :=
  inferInstanceAs (Decidable (_ ∧ _))

/-- The path of a name in a directory is not too long. -/
def HasRoom (d : Path) (name : Text) : Prop :=
  bytesOf (d.child name).toText ≤ pathLimit

theorem bytesOf_append (s s' : Text) : bytesOf (s ++ s') = bytesOf s + bytesOf s' := by
  rw [bytesOf, Utf8.encode, List.flatMap_append, List.length_append]
  rfl

/-- The bytes of names, each with the slash in front of it. -/
def bytesOfNames (names : List Text) : Nat :=
  (names.map fun name => bytesOf name + 1).sum

theorem bytesOf_joined {names : List Text} (hne : names ≠ []) :
    bytesOf (Path.joined names) + 1 = bytesOfNames names := by
  induction names with
  | nil => exact absurd rfl hne
  | cons name rest ih =>
    rw [bytesOfNames, List.map_cons, List.sum_cons, ← bytesOfNames]
    cases rest with
    | nil => rfl
    | cons next rest =>
      have hjoined : Path.joined (name :: next :: rest)
          = name ++ ['/'] ++ Path.joined (next :: rest) := rfl
      have hslash : bytesOf ['/'] = 1 := by decide
      rw [← ih (List.cons_ne_nil _ _), hjoined, bytesOf_append, bytesOf_append, hslash]
      omega

theorem bytesOfNames_le {names others : List Text} (h : names.Sublist others) :
    bytesOfNames names ≤ bytesOfNames others := by
  simp only [bytesOfNames]
  induction h with
  | slnil => exact le_rfl
  | cons name _ ih =>
    rw [List.map_cons, List.sum_cons]
    omega
  | cons_cons name _ ih =>
    rw [List.map_cons, List.sum_cons, List.map_cons, List.sum_cons]
    omega

/-- There is room for a name in a directory with fewer names. -/
theorem HasRoom.of_sublist {d : Path} {name : Text} (h : HasRoom d name)
    (habs : d.isAbsolute = true) {names : List Text} (hsub : names.Sublist d.names) :
    HasRoom ⟨d.root, names⟩ name := by
  have hbytes : ∀ others : List Text, bytesOf (Path.child ⟨d.root, others⟩ name).toText + 1
      = bytesOf d.root.toText + bytesOfNames (others ++ [name]) := by
    intro others
    rw [Path.toText_eq (p := Path.child ⟨d.root, others⟩ name) habs, bytesOf_append,
      Nat.add_assoc, bytesOf_joined (by simp [Path.child])]
    rfl
  have hle := bytesOfNames_le (hsub.append_right [name])
  have hroom : bytesOf (Path.child ⟨d.root, d.names⟩ name).toText ≤ pathLimit := h
  have := hbytes names
  have := hbytes d.names
  rw [HasRoom]
  omega

/-! ## Searching upward from a spelled directory -/

/-- The directory that the first `k` names of a path lead to. -/
def front (d : Path) (k : Nat) : Path :=
  ⟨d.root, d.names.take k⟩

section
variable {t : FileTree} {d : Path} {name : Text} (hd : Reached t d) (hname : IsFileName name)
  (hroom : HasRoom d name)
include hd hname hroom

/-- What the tree says of a name in a directory that is passed. -/
theorem locate_front (k : Nat) :
    t.locate [] ((front d k).child name).toText =
      match t.node? (collapse (d.names.take k) ++ [name]) with
      | none => .error .missing
      | some node => .ok (collapse (d.names.take k) ++ [name], node) := by
  obtain ⟨hidle, hslash, hdots, hended, hshort⟩ := hname
  have hplain : ((front d k).child name).IsPlain :=
    Path.IsPlain.child (fun n hn => hd.plain n (List.mem_of_mem_take hn)) hidle hslash
  have hends : ¬ ∃ n ∈ (front d k).names ++ [name], '\u0000' ∈ n := by
    rintro ⟨n, hn, hmem⟩
    rcases List.mem_append.mp hn with hn | hn
    · exact hd.named n (List.mem_of_mem_take hn) hmem
    · cases List.mem_singleton.mp hn
      exact hended hmem
  have hlong : ¬ pathLimit < bytesOf ((front d k).child name).toText :=
    Nat.not_lt.mpr (hroom.of_sublist hd.absolute (List.take_sublist k d.names))
  have hwalk : t.walk [] ((front d k).names ++ [name])
      = .ok (collapse (d.names.take k) ++ [name]) := by
    refine (walk_eq_ok_iff fun n hn => (hplain n hn).1).mpr ?_
    rw [Path.names_child, Path.collapse_concat, if_neg hdots, front]
    refine ⟨rfl, ?_, fun j hj => ?_⟩
    · refine List.forall_mem_append.mpr ⟨fun n hn => ?_, List.forall_mem_singleton.mpr hshort⟩
      exact hd.short n (List.mem_of_mem_take hn)
    · rw [List.length_append, List.length_singleton] at hj
      rw [List.take_append_of_le_length (by omega), List.take_take]
      exact hd.directories _
  rw [locate, placeOf_child hplain hd.absolute, if_neg hends, if_neg hlong, hwalk]
  rfl

theorem isFile_front (k : Nat) :
    t.isFile [] ((front d k).child name).toText
      = .ok (t.fileAt? (collapse (d.names.take k)) name).isSome := by
  rw [isFile, locate_front hd hname hroom, fileAt?]
  rcases t.node? (collapse (d.names.take k) ++ [name]) with _ | _ | f
  · rfl
  · rfl
  · rfl

theorem read_front {k : Nat} {f : File} (hf : t.fileAt? (collapse (d.names.take k)) name = some f) :
    t.read [] ((front d k).child name).toText = if f.mode.readable then .ok f.content
      else .error ⟨.denied, ((front d k).child name).toText⟩ := by
  rw [fileAt?] at hf
  rw [read, locate_front hd hname hroom]
  rcases hnode : t.node? (collapse (d.names.take k) ++ [name]) with _ | _ | g
  · rw [hnode] at hf
    cases hf
  · rw [hnode] at hf
    cases hf
  · rw [hnode] at hf
    cases hf
    rfl

/-- A search upward from a spelled directory finds the file that is passed last. -/
theorem nearestFile?_of_reached :
    t.nearestFile? [] d ⟨.here, [name]⟩
      = .ok ((t.passed? name d.names).map fun found => (front d found.1).child name) := by
  have hsearch : ∀ n, t.firstFile? [] ((List.range (n + 1)).map fun i => (front d (n - i)).child name)
      = .ok ((t.lastPassed? name d.names n).map fun found => (front d found.1).child name) := by
    intro n
    induction n with
    | zero =>
      have hfile : t.isFile [] ((front d 0).child name).toText = .ok (t.fileAt? [] name).isSome :=
        isFile_front hd hname hroom 0
      rw [List.range_one, List.map_singleton, firstFile?, hfile, lastPassed?]
      cases t.fileAt? [] name with
      | none => rfl
      | some => rfl
    | succ n ih =>
      have hfile := isFile_front hd hname hroom (n + 1)
      rw [List.range_succ_eq_map, List.map_cons, firstFile?, Nat.sub_zero, hfile, lastPassed?]
      cases t.fileAt? (collapse (d.names.take (n + 1))) name with
      | none =>
        have hrest : (fun i => (front d (n + 1 - i)).child name) ∘ Nat.succ
            = fun i => (front d (n - i)).child name :=
          funext fun i => congrArg (fun k => (front d k).child name) (Nat.add_sub_add_right n 1 i)
        rw [List.map_map, hrest]
        exact ih
      | some => rfl
  have hpaths : d.selfAndParents.map (·.join ⟨.here, [name]⟩)
      = (List.range (d.names.length + 1)).map fun i => (front d (d.names.length - i)).child name := by
    rw [Path.selfAndParents, List.map_map]
    rfl
  rw [nearestFile?, hpaths, hsearch, passed?]

end

end FileTree

end Marginalia
