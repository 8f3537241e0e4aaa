import Marginalia.FileTree
import Marginalia.Proofs.Text.Pieces

/-!
# Reaching places

A path as it is read from a text has no empty name, no `.` and no slash inside a name, so writing it
and cutting the text at its slashes gives the names back.  If it is absolute and has no `..`, a walk
along it goes straight down: it passes the places of its ancestors, and it arrives just when they
are directories.  `isFile_child` says what it takes for a file to stand in a directory, in terms of
what stands at places.
-/

namespace Marginalia

/-! ## Plain paths -/

namespace Path

/-- A path whose names are such as a text is cut into. -/
def IsPlain (p : Path) : Prop :=
  ∀ name ∈ p.names, isIdle name = false ∧ '/' ∉ name

theorem isPlain_ofText (s : Text) : (ofText s).IsPlain := by
  intro name h
  obtain ⟨hmem, hidle⟩ := List.mem_filter.mp h
  exact ⟨by simpa using hidle, Text.not_mem_of_mem_splitOn hmem⟩

theorem IsPlain.absolute {p cwd : Path} (hp : p.IsPlain) (hcwd : cwd.IsPlain) :
    (p.absolute cwd).IsPlain := by
  intro name h
  unfold Path.absolute join at h
  split at h
  · exact hp name h
  · exact (List.mem_append.mp h).elim (hcwd name) (hp name)

theorem IsPlain.child {p : Path} {name : Text} (hp : p.IsPlain) (hidle : isIdle name = false)
    (hslash : '/' ∉ name) : (p.child name).IsPlain := by
  intro n h
  rcases List.mem_append.mp h with h | h
  · exact hp n h
  · cases List.mem_singleton.mp h
    exact ⟨hidle, hslash⟩

theorem IsPlain.parent {p : Path} (hp : p.IsPlain) : p.parent.IsPlain :=
  fun name h => hp name (List.dropLast_subset _ h)

theorem isAbsolute_absolute {p cwd : Path} (hcwd : cwd.isAbsolute = true) :
    (p.absolute cwd).isAbsolute = true := by
  unfold Path.absolute join
  split <;> assumption

/-- The path `i` levels up. -/
def ancestor (p : Path) (i : Nat) : Path :=
  ⟨p.root, p.names.take (p.names.length - i)⟩

theorem selfAndParents_eq (p : Path) :
    p.selfAndParents = (List.range (p.names.length + 1)).map p.ancestor := rfl

theorem IsPlain.ancestor {p : Path} (hp : p.IsPlain) (i : Nat) : (p.ancestor i).IsPlain :=
  fun name h => hp name (List.mem_of_mem_take h)

theorem below?_ancestor (p : Path) (i : Nat) :
    (p.ancestor i).below? p = some (p.names.drop (p.names.length - i)) :=
  below?_eq_some_iff.mpr (by simp [Path.ancestor])

theorem toText_eq {p : Path} (h : p.isAbsolute = true) :
    p.toText = p.root.toText ++ joined p.names := by
  obtain ⟨root, names⟩ := p
  cases root <;> simp_all [toText, isAbsolute]

theorem head?_toText {p : Path} (h : p.isAbsolute = true) : p.toText.head? = some '/' := by
  obtain ⟨root, names⟩ := p
  cases root <;> simp_all [toText, isAbsolute, Root.toText]

/-- A character that does not belong to the notation of paths stands in a path if it stands in one
of its names. -/
theorem mem_toText {p : Path} {c : Char} (hslash : c ≠ '/') (hdot : c ≠ '.') :
    c ∈ p.toText ↔ ∃ name ∈ p.names, c ∈ name := by
  obtain ⟨root, names⟩ := p
  have hroot : c ∉ root.toText := by cases root <;> simp [Root.toText, hslash]
  rw [toText]
  split
  · next h =>
    rw [Bool.and_eq_true, List.isEmpty_iff] at h
    have hnames : names = [] := h.2
    simp [hnames, hdot]
  · rw [List.mem_append, joined, Text.mem_join hslash]
    simp [hroot]

/-- Cutting the text of a path gives its names back, after what the slashes of the top leave. -/
theorem splitOn_toText {p : Path} (hp : p.IsPlain) (h : p.isAbsolute = true) (hne : p.names ≠ []) :
    ∃ idle : List Text, (∀ name ∈ idle, isIdle name = true) ∧
      p.toText.splitOn '/' = idle ++ p.names := by
  have hnames : (joined p.names).splitOn '/' = p.names := by
    rw [joined, Text.join_eq_intercalate]
    exact List.splitOn_intercalate '/' (fun name hmem => (hp name hmem).2) hne
  have hslash : ∀ s : Text, ('/' :: s).splitOn '/' = [] :: s.splitOn '/' := fun s =>
    List.splitOn_append_cons_self_of_not_mem (List.not_mem_nil (a := '/')) s
  rw [toText_eq h]
  cases hroot : p.root with
  | here => simp [isAbsolute, hroot] at h
  | top => exact ⟨[[]], by simp [isIdle], by simp [Root.toText, hslash, hnames]⟩
  | doubleTop => exact ⟨[[], []], by simp [isIdle], by simp [Root.toText, hslash, hnames]⟩

end Path

/-! ## Walks -/

namespace FileTree

@[simp] theorem node?_nil (t : FileTree) : t.node? [] = some .directory := rfl

theorem walk_idle {t : FileTree} {place : List Text} (hplace : t.node? place = some .directory)
    {idle : List Text} (h : ∀ name ∈ idle, Path.isIdle name = true) (rest : List Text) :
    t.walk place (idle ++ rest) = t.walk place rest := by
  induction idle with
  | nil => rfl
  | cons name idle ih =>
    have hname : Path.isIdle name = true := h name (by simp)
    have hshort : ¬ nameLimit < bytesOf name := by
      simp only [Path.isIdle, Bool.or_eq_true, beq_iff_eq] at hname
      rcases hname with rfl | rfl <;> decide
    rw [List.cons_append, walk, hplace]
    simp only [hshort, hname, if_true, if_false]
    exact ih fun n hn => h n (by simp [hn])

/-- A walk down passes directories only. -/
theorem eq_of_walk {t : FileTree} {names : List Text}
    (hnames : ∀ name ∈ names, Path.isIdle name = false) (hdots : ['.', '.'] ∉ names)
    {place other : List Text} (h : t.walk place names = .ok other) :
    other = place ++ names ∧
      ∀ k, k < names.length → t.node? (place ++ names.take k) = some .directory := by
  induction names generalizing place with
  | nil =>
    cases h
    exact ⟨by simp, by simp⟩
  | cons name rest ih =>
    have hidle : Path.isIdle name = false := hnames name (by simp)
    have hdot : name ≠ ['.', '.'] := fun heq => hdots (by simp [heq])
    rw [walk] at h
    split at h
    · cases h
    · cases h
    · next hplace =>
      split at h
      · cases h
      · simp only [hidle, Bool.false_eq_true, if_false] at h
        obtain ⟨rfl, hway⟩ := ih (fun n hn => hnames n (by simp [hn]))
          (fun hmem => hdots (by simp [hmem])) h
        refine ⟨by simp, ?_⟩
        intro k hk
        cases k with
        | zero => simpa using hplace
        | succ k => simpa using hway k (Nat.lt_of_succ_lt_succ hk)

/-- A walk down past directories arrives, if only its names are short enough. -/
theorem walk_of_directories {t : FileTree} {names : List Text}
    (hnames : ∀ name ∈ names, Path.isIdle name = false) (hdots : ['.', '.'] ∉ names)
    {place : List Text}
    (hway : ∀ k, k < names.length → t.node? (place ++ names.take k) = some .directory) :
    t.walk place names = .ok (place ++ names) ∨ t.walk place names = .error .nameTooLong := by
  induction names generalizing place with
  | nil => exact .inl (by simp [walk])
  | cons name rest ih =>
    have hidle : Path.isIdle name = false := hnames name (by simp)
    have hdot : name ≠ ['.', '.'] := fun heq => hdots (by simp [heq])
    have hplace : t.node? place = some .directory := by simpa using hway 0 (by simp)
    rw [walk, hplace]
    by_cases hlong : nameLimit < bytesOf name
    · simp [hlong]
    · simp only [hlong, hidle, hdot, Bool.false_eq_true, if_false]
      have hrest : t.walk (place ++ [name]) rest = .ok (place ++ [name] ++ rest) ∨
          t.walk (place ++ [name]) rest = .error .nameTooLong :=
        ih (fun n hn => hnames n (by simp [hn])) (fun hmem => hdots (by simp [hmem]))
          (fun k hk => by simpa using hway (k + 1) (by simpa using hk))
      simpa using hrest

/-! ## Finding places -/

theorem locate_eq_ok_iff {t : FileTree} {cwd : List Text} {path : Text} {place : List Text}
    {node : Node} :
    t.locate cwd path = .ok (place, node) ↔
      t.placeOf cwd path = .ok place ∧ t.node? place = some node := by
  rw [locate]
  cases t.placeOf cwd path with
  | error cause => exact ⟨nofun, nofun⟩
  | ok other =>
    simp only [bind, Except.bind, Except.ok.injEq]
    cases hnode : t.node? other with
    | none =>
      refine ⟨nofun, ?_⟩
      rintro ⟨rfl, h⟩
      cases hnode.symm.trans h
    | some found =>
      simp only [Except.ok.injEq, Prod.mk.injEq]
      constructor
      · rintro ⟨rfl, rfl⟩
        exact ⟨rfl, hnode⟩
      · rintro ⟨rfl, h⟩
        cases hnode.symm.trans h
        exact ⟨rfl, rfl⟩

/-- Where a path from the top leads does not depend on where the reader is. -/
theorem locate_of_slash {t : FileTree} {cwd other : List Text} {path : Text}
    (h : path.head? = some '/') : t.locate cwd path = t.locate other path := by
  rw [locate, locate, placeOf, placeOf, if_pos h, if_pos h]

/-! ## The character that ends every path -/

theorem walk_ne_endsInside (t : FileTree) (place names : List Text) :
    t.walk place names ≠ .error .endsInside := by
  fun_induction walk t place names with
  | case1 => intro h; cases h
  | case2 => intro h; cases h
  | case3 => intro h; cases h
  | case4 => intro h; cases h
  | case5 _ _ _ _ _ ih => exact ih

theorem placeOf_ne_endsInside {t : FileTree} {cwd : List Text} {path : Text}
    (hpath : '\u0000' ∉ path) : t.placeOf cwd path ≠ .error .endsInside := by
  have hcontains : ¬ path.contains '\u0000' = true := by simpa using hpath
  rw [placeOf, if_neg hcontains]
  split
  · intro h; cases h
  · split
    · intro h; cases h
    · exact t.walk_ne_endsInside _ _

theorem locate_ne_endsInside {t : FileTree} {cwd : List Text} {path : Text}
    (hpath : '\u0000' ∉ path) : t.locate cwd path ≠ .error .endsInside := by
  have hplace : t.placeOf cwd path ≠ .error .endsInside := placeOf_ne_endsInside hpath
  rw [locate]
  cases hat : t.placeOf cwd path with
  | error cause =>
    intro h
    cases h
    exact hplace hat
  | ok place =>
    cases hnode : t.node? place with
    | none => intro h; simp [bind, Except.bind, hnode] at h
    | some node => intro h; simp [bind, Except.bind, hnode] at h

theorem notMem_of_locate {t : FileTree} {cwd : List Text} {path : Text}
    {found : List Text × Node} (h : t.locate cwd path = .ok found) : '\u0000' ∉ path := by
  intro hmem
  have hcontains : path.contains '\u0000' = true := by simpa using hmem
  rw [locate, placeOf, if_pos hcontains] at h
  cases h

theorem locate_eq_endsInside_iff {t : FileTree} {cwd : List Text} {path : Text} :
    t.locate cwd path = .error .endsInside ↔ '\u0000' ∈ path := by
  constructor
  · exact fun h => Classical.byContradiction fun hpath => locate_ne_endsInside hpath h
  · intro hpath
    have hcontains : path.contains '\u0000' = true := by simpa using hpath
    rw [locate, placeOf, if_pos hcontains]
    rfl

theorem read_eq_endsInside_iff {t : FileTree} {cwd : List Text} {path path' : Text} :
    t.read cwd path = .error ⟨.endsInside, path'⟩ ↔ '\u0000' ∈ path ∧ path' = path := by
  rw [← @locate_eq_endsInside_iff t cwd path, read]
  split
  · next hlocate =>
    rw [hlocate]
    split
    · simp
    · simp
  · next hlocate => simp [hlocate]
  · next hlocate => simp [hlocate, eq_comm]

/-- A path that holds the character that ends every path is not looked for. -/
theorem readText_eq_endsInside_iff {t : FileTree} {cwd : List Text} {path path' : Text} :
    t.readText cwd path = .error (.tree ⟨.endsInside, path'⟩) ↔ '\u0000' ∈ path ∧ path' = path := by
  rw [← @read_eq_endsInside_iff t cwd path path', readText]
  split
  · next hread => simp [hread]
  · next hread =>
    rw [hread]
    split
    · simp
    · simp

/-! ## Files in directories -/

/-- A file stands in a directory under a name, and directories lead to it.  No name holds the
character that ends every path. -/
structure Holds (t : FileTree) (directory : Path) (name : Text) (f : File) : Prop where
  named : ∀ n ∈ directory.names ++ [name], '\u0000' ∉ n
  reached : ∀ k, t.node? (directory.names.take k) = some .directory
  stands : t.node? (directory.names ++ [name]) = some (.file f)

theorem Holds.unique {t : FileTree} {directory : Path} {name : Text} {f g : File}
    (hf : t.Holds directory name f) (hg : t.Holds directory name g) : f = g := by
  have h := hf.stands.symm.trans hg.stands
  cases h
  rfl

section Child

variable {t : FileTree} {directory : Path} {name : Text}
  (hplain : (directory.child name).IsPlain) (habs : directory.isAbsolute = true)
  (hdots : ['.', '.'] ∉ (directory.child name).names)

include hplain habs

theorem placeOf_child :
    t.placeOf [] (directory.child name).toText =
      if ∃ n ∈ directory.names ++ [name], '\u0000' ∈ n then .error .endsInside
      else if pathLimit < bytesOf (directory.child name).toText then .error .nameTooLong
      else t.walk [] (directory.names ++ [name]) := by
  have habs : (directory.child name).isAbsolute = true := habs
  obtain ⟨idle, hidle, hcut⟩ := Path.splitOn_toText hplain habs (by simp [Path.child])
  have hhead := Path.head?_toText habs
  have hne : (directory.child name).toText ≠ [] := by
    intro heq
    simp [heq] at hhead
  have hends : (directory.child name).toText.contains '\u0000' = true
      ↔ ∃ n ∈ directory.names ++ [name], '\u0000' ∈ n := by
    rw [List.contains_iff_mem]
    exact Path.mem_toText (by decide) (by decide)
  simp only [placeOf, hends, hne, hhead, hcut, if_true, if_false, walk_idle t.node?_nil hidle]
  rfl

include hdots

theorem locate_of_holds {f : File} (h : t.Holds directory name f) :
    t.locate [] (directory.child name).toText = .ok (directory.names ++ [name], .file f) ∨
      t.locate [] (directory.child name).toText = .error .nameTooLong := by
  have hends : ¬ ∃ n ∈ directory.names ++ [name], '\u0000' ∈ n := by
    rintro ⟨n, hn, hmem⟩
    exact h.named n hn hmem
  have hway : ∀ k, k < (directory.names ++ [name]).length →
      t.node? ([] ++ (directory.names ++ [name]).take k) = some .directory := by
    intro k hk
    have hk : k ≤ directory.names.length := by simpa [Nat.lt_succ_iff] using hk
    simpa [List.take_append_of_le_length hk] using h.reached k
  have hwalk : t.walk [] (directory.names ++ [name]) = .ok (directory.names ++ [name]) ∨
      t.walk [] (directory.names ++ [name]) = .error .nameTooLong :=
    walk_of_directories (fun n hn => (hplain n hn).1) hdots hway
  rw [locate, placeOf_child hplain habs, if_neg hends]
  by_cases hlong : pathLimit < bytesOf (directory.child name).toText
  · right
    rw [if_pos hlong]
    rfl
  · rw [if_neg hlong]
    rcases hwalk with hwalk | hwalk
    · left
      rw [hwalk]
      simp [bind, Except.bind, h.stands]
    · right
      rw [hwalk]
      rfl

theorem holds_of_locate {place : List Text} {f : File}
    (h : t.locate [] (directory.child name).toText = .ok (place, .file f)) :
    t.Holds directory name f := by
  simp only [locate, placeOf_child hplain habs] at h
  split at h
  · cases h
  · next hends =>
    split at h
    · cases h
    · cases hwalk : t.walk [] (directory.names ++ [name]) with
      | error cause =>
        rw [hwalk] at h
        cases h
      | ok other =>
        obtain ⟨hother, hway⟩ := eq_of_walk (fun n hn => (hplain n hn).1) hdots hwalk
        subst hother
        simp only [hwalk, bind, Except.bind, List.nil_append] at h
        split at h
        · cases h
        · next hstands =>
          cases h
          refine ⟨fun n hn hmem => hends ⟨n, hn, hmem⟩, ?_, hstands⟩
          intro k
          have hlt : min k directory.names.length < (directory.names ++ [name]).length := by
            rw [List.length_append, List.length_singleton]
            omega
          have hk := hway (min k directory.names.length) hlt
          rw [List.nil_append, Path.names_child, List.take_append_of_le_length (by omega)] at hk
          simpa [List.take_eq_take_min] using hk

/-- Where the tree says whether a file stands there, it says what stands there. -/
theorem isFile_child {b : Bool} (h : t.isFile [] (directory.child name).toText = .ok b) :
    b = true ↔ ∃ f, t.Holds directory name f := by
  constructor
  · rintro rfl
    simp only [isFile] at h
    split at h
    · next place f hlocate => exact ⟨f, holds_of_locate hplain habs hdots hlocate⟩
    · cases h
    · cases h
  · rintro ⟨f, hf⟩
    rcases locate_of_holds hplain habs hdots hf with hlocate | hlocate
    · simpa [isFile, hlocate] using h.symm
    · simp [isFile, hlocate] at h

theorem read_child {f : File} (hfile : t.isFile [] (directory.child name).toText = .ok true)
    (h : t.Holds directory name f) :
    t.read [] (directory.child name).toText =
      if f.mode.readable then .ok f.content
      else .error ⟨.denied, (directory.child name).toText⟩ := by
  rcases locate_of_holds hplain habs hdots h with hlocate | hlocate
  · simp [read, hlocate]
  · simp [isFile, hlocate] at hfile

end Child

/-! ## Searching upward -/

theorem firstFile?_of_first {t : FileTree} {cwd : List Text} {paths : List Path} {i : Nat}
    {path : Path} (hi : paths[i]? = some path) (hpath : t.isFile cwd path.toText = .ok true)
    (hbefore : ∀ j other, j < i → paths[j]? = some other → t.isFile cwd other.toText = .ok false) :
    t.firstFile? cwd paths = .ok (some path) := by
  induction paths generalizing i with
  | nil => simp at hi
  | cons other rest ih =>
    cases i with
    | zero =>
      cases hi
      simp [firstFile?, hpath, bind, Except.bind]
    | succ i =>
      have hother : t.isFile cwd other.toText = .ok false := hbefore 0 other (by simp) rfl
      simp only [firstFile?, hother, bind, Except.bind, Bool.false_eq_true, if_false]
      exact ih hi fun j x hj hx => hbefore (j + 1) x (by omega) hx

theorem firstFile?_eq_none {t : FileTree} {cwd : List Text} {paths : List Path}
    (h : ∀ path ∈ paths, t.isFile cwd path.toText = .ok false) :
    t.firstFile? cwd paths = .ok none := by
  induction paths with
  | nil => rfl
  | cons path rest ih =>
    have hpath : t.isFile cwd path.toText = .ok false := h path (by simp)
    simp only [firstFile?, hpath, bind, Except.bind, Bool.false_eq_true, if_false]
    exact ih fun p hp => h p (by simp [hp])

end FileTree

end Marginalia
