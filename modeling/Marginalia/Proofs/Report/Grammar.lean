import Marginalia.Proofs.Text.Fields
import Marginalia.Proofs.Text.Lines
import Marginalia.Report

/-!
# The grammar of diagnostic lines

A line may be cut into the parts of a diagnostic in several ways, since file names and messages may
quote places of their own.  `Parts.Cuts` says what a cut is, and `Parts.Shortest` that no other cut
of the line has a shorter file name.

`parts?_eq_some_iff` is the main statement: the scan finds exactly the shortest cut.  The scan goes
along the line once with what it has read behind it, so the induction is over what is left of the
line.  A cut is determined by its file name, since the rest of the line reads in one way only
(`position?_eq_some_iff`).
-/

namespace Marginalia.Diagnostic

/-! ## Cuts of a line -/

/-- A text is a number: digits, and at least one. -/
structure IsNumber (s : Text) : Prop where
  /-- There is a digit. -/
  nonempty : s ≠ []
  /-- There are only digits. -/
  digits : ∀ c ∈ s, Text.isDigit c = true

/-- A text ends as the name of a source file does, and not only does that. -/
def IsFile (s : Text) : Prop :=
  ∃ stem, stem ≠ [] ∧ s = stem ++ sourceSuffix

/-- The parts are a way to cut a line. -/
structure Parts.Cuts (p : Parts) (line : Text) : Prop where
  /-- The line is made of the parts. -/
  line_eq : line = p.toText
  /-- The file name is one. -/
  file : IsFile p.file
  /-- The line number is one. -/
  line : IsNumber p.line
  /-- The column number is one. -/
  column : IsNumber p.column
  /-- The file name does not go over the end of the line. -/
  file_noBreak : '\n' ∉ p.file
  /-- The message does not go over the end of the line. -/
  message_noBreak : '\n' ∉ p.message

/-- The parts are the cut of a line with the shortest file name. -/
def Parts.Shortest (p : Parts) (line : Text) : Prop :=
  p.Cuts line ∧ ∀ q : Parts, q.Cuts line → p.file.length ≤ q.file.length

/-! ## Behind the file name -/

theorem takeWhile_digits {s : Text} (hs : ∀ c ∈ s, Text.isDigit c = true) (rest : Text) :
    (s ++ ':' :: rest).takeWhile Text.isDigit = s ∧
      (s ++ ':' :: rest).dropWhile Text.isDigit = ':' :: rest := by
  have hcolon : ∀ c, (':' :: rest).head? = some c → Text.isDigit c = false := by
    intro c hc
    cases hc
    decide
  exact ⟨Text.takeWhile_append hs hcolon, Text.dropWhile_append hs hcolon⟩

theorem isNumber_takeWhile {s : Text} (h : (s.takeWhile Text.isDigit).isEmpty = false) :
    IsNumber (s.takeWhile Text.isDigit) where
  nonempty := by
    intro hnil
    rw [hnil] at h
    cases h
  digits c hc := by
    have hall := List.all_takeWhile (p := Text.isDigit) (l := s)
    exact List.all_eq_true.mp hall c hc

theorem positionText_append (line column message : Text) :
    positionText line column ++ message
      = ':' :: (line ++ ':' :: (column ++ ':' :: ' ' :: message)) := by
  simp [positionText]

theorem position?_eq_some_iff {s line column message : Text} :
    position? s = some (line, column, message) ↔
      s = positionText line column ++ message ∧ IsNumber line ∧ IsNumber column := by
  constructor
  · intro h
    unfold position? at h
    split at h
    · next s₁ =>
      split at h
      · next s₂ hline =>
        split at h
        · next s₃ hcolumn =>
          simp only at h
          split at h
          · cases h
          · next hne =>
            rw [Bool.or_eq_true, not_or, Bool.not_eq_true, Bool.not_eq_true] at hne
            cases h
            refine ⟨?_, isNumber_takeWhile hne.1, isNumber_takeWhile hne.2⟩
            have first := List.takeWhile_append_dropWhile (p := Text.isDigit) (l := s₁)
            have second := List.takeWhile_append_dropWhile (p := Text.isDigit) (l := s₂)
            rw [hline] at first
            rw [hcolumn] at second
            rw [positionText_append, second, first]
        · cases h
      · cases h
    · cases h
  · rintro ⟨rfl, hline, hcolumn⟩
    obtain ⟨htake₁, hdrop₁⟩ := takeWhile_digits hline.digits (column ++ ':' :: ' ' :: message)
    obtain ⟨htake₂, hdrop₂⟩ := takeWhile_digits hcolumn.digits (' ' :: message)
    rw [positionText_append]
    simp only [position?, htake₁, hdrop₁, htake₂, hdrop₂, List.isEmpty_eq_false_iff.mpr
      hline.nonempty, List.isEmpty_eq_false_iff.mpr hcolumn.nonempty]
    simp

/-! ## The end of the file name -/

theorem endsFile_reverse {s : Text} : endsFile s.reverse = true ↔ IsFile s := by
  unfold endsFile IsFile
  rw [Bool.and_eq_true, decide_eq_true_eq, List.isPrefixOf_iff_prefix, List.reverse_prefix]
  constructor
  · rintro ⟨⟨stem, rfl⟩, hlt⟩
    refine ⟨stem, ?_, rfl⟩
    rintro rfl
    simp at hlt
  · rintro ⟨stem, hne, rfl⟩
    refine ⟨⟨stem, rfl⟩, ?_⟩
    have : 0 < stem.length := List.length_pos_iff.mpr hne
    simp only [List.length_reverse, List.length_append]
    omega

/-- A file name at the start of a line and what stands behind it, if that is a place. -/
def IsSplit (file rest : Text) : Prop :=
  IsFile file ∧ (position? rest).isSome

/-! ## The scan -/

theorem isSplit_iff {seen rest : Text} :
    IsSplit seen.reverse rest ↔
      (if endsFile seen then position? rest else none).isSome = true := by
  have hfile : endsFile seen = true ↔ IsFile seen.reverse := by
    rw [← endsFile_reverse, List.reverse_reverse]
  unfold IsSplit
  rw [← hfile]
  by_cases h : endsFile seen = true
  · simp [h]
  · simp [h]

theorem partsFrom?_eq_none {seen rest : Text} (h : partsFrom? seen rest = none) {mid tail : Text}
    (hrest : rest = mid ++ tail) : ¬ IsSplit (seen.reverse ++ mid) tail := by
  induction rest generalizing seen mid tail with
  | nil =>
    obtain ⟨rfl, rfl⟩ := List.append_eq_nil_iff.mp hrest.symm
    rintro ⟨-, hsome⟩
    cases hsome
  | cons c rest ih =>
    unfold partsFrom? at h
    split at h
    · cases h
    · next hnone =>
      cases mid with
      | nil =>
        cases hrest
        rw [List.append_nil, isSplit_iff, hnone]
        simp
      | cons c' mid =>
        cases hrest
        have hnot := ih h rfl
        simpa using hnot

theorem partsFrom?_eq_some {seen rest : Text} {p : Parts} (h : partsFrom? seen rest = some p) :
    ∃ mid tail, rest = mid ++ tail ∧ p.file = seen.reverse ++ mid ∧ IsFile p.file ∧
      position? tail = some (p.line, p.column, p.message) ∧
      ∀ mid' tail', rest = mid' ++ tail' → IsSplit (seen.reverse ++ mid') tail' →
        mid.length ≤ mid'.length := by
  induction rest generalizing seen with
  | nil => cases h
  | cons c rest ih =>
    unfold partsFrom? at h
    split at h
    · next line column message hsome =>
      cases h
      have hsplit : IsSplit seen.reverse (c :: rest) := by
        rw [isSplit_iff, hsome]
        rfl
      have hends : endsFile seen = true := by
        rw [← List.reverse_reverse seen, endsFile_reverse]
        exact hsplit.1
      rw [if_pos hends] at hsome
      exact ⟨[], c :: rest, rfl, by simp, hsplit.1, hsome, fun _ _ _ _ => Nat.zero_le _⟩
    · next hnone =>
      obtain ⟨mid, tail, rfl, hfile, hisFile, hposition, hleast⟩ := ih h
      refine ⟨c :: mid, tail, rfl, by simpa using hfile, hisFile, hposition, ?_⟩
      intro mid' tail' hrest hsplit
      cases mid' with
      | nil =>
        cases hrest
        rw [List.append_nil, isSplit_iff, hnone] at hsplit
        cases hsplit
      | cons c' mid' =>
        rw [List.cons_append, List.cons.injEq] at hrest
        obtain ⟨rfl, hrest⟩ := hrest
        have hle := hleast mid' tail' hrest (by simpa using hsplit)
        simpa using hle

/-! ## The shortest cut -/

theorem isNumber_noBreak {s : Text} (h : IsNumber s) : '\n' ∉ s := by
  intro hmem
  have hdigit := h.digits _ hmem
  revert hdigit
  decide

/-- A cut is a line that does not go on, with a file name and a place behind it. -/
theorem cuts_iff {p : Parts} {line : Text} :
    p.Cuts line ↔ '\n' ∉ line ∧ IsFile p.file ∧ ∃ tail, line = p.file ++ tail ∧
      position? tail = some (p.line, p.column, p.message) := by
  constructor
  · rintro ⟨rfl, hfile, hline, hcolumn, hbreak, hbreak'⟩
    refine ⟨?_, hfile, positionText p.line p.column ++ p.message, ?_, ?_⟩
    · have h₁ := isNumber_noBreak hline
      have h₂ := isNumber_noBreak hcolumn
      simp [Parts.toText, positionText, hbreak, hbreak', h₁, h₂]
    · simp [Parts.toText]
    · exact position?_eq_some_iff.mpr ⟨rfl, hline, hcolumn⟩
  · rintro ⟨hbreak, hfile, tail, rfl, hposition⟩
    obtain ⟨rfl, hline, hcolumn⟩ := position?_eq_some_iff.mp hposition
    refine ⟨by simp [Parts.toText], hfile, hline, hcolumn, ?_, ?_⟩
    · intro hmem
      exact hbreak (List.mem_append_left _ hmem)
    · intro hmem
      exact hbreak (List.mem_append_right _ (List.mem_append_right _ hmem))

/-- A cut is determined by the length of its file name. -/
theorem Parts.Cuts.unique {p q : Parts} {line : Text} (hp : p.Cuts line) (hq : q.Cuts line)
    (h : p.file.length = q.file.length) : p = q := by
  obtain ⟨-, -, tail, hline, hposition⟩ := cuts_iff.mp hp
  obtain ⟨-, -, tail', hline', hposition'⟩ := cuts_iff.mp hq
  obtain ⟨hfile, htail⟩ := List.append_inj (hline.symm.trans hline') h
  rw [← htail, hposition] at hposition'
  cases p
  cases q
  cases hposition'
  cases hfile
  rfl

theorem parts?_eq_none_iff {line : Text} : parts? line = none ↔ ∀ p : Parts, ¬ p.Cuts line := by
  unfold parts?
  constructor
  · intro h p hp
    obtain ⟨hbreak, hfile, tail, rfl, hposition⟩ := cuts_iff.mp hp
    rw [if_neg (by simpa using hbreak)] at h
    exact partsFrom?_eq_none h rfl ⟨hfile, by rw [hposition]; rfl⟩
  · intro h
    split
    · rfl
    · next hbreak =>
      cases hparts : partsFrom? [] line with
      | none => rfl
      | some p =>
        obtain ⟨mid, tail, rfl, hfile, hisFile, hposition, -⟩ := partsFrom?_eq_some hparts
        rw [List.reverse_nil, List.nil_append] at hfile
        subst hfile
        have hcut := cuts_iff.mpr ⟨by simpa using hbreak, hisFile, tail, rfl, hposition⟩
        exact absurd hcut (h p)

theorem parts?_eq_some_iff {line : Text} {p : Parts} : parts? line = some p ↔ p.Shortest line := by
  have shortest : ∀ {p}, parts? line = some p → p.Shortest line := by
    intro p h
    unfold parts? at h
    split at h
    · cases h
    · next hbreak =>
      obtain ⟨mid, tail, rfl, hfile, hisFile, hposition, hleast⟩ := partsFrom?_eq_some h
      rw [List.reverse_nil, List.nil_append] at hfile
      subst hfile
      refine ⟨cuts_iff.mpr ⟨by simpa using hbreak, hisFile, tail, rfl, hposition⟩, ?_⟩
      intro q hq
      obtain ⟨-, hisFile', tail', hline, hposition'⟩ := cuts_iff.mp hq
      exact hleast q.file tail' hline ⟨hisFile', by rw [hposition']; rfl⟩
  constructor
  · exact shortest
  · intro h
    cases hq : parts? line with
    | none => exact absurd h.1 (parts?_eq_none_iff.mp hq p)
    | some q =>
      have hshort := shortest hq
      have hlength := Nat.le_antisymm (h.2 q hshort.1) (hshort.2 p h.1)
      rw [h.1.unique hshort.1 hlength]

/-! ## The line that parts make -/

/-- No file name with a place behind it stands inside a file name. -/
def IsUndivided (file : Text) : Prop :=
  ∀ front line column rest, IsFile front → IsNumber line → IsNumber column →
    file ≠ front ++ positionText line column ++ rest

theorem isUndivided_of_notMem {file : Text} (h : ':' ∉ file) : IsUndivided file := by
  rintro front line column rest - - - rfl
  simp [positionText] at h

/-- A place does not end as a file name does, nor does a start of it. -/
theorem not_isFile_of_prefix {file front tail line column : Text} (hfile : IsFile file)
    (hfront : file = front ++ tail) (hne : tail ≠ []) (hline : IsNumber line)
    (hcolumn : IsNumber column) : ¬ tail <+: positionText line column := by
  intro hprefix
  obtain ⟨stem, -, rfl⟩ := hfile
  have hlast : tail.getLast hne = 'o' := by
    have hgetLast := congrArg List.getLast? hfront
    rw [List.getLast?_append, List.getLast?_append, List.getLast?_eq_some_getLast hne] at hgetLast
    simpa [sourceSuffix] using hgetLast.symm
  have hmem : 'o' ∈ positionText line column :=
    hprefix.subset (hlast ▸ List.getLast_mem hne)
  have hdigit : ∀ s : Text, IsNumber s → 'o' ∉ s := by
    intro s hs hmem
    have hdigit := hs.digits _ hmem
    revert hdigit
    decide
  simp [positionText, hdigit line hline, hdigit column hcolumn] at hmem

/-- A cut is the shortest of the line it makes if its file name is undivided, whatever the message
holds. -/
theorem Parts.shortest_toText_iff {p : Parts} :
    p.Shortest p.toText ↔ p.Cuts p.toText ∧ IsUndivided p.file := by
  constructor
  · rintro ⟨hcuts, hleast⟩
    refine ⟨hcuts, ?_⟩
    intro front line column rest hfront hline hcolumn hfile
    let q : Parts := ⟨front, line, column, rest ++ positionText p.line p.column ++ p.message⟩
    have hq : q.Cuts p.toText :=
      cuts_iff.mpr ⟨(cuts_iff.mp hcuts).1, hfront, positionText line column ++ q.message,
        by simp [q, Parts.toText, hfile], position?_eq_some_iff.mpr ⟨rfl, hline, hcolumn⟩⟩
    have hle : p.file.length ≤ front.length := hleast q hq
    have hpositive : 0 < (positionText line column).length := by
      simp only [positionText, List.length_append, List.length_cons]
      omega
    rw [hfile, List.length_append, List.length_append] at hle
    omega
  · rintro ⟨hcuts, hundivided⟩
    refine ⟨hcuts, ?_⟩
    intro q hq
    refine Nat.le_of_not_lt fun hlt => ?_
    have hline : q.file ++ (positionText q.line q.column ++ q.message)
        = p.file ++ (positionText p.line p.column ++ p.message) := by
      simpa [Parts.toText] using hq.line_eq.symm
    obtain ⟨tail, htail⟩ : q.file <+: p.file :=
      List.prefix_of_prefix_length_le ⟨_, hline⟩ ⟨_, rfl⟩ (Nat.le_of_lt hlt)
    have hne : tail ≠ [] := by
      rintro rfl
      rw [← htail, List.append_nil] at hlt
      exact Nat.lt_irrefl _ hlt
    have hrest : positionText q.line q.column ++ q.message
        = tail ++ (positionText p.line p.column ++ p.message) := by
      rw [← htail, List.append_assoc] at hline
      exact List.append_cancel_left hline
    rcases List.prefix_or_prefix_of_prefix ⟨_, hrest⟩ ⟨_, rfl⟩ with hplace | hplace
    · obtain ⟨rest, rfl⟩ := hplace
      exact hundivided q.file q.line q.column rest hq.file hq.line hq.column (by
        rw [← htail, List.append_assoc])
    · exact not_isFile_of_prefix hcuts.file htail.symm hne hq.line hq.column hplace

/-- Parts whose line reads back as they are. -/
structure Parts.Plain (p : Parts) : Prop where
  /-- The file name is one. -/
  file : IsFile p.file
  /-- Nothing inside the file name is a file name with a place. -/
  undivided : IsUndivided p.file
  /-- The line number is one. -/
  line : IsNumber p.line
  /-- The column number is one. -/
  column : IsNumber p.column
  /-- The file name stands on one line. -/
  file_whole : Text.IsWhole p.file
  /-- The message stands on one line. -/
  message_whole : Text.IsWhole p.message

theorem IsNumber.isWhole {s : Text} (h : IsNumber s) : Text.IsWhole s :=
  fun c hc => Text.endsLine_of_isDigit (h.digits c hc)

theorem isWhole_positionText {line column : Text} (hline : IsNumber line)
    (hcolumn : IsNumber column) : Text.IsWhole (positionText line column) := by
  have hend : Text.IsWhole ": ".toList := by decide
  exact Text.isWhole_append.mpr ⟨Text.isWhole_append.mpr
    ⟨Text.isWhole_cons.mpr ⟨by decide, hline.isWhole⟩,
      Text.isWhole_cons.mpr ⟨by decide, hcolumn.isWhole⟩⟩, hend⟩

theorem Parts.Plain.isWhole {p : Parts} (h : p.Plain) : Text.IsWhole p.toText :=
  Text.isWhole_append.mpr
    ⟨Text.isWhole_append.mpr ⟨h.file_whole, isWhole_positionText h.line h.column⟩, h.message_whole⟩

theorem Parts.Plain.shortest {p : Parts} (h : p.Plain) :
    p.Shortest (Text.dropLineEnd p.toText) := by
  rw [Text.dropLineEnd_of_isWhole h.isWhole]
  have hcuts : p.Cuts p.toText := ⟨rfl, h.file, h.line, h.column, h.file_whole.notMem (by decide),
    h.message_whole.notMem (by decide)⟩
  exact Parts.shortest_toText_iff.mpr ⟨hcuts, h.undivided⟩

/-- What is cut from a line that is whole can be written on a line. -/
theorem Parts.Shortest.plain {p : Parts} {line : Text} (h : p.Shortest line)
    (hline : Text.IsWhole line) : p.Plain := by
  have heq := h.1.line_eq
  rw [heq] at h hline
  obtain ⟨hfront, hmessage⟩ := Text.isWhole_append.mp hline
  exact ⟨h.1.file, (Parts.shortest_toText_iff.mp h).2, h.1.line, h.1.column,
    (Text.isWhole_append.mp hfront).1, hmessage⟩

/-! ## Lines that go on -/

/-- A line that goes on is cut as before, with a longer message. -/
theorem Parts.Shortest.append {p : Parts} {line tail : Text} (h : p.Shortest line)
    (htail : '\n' ∉ tail) :
    Parts.Shortest { p with message := p.message ++ tail } (line ++ tail) := by
  have heq := h.1.line_eq
  have hmore : line ++ tail = Parts.toText { p with message := p.message ++ tail } := by
    rw [heq, Parts.toText, Parts.toText, List.append_assoc]
  rw [heq] at h
  obtain ⟨hcuts, hundivided⟩ := Parts.shortest_toText_iff.mp h
  have hbreak : '\n' ∉ p.message ++ tail := by
    rw [List.mem_append]
    exact not_or.mpr ⟨hcuts.message_noBreak, htail⟩
  rw [hmore]
  exact Parts.shortest_toText_iff.mpr
    ⟨⟨rfl, hcuts.file, hcuts.line, hcuts.column, hcuts.file_noBreak, hbreak⟩, hundivided⟩

/-- Blanks do not complete a line that is no diagnostic line, unless the first of them is the blank
in front of a message. -/
theorem Parts.Cuts.of_append_blank {p : Parts} {line rest : Text} {c : Char}
    (h : p.Cuts (line ++ c :: rest)) (hc : c ≠ ' ')
    (hblank : ∀ d ∈ c :: rest, Text.isBlank d = true) : ∃ q : Parts, q.Cuts line := by
  obtain ⟨heq, hfile, hline, hcolumn, hbreak, hbreak'⟩ := h
  have hcolon : ':' ∉ c :: rest := fun hmem => absurd (hblank _ hmem) (by decide)
  rcases List.append_eq_append_iff.mp heq with ⟨more, hfront, hmore⟩ | ⟨message, rfl, hmessage⟩
  · cases more with
    | nil =>
      rw [List.append_nil] at hfront
      exact ⟨⟨p.file, p.line, p.column, []⟩, by rw [Parts.toText, hfront, List.append_nil], hfile,
        hline, hcolumn, hbreak, List.not_mem_nil⟩
    | cons d more =>
      obtain ⟨rfl, rfl⟩ := List.cons.inj hmore
      -- the place ends with a colon and a blank, so the blanks can hold no more than that blank
      have hend : [':', ' '] <:+ line ++ c :: more := by
        rw [← hfront, positionText, ← List.append_assoc]
        exact List.suffix_append _ _
      rcases List.suffix_or_suffix_of_suffix hend (List.suffix_append line (c :: more)) with
        hsuffix | hsuffix
      · exact absurd (List.mem_append_left _ (hsuffix.subset List.mem_cons_self)) hcolon
      · have hmem : c ∈ [':', ' '] := hsuffix.subset List.mem_cons_self
        rcases List.mem_cons.mp hmem with rfl | hmem
        · exact absurd List.mem_cons_self hcolon
        · exact absurd (List.mem_singleton.mp hmem) hc
  · refine ⟨⟨p.file, p.line, p.column, message⟩, rfl, hfile, hline, hcolumn, hbreak, ?_⟩
    rw [hmessage] at hbreak'
    exact fun hmem => hbreak' (List.mem_append_left _ hmem)

end Marginalia.Diagnostic
