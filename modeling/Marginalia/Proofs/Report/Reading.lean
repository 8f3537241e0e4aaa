import Marginalia.Proofs.Report.Grammar

/-!
# What a report says about a document

A line of a report speaks of a document if the file name of its shortest cut is an alias of the
document and its message, without the blanks at its ends, holds a wanted piece of text.  It
contributes a diagnostic if both of its numbers are also positive.

`Collected` goes through the lines in order and takes what each of them contributes.
`parse_collects` is the main statement: unless a line that speaks of the document has a number of
too many digits, the reader finds exactly the collected diagnostics, and there is one such list.
-/

namespace Marginalia.Report

/-! ## Reports -/

/-- A report as it is handed over. -/
inductive Output where
  /-- One text, which is cut into lines. -/
  | text (s : Text)
  /-- Lines. -/
  | lines (ls : List Text)

/-- The lines of a report. -/
def Output.toLines : Output → List Text
  | .text s => Text.splitLines s
  | .lines ls => ls

/-! ## What a line contributes -/

/-- A file name stands for a document: with a dot for the directory, or in full. -/
def IsAlias (cwd document : Path) (file : Text) : Prop :=
  file = "./".toList ++ document.name ∨ file = (document.absolute cwd).toText

/-- A line, cut into its parts, speaks of a document and its message is wanted. -/
structure SpeaksOf (cwd document : Path) (wanted : List Text) (line : Text)
    (p : Diagnostic.Parts) : Prop where
  /-- The parts are the cut with the shortest file name. -/
  shortest : p.Shortest (Text.dropLineEnd line)
  /-- The file is the document. -/
  file : IsAlias cwd document p.file
  /-- The message is wanted. -/
  message : ∃ piece ∈ wanted, piece <:+: Text.strip p.message

/-- The numbers of a line can be read. -/
def WithinLimit (p : Diagnostic.Parts) : Prop :=
  p.line.length ≤ Text.digitLimit ∧ p.column.length ≤ Text.digitLimit

/-- A line contributes a diagnostic about a document. -/
def Contributes (cwd document : Path) (wanted : List Text) (line : Text) (x : Diagnostic) : Prop :=
  ∃ p : Diagnostic.Parts, SpeaksOf cwd document wanted line p ∧
    1 ≤ Text.digitsValue p.line ∧ 1 ≤ Text.digitsValue p.column ∧
    x.sourceFile = p.file ∧ x.line.val = Text.digitsValue p.line ∧
    x.column.val = Text.digitsValue p.column ∧ x.message = Text.strip p.message

/-- The diagnostics about a document that lines contribute, in the order of the lines. -/
inductive Collected (cwd document : Path) (wanted : List Text) :
    List Text → List Diagnostic → Prop where
  /-- No lines contribute nothing. -/
  | nil : Collected cwd document wanted [] []
  /-- A line contributes one diagnostic. -/
  | keep {line lines x xs} : Contributes cwd document wanted line x →
      Collected cwd document wanted lines xs →
      Collected cwd document wanted (line :: lines) (x :: xs)
  /-- A line contributes none. -/
  | skip {line lines xs} : (∀ x, ¬ Contributes cwd document wanted line x) →
      Collected cwd document wanted lines xs →
      Collected cwd document wanted (line :: lines) xs

section
variable {cwd document : Path} {wanted : List Text}

theorem mem_aliases {file : Text} : file ∈ aliases cwd document ↔ IsAlias cwd document file := by
  simp [aliases, IsAlias]

theorem SpeaksOf.unique {line : Text} {p q : Diagnostic.Parts}
    (hp : SpeaksOf cwd document wanted line p) (hq : SpeaksOf cwd document wanted line q) :
    p = q := by
  have h := Diagnostic.parts?_eq_some_iff.mpr hp.shortest
  rw [Diagnostic.parts?_eq_some_iff.mpr hq.shortest] at h
  exact (Option.some.inj h).symm

theorem Contributes.unique {line : Text} {x y : Diagnostic}
    (hx : Contributes cwd document wanted line x) (hy : Contributes cwd document wanted line y) :
    x = y := by
  obtain ⟨p, hp, -, -, hfile, hline, hcolumn, hmessage⟩ := hx
  obtain ⟨q, hq, -, -, hfile', hline', hcolumn', hmessage'⟩ := hy
  obtain rfl := hp.unique hq
  cases x
  cases y
  simp only [Diagnostic.mk.injEq]
  exact ⟨hfile.trans hfile'.symm, Subtype.ext (hline.trans hline'.symm),
    Subtype.ext (hcolumn.trans hcolumn'.symm), hmessage.trans hmessage'.symm⟩

theorem Collected.unique {lines : List Text} {xs ys : List Diagnostic}
    (hx : Collected cwd document wanted lines xs) (hy : Collected cwd document wanted lines ys) :
    xs = ys := by
  induction hx generalizing ys with
  | nil => cases hy; rfl
  | keep hline _ ih =>
    cases hy with
    | keep hline' hrest => rw [hline.unique hline', ih hrest]
    | skip hnone _ => exact absurd hline (hnone _)
  | skip hnone _ ih =>
    cases hy with
    | keep hline' _ => exact absurd hline' (hnone _)
    | skip _ hrest => exact ih hrest

/-- What contributes to a document begins with one of its names and a colon. -/
theorem Contributes.starts {line : Text} {x : Diagnostic}
    (hx : Contributes cwd document wanted line x) :
    ∃ name, IsAlias cwd document name ∧ name ++ [':'] <+: line := by
  obtain ⟨p, hp, -⟩ := hx
  refine ⟨p.file, hp.file, ?_⟩
  have hcut : p.file ++ [':'] <+: Text.dropLineEnd line := by
    rw [hp.shortest.1.line_eq]
    exact ⟨p.line ++ ':' :: p.column ++ ": ".toList ++ p.message, by
      simp [Diagnostic.Parts.toText, Diagnostic.positionText]⟩
  have hdrop : Text.dropLineEnd line <+: line := by
    unfold Text.dropLineEnd Text.dropEndWhile
    rw [← List.reverse_suffix, List.reverse_reverse]
    exact List.dropWhile_suffix _
  exact hcut.trans hdrop

/-! ## What the reader makes of a line -/

/-- A blank line is no diagnostic line. -/
theorem parts?_of_allBlank {line : Text} (h : Text.allBlank line = true) :
    Diagnostic.parts? line = none := by
  rw [Diagnostic.parts?_eq_none_iff]
  intro p hp
  obtain ⟨stem, -, hfile⟩ := hp.file
  have hmem : 'g' ∈ line := by
    rw [hp.line_eq, Diagnostic.Parts.toText, hfile]
    simp [Diagnostic.sourceSuffix]
  have hblank := List.all_eq_true.mp h 'g' hmem
  revert hblank
  decide

theorem matching_parts (skipBlank : Bool) (lines : List Text) :
    matching Diagnostic.parts? skipBlank lines
      = lines.filterMap fun line => Diagnostic.parts? (Text.dropLineEnd line) := by
  unfold matching
  congr 1
  funext line
  simp only
  split
  · next h =>
    rw [Bool.and_eq_true] at h
    exact (parts?_of_allBlank h.2).symm
  · rfl

theorem isInteresting_iff {message : Text} :
    isInteresting wanted message = true ↔ ∃ piece ∈ wanted, piece <:+: message := by
  unfold isInteresting
  rw [List.any_eq_true]
  simp only [Text.occursIn_iff]

/-- What the reader makes of a line. -/
def verdict (names wanted : List Text) (line : Text) : Except Refusal (Option Diagnostic) :=
  match Diagnostic.parts? (Text.dropLineEnd line) with
  | none => .ok none
  | some p => relevant (fun message => .ok (isInteresting wanted message)) names p

theorem parse_cons (names wanted : List Text) (line : Text) (lines : List Text) :
    parse names wanted (line :: lines) =
      match verdict names wanted line with
      | .error r => .error r
      | .ok x =>
        match parse names wanted lines with
        | .error r => .error r
        | .ok xs => .ok (x.toList ++ xs) := by
  unfold parse parseBy verdict
  rw [matching_parts, matching_parts, List.filterMap_cons]
  cases hparts : Diagnostic.parts? (Text.dropLineEnd line) with
  | none =>
    simp only [Option.toList_none, List.nil_append]
    generalize (List.mapM _ _ : Except Refusal (List (Option Diagnostic))) = found
    cases found with
    | error r => rfl
    | ok found => rfl
  | some p =>
    simp only [List.mapM_cons]
    generalize relevant _ names p = first
    cases first with
    | error r => rfl
    | ok x =>
      generalize (List.mapM _ _ : Except Refusal (List (Option Diagnostic))) = found
      cases found with
      | error r => rfl
      | ok found => cases x <;> rfl

theorem speaksOf_iff {line : Text} {p : Diagnostic.Parts} :
    SpeaksOf cwd document wanted line p ↔
      Diagnostic.parts? (Text.dropLineEnd line) = some p ∧ p.file ∈ aliases cwd document ∧
        isInteresting wanted (Text.strip p.message) = true := by
  rw [Diagnostic.parts?_eq_some_iff, mem_aliases, isInteresting_iff]
  constructor
  · intro h
    exact ⟨h.shortest, h.file, h.message⟩
  · rintro ⟨hshortest, hfile, hmessage⟩
    exact ⟨hshortest, hfile, hmessage⟩

theorem verdict_of_speaksOf {line : Text} {p : Diagnostic.Parts}
    (h : SpeaksOf cwd document wanted line p) :
    verdict (aliases cwd document) wanted line = diagnostic p := by
  obtain ⟨hparts, hfile, hmessage⟩ := speaksOf_iff.mp h
  unfold verdict relevant
  simp only [hparts, List.contains_eq_mem, hfile, hmessage]
  rfl

theorem verdict_of_silent {line : Text} (h : ∀ p, ¬ SpeaksOf cwd document wanted line p) :
    verdict (aliases cwd document) wanted line = .ok none := by
  unfold verdict
  cases hparts : Diagnostic.parts? (Text.dropLineEnd line) with
  | none => rfl
  | some p =>
    unfold relevant
    by_cases hfile : p.file ∈ aliases cwd document
    · by_cases hmessage : isInteresting wanted (Text.strip p.message) = true
      · exact absurd (speaksOf_iff.mpr ⟨hparts, hfile, hmessage⟩) (h p)
      · simp only [List.contains_eq_mem, hfile, hmessage]
        rfl
    · simp only [List.contains_eq_mem, hfile]
      rfl

/-- Parts whose numbers can be read make a diagnostic if the numbers are positive. -/
theorem diagnostic_of_withinLimit {p : Diagnostic.Parts} (h : WithinLimit p) :
    diagnostic p =
      if h : 1 ≤ Text.digitsValue p.line ∧ 1 ≤ Text.digitsValue p.column then
        .ok (some ⟨p.file, ⟨_, h.1⟩, ⟨_, h.2⟩, Text.strip p.message⟩)
      else .ok none := by
  obtain ⟨hline, hcolumn⟩ := h
  simp only [diagnostic, Text.readNumber?, hline, hcolumn, if_true]

/-- A line whose numbers can be read, if it speaks of the document, is read without refusal, as what
it contributes. -/
theorem verdict_eq_ok {line : Text}
    (hlimit : ∀ p, SpeaksOf cwd document wanted line p → WithinLimit p) :
    ∃ x, verdict (aliases cwd document) wanted line = .ok x ∧
      ∀ y, x = some y ↔ Contributes cwd document wanted line y := by
  by_cases hspeaks : ∃ p, SpeaksOf cwd document wanted line p
  · obtain ⟨p, hp⟩ := hspeaks
    rw [verdict_of_speaksOf hp, diagnostic_of_withinLimit (hlimit p hp)]
    by_cases hpositive : 1 ≤ Text.digitsValue p.line ∧ 1 ≤ Text.digitsValue p.column
    · rw [dif_pos hpositive]
      refine ⟨_, rfl, fun y => ?_⟩
      have hcontributes : Contributes cwd document wanted line
          ⟨p.file, ⟨_, hpositive.1⟩, ⟨_, hpositive.2⟩, Text.strip p.message⟩ :=
        ⟨p, hp, hpositive.1, hpositive.2, rfl, rfl, rfl, rfl⟩
      constructor
      · intro h
        rw [← Option.some.inj h]
        exact hcontributes
      · intro h
        rw [hcontributes.unique h]
    · rw [dif_neg hpositive]
      refine ⟨none, rfl, fun y => ⟨(fun h => nomatch h), ?_⟩⟩
      rintro ⟨q, hq, hline, hcolumn, -⟩
      obtain rfl := hp.unique hq
      exact absurd ⟨hline, hcolumn⟩ hpositive
  · have hsilent : ∀ p, ¬ SpeaksOf cwd document wanted line p := not_exists.mp hspeaks
    refine ⟨none, verdict_of_silent hsilent, fun y => ⟨(fun h => nomatch h), ?_⟩⟩
    rintro ⟨p, hp, -⟩
    exact absurd hp (hsilent p)

/-- Lines whose numbers can be read, as far as they speak of the document, are read as what they
contribute, in order. -/
theorem parse_collected {lines : List Text}
    (hlimit : ∀ line ∈ lines, ∀ p, SpeaksOf cwd document wanted line p → WithinLimit p) :
    ∃ xs, parse (aliases cwd document) wanted lines = .ok xs ∧
      Collected cwd document wanted lines xs := by
  induction lines with
  | nil => exact ⟨[], rfl, .nil⟩
  | cons line lines ih =>
    obtain ⟨xs, hparse, hcollected⟩ := ih fun l hl => hlimit l (List.mem_cons_of_mem _ hl)
    obtain ⟨x, hverdict, hiff⟩ := verdict_eq_ok (hlimit line List.mem_cons_self)
    rw [parse_cons, hverdict, hparse]
    cases x with
    | none =>
      refine ⟨xs, rfl, .skip (fun y hy => ?_) hcollected⟩
      cases (hiff y).mpr hy
    | some y => exact ⟨y :: xs, rfl, .keep ((hiff y).mp rfl) hcollected⟩

/-- The reader finds what the lines of a report contribute, in their order and nothing else, and
nothing is contributed by a line that does not begin with a name of the document. -/
theorem parse_collects (output : Output)
    (hlimit : ∀ line ∈ output.toLines, ∀ p,
      SpeaksOf cwd document wanted line p → WithinLimit p) :
    (∃ xs, parse (aliases cwd document) wanted output.toLines = .ok xs ∧
      ∀ ys, Collected cwd document wanted output.toLines ys ↔ ys = xs) ∧
    ∀ line x, Contributes cwd document wanted line x →
      ∃ name, IsAlias cwd document name ∧ name ++ [':'] <+: line := by
  obtain ⟨xs, hparse, hcollected⟩ := parse_collected hlimit
  refine ⟨⟨xs, hparse, fun ys => ⟨fun hys => hys.unique hcollected, ?_⟩⟩, ?_⟩
  · rintro rfl
    exact hcollected
  · intro line x hx
    exact hx.starts

end

theorem parse_collects_of_twoNames :
    let output : Output := .lines ["./a.go:2:14: b.go:1:1: x escapes \n".toList, ['#', ' ', 'w']]
    Collected (Path.ofText "/w".toList) (Path.ofText "a.go".toList) ["escapes".toList]
      output.toLines
      [⟨"./a.go".toList, ⟨2, by decide⟩, ⟨14, by decide⟩, "b.go:1:1: x escapes".toList⟩] := by
  intro output
  have hlimit : ∀ line ∈ output.toLines, ∀ p, SpeaksOf (Path.ofText "/w".toList)
      (Path.ofText "a.go".toList) ["escapes".toList] line p → WithinLimit p := by
    intro line hline p hp
    have hparts := Diagnostic.parts?_eq_some_iff.mpr hp.shortest
    rcases List.mem_cons.mp hline with rfl | hline
    · cases hparts
      exact ⟨by decide, by decide⟩
    · cases List.mem_singleton.mp hline
      cases hparts
  obtain ⟨⟨xs, hparse, hiff⟩, -⟩ := parse_collects output hlimit
  cases hparse
  exact (hiff _).mpr rfl

end Marginalia.Report
