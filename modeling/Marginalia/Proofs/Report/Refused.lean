import Marginalia.Proofs.Report.Lines

/-!
# Reports that cannot be read

The reader refuses a report if it refuses one of the lines.  A line is refused for one reason only:
it speaks of the document and one of its numbers has too many digits.  Every other line is read, and
one that contributes nothing is passed over (`PassedOver`): it might as well not be there.

`parse_refuses_only_unreadable` is the main statement.  A line that is refused takes the whole
report with it, as `parse_refuses_overlong` shows.
-/

namespace Marginalia.Report

/-- A line can be read: if it speaks of the document, its numbers can be. -/
def Readable (cwd document : Path) (wanted : List Text) (line : Text) : Prop :=
  ∀ p, SpeaksOf cwd document wanted line p → WithinLimit p

/-- A line is passed over: it can be read, and contributes nothing. -/
structure PassedOver (cwd document : Path) (wanted : List Text) (line : Text) : Prop where
  /-- The line can be read. -/
  readable : Readable cwd document wanted line
  /-- The line contributes nothing. -/
  silent : ∀ x, ¬ Contributes cwd document wanted line x

/-! ## What is refused -/

section
variable {cwd document : Path} {wanted : List Text}

theorem diagnostic_of_not_withinLimit {p : Diagnostic.Parts} (h : ¬ WithinLimit p) :
    diagnostic p = .error .tooManyDigits := by
  rw [diagnostic, Text.readNumber?, Text.readNumber?]
  by_cases hline : p.line.length ≤ Text.digitLimit
  · have hcolumn : ¬ p.column.length ≤ Text.digitLimit := fun hc => h ⟨hline, hc⟩
    rw [if_pos hline, if_neg hcolumn]
  · rw [if_neg hline]

theorem not_readable_iff {line : Text} :
    ¬ Readable cwd document wanted line ↔
      ∃ p, SpeaksOf cwd document wanted line p ∧ ¬ WithinLimit p := by
  simp only [Readable, Classical.not_forall, exists_prop]

theorem verdict_of_not_readable {line : Text} (h : ¬ Readable cwd document wanted line) :
    verdict (aliases cwd document) wanted line = .error .tooManyDigits := by
  obtain ⟨p, hspeaks, hlimit⟩ := not_readable_iff.mp h
  rw [verdict_of_speaksOf hspeaks, diagnostic_of_not_withinLimit hlimit]

/-- A report is refused exactly if a line of it cannot be read, and always for the same reason. -/
theorem parse_eq_error_iff {lines : List Text} {r : Refusal} :
    parse (aliases cwd document) wanted lines = .error r ↔
      r = .tooManyDigits ∧ ∃ line ∈ lines, ¬ Readable cwd document wanted line := by
  induction lines with
  | nil =>
    constructor
    · intro h
      cases h
    · rintro ⟨-, line, hmem, -⟩
      cases hmem
  | cons line lines ih =>
    rw [parse_cons]
    by_cases hread : Readable cwd document wanted line
    · obtain ⟨x, hverdict, -⟩ := verdict_eq_ok hread
      have hexists : (∃ l ∈ line :: lines, ¬ Readable cwd document wanted l)
          ↔ ∃ l ∈ lines, ¬ Readable cwd document wanted l := by
        simp only [List.mem_cons, exists_eq_or_imp, hread, not_true_eq_false, false_or]
      rw [hverdict, hexists, ← ih]
      cases parse (aliases cwd document) wanted lines with
      | error r' => exact Iff.rfl
      | ok xs => exact ⟨(fun h => nomatch h), (fun h => nomatch h)⟩
    · rw [verdict_of_not_readable hread]
      constructor
      · intro h
        cases h
        exact ⟨rfl, line, List.mem_cons_self, hread⟩
      · rintro ⟨rfl, -⟩
        rfl

/-! ## What is read -/

theorem Collected.mem_iff {lines : List Text} {xs : List Diagnostic} {x : Diagnostic}
    (h : Collected cwd document wanted lines xs) :
    x ∈ xs ↔ ∃ line ∈ lines, Contributes cwd document wanted line x := by
  induction h with
  | nil => simp only [List.not_mem_nil, false_and, exists_false]
  | keep hline _ ih =>
    simp only [List.mem_cons, exists_eq_or_imp, ih]
    exact or_congr_left ⟨fun hx => hx ▸ hline, fun hx => hx.unique hline⟩
  | skip hnone _ ih =>
    simp only [List.mem_cons, exists_eq_or_imp, ih]
    exact (or_iff_right (hnone x)).symm

theorem collected_nil_iff {lines : List Text} :
    Collected cwd document wanted lines [] ↔
      ∀ line ∈ lines, ∀ x, ¬ Contributes cwd document wanted line x := by
  constructor
  · intro h line hline x hx
    cases h.mem_iff.mpr ⟨line, hline, hx⟩
  · intro h
    induction lines with
    | nil => exact .nil
    | cons line lines ih =>
      exact .skip (h line List.mem_cons_self) (ih fun l hl => h l (List.mem_cons_of_mem _ hl))

/-- What is read are the contributions of lines that can all be read. -/
theorem parse_eq_ok_iff {lines : List Text} {xs : List Diagnostic} :
    parse (aliases cwd document) wanted lines = .ok xs ↔
      (∀ line ∈ lines, Readable cwd document wanted line) ∧
        Collected cwd document wanted lines xs := by
  constructor
  · intro h
    have hread : ∀ line ∈ lines, Readable cwd document wanted line := by
      intro line hline
      refine Classical.byContradiction fun hnot => ?_
      have herror := parse_eq_error_iff.mpr ⟨rfl, line, hline, hnot⟩
      rw [h] at herror
      cases herror
    obtain ⟨ys, hparse, hcollected⟩ := parse_collected hread
    rw [h] at hparse
    cases hparse
    exact ⟨hread, hcollected⟩
  · rintro ⟨hread, hcollected⟩
    obtain ⟨ys, hparse, hcollected'⟩ := parse_collected hread
    rw [hparse, hcollected'.unique hcollected]

/-- Nothing is read exactly if every line is passed over. -/
theorem parse_eq_ok_nil_iff {lines : List Text} :
    parse (aliases cwd document) wanted lines = .ok [] ↔
      ∀ line ∈ lines, PassedOver cwd document wanted line := by
  rw [parse_eq_ok_iff, collected_nil_iff]
  constructor
  · rintro ⟨hread, hsilent⟩ line hline
    exact ⟨hread line hline, hsilent line hline⟩
  · intro h
    exact ⟨fun line hline => (h line hline).readable, fun line hline => (h line hline).silent⟩

/-- The reader answers every report, either with a list or with the one refusal there is, and it
refuses exactly the reports with a line that speaks of the document in a number of too many digits.
Every other line that contributes nothing, such as one with a line number of zero, is passed over
without any harm to the other lines. -/
theorem parse_refuses_only_unreadable (output : Output) :
    ((∃ xs, parse (aliases cwd document) wanted output.toLines = .ok xs) ∨
      parse (aliases cwd document) wanted output.toLines = .error .tooManyDigits) ∧
    (parse (aliases cwd document) wanted output.toLines = .error .tooManyDigits ↔
      ∃ line ∈ output.toLines, ∃ p, SpeaksOf cwd document wanted line p ∧ ¬ WithinLimit p) ∧
    ∀ before line after, output.toLines = before ++ line :: after →
      PassedOver cwd document wanted line →
      parse (aliases cwd document) wanted output.toLines
        = parse (aliases cwd document) wanted (before ++ after) := by
  refine ⟨?_, ?_, ?_⟩
  · cases h : parse (aliases cwd document) wanted output.toLines with
    | ok xs => exact .inl ⟨xs, rfl⟩
    | error r =>
      obtain ⟨rfl, -⟩ := parse_eq_error_iff.mp h
      exact .inr rfl
  · rw [parse_eq_error_iff]
    simp only [true_and, not_readable_iff]
  · intro before line after hlines hline
    rw [hlines]
    refine parse_append_congr rfl ?_
    rw [← List.singleton_append, ← List.nil_append after]
    refine parse_append_congr ?_ rfl
    rw [parse_eq_ok_nil_iff.mpr (List.forall_mem_singleton.mpr hline), parse_nil]

end

theorem parse_refuses_only_unreadable_of_zeroLine :
    let zero := "./a.go:0:1: x escapes".toList
    let rest := ["./a.go:2:3: y escapes".toList]
    let names := aliases (Path.ofText "/w".toList) (Path.ofText "a.go".toList)
    parse names ["escapes".toList] (zero :: rest) = parse names ["escapes".toList] rest := by
  intro zero rest names
  have hpassed : ∀ line ∈ [zero], PassedOver (Path.ofText "/w".toList) (Path.ofText "a.go".toList)
      ["escapes".toList] line := parse_eq_ok_nil_iff.mp rfl
  exact (parse_refuses_only_unreadable (.lines (zero :: rest))).2.2 [] zero rest rfl
    (hpassed zero List.mem_cons_self)

/-- A diagnostic line whose line number has one digit more than a number may have. -/
def overlong : Diagnostic.Parts :=
  ⟨"./a.go".toList, List.replicate (Text.digitLimit + 1) '1', ['1'], "y escapes to heap".toList⟩

theorem plain_overlong : overlong.Plain where
  file := ⟨"./a".toList, by decide, by decide⟩
  undivided := Diagnostic.isUndivided_of_notMem (by decide)
  line := by
    refine ⟨List.replicate_succ_ne_nil, fun c hc => ?_⟩
    rw [List.eq_of_mem_replicate hc]
    decide
  column := ⟨by decide, List.forall_mem_singleton.mpr (by decide)⟩
  file_whole := by decide
  message_whole := by decide

/-- A line with too many digits takes with it what the line before it says. -/
theorem parse_refuses_overlong :
    let names := aliases (Path.ofText "/w".toList) (Path.ofText "a.go".toList)
    let wanted := ["escapes to heap".toList]
    let line := "./a.go:2:3: x escapes to heap".toList
    parse names wanted [line]
        = .ok [⟨"./a.go".toList, ⟨2, by decide⟩, ⟨3, by decide⟩, "x escapes to heap".toList⟩] ∧
      parse names wanted [line, overlong.toText] = .error .tooManyDigits := by
  intro names wanted line
  have hspeaks : SpeaksOf (Path.ofText "/w".toList) (Path.ofText "a.go".toList) wanted
      overlong.toText overlong :=
    ⟨plain_overlong.shortest, .inl rfl, _, List.mem_singleton.mpr rfl,
      Text.occursIn_iff.mp (by decide)⟩
  have hlong : ¬ WithinLimit overlong := by
    intro hlimit
    have hle : (List.replicate (Text.digitLimit + 1) '1').length ≤ Text.digitLimit := hlimit.1
    rw [List.length_replicate] at hle
    omega
  have hmem : overlong.toText ∈ [line, overlong.toText] :=
    List.mem_cons_of_mem _ List.mem_cons_self
  exact ⟨rfl, parse_eq_error_iff.mpr ⟨rfl, _, hmem, not_readable_iff.mpr ⟨_, hspeaks, hlong⟩⟩⟩

end Marginalia.Report
