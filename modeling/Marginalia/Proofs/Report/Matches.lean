import Mathlib.Data.List.Basic
import Marginalia.Proofs.Report.Reading

/-!
# The lines that match

What matches in a report is what matches in its lines, taken one by one.  A line without the breaks
at its end matches just when it can be cut into the parts of a diagnostic.  It may be cut in several
ways, but all of the file names start the line, so the shortest one starts each of the others, and
what stands behind a file name reads in one way only.

A blank line cannot be cut, so that it makes no difference whether blank lines are passed over.  The
main statement is `matching_exactly`.
-/

namespace Marginalia

/-! ## Line ends -/

namespace Text

theorem getLast?_dropEndWhile {p : Char → Bool} {s : Text} {c : Char}
    (h : (dropEndWhile p s).getLast? = some c) : p c = false := by
  rw [dropEndWhile, List.getLast?_reverse] at h
  exact head?_dropWhile h

/-- A line is what is left without its end, and its end. -/
theorem exists_dropLineEnd_append (line : Text) :
    (∃ ending, line = dropLineEnd line ++ ending ∧ ∀ c ∈ ending, c = '\r' ∨ c = '\n') ∧
      ∀ c, (dropLineEnd line).getLast? = some c → c ≠ '\r' ∧ c ≠ '\n' := by
  constructor
  · obtain ⟨ending, hline, hending⟩ :=
      exists_dropEndWhile_append (fun c => decide (c = '\r') || decide (c = '\n')) line
    exact ⟨ending, hline, fun c hc => by simpa using hending c hc⟩
  · intro c hc
    simpa using getLast?_dropEndWhile hc

end Text

/-! ## Cuts of a line -/

namespace Diagnostic

/-- A line can be cut if it is a file name, two numbers and a message, and does not go on. -/
theorem exists_cuts_iff {line : Text} :
    (∃ p : Parts, p.Cuts line) ↔ '\n' ∉ line ∧ ∃ stem number column message, stem ≠ [] ∧
      IsNumber number ∧ IsNumber column ∧
      line = (stem ++ ".go".toList) ++ ':' :: number ++ ':' :: column ++ ": ".toList
        ++ message := by
  constructor
  · rintro ⟨p, hp⟩
    obtain ⟨stem, hstem, hfile⟩ := hp.file
    refine ⟨(cuts_iff.mp hp).1, stem, p.line, p.column, p.message, hstem, hp.line, hp.column, ?_⟩
    rw [hp.line_eq, Parts.toText, hfile]
    simp [positionText, sourceSuffix]
  · rintro ⟨hbreak, stem, number, column, message, hstem, hnumber, hcolumn, hline⟩
    refine ⟨⟨stem ++ sourceSuffix, number, column, message⟩, cuts_iff.mpr ⟨hbreak,
      ⟨stem, hstem, rfl⟩, positionText number column ++ message, ?_,
      position?_eq_some_iff.mpr ⟨rfl, hnumber, hcolumn⟩⟩⟩
    rw [hline]
    simp [positionText, sourceSuffix]

section
variable {p q : Parts} {line : Text}

/-- The shortest file name is the start of every other. -/
theorem Parts.Shortest.file_prefix (h : p.Shortest line) (hq : q.Cuts line) :
    p.file <+: q.file := by
  obtain ⟨-, -, tail, hline, -⟩ := cuts_iff.mp h.1
  obtain ⟨-, -, tail', hline', -⟩ := cuts_iff.mp hq
  exact List.prefix_of_prefix_length_le ⟨tail, hline.symm⟩ ⟨tail', hline'.symm⟩ (h.2 q hq)

theorem Parts.shortest_iff : p.Shortest line ↔
    p.Cuts line ∧ ∀ q : Parts, q.Cuts line → p.file <+: q.file ∧ (q.file = p.file → q = p) := by
  constructor
  · intro h
    refine ⟨h.1, fun q hq => ⟨h.file_prefix hq, fun hfile => ?_⟩⟩
    exact hq.unique h.1 (congrArg List.length hfile)
  · rintro ⟨hcuts, hstart⟩
    exact ⟨hcuts, fun q hq => (hstart q hq).1.length_le⟩

end

end Diagnostic

/-! ## Matches -/

namespace Report

theorem matching_singleton (skipBlank : Bool) (line : Text) :
    matching Diagnostic.parts? skipBlank [line]
      = (Diagnostic.parts? (Text.dropLineEnd line)).toList := by
  rw [matching_parts, List.filterMap_cons]
  cases Diagnostic.parts? (Text.dropLineEnd line) with
  | none => rfl
  | some p => rfl

theorem matching_eq_flatMap (skipBlank : Bool) (lines : List Text) :
    matching Diagnostic.parts? skipBlank lines
      = lines.flatMap fun line => matching Diagnostic.parts? skipBlank [line] := by
  simp only [matching_singleton]
  rw [matching_parts, List.filterMap_eq_flatMap_toList]

/-- The matches in a report are those of its lines, one after another, whether or not blank lines
are passed over.  A line without the breaks at its end has a match just when it is a file name that
ends in `.go`, a line number, a column number and a message, and does not go on.  Of all the ways to
cut it so, the match is the one with the shortest file name. -/
theorem matching_exactly (skipBlank : Bool) (lines : List Text) :
    matching Diagnostic.parts? skipBlank lines
        = lines.flatMap (fun line => matching Diagnostic.parts? skipBlank [line]) ∧
      matching Diagnostic.parts? skipBlank lines = matching Diagnostic.parts? (!skipBlank) lines ∧
      ∀ line, ∃ body ending, line = body ++ ending ∧ (∀ c ∈ ending, c = '\r' ∨ c = '\n') ∧
        (∀ c, body.getLast? = some c → c ≠ '\r' ∧ c ≠ '\n') ∧
        -- at most one match, and one just when the grammar derives the line
        (matching Diagnostic.parts? skipBlank [line]).length ≤ 1 ∧
        (matching Diagnostic.parts? skipBlank [line] ≠ [] ↔
          '\n' ∉ body ∧ ∃ stem number column message, stem ≠ [] ∧
            Diagnostic.IsNumber number ∧ Diagnostic.IsNumber column ∧
            body = (stem ++ ".go".toList) ++ ':' :: number ++ ':' :: column ++ ": ".toList
              ++ message) ∧
        -- the match is the shortest of the cuts
        ∀ p, p ∈ matching Diagnostic.parts? skipBlank [line] ↔ p.Cuts body ∧
          ∀ q : Diagnostic.Parts, q.Cuts body →
            p.file <+: q.file ∧ (q.file = p.file → q = p) := by
  refine ⟨matching_eq_flatMap skipBlank lines, ?_, fun line => ?_⟩
  · rw [matching_parts, matching_parts]
  · obtain ⟨⟨ending, hline, hending⟩, hlast⟩ := Text.exists_dropLineEnd_append line
    refine ⟨Text.dropLineEnd line, ending, hline, hending, hlast, ?_, ?_, fun p => ?_⟩
    · rw [matching_singleton]
      exact Option.length_toList_le
    · rw [matching_singleton, ← Diagnostic.exists_cuts_iff, ne_eq, Option.toList_eq_nil_iff,
        Diagnostic.parts?_eq_none_iff, not_forall_not]
    · rw [matching_singleton, Option.mem_toList, Diagnostic.parts?_eq_some_iff,
        Diagnostic.Parts.shortest_iff]

example : matching Diagnostic.parts? false
      [" \n".toList, "a.go:1:b.go:2:3: c.go:4:5: m\r\n".toList, "a.go:1:2: m\nn".toList]
    = [⟨"a.go:1:b.go".toList, ['2'], ['3'], "c.go:4:5: m".toList⟩] := by decide

end Report

end Marginalia
