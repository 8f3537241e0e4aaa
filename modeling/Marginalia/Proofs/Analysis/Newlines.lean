import Marginalia.Proofs.Analysis.Shapes
import Marginalia.Proofs.Report.Pieces

/-!
# Newlines and other line ends

The compiler ends its lines with newlines, but a report is cut at nine other characters as well.
`newlines_cut_reports` is the main statement: it says which pieces between newlines are read as one
line all the same, and that a report with no other pieces is read by its newlines alone.  The others
are read wrongly: a message is cut short (`formFeed_cuts_message`), or what stands behind a line end
passes for a diagnostic.
-/

namespace Marginalia.Analysis

open Report

/-- The diagnostics of a started program are those of all that it wrote, if that can be read. -/
theorem diagnostics_iff_of_starts {h : Host} {d : Document} {file : Path} {unitId : Text}
    {s : Settings} (hfile : d.file = some file)
    (hwords : ∀ word ∈ s.command unitId, Launch.IsUnended word) {program : Program}
    (hstarts : Launch.Starts h (s.command unitId) file.parent program) {xs : List Diagnostic} :
    (∃ o, (analyse h d unitId s).2 = .ok o ∧ o.diagnostics = xs) ↔
      parse (aliases h.cwd file) s.allowList (Text.splitLines program.text) = .ok xs := by
  rw [analyse_eq_completed hfile hwords hstarts]
  cases hparse : parse (aliases h.cwd file) s.allowList (Text.splitLines program.text) with
  | error r => simp [completed, hparse]
  | ok ys => simp [completed, hparse]

/-- Every report is read as its pieces between newlines are, each cut at its other line ends.  For a
piece that can be read, cutting it makes no difference exactly if it is read whole; so a report, or
what a compiler writes, that has only such pieces is read by its newlines alone. -/
theorem newlines_cut_reports (cwd document : Path) (wanted : List Text) :
    (∀ s : Text, '\r' ∉ s →
      parse (aliases cwd document) wanted (Output.text s).toLines
        = parse (aliases cwd document) wanted ((s.splitOn '\n').flatMap Text.splitLines) ∧
      (∀ piece ∈ s.splitOn '\n', Readable cwd document wanted piece →
        (parse (aliases cwd document) wanted (Text.splitLines piece)
            = parse (aliases cwd document) wanted [piece] ↔
          ReadsWhole cwd document wanted piece)) ∧
      ((∀ piece ∈ s.splitOn '\n', ReadsWhole cwd document wanted piece) →
        parse (aliases cwd document) wanted (Output.text s).toLines
          = parse (aliases cwd document) wanted (Output.lines (s.splitOn '\n')).toLines)) ∧
    ∀ (h : Host) (d : Document) (unitId : Text) (s : Settings) (program : Program),
      d.file = some document → (∀ word ∈ s.command unitId, Launch.IsUnended word) →
      Launch.Starts h (s.command unitId) document.parent program →
      (∀ piece ∈ program.text.splitOn '\n', ReadsWhole h.cwd document s.allowList piece) →
      ∀ xs, (∃ o, (analyse h d unitId s).2 = .ok o ∧ o.diagnostics = xs) ↔
        parse (aliases h.cwd document) s.allowList (program.text.splitOn '\n') = .ok xs := by
  refine ⟨fun s hreturn => ⟨parse_splitLines s, fun piece hpiece hread => ?_, fun hreads => ?_⟩,
    ?_⟩
  · exact parse_splitLines_eq_iff (Text.notMem_of_mem_splitOnP hreturn hpiece)
      (Text.not_mem_of_mem_splitOn hpiece) hread
  · exact parse_splitLines_of_pieces hreturn hreads
  · intro h d unitId s program hfile hwords hstarts hreads xs
    have hreturn : '\r' ∉ program.text := Text.foldNewlines_noReturn _
    rw [diagnostics_iff_of_starts hfile hwords hstarts, parse_splitLines_of_pieces hreturn hreads]

theorem newlines_cut_reports_of_killedCompiler :
    let cwd : Path := ⟨.top, [['w']]⟩
    let document : Path := ⟨.here, ["a.go".toList]⟩
    let wanted := Settings.standard.allowList
    let s := "./a.go:1:2: x escapes to heap\u000c\n# w\u2028m".toList
    let d := Document.ofText ['d'] (some document) []
    parse (aliases cwd document) wanted (Output.text s).toLines
        = parse (aliases cwd document) wanted
            ["./a.go:1:2: x escapes to heap\u000c".toList, "# w\u2028m".toList] ∧
      ∃ o, (analyse killingHost d ['m'] killingSettings).2 = .ok o ∧
        o.diagnostics
          = [⟨"./a.go".toList, ⟨2, by decide⟩, ⟨3, by decide⟩, "x escapes to heap".toList⟩] := by
  intro cwd document wanted s d
  obtain ⟨htext, hanalyse⟩ := newlines_cut_reports cwd document wanted
  have hpieces : s.splitOn '\n'
      = ["./a.go:1:2: x escapes to heap\u000c".toList, "# w\u2028m".toList] := by decide +kernel
  have hreads : ∀ piece ∈ s.splitOn '\n', ReadsWhole cwd document wanted piece := by
    rw [hpieces]
    intro piece hpiece
    rcases List.mem_cons.mp hpiece with rfl | hpiece
    · exact .inl (by decide)
    · cases List.mem_singleton.mp hpiece
      exact .inr (parse_eq_ok_nil_iff.mp rfl)
  have hlines : killedCompiler.text.splitOn '\n'
      = ["./a.go:2:3: x escapes to heap".toList, []] := by decide +kernel
  have hwhole : ∀ piece ∈ killedCompiler.text.splitOn '\n',
      ReadsWhole killingHost.cwd document wanted piece := by
    rw [hlines]
    intro piece hpiece
    rcases List.mem_cons.mp hpiece with rfl | hpiece
    · exact .inl (by decide)
    · cases List.mem_singleton.mp hpiece
      exact .inl (by decide)
  refine ⟨?_, ?_⟩
  · have hread := (htext s (by decide)).2.2 hreads
    rw [hpieces] at hread
    exact hread
  · refine (hanalyse killingHost d ['m'] killingSettings killedCompiler rfl
      unended_killingSettings starts_killedCompiler hwhole _).mpr ?_
    rw [hlines]
    rfl

/-- A form feed cuts a message short, here in front of what is wanted of it. -/
theorem formFeed_cuts_message :
    let names := aliases ⟨.top, [['w']]⟩ ⟨.here, ["a.go".toList]⟩
    let wanted := ["escapes to heap".toList]
    let s := "./a.go:1:2: x\u000c escapes to heap".toList
    '\r' ∉ s ∧ parse names wanted (Output.text s).toLines = .ok [] ∧
      parse names wanted (Output.lines (s.splitOn '\n')).toLines
        = .ok [⟨"./a.go".toList, ⟨1, by decide⟩, ⟨2, by decide⟩,
            "x\u000c escapes to heap".toList⟩] :=
  ⟨by decide, rfl, rfl⟩

example : parse (aliases ⟨.top, [['w']]⟩ ⟨.here, ["a.go".toList]⟩) ["escapes".toList]
    (Text.splitLines "# w\u2028./a.go:1:2: x escapes".toList)
      = .ok [⟨"./a.go".toList, ⟨1, by decide⟩, ⟨2, by decide⟩, "x escapes".toList⟩] := rfl

end Marginalia.Analysis
