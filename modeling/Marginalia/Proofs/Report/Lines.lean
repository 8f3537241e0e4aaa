import Marginalia.Proofs.Report.Reading
import Marginalia.Proofs.Text.Lines

/-!
# The lines of a report

The reader goes through the lines of a report one after another, so what it makes of two reports
together is what it makes of each (`parse_append`), and it passes over empty lines
(`parse_dropEmpty`).

So it does not matter whether a report is cut at all its line ends at once, or first at its newlines
and then each piece on its own (`parse_splitLines`).
-/

namespace Marginalia.Report

/-! ## Several reports -/

section
variable {names wanted : List Text}

theorem parse_nil : parse names wanted [] = .ok [] := rfl

theorem parse_append (lines more : List Text) :
    parse names wanted (lines ++ more) =
      match parse names wanted lines with
      | .error r => .error r
      | .ok xs =>
        match parse names wanted more with
        | .error r => .error r
        | .ok ys => .ok (xs ++ ys) := by
  induction lines with
  | nil =>
    rw [List.nil_append, parse_nil]
    cases parse names wanted more <;> rfl
  | cons line lines ih =>
    rw [List.cons_append, parse_cons, parse_cons, ih]
    cases verdict names wanted line with
    | error r => rfl
    | ok x =>
      cases parse names wanted lines with
      | error r => rfl
      | ok xs =>
        cases parse names wanted more with
        | error r => rfl
        | ok ys => simp

/-- Lines that are read alike may take the place of each other in a report. -/
theorem parse_append_congr {lines lines' more more' : List Text}
    (h : parse names wanted lines = parse names wanted lines')
    (hmore : parse names wanted more = parse names wanted more') :
    parse names wanted (lines ++ more) = parse names wanted (lines' ++ more') := by
  rw [parse_append, parse_append, h, hmore]

theorem parse_flatMap_congr {f g : Text → List Text} {lines : List Text}
    (h : ∀ line ∈ lines, parse names wanted (f line) = parse names wanted (g line)) :
    parse names wanted (lines.flatMap f) = parse names wanted (lines.flatMap g) := by
  induction lines with
  | nil => rfl
  | cons line lines ih =>
    rw [List.flatMap_cons, List.flatMap_cons]
    exact parse_append_congr (h line List.mem_cons_self)
      (ih fun l hl => h l (List.mem_cons_of_mem _ hl))

/-! ## Cutting a report into lines -/

theorem verdict_empty : verdict names wanted [] = .ok none := rfl

theorem parse_dropEmpty (lines : List Text) :
    parse names wanted (Text.dropEmpty lines) = parse names wanted lines := by
  induction lines with
  | nil => rfl
  | cons line lines ih =>
    cases line with
    | nil =>
      rw [Text.dropEmpty_empty, ih, parse_cons, verdict_empty]
      cases parse names wanted lines <;> rfl
    | cons c line =>
      rw [← List.singleton_append, Text.dropEmpty_append]
      exact parse_append_congr rfl ih

theorem parse_splitLines (s : Text) :
    parse names wanted (Text.splitLines s)
      = parse names wanted ((s.splitOn '\n').flatMap Text.splitLines) := by
  rw [← parse_dropEmpty, Text.dropEmpty_splitLines_newlines, parse_dropEmpty]

/-- A text that is whole is read as one line. -/
theorem parse_splitLines_of_isWhole {line : Text} (h : Text.IsWhole line) :
    parse names wanted (Text.splitLines line) = parse names wanted [line] := by
  rw [← parse_dropEmpty, Text.dropEmpty_splitLines_of_isWhole h, parse_dropEmpty]

/-- A text is read as what stands before its first line end and what stands between the others. -/
theorem parse_splitLines_append_cons {line rest : Text} {c : Char} (hline : Text.IsWhole line)
    (hc : Text.endsLine c = true) :
    parse names wanted (Text.splitLines (line ++ c :: rest))
      = parse names wanted (line :: rest.splitOnP Text.endsLine) := by
  rw [← parse_dropEmpty, Text.dropEmpty_splitLines_append_cons hline hc, parse_dropEmpty]

/-- Lines that are whole, joined by newlines, are read as they were. -/
theorem parse_splitLines_join {lines : List Text} (h : ∀ line ∈ lines, Text.IsWhole line) :
    parse names wanted (Text.splitLines (Text.join ['\n'] lines)) = parse names wanted lines := by
  cases lines with
  | nil => rfl
  | cons line rest =>
    have hnewline : ∀ l ∈ line :: rest, '\n' ∉ l :=
      fun l hl hmem => absurd (h l hl _ hmem) (by decide)
    rw [parse_splitLines, Text.join_eq_intercalate,
      List.splitOn_intercalate '\n' hnewline (List.cons_ne_nil _ _),
      parse_flatMap_congr fun l hl => parse_splitLines_of_isWhole (h l hl),
      List.flatMap_singleton']

end

end Marginalia.Report
