import Marginalia.Proofs.Report.Refused

/-!
# Reports put together

Captured output is cut at ten characters, and CR LF counts as one boundary.  If two texts are put
together, a boundary may form across the seam that is in neither of them, and a line end that closed
the first text may now stand in front of a line that is empty.  Neither can be seen in what is read
(`parse_splitLines_seam`): the lines that come or go are empty, and empty lines are passed over.

So a report may be cut at any line end, and what is read from the two parts is what is read from the
whole.  The main statement is `parts_are_read_apart`.
-/

namespace Marginalia

namespace Text

/-- A text consists of whole lines: it is empty, or it stops where a line ends. -/
def StopsAtLineEnd (s : Text) : Prop :=
  ∀ c, s.getLast? = some c → endsLine c = true

/-- No number in a text has too many digits. -/
def HasShortNumbers (s : Text) : Prop :=
  ∀ digits, digits <:+: s → (∀ c ∈ digits, isDigit c = true) → digits.length ≤ digitLimit

/-- A text that is short enough itself has short numbers only. -/
theorem hasShortNumbers_of_length_le {s : Text} (h : s.length ≤ digitLimit) : HasShortNumbers s :=
  fun _ hdigits _ => hdigits.length_le.trans h

theorem StopsAtLineEnd.eq_nil_or {s : Text} (h : StopsAtLineEnd s) :
    s = [] ∨ ∃ front c, s = front ++ [c] ∧ endsLine c = true := by
  cases hlast : s.getLast? with
  | none => exact .inl (List.getLast?_eq_none_iff.mp hlast)
  | some c =>
    obtain ⟨front, hs⟩ := List.getLast?_eq_some_iff.mp hlast
    exact .inr ⟨front, c, hs, h c hlast⟩

/-- A line of a text is a piece of it, and the first line is what the text starts with. -/
theorem infix_of_splitLines (s : Text) :
    (∀ line, (splitLines s).head? = some line → line <+: s) ∧
      ∀ line ∈ splitLines s, line <:+: s := by
  fun_induction splitLines s with
  | case1 =>
    refine ⟨fun line hline => ?_, fun line hline => ?_⟩
    · cases hline
    · cases hline
  | case2 s ih =>
    refine ⟨fun line hline => ?_, fun line hline => ?_⟩
    · cases hline
      exact List.nil_prefix
    · rcases List.mem_cons.mp hline with rfl | hline
      · exact List.nil_infix
      · exact (ih.2 line hline).trans (List.suffix_append ['\r', '\n'] s).isInfix
  | case3 c s _ hends ih =>
    refine ⟨fun line hline => ?_, fun line hline => ?_⟩
    · cases hline
      exact List.nil_prefix
    · rcases List.mem_cons.mp hline with rfl | hline
      · exact List.nil_infix
      · exact (ih.2 line hline).trans (List.suffix_cons c s).isInfix
  | case4 c s _ hends ih =>
    obtain ⟨hfirst, hall⟩ := ih
    cases hlines : splitLines s with
    | nil =>
      have hone : [c] <+: c :: s := List.prefix_append [c] s
      refine ⟨fun line hline => ?_, fun line hline => ?_⟩
      · cases hline
        exact hone
      · cases List.mem_singleton.mp hline
        exact hone.isInfix
    | cons first rest =>
      rw [hlines] at hfirst hall
      have hgrown : c :: first <+: c :: s := List.cons_prefix_cons.mpr ⟨rfl, hfirst first rfl⟩
      refine ⟨fun line hline => ?_, fun line hline => ?_⟩
      · cases hline
        exact hgrown
      · rcases List.mem_cons.mp hline with rfl | hline
        · exact hgrown.isInfix
        · exact (hall line (List.mem_cons_of_mem _ hline)).trans (List.suffix_cons c s).isInfix

/-- A text may be cut at any of its line ends, if empty lines do not matter. -/
theorem dropEmpty_splitLines_seam {c : Char} (hc : endsLine c = true) (s t : Text) :
    dropEmpty (splitLines (s ++ c :: t)) = dropEmpty (splitLines s ++ splitLines t) := by
  rw [dropEmpty_splitLines, List.splitOnP_append_cons s t hc, dropEmpty_append, dropEmpty_append,
    dropEmpty_splitLines, dropEmpty_splitLines]

end Text

namespace Report

open Text (StopsAtLineEnd HasShortNumbers)

section
variable {names wanted : List Text}

/-! ## Seams -/

/-- A line end may stand for the seam between two reports. -/
theorem parse_splitLines_seam {c : Char} (hc : Text.endsLine c = true) (s t : Text) :
    parse names wanted (Text.splitLines (s ++ c :: t))
      = parse names wanted (Text.splitLines s ++ Text.splitLines t) := by
  rw [← parse_dropEmpty, Text.dropEmpty_splitLines_seam hc, parse_dropEmpty]

/-- Nothing has to stand between two reports if the first consists of whole lines. -/
theorem parse_splitLines_append {s : Text} (hs : StopsAtLineEnd s) (t : Text) :
    parse names wanted (Text.splitLines (s ++ t))
      = parse names wanted (Text.splitLines s ++ Text.splitLines t) := by
  rcases hs.eq_nil_or with rfl | ⟨front, c, rfl, hc⟩
  · rfl
  · have hfront : parse names wanted (Text.splitLines (front ++ [c]))
        = parse names wanted (Text.splitLines front) := by
      rw [parse_splitLines_seam hc, show Text.splitLines [] = [] from rfl, List.append_nil]
    rw [List.append_assoc, List.singleton_append, parse_splitLines_seam hc]
    exact parse_append_congr hfront.symm rfl

theorem parse_splitLines_newline (s t : Text) :
    parse names wanted (Text.splitLines (s ++ '\n' :: t)) = (do
      let xs ← parse names wanted (Text.splitLines s)
      let ys ← parse names wanted (Text.splitLines t)
      .ok (xs ++ ys)) := by
  rw [parse_splitLines_seam (by decide), parse_append]
  cases parse names wanted (Text.splitLines s) with
  | error r => rfl
  | ok xs =>
    cases parse names wanted (Text.splitLines t) with
    | error r => rfl
    | ok ys => rfl

/-- Lines that say nothing may be left out. -/
theorem parse_append_silent {lines silent more : List Text}
    (hsilent : parse names wanted silent = .ok []) :
    parse names wanted (lines ++ (silent ++ more)) = parse names wanted (lines ++ more) := by
  refine parse_append_congr rfl ?_
  rw [← List.nil_append more, ← List.append_assoc]
  exact parse_append_congr (by rw [List.append_nil, hsilent, parse_nil]) rfl

end

section
variable {cwd document : Path} {wanted : List Text}

/-! ## Numbers -/

/-- A text without numbers of too many digits has no line that cannot be read. -/
theorem readable_of_hasShortNumbers {s line : Text} (hs : HasShortNumbers s)
    (hline : line ∈ Text.splitLines s) : Readable cwd document wanted line := by
  intro p hp
  have hcuts := hp.shortest.1
  have htext : p.toText <:+: s := by
    rw [← hcuts.line_eq]
    exact Text.dropEndWhile_prefix.isInfix.trans ((Text.infix_of_splitLines s).2 line hline)
  have hnumbers : p.line <:+: p.toText ∧ p.column <:+: p.toText := by
    constructor
    · exact ⟨p.file ++ [':'], ':' :: p.column ++ ": ".toList ++ p.message, by
        simp [Diagnostic.Parts.toText, Diagnostic.positionText]⟩
    · exact ⟨p.file ++ ':' :: p.line ++ [':'], ": ".toList ++ p.message, by
        simp [Diagnostic.Parts.toText, Diagnostic.positionText]⟩
  exact ⟨hs _ (hnumbers.1.trans htext) hcuts.line.digits,
    hs _ (hnumbers.2.trans htext) hcuts.column.digits⟩

theorem exists_parse_of_hasShortNumbers {s : Text} (hs : HasShortNumbers s) :
    ∃ xs, parse (aliases cwd document) wanted (Text.splitLines s) = .ok xs := by
  have hreadable : ∀ line ∈ Text.splitLines s, Readable cwd document wanted line :=
    fun line hline => readable_of_hasShortNumbers hs hline
  obtain ⟨xs, hparse, -⟩ := parse_collected hreadable
  exact ⟨xs, hparse⟩

/-! ## The main statement -/

/-- What is read from two texts with a newline between them is what is read from the first and then
what is read from the second, and the whole is refused as soon as a part is.  So if no number has
too many digits, all three are read.  Text from which nothing is read may be put as whole lines
between any two lines of a report, or in front of it, or behind it. -/
theorem parts_are_read_apart (cwd document : Path) (wanted : List Text) :
    let read := fun s => parse (aliases cwd document) wanted (Output.text s).toLines
    (∀ s t, read (s ++ '\n' :: t) = do
      let xs ← read s
      let ys ← read t
      .ok (xs ++ ys)) ∧
    (∀ s t, HasShortNumbers s → HasShortNumbers t →
      ∃ xs ys, read s = .ok xs ∧ read t = .ok ys ∧ read (s ++ '\n' :: t) = .ok (xs ++ ys)) ∧
    -- text that says nothing
    ∀ front silent back, read silent = .ok [] →
      (StopsAtLineEnd front → StopsAtLineEnd silent ∨ back = [] →
        read (front ++ (silent ++ back)) = read (front ++ back)) ∧
      ∀ c, Text.endsLine c = true → read (front ++ c :: silent) = read front := by
  intro read
  have happend : ∀ s t, read (s ++ '\n' :: t) = (do
      let xs ← read s
      let ys ← read t
      .ok (xs ++ ys)) := fun s t => parse_splitLines_newline s t
  refine ⟨happend, fun s t hs ht => ?_, fun front silent back hsilent => ⟨?_, fun c hc => ?_⟩⟩
  · obtain ⟨xs, hxs⟩ : ∃ xs, read s = .ok xs := exists_parse_of_hasShortNumbers hs
    obtain ⟨ys, hys⟩ : ∃ ys, read t = .ok ys := exists_parse_of_hasShortNumbers ht
    refine ⟨xs, ys, hxs, hys, (happend s t).trans ?_⟩
    show (do
      let xs ← read s
      let ys ← read t
      .ok (xs ++ ys)) = _
    rw [hxs, hys]
    rfl
  · intro hfront hwhole
    show parse _ _ (Text.splitLines (front ++ (silent ++ back)))
      = parse _ _ (Text.splitLines (front ++ back))
    rw [parse_splitLines_append hfront, parse_splitLines_append hfront]
    rcases hwhole with hwhole | rfl
    · have hback : parse (aliases cwd document) wanted (Text.splitLines (silent ++ back))
          = parse (aliases cwd document) wanted (Text.splitLines silent ++ Text.splitLines back) :=
        parse_splitLines_append hwhole back
      exact (parse_append_congr rfl hback).trans (parse_append_silent hsilent)
    · rw [List.append_nil]
      exact parse_append_congr rfl hsilent
  · show parse _ _ (Text.splitLines (front ++ c :: silent)) = parse _ _ (Text.splitLines front)
    rw [parse_splitLines_seam hc, ← List.append_nil (Text.splitLines front),
      ← List.append_nil (Text.splitLines silent), List.append_assoc]
    exact parse_append_silent hsilent

end

/-- The first text ends with a carriage return, so that the seam is a CR LF, and the second starts
with a line end of its own. -/
theorem parts_are_read_apart_of_returnFirst :
    let read := fun s => parse (aliases (Path.ofText "/w".toList) (Path.ofText "a.go".toList))
      ["escapes".toList] (Output.text s).toLines
    let first := "./a.go:1:2: x escapes\r".toList
    let second := "\u2028./a.go:3:4: y escapes".toList
    let banner := "# w\r".toList
    let found : List Diagnostic :=
      [⟨"./a.go".toList, ⟨1, by decide⟩, ⟨2, by decide⟩, "x escapes".toList⟩,
       ⟨"./a.go".toList, ⟨3, by decide⟩, ⟨4, by decide⟩, "y escapes".toList⟩]
    read (first ++ '\n' :: second) = .ok found ∧
      read (first ++ (banner ++ '\n' :: second)) = .ok found ∧
      read ((first ++ '\n' :: second) ++ '\u0085' :: banner) = .ok found := by
  intro read first second banner found
  obtain ⟨-, hboth, hsilent⟩ := parts_are_read_apart (Path.ofText "/w".toList)
    (Path.ofText "a.go".toList) ["escapes".toList]
  obtain ⟨xs, ys, hxs, hys, hall⟩ := hboth first second
    (Text.hasShortNumbers_of_length_le (by decide)) (Text.hasShortNumbers_of_length_le (by decide))
  cases hxs
  cases hys
  have hbanner : read banner = .ok [] := rfl
  have hfirst : StopsAtLineEnd first := by
    intro c hc
    cases hc
    decide
  have hlines : StopsAtLineEnd banner := by
    intro c hc
    cases hc
    decide
  have hbetween := (hsilent first banner ('\n' :: second) hbanner).1 hfirst (.inl hlines)
  have hbehind := (hsilent (first ++ '\n' :: second) banner [] hbanner).2 '\u0085' (by decide)
  exact ⟨hall, hbetween.trans hall, hbehind.trans hall⟩

end Report

end Marginalia
