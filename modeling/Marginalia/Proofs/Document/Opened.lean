import Marginalia.Proofs.Document.Numbers
import Marginalia.Proofs.Document.Views
import Marginalia.Proofs.Text.Encoding
import Marginalia.Proofs.Text.Pieces

/-!
# Opened documents

A file is opened with each CR LF and each CR of it written as a newline.  A line of the file, which
ends at a newline, so becomes as many lines of the document as it has *fragments*: it is cut at each
CR, and one CR at its end cuts nothing (`linesOf_foldNewlines`).

The main statement is `opened_lines`.  It says which lines a document has that is opened from a
file, and that they are numbered as in the file, and diagnostics shown at the ends of the lines they
speak of, exactly as far as no line of the file has a CR inside.  `return_inside_renumbers` says
that a CR inside a line does make a difference.
-/

namespace Marginalia

namespace Text

/-! ## Cutting, character by character -/

theorem splitOn_ne_nil (sep : Char) (s : Text) : s.splitOn sep ≠ [] :=
  List.splitOnP_ne_nil _ _

theorem splitOn_self_cons (c : Char) (s : Text) : (c :: s).splitOn c = [] :: s.splitOn c := by
  rw [List.splitOn_cons_eq_if_modifyHead, if_pos (beq_self_eq_true c)]

theorem splitOn_cons {c sep : Char} (hc : c ≠ sep) (s : Text) :
    (c :: s).splitOn sep = consLine c (s.splitOn sep) := by
  rw [List.splitOn_cons_eq_if_modifyHead, if_neg (by simpa using hc)]
  cases hs : s.splitOn sep with
  | nil => exact absurd hs (splitOn_ne_nil sep s)
  | cons piece pieces => rfl

/-! ## Carriage returns at the ends of lines -/

/-- A line without the carriage return at its end, if there is one. -/
def withoutReturn (line : Text) : Text :=
  if line.getLast? = some '\r' then line.dropLast else line

theorem withoutReturn_cons {c : Char} {line : Text} (h : c ≠ '\r' ∨ line ≠ []) :
    withoutReturn (c :: line) = c :: withoutReturn line := by
  cases line with
  | nil =>
    have hc : c ≠ '\r' := h.resolve_right fun hne => hne rfl
    rw [withoutReturn, List.getLast?_singleton, if_neg fun heq => hc (Option.some.inj heq)]
    rfl
  | cons x rest =>
    rw [withoutReturn, withoutReturn, List.getLast?_cons_cons, List.dropLast_cons_cons]
    split
    · rfl
    · rfl

theorem head?_withoutReturn {s : Text} (h : s.head? ≠ some '\n') :
    (withoutReturn s).head? ≠ some '\n' := by
  cases s with
  | nil => exact h
  | cons c rest =>
    by_cases hc : c ≠ '\r' ∨ rest ≠ []
    · rw [withoutReturn_cons hc]
      exact h
    · obtain ⟨rfl, rfl⟩ : c = '\r' ∧ rest = [] := by simpa using hc
      decide

theorem foldNewlines_cons {c : Char} {s : Text} (h : c = '\r' → s.head? ≠ some '\n') :
    foldNewlines (c :: s) = (if c = '\r' then '\n' else c) :: foldNewlines s := by
  rw [foldNewlines]
  rintro rest rfl rfl
  exact h rfl rfl

/-- A newline takes with it the carriage return in front of it. -/
theorem foldNewlines_append_newline (s : Text) :
    foldNewlines (s ++ ['\n']) = foldNewlines (withoutReturn s) ++ ['\n'] := by
  fun_induction foldNewlines s with
  | case1 => rfl
  | case2 s ih =>
    rw [withoutReturn_cons (.inr (List.cons_ne_nil _ _)), withoutReturn_cons (.inl (by decide))]
    show '\n' :: foldNewlines (s ++ ['\n']) = '\n' :: foldNewlines (withoutReturn s) ++ ['\n']
    rw [ih]
    rfl
  | case3 c s hpair ih =>
    have hhead : c = '\r' → s.head? ≠ some '\n' := by
      intro hc hs
      obtain ⟨rest, rfl⟩ := List.head?_eq_some_iff.mp hs
      exact hpair rest hc rfl
    by_cases hs : c ≠ '\r' ∨ s ≠ []
    · have happend : c = '\r' → (s ++ ['\n']).head? ≠ some '\n' := by
        intro hc
        obtain ⟨x, rest, rfl⟩ := List.exists_cons_of_ne_nil (hs.resolve_left fun hne => hne hc)
        exact hhead hc
      rw [withoutReturn_cons hs, foldNewlines_cons fun hc => head?_withoutReturn (hhead hc)]
      show foldNewlines (c :: (s ++ ['\n'])) = _
      rw [foldNewlines_cons happend, ih]
      rfl
    · obtain ⟨rfl, rfl⟩ : c = '\r' ∧ s = [] := by simpa using hs
      rfl

end Text

namespace Document

open Text (foldNewlines withoutReturn withoutReturn_cons consLine)

/-! ## Lines, character by character -/

theorem linesOf_newline_cons (s : Text) : linesOf ('\n' :: s) = [] :: linesOf s := by
  obtain ⟨piece, pieces, hs⟩ := List.exists_cons_of_ne_nil (Text.splitOn_ne_nil '\n' s)
  simp only [linesOf, Text.splitOn_self_cons, hs, List.getLast?_cons_cons, List.dropLast_cons_cons]
  split
  · rfl
  · rfl

theorem linesOf_cons {c : Char} (hc : c ≠ '\n') (s : Text) :
    linesOf (c :: s) = consLine c (linesOf s) := by
  obtain ⟨piece, pieces, hs⟩ := List.exists_cons_of_ne_nil (Text.splitOn_ne_nil '\n' s)
  simp only [linesOf, Text.splitOn_cons hc, hs, consLine]
  cases pieces with
  | nil =>
    cases piece with
    | nil => rfl
    | cons x rest => rfl
  | cons next rest =>
    simp only [List.getLast?_cons_cons, List.dropLast_cons_cons]
    split
    · rfl
    · rfl

/-- The lines of a text that ends with a newline. -/
theorem linesOf_append_newline (s : Text) : linesOf (s ++ ['\n']) = s.splitOn '\n' := by
  induction s with
  | nil => rfl
  | cons c s ih =>
    rw [List.cons_append]
    by_cases hc : c = '\n'
    · rw [hc, linesOf_newline_cons, Text.splitOn_self_cons, ih]
    · rw [linesOf_cons hc, Text.splitOn_cons hc, ih]

/-! ## Fragments -/

/-- The lines that a line becomes when it is read. -/
def fragments (line : Text) : List Text :=
  (withoutReturn line).splitOn '\r'

theorem fragments_ne_nil (line : Text) : fragments line ≠ [] :=
  Text.splitOn_ne_nil _ _

theorem fragments_return_cons {line : Text} (h : line ≠ []) :
    fragments ('\r' :: line) = [] :: fragments line := by
  rw [fragments, withoutReturn_cons (.inr h), Text.splitOn_self_cons]
  rfl

theorem fragments_cons {c : Char} (hc : c ≠ '\r') (line : Text) :
    fragments (c :: line) = consLine c (fragments line) := by
  rw [fragments, withoutReturn_cons (.inl hc), Text.splitOn_cons hc]
  rfl

/-- A line has one fragment exactly if no carriage return stands inside. -/
theorem length_fragments_eq_one_iff (line : Text) :
    (fragments line).length = 1 ↔ '\r' ∉ withoutReturn line := by
  constructor
  · intro h
    obtain ⟨piece, hpiece⟩ := List.length_eq_one_iff.mp h
    have hjoin : ['\r'].intercalate (fragments line) = withoutReturn line :=
      List.intercalate_splitOn '\r'
    have hnot : '\r' ∉ piece := Text.not_mem_of_mem_splitOn (hpiece ▸ List.mem_singleton_self piece)
    rw [hpiece, List.intercalate_singleton] at hjoin
    rwa [← hjoin]
  · intro h
    have hpieces : ∀ piece ∈ [withoutReturn line], '\r' ∉ piece := by simpa using h
    have hsplit := List.splitOn_intercalate '\r' hpieces (List.cons_ne_nil _ _)
    rw [List.intercalate_singleton] at hsplit
    rw [fragments, hsplit]
    rfl

theorem flatMap_fragments_consLine {c : Char} (hc : c ≠ '\r') (lines : List Text) :
    (consLine c lines).flatMap fragments = consLine c (lines.flatMap fragments) := by
  cases lines with
  | nil =>
    show fragments [c] ++ [] = [[c]]
    rw [fragments_cons hc]
    rfl
  | cons line rest =>
    obtain ⟨piece, pieces, hline⟩ := List.exists_cons_of_ne_nil (fragments_ne_nil line)
    show fragments (c :: line) ++ rest.flatMap fragments = _
    rw [fragments_cons hc, List.flatMap_cons, hline]
    rfl

/-- The lines of a text that is read are the fragments of its lines. -/
theorem linesOf_foldNewlines (s : Text) :
    linesOf (foldNewlines s) = (linesOf s).flatMap fragments := by
  fun_induction foldNewlines s with
  | case1 => rfl
  | case2 s ih =>
    rw [linesOf_newline_cons, linesOf_cons (by decide), linesOf_newline_cons, ih]
    rfl
  | case3 c s hpair ih =>
    by_cases hc : c = '\r'
    · subst hc
      rw [if_pos rfl, linesOf_newline_cons, linesOf_cons (by decide), ih]
      -- the line that this character starts goes on, unless the text ends here
      cases s with
      | nil => rfl
      | cons x rest =>
        have hx : x ≠ '\n' := by
          rintro rfl
          exact hpair rest rfl rfl
        rw [linesOf_cons hx]
        obtain ⟨line, lines, hlines, hne⟩ : ∃ line lines,
            consLine x (linesOf rest) = line :: lines ∧ line ≠ [] := by
          cases linesOf rest with
          | nil => exact ⟨_, _, rfl, List.cons_ne_nil _ _⟩
          | cons line lines => exact ⟨_, _, rfl, List.cons_ne_nil _ _⟩
        rw [hlines]
        show [] :: (fragments line ++ lines.flatMap fragments)
          = fragments ('\r' :: line) ++ lines.flatMap fragments
        rw [fragments_return_cons hne]
        rfl
    · rw [if_neg hc]
      by_cases hnewline : c = '\n'
      · subst hnewline
        rw [linesOf_newline_cons, linesOf_newline_cons, ih]
        rfl
      · rw [linesOf_cons hnewline, linesOf_cons hnewline, flatMap_fragments_consLine hc, ih]

/-- What is read of a text up to the end of a line is made of the fragments up to there. -/
theorem foldNewlines_intercalate {lines : List Text} (hne : lines ≠ [])
    (hlines : ∀ line ∈ lines, '\n' ∉ line) :
    foldNewlines (withoutReturn (['\n'].intercalate lines))
      = ['\n'].intercalate (lines.flatMap fragments) := by
  have hsplit : (['\n'].intercalate lines).splitOn '\n' = lines :=
    List.splitOn_intercalate '\n' hlines hne
  have hread := linesOf_foldNewlines (['\n'].intercalate lines ++ ['\n'])
  rw [linesOf_append_newline, hsplit, Text.foldNewlines_append_newline,
    linesOf_append_newline] at hread
  rw [← hread, List.intercalate_splitOn]

/-! ## Counting fragments -/

theorem length_le_fragments (lines : List Text) :
    lines.length ≤ (lines.flatMap fragments).length := by
  induction lines with
  | nil => exact Nat.le_refl 0
  | cons line rest ih =>
    have hpos := List.length_pos_iff.mpr (fragments_ne_nil line)
    rw [List.flatMap_cons, List.length_append, List.length_cons]
    omega

/-- There are no more fragments than lines exactly if no line is cut. -/
theorem length_fragments_eq_iff (lines : List Text) :
    (lines.flatMap fragments).length = lines.length ↔
      ∀ line ∈ lines, '\r' ∉ withoutReturn line := by
  induction lines with
  | nil => exact ⟨(fun _ _ h => nomatch h), fun _ => rfl⟩
  | cons line rest ih =>
    have hpos := List.length_pos_iff.mpr (fragments_ne_nil line)
    have hrest := length_le_fragments rest
    rw [List.forall_mem_cons, ← ih, ← length_fragments_eq_one_iff, List.flatMap_cons,
      List.length_append, List.length_cons]
    omega

/-! ## Where lines end -/

/-- What is read of a text up to the end of a line ends a line of the document.  It ends the line of
the same number exactly if no line up to there is cut. -/
theorem lineEnd?_foldNewlines {s : Text} {i stop : Nat}
    (h : lineEnd? s (i + 1 : Nat) = some stop) :
    let shown := foldNewlines (withoutReturn (s.take stop))
    (foldNewlines s).take shown.length = shown ∧
      ∃ offset, lineEnd? (foldNewlines s) (i + 1 : Nat) = some offset ∧
        (offset = shown.length ↔
          ∀ line ∈ (linesOf s).take (i + 1), '\r' ∉ withoutReturn line) := by
  intro shown
  have hi := (lineEnd?_eq_some_iff.mp h).1
  have hfront : ((linesOf s).take (i + 1)).length = i + 1 := List.length_take_of_le hi
  have hnewline : ∀ line ∈ (linesOf s).take (i + 1), '\n' ∉ line :=
    fun line hline => newline_notMem_of_mem_linesOf (List.mem_of_mem_take hline)
  have hshown : shown = ['\n'].intercalate (((linesOf s).take (i + 1)).flatMap fragments) := by
    have hne : (linesOf s).take (i + 1) ≠ [] := List.ne_nil_of_length_eq_add_one hfront
    rw [← foldNewlines_intercalate hne hnewline, ← take_lineEnd h]
  have hcount := length_le_fragments ((linesOf s).take (i + 1))
  have hcut := length_fragments_eq_iff ((linesOf s).take (i + 1))
  have hlines : linesOf (foldNewlines s) = ((linesOf s).take (i + 1)).flatMap fragments
      ++ ((linesOf s).drop (i + 1)).flatMap fragments := by
    rw [linesOf_foldNewlines, ← List.flatMap_append, List.take_append_drop]
  -- the line of the document that ends where the line of the file does
  obtain ⟨k, hk⟩ : ∃ k, (((linesOf s).take (i + 1)).flatMap fragments).length = k + 1 :=
    ⟨_, (Nat.sub_add_cancel (by omega)).symm⟩
  have hlength : k + 1 ≤ (linesOf (foldNewlines s)).length := by
    rw [hlines, List.length_append]
    omega
  have hend : lineEnd? (foldNewlines s) (k + 1 : Nat) = some shown.length := by
    refine lineEnd?_eq_some_iff.mpr ⟨hlength, ?_⟩
    rw [hshown, hlines, List.take_left' hk]
  obtain ⟨offset, hsame⟩ : ∃ offset, lineEnd? (foldNewlines s) (i + 1 : Nat) = some offset :=
    ⟨_, lineEnd?_eq_some_iff.mpr ⟨by omega, rfl⟩⟩
  refine ⟨?_, offset, hsame, ?_⟩
  · rw [take_lineEnd hend, hshown, hlines, List.take_left' hk]
  · rw [← hcut, hfront, hk]
    constructor
    · intro heq
      rw [heq] at hsame
      rw [lineEnd?_inj hend hsame]
    · intro heq
      rw [← heq, hend] at hsame
      exact (Option.some.inj hsame).symm

/-! ## Opening a file -/

/-- The document that is opened from a file, and its lines. -/
theorem ofFile_eq {t : FileTree} {cwd path : Path} {bytes : List UInt8} {s : Text}
    (hread : t.read cwd.names path.toText = .ok bytes) (hdecode : Utf8.decode bytes = .ok s) :
    ofFile t cwd path
      = .ok (ofText (nameOf cwd [] (some path) 0) (some path) (foldNewlines s)) := by
  have htext : t.readText cwd.names path.toText = .ok (foldNewlines s) := by
    rw [FileTree.readText, hread]
    simp only [hdecode]
  rw [ofFile, htext]

end Document

namespace Annotation

/-- A diagnostic that speaks of a line of a document is shown, and only at the end of that line. -/
theorem shown_at_lineEnd {d : Document} (hd : d.Tidy) (n : Nat) (look : Text)
    {xs : List Diagnostic} {x : Diagnostic} (hx : x ∈ xs) {offset : Nat}
    (hoffset : Document.lineEnd? d.text x.line.val = some offset) :
    let shown := render n look xs d
    (∃ a ∈ shown.2, a.diagnostic = x) ∧
      ∀ a ∈ shown.2, a.diagnostic = x →
        shown.1.decoration? a.mark.number = some ⟨.whole offset, note x, look, true⟩ := by
  rw [render_eq]
  constructor
  · have hplaced : (x, _) ∈ placed look d.text xs :=
      List.mem_filterMap.mpr ⟨x, hx, by rw [placed?, hoffset, Option.map_some]⟩
    rw [← List.zipIdx_map_fst d.count (placed look d.text xs)] at hplaced
    obtain ⟨p, hp, hpx⟩ := List.mem_map.mp hplaced
    exact ⟨_, List.mem_map.mpr ⟨p, hp, rfl⟩, congrArg Prod.fst hpx⟩
  · intro a ha hax
    obtain ⟨p, hp, rfl⟩ := List.mem_map.mp ha
    obtain ⟨y, -, hy⟩ := List.mem_filterMap.mp (List.fst_mem_of_mem_zipIdx hp)
    obtain ⟨stop, hstop, hpair⟩ := Option.map_eq_some_iff.mp hy
    obtain rfl : y = x := (congrArg Prod.fst hpair).trans hax
    rw [hoffset] at hstop
    rw [decoration?_placed hd hp, ← hpair, Option.some.inj hstop]

/-- Diagnostics that speak of a line are shown at a place exactly if the line ends there. -/
theorem shown_at_iff {d : Document} (hd : d.Tidy) (n : Nat) (look : Text) {xs : List Diagnostic}
    {x : Diagnostic} (hx : x ∈ xs) {offset : Nat}
    (hoffset : Document.lineEnd? d.text x.line.val = some offset) (place : Nat) :
    let drawn := render n look xs d
    (∀ a ∈ drawn.2, a.diagnostic = x →
        drawn.1.decoration? a.mark.number = some ⟨.whole place, note x, look, true⟩)
      ↔ offset = place := by
  intro drawn
  obtain ⟨⟨a, ha, hax⟩, hall⟩ := shown_at_lineEnd hd n look hx hoffset
  constructor
  · intro h
    have hsame := (hall a ha hax).symm.trans (h a ha hax)
    injection hsame with hsame
    injection hsame with hsame
    injection hsame
  · rintro rfl
    exact hall

end Annotation

namespace Document

open Text (foldNewlines withoutReturn)
open Annotation (render shown_at_iff shown_at_lineEnd)

/-- The lines of a document that is opened from a file are the fragments of the lines of the file.
A diagnostic that speaks of a line of the file is shown, and it is shown at the end of what was read
of the file up to there exactly if no carriage return stands inside a line up to that one. -/
theorem opened_lines {t : FileTree} {cwd path : Path} {bytes : List UInt8} {s : Text}
    (hread : t.read cwd.names path.toText = .ok bytes) (hdecode : Utf8.decode bytes = .ok s) :
    ∃ d, ofFile t cwd path = .ok d ∧
      d.text = foldNewlines s ∧
      d.lines = (linesOf s).flatMap fragments ∧
      (d.lineCount = (linesOf s).length ↔ ∀ line ∈ linesOf s, '\r' ∉ withoutReturn line) ∧
      ∀ (n : Nat) (look : Text) (xs : List Diagnostic), ∀ x ∈ xs, ∀ stop,
        lineEnd? s x.line.val = some stop →
        let read := foldNewlines (withoutReturn (s.take stop))
        let drawn := render n look xs d
        d.text.take read.length = read ∧
          (∃ a ∈ drawn.2, a.diagnostic = x) ∧
          ((∀ a ∈ drawn.2, a.diagnostic = x →
              drawn.1.decoration? a.mark.number
                = some ⟨.whole read.length, '💡' :: ' ' :: x.message, look, true⟩) ↔
            ∀ line ∈ (linesOf s).take x.line.val, '\r' ∉ withoutReturn line) := by
  refine ⟨_, ofFile_eq hread hdecode, rfl, linesOf_foldNewlines s, ?_, ?_⟩
  · rw [lineCount_eq, ← length_fragments_eq_iff, ← linesOf_foldNewlines]
    exact Iff.rfl
  · intro n look xs x hx stop hstop read drawn
    have htidy := tidy_ofText (nameOf cwd [] (some path) 0) (some path) (foldNewlines s)
    obtain ⟨i, hi⟩ : ∃ i, x.line.val = i + 1 := ⟨_, (Nat.sub_add_cancel x.line.property).symm⟩
    rw [hi] at hstop
    obtain ⟨htake, offset, hoffset, hsame⟩ := lineEnd?_foldNewlines hstop
    rw [← hi] at hoffset hsame
    exact ⟨htake, (shown_at_lineEnd htidy n look hx hoffset).1,
      (shown_at_iff htidy n look hx hoffset read.length).trans hsame⟩

/-- A file with a carriage return at the end of its first line and one inside its second. -/
def returnsFile : FileTree :=
  ⟨[([['w']], .directory),
    ([['w'], ['a']], .file ⟨Utf8.encode "a\r\nb\rc\n".toList, .plain, none⟩)]⟩

theorem opened_lines_of_returnsFile :
    let x : Diagnostic := ⟨"./a".toList, ⟨1, by decide⟩, ⟨1, by decide⟩, ['m']⟩
    ∃ d, ofFile returnsFile ⟨.top, [['w']]⟩ ⟨.here, [['a']]⟩ = .ok d ∧
      d.lines = [['a'], ['b'], ['c']] ∧ d.lineCount ≠ 2 ∧
      ∃ a ∈ (render 0 [] [x] d).2, a.diagnostic = x ∧
        (render 0 [] [x] d).1.decoration? a.mark.number
          = some ⟨.whole 1, "💡 m".toList, [], true⟩ := by
  intro x
  have hread : returnsFile.read [['w']] (Path.toText ⟨.here, [['a']]⟩)
      = .ok (Utf8.encode "a\r\nb\rc\n".toList) := rfl
  obtain ⟨d, hd, -, hlines, hcount, hshown⟩ :=
    @opened_lines returnsFile ⟨.top, [['w']]⟩ ⟨.here, [['a']]⟩ _ _ hread (Utf8.decode_encode _)
  obtain ⟨-, ⟨a, ha, hax⟩, hplace⟩ := hshown 0 [] [x] x List.mem_cons_self 2 (by decide)
  refine ⟨d, hd, hlines.trans (by decide), fun htwo => ?_, a, ha, hax, ?_⟩
  · exact absurd (hcount.mp htwo) (by decide)
  · exact hplace.mpr (by decide) a ha hax

/-- A carriage return inside a line of a file ends a line of the document, so that there are more
lines, and what is said of a later line is shown at the end of an earlier one. -/
theorem return_inside_renumbers :
    let s := "a\rb\nc\n".toList
    let t : FileTree := ⟨[([['w']], .directory),
      ([['w'], ['a']], .file ⟨Utf8.encode s, .plain, none⟩)]⟩
    let x : Diagnostic := ⟨"./a".toList, ⟨2, by decide⟩, ⟨1, by decide⟩, ['m']⟩
    (linesOf s).length = 2 ∧ lineEnd? s 2 = some 5 ∧
      ∃ d, ofFile t ⟨.top, [['w']]⟩ ⟨.here, [['a']]⟩ = .ok d ∧
        d.text = "a\nb\nc\n".toList ∧ d.lineCount = 3 ∧
        (render 0 [] [x] d).1.attached
          = [(0, ⟨.whole 3, "💡 m".toList, [], true⟩)] := by
  intro s t x
  have hread : t.read [['w']] (Path.toText ⟨.here, [['a']]⟩) = .ok (Utf8.encode s) := rfl
  have hopen := @ofFile_eq t ⟨.top, [['w']]⟩ ⟨.here, [['a']]⟩ _ _ hread (Utf8.decode_encode s)
  exact ⟨by decide, by decide, _, hopen, by decide, by decide, by decide⟩

end Document

end Marginalia
