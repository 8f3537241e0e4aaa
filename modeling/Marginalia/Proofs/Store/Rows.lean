import Mathlib.Algebra.BigOperators.Group.List.Basic
import Mathlib.Algebra.GroupWithZero.Nat
import Marginalia.Proofs.Document.Views
import Marginalia.Proofs.Store.Swap

/-!
# Rows of a document

A host reads a document row by row: a row is a line and the notes at its end.  Diagnostics are shown
by decorations at the ends of their lines, and rows find decorations by position, so it takes
`Document.lineEnd?_inj` to know that a diagnostic is read in one row and in no other.
`rows_show_diagnostics` is the result: whatever the text is and whatever is attached to it already,
each diagnostic of a line that there is shows up once, in the row of that line, after the notes that
were there before and in the order of the diagnostics.
-/

namespace Marginalia

open Annotation (isPlaced note numbered placed placed?)

/-! ## Reading rows -/

namespace Document

theorem annotatedAt_eq (d : Document) (stops : List Nat) (lines : List Text)
    (h : lines.length ≤ stops.length) :
    d.annotatedAt stops lines
      = .ok (List.zipWith (fun line stop => (line, d.notesAt stop)) lines stops) := by
  induction lines generalizing stops with
  | nil => cases stops <;> rfl
  | cons line rest ih =>
    cases stops with
    | nil => cases h
    | cons stop stops =>
      have hrest := ih stops (Nat.le_of_succ_le_succ h)
      simp only [annotatedAt, hrest, List.zipWith_cons_cons]
      rfl

/-- The rows of a document: each line with the notes at its end. -/
def rows (d : Document) : List (Text × List Text) :=
  List.zipWith (fun line stop => (line, d.notesAt stop)) d.lines (lineEnds 0 d.lines)

theorem annotated_lines (d : Document) : d.annotated d.lines = .ok d.rows :=
  d.annotatedAt_eq _ _ (by simp)

@[simp] theorem length_rows (d : Document) : d.rows.length = d.lineCount := by
  simp [rows, lineCount_eq]

theorem getElem?_rows {d : Document} {i : Nat} (hi : i < d.lineCount) :
    ∃ line stop, d.lines[i]? = some line ∧ lineEnd? d.text (i + 1 : Nat) = some stop ∧
      d.rows[i]? = some (line, d.notesAt stop) := by
  rw [lineCount_eq] at hi
  have hline : d.lines[i]? = some (d.lines.get ⟨i, hi⟩) := List.getElem?_eq_getElem hi
  obtain ⟨stop, hstop⟩ : ∃ stop, (lineEnds 0 d.lines)[i]? = some stop :=
    ⟨_, List.getElem?_eq_getElem (by simpa using hi)⟩
  exact ⟨_, stop, hline, (lineEnd?_succ d.text i).trans hstop,
    by simp [rows, List.getElem?_zipWith, hline, hstop]⟩

/-- Notes are counted by the ends at which they stand. -/
theorem map_length_rows (d : Document) :
    d.rows.map (fun row => row.2.length)
      = (lineEnds 0 d.lines).map fun stop => (d.notesAt stop).length := by
  apply List.ext_getElem?
  intro i
  by_cases hi : i < d.lineCount
  · obtain ⟨line, stop, -, hstop, hrow⟩ := getElem?_rows hi
    have hstop : (lineEnds 0 d.lines)[i]? = some stop := (lineEnd?_succ d.text i).symm.trans hstop
    simp [hrow, hstop]
  · have hrow : d.rows[i]? = none := by simpa using hi
    have hstop : (lineEnds 0 d.lines)[i]? = none := by simpa [lineCount_eq] using hi
    simp [hrow, hstop]

theorem notesAt_attachAll (d : Document) (fresh : List Decoration) (stop : Nat) :
    (d.attachAll fresh).notesAt stop =
      d.notesAt stop ++ (fresh.filter fun x => x.offset.isAt stop).map Decoration.text := by
  have hfresh : (((fresh.zipIdx d.count).map fun p => (p.2, p.1)).filter
      fun entry : Nat × Decoration => entry.2.offset.isAt stop).map (fun entry => entry.2.text)
      = (fresh.filter fun x => x.offset.isAt stop).map Decoration.text := by
    generalize d.count = start
    induction fresh generalizing start with
    | nil => rfl
    | cons x rest ih =>
      by_cases hx : x.offset.isAt stop = true
      · simp [hx, ih]
      · simp [hx, ih]
  simp only [notesAt, attachAll, List.filter_append, List.map_append, hfresh]

end Document

/-! ## Diagnostics in rows -/

namespace Annotation

/-- The diagnostics that are shown are those of lines that there are. -/
theorem map_fst_placed (look : Text) (d : Document) (xs : List Diagnostic) :
    (placed look d.text xs).map Prod.fst = xs.filter (isPlaced d) := by
  induction xs with
  | nil => rfl
  | cons x rest ih =>
    have hx := isPlaced_iff d x
    cases hend : Document.lineEnd? d.text x.line.val with
    | none =>
      have hnot : isPlaced d x = false := by simpa [hend] using hx
      simpa [placed, placed?, hend, hnot] using ih
    | some stop =>
      have hplaced : isPlaced d x = true := hx.mpr ⟨stop, hend⟩
      simpa [placed, placed?, hend, hplaced] using ih

theorem map_diagnostic_numbered (n start : Nat) (ps : List (Diagnostic × Decoration)) :
    (numbered n start ps).map Annotation.diagnostic = ps.map Prod.fst := by
  induction ps generalizing start with
  | nil => rfl
  | cons p rest ih => simpa [numbered] using ih (start + 1)

/-- At the end of a line stand the notes of the diagnostics of that line and no others. -/
theorem notes_placed (look : Text) {text : Text} {i stop : Nat}
    (hstop : Document.lineEnd? text (i + 1 : Nat) = some stop) (xs : List Diagnostic) :
    (((placed look text xs).map Prod.snd).filter fun x => x.offset.isAt stop).map Decoration.text
      = (xs.filter fun x => x.line.val = i + 1).map note := by
  induction xs with
  | nil => rfl
  | cons x rest ih =>
    obtain ⟨j, hj⟩ : ∃ j, x.line.val = j + 1 := ⟨x.line.val - 1, by have := x.line.property; omega⟩
    cases hend : Document.lineEnd? text x.line.val with
    | none =>
      have hne : ¬ x.line.val = i + 1 := by
        intro heq
        rw [heq, hstop] at hend
        cases hend
      simpa [placed, placed?, hend, hne] using ih
    | some stop' =>
      have hiff : stop' = stop ↔ x.line.val = i + 1 := by
        constructor
        · rintro rfl
          rw [hj] at hend ⊢
          rw [Document.lineEnd?_inj hend hstop]
        · intro heq
          rw [heq, hstop] at hend
          exact (Option.some.inj hend).symm
      have hat : (Anchor.whole stop').isAt stop = decide (x.line.val = i + 1) := by
        rw [Bool.eq_iff_iff]
        simpa [Anchor.isAt] using hiff
      simp only [placed, placed?, List.filterMap_cons, hend, Option.map_some, List.map_cons,
        List.filter_cons, hat] at ih ⊢
      split
      · simpa using ih
      · exact ih

theorem map_length_placed (look text : Text) (xs : List Diagnostic) :
    ((Document.lineEnds 0 (Document.linesOf text)).map fun stop =>
        (((placed look text xs).map Prod.snd).filter fun x => x.offset.isAt stop).length)
      = (List.range (Document.countLines text)).map fun i =>
          (xs.filter fun x => x.line.val = i + 1).length := by
  rw [Document.countLines_eq]
  apply List.ext_getElem?
  intro i
  rw [List.getElem?_map, List.getElem?_map]
  by_cases hi : i < (Document.linesOf text).length
  · obtain ⟨stop, hstop⟩ : ∃ stop, (Document.lineEnds 0 (Document.linesOf text))[i]? = some stop :=
      ⟨_, List.getElem?_eq_getElem (by simpa using hi)⟩
    have hnotes := notes_placed look ((Document.lineEnd?_succ text i).trans hstop) xs
    have hlength := congrArg List.length hnotes
    simp only [List.length_map] at hlength
    rw [hstop, List.getElem?_range hi, Option.map_some, Option.map_some, hlength]
  · simp [hi]

/-- Each annotation has its decoration at the end of its line. -/
theorem forall₂_numbered (look : Text) (d : Document) (n start : Nat) (xs : List Diagnostic) :
    List.Forall₂ (fun (a : Annotation) (entry : Nat × Decoration) =>
        a.mark = ⟨n, entry.1⟩ ∧ ∃ stop, d.lineEnd (.whole a.diagnostic.line.val) = .ok stop ∧
          entry.2 = ⟨.whole stop, note a.diagnostic, look, true⟩)
      (numbered n start (placed look d.text xs))
      ((((placed look d.text xs).map Prod.snd).zipIdx start).map fun p => (p.2, p.1)) := by
  induction xs generalizing start with
  | nil => exact .nil
  | cons x rest ih =>
    cases hend : Document.lineEnd? d.text x.line.val with
    | none => simpa [placed, placed?, hend, numbered] using ih start
    | some stop =>
      have hrest := ih (start + 1)
      simp only [placed, numbered] at hrest ⊢
      simp only [List.filterMap_cons, placed?, hend, Option.map_some, List.zipIdx_cons,
        List.map_cons]
      exact .cons ⟨rfl, stop, Document.lineEnd_eq_ok_iff.mpr hend, rfl⟩ hrest

/-- The diagnostics of the first `count` lines, counted line by line. -/
theorem sum_length_filter_line (xs : List Diagnostic) (count : Nat) :
    ((List.range count).map fun i => (xs.filter fun x => x.line.val = i + 1).length).sum
      = (xs.filter fun x => x.line.val ≤ count).length := by
  induction count with
  | zero =>
    have hnone : (xs.filter fun x => decide (x.line.val ≤ 0)) = [] := by
      rw [List.filter_eq_nil_iff]
      intro x _
      have := x.line.property
      simp only [decide_eq_true_eq]
      omega
    rw [hnone]
    rfl
  | succ count ih =>
    rw [List.range_succ, List.map_append, List.sum_append, ih]
    clear ih
    induction xs with
    | nil => rfl
    | cons x rest ih =>
      simp only [List.map_cons, List.map_nil, List.sum_cons, List.sum_nil, Nat.add_zero] at ih ⊢
      rcases Nat.lt_trichotomy x.line.val (count + 1) with h | h | h
      · have hne : ¬ x.line.val = count + 1 := by omega
        have hle : x.line.val ≤ count := by omega
        have hle' : x.line.val ≤ count + 1 := by omega
        simp [hne, hle, hle', ← ih]
        omega
      · have hle : ¬ x.line.val ≤ count := by omega
        have hle' : x.line.val ≤ count + 1 := by omega
        simp [h, ← ih]
        omega
      · have hne : ¬ x.line.val = count + 1 := by omega
        have hle : ¬ x.line.val ≤ count := by omega
        have hle' : ¬ x.line.val ≤ count + 1 := by omega
        simp [hne, hle, hle', ← ih]

end Annotation

open Annotation (forall₂_numbered map_diagnostic_numbered map_fst_placed map_length_placed
  notes_placed sum_length_filter_line)

/-! ## Every diagnostic in its row -/

/-- Whatever a document holds and whatever is attached to it, diagnostics can be shown in it and its
rows can be read, and each diagnostic of a line that there is stands in the row of that line, as a
light bulb, a space and its message. -/
theorem rows_show_diagnostics {docs : Documents} {n : Nat} {d : Document} {style : Style}
    {look : Text} (hd : (docs : List Document)[n]? = some d) (hlook : style.toText? = some look)
    (xs : List Diagnostic) :
    ∃ docs' batch d' fresh before rows,
      Store.render docs n style xs = .ok (docs', batch) ∧
      (docs' : List Document)[n]? = some d' ∧
      d.annotated d.lines = .ok before ∧ d'.annotated d'.lines = .ok rows ∧
      -- one annotation for each diagnostic of a line that there is, in order and at its end
      batch.map Annotation.diagnostic = xs.filter (isPlaced d) ∧
      d'.attached = d.attached ++ fresh ∧
      List.Forall₂ (fun (a : Annotation) (entry : Nat × Decoration) =>
        a.mark = ⟨n, entry.1⟩ ∧ ∃ stop, d.lineEnd (.whole a.diagnostic.line.val) = .ok stop ∧
          entry.2 = ⟨.whole stop, '💡' :: ' ' :: a.diagnostic.message, look, true⟩) batch fresh ∧
      -- one row for each line, with what was there before and then what is new
      rows.length = d.lineCount ∧
      (∀ i, i < d.lineCount → ∃ line stop,
        d.lines[i]? = some line ∧ d.lineEnd (.whole (i + 1 : Nat)) = .ok stop ∧
        d.text.take stop = ['\n'].intercalate (d.lines.take (i + 1)) ∧
        let old := (d.attached.filter fun entry => entry.2.offset.isAt stop).map (·.2.text)
        before[i]? = some (line, old) ∧
        rows[i]? = some (line, old ++ (xs.filter fun x => x.line.val = i + 1).map fun x =>
          '💡' :: ' ' :: x.message)) ∧
      -- nothing is shown twice
      (rows.map fun row => row.2.length).sum
        = (before.map fun row => row.2.length).sum + (xs.filter (isPlaced d)).length := by
  let fresh := (placed look d.text xs).map Prod.snd
  let d' := d.attachAll fresh
  have hlt : n < docs.length := (List.getElem?_eq_some_iff.mp hd).1
  have hrender : Store.render docs n style xs
      = .ok (List.set docs n d', numbered n d.count (placed look d.text xs)) := by
    simp only [Store.render, hd, hlook, Annotation.render_eq]
    rfl
  -- the new notes at the end of a line are those of its diagnostics
  have hnotes : ∀ i stop, Document.lineEnd? d.text (i + 1 : Nat) = some stop →
      d'.notesAt stop = d.notesAt stop ++ (xs.filter fun x => x.line.val = i + 1).map note := by
    intro i stop hstop
    rw [Document.notesAt_attachAll, notes_placed look hstop]
  refine ⟨_, _, d', _, _, _, hrender, List.getElem?_set_self hlt, d.annotated_lines,
    d'.annotated_lines, ?_, rfl, forall₂_numbered look d n d.count xs, ?_, ?_, ?_⟩
  · rw [map_diagnostic_numbered, map_fst_placed]
  · exact d'.length_rows
  · intro i hi
    obtain ⟨line, stop, hline, hstop, hbefore⟩ := Document.getElem?_rows hi
    obtain ⟨line', stop', hline', hstop', hrow⟩ := Document.getElem?_rows (d := d') hi
    cases hline.symm.trans hline'
    cases hstop.symm.trans hstop'
    exact ⟨line, stop, hline, Document.lineEnd_eq_ok_iff.mpr hstop, Document.take_lineEnd hstop,
      hbefore, (hnotes i stop hstop) ▸ hrow⟩
  · have hlength : ∀ stop, (d'.notesAt stop).length
        = (d.notesAt stop).length + (fresh.filter fun x => x.offset.isAt stop).length := by
      intro stop
      rw [Document.notesAt_attachAll, List.length_append, List.length_map]
    have hcount : (xs.filter (isPlaced d)).length
        = ((Document.lineEnds 0 d.lines).map fun stop =>
            (fresh.filter fun x => x.offset.isAt stop).length).sum :=
      ((congrArg List.sum (map_length_placed look d.text xs)).trans
        (sum_length_filter_line xs d.lineCount)).symm
    rw [Document.map_length_rows, Document.map_length_rows, hcount, ← List.sum_map_add]
    exact congrArg List.sum (List.map_congr_left fun stop _ => hlength stop)

/-- A document of three lines with a decoration at the end of the empty one. -/
def emptyInside : Document :=
  (Document.ofText ['d'] none "a\n\nb\n".toList).attachAll [⟨.whole 2, ['n'], [], true⟩]

theorem rows_show_diagnostics_of_emptyInside :
    let xs : List Diagnostic :=
      [(1, "p"), (2, "q"), (8, "r"), (1, "s")].map fun (above, message) =>
        ⟨"./a.go".toList, ⟨above + 1, by omega⟩, ⟨1, by decide⟩, message.toList⟩
    ∃ (docs' : Documents) (batch : List Annotation) (d' : Document)
        (rows : List (Text × List Text)),
      Store.render [emptyInside] 0 .standard xs = .ok (docs', batch) ∧
      d'.annotated d'.lines = .ok rows ∧ rows.length = 3 ∧
      (rows.map fun row => row.2.length).sum = 1 + 3 := by
  intro xs
  obtain ⟨docs', batch, d', fresh, before, rows, hrender, -, hbefore, hrows, -, -, -, hlength, -,
    hsum⟩ := rows_show_diagnostics
      (show (([emptyInside] : Documents) : List Document)[0]? = some emptyInside from rfl)
      (show Style.standard.toText? = some "italic yellow".toList by decide) xs
  have heq : emptyInside.annotated emptyInside.lines
      = .ok [(['a'], []), ([], [['n']]), (['b'], [])] := rfl
  cases heq.symm.trans hbefore
  exact ⟨docs', batch, d', rows, hrender, hrows, hlength, hsum⟩

end Marginalia
