import Marginalia.Document.Lines
import Marginalia.Proofs.Text.Pieces

/-!
# Ends of lines and the text in front of them

The lines of a document, their number and their ends are three views of one text.  Lines are counted
and their ends are found by where lines start, and `lineStarts_eq` ties the starts to the lines that
the text is cut into, so that `countLines_eq` and `lineEnd?_succ` speak of those.

What ties ends to the text is `take_lineEnd`: the text in front of the end of a line is made of the
lines up to that one, with a newline between each two.  `pairwise_lineEnds` adds that ends increase,
so a position is the end of one line at most.
-/

namespace Marginalia.Document

/-! ## Joining lines -/

theorem intercalate_append {front back : List Text} (hf : front ≠ []) (hb : back ≠ []) :
    ['\n'].intercalate (front ++ back)
      = ['\n'].intercalate front ++ '\n' :: ['\n'].intercalate back := by
  induction front with
  | nil => exact absurd rfl hf
  | cons line rest ih =>
    cases rest with
    | nil =>
      cases back with
      | nil => exact absurd rfl hb
      | cons line' rest' => simp
    | cons line' rest' =>
      simp only [List.cons_append, List.intercalate_cons_cons] at ih ⊢
      simp [ih (by simp)]

/-- What a text is cut into: its lines, and one more piece if nothing stands behind the last
newline. -/
theorem exists_pieces (text : Text) :
    ∃ front last, text = ['\n'].intercalate (front ++ [last]) ∧ '\n' ∉ last ∧
      text.splitOn '\n' = front ++ [last] ∧
      linesOf text = if last = [] then front else front ++ [last] := by
  obtain ⟨front, last, hpieces⟩ : ∃ front last, text.splitOn '\n' = front ++ [last] :=
    ⟨_, _, (List.dropLast_concat_getLast (List.splitOnP_ne_nil (· == '\n') text)).symm⟩
  refine ⟨front, last, ?_, ?_, hpieces, by simp [linesOf, hpieces]⟩
  · rw [← hpieces, List.intercalate_splitOn]
  · exact Text.not_mem_of_mem_splitOn (s := text) (by simp [hpieces])

/-- A text is its lines with a newline between each two, and one more newline if it ends with
one. -/
theorem intercalate_linesOf (text : Text) :
    ['\n'].intercalate (linesOf text) ++ (if text.getLast? = some '\n' then ['\n'] else [])
      = text := by
  obtain ⟨front, last, htext, hlast, -, hlines⟩ := exists_pieces text
  rw [hlines]
  split
  · next hnil =>
    subst hnil
    cases front with
    | nil => simp [htext]
    | cons line rest =>
      rw [intercalate_append (by simp) (by simp)] at htext
      simp [htext]
  · next hne =>
    obtain ⟨init, c, rfl⟩ : ∃ init c, last = init ++ [c] :=
      ⟨_, _, (List.dropLast_concat_getLast hne).symm⟩
    have hc : c ≠ '\n' := by
      rintro rfl
      simp at hlast
    have hend : text.getLast? = some c := by
      rw [htext]
      cases front with
      | nil => simp
      | cons line rest =>
        rw [intercalate_append (by simp) (by simp), List.intercalate_singleton, ← List.cons_append,
          ← List.append_assoc, List.getLast?_concat]
    rw [hend, if_neg (by simpa using hc), List.append_nil, htext]

theorem newline_notMem_of_mem_linesOf {s line : Text} (h : line ∈ linesOf s) : '\n' ∉ line := by
  apply Text.not_mem_of_mem_splitOn (s := s)
  rw [linesOf] at h
  split at h
  · exact List.dropLast_subset _ h
  · exact h

/-! ## Ends -/

theorem getElem?_lineEnds (start : Nat) (lines : List Text) (i : Nat) :
    (lineEnds start lines)[i]? =
      if i < lines.length then some (start + (['\n'].intercalate (lines.take (i + 1))).length)
      else none := by
  induction lines generalizing start i with
  | nil => simp [lineEnds]
  | cons line rest ih =>
    cases i with
    | zero => simp [lineEnds]
    | succ i =>
      simp only [lineEnds, List.getElem?_cons_succ, ih, List.length_cons, Nat.add_lt_add_iff_right]
      split
      · next hi =>
        -- a further line lies in front of this end, so the newline between them counts
        cases rest with
        | nil => cases hi
        | cons line' rest' =>
          simp
          omega
      · rfl

/-- The last line ends where the text does. -/
theorem getLast?_lineEnds (start : Nat) {lines : List Text} (h : lines ≠ []) :
    (lineEnds start lines).getLast? = some (start + (['\n'].intercalate lines).length) := by
  have hlength : 0 < lines.length := List.length_pos_iff.mpr h
  rw [List.getLast?_eq_getElem?, getElem?_lineEnds, length_lineEnds, if_pos (by omega),
    Nat.sub_add_cancel hlength, List.take_length]

theorem dropLast_lineEnds (start : Nat) (lines : List Text) :
    (lineEnds start lines).dropLast = lineEnds start lines.dropLast := by
  induction lines generalizing start with
  | nil => rfl
  | cons line rest ih =>
    cases rest with
    | nil => rfl
    | cons next rest =>
      have hrest := ih (start + line.length + 1)
      exact congrArg ((start + line.length) :: ·) hrest

/-! ## Starts -/

/-- A newline stands behind the end of each piece but the last. -/
theorem behindNewlines_eq (start : Nat) (text : Text) :
    behindNewlines start text
      = (lineEnds start (text.splitOn '\n').dropLast).map (· + 1) := by
  rw [← dropLast_lineEnds]
  induction text generalizing start with
  | nil => rfl
  | cons c s ih =>
    obtain ⟨piece, pieces, hs⟩ := List.exists_cons_of_ne_nil (List.splitOnP_ne_nil (· == '\n') s)
    have hs : s.splitOn '\n' = piece :: pieces := hs
    rw [behindNewlines, List.splitOn_cons_eq_if_modifyHead, ih, hs]
    by_cases hc : c = '\n'
    · rw [if_pos hc, if_pos (beq_iff_eq.mpr hc)]
      rfl
    · rw [if_neg hc, if_neg (by simpa using hc), List.modifyHead_cons]
      cases pieces with
      | nil => rfl
      | cons next rest => simp [lineEnds, Nat.add_comm, Nat.add_left_comm]

/-- Each line but the first starts one behind the end of the line in front of it. -/
theorem lineStarts_eq {text : Text} (h : text ≠ []) :
    lineStarts text = 0 :: ((lineEnds 0 (linesOf text)).dropLast).map (· + 1) := by
  obtain ⟨front, last, htext, -, hpieces, hlines⟩ := exists_pieces text
  have hstarts : behindNewlines 0 text = (lineEnds 0 front).map (· + 1) := by
    rw [behindNewlines_eq, hpieces, List.dropLast_concat]
  rw [lineStarts, hstarts, hlines]
  cases hfront : front with
  | nil =>
    -- a single piece is not empty, since the text is not
    have hlast : last ≠ [] := by
      rintro rfl
      exact h (by simp [htext, hfront])
    simp [hlast, lineEnds]
  | cons line rest =>
    rw [← hfront]
    have hne : front ≠ [] := by simp [hfront]
    have hmap : (lineEnds 0 front).map (· + 1) ≠ [] := by simp [hfront, lineEnds]
    -- the newline behind the other pieces is the end of the text if the last piece is empty
    have hstart : (0 :: (lineEnds 0 front).map (· + 1)).getLast?
        = some ((['\n'].intercalate front).length + 1) := by
      rw [List.getLast?_cons, List.getLast?_map, getLast?_lineEnds 0 hne]
      simp
    have hlength : text.length = (['\n'].intercalate front).length + 1 + last.length := by
      rw [htext, intercalate_append hne (by simp)]
      simp
      omega
    have hcount : 1 < (0 :: (lineEnds 0 front).map (· + 1)).length := by
      simpa using List.length_pos_iff.mpr hne
    by_cases hlast : last = []
    · have hpopped : (0 :: (lineEnds 0 front).map (· + 1)).getLast? = some text.length := by
        rw [hstart, hlength, hlast]
        rfl
      rw [if_pos ⟨hpopped, hcount⟩, if_pos hlast, List.dropLast_cons_of_ne_nil hmap,
        List.map_dropLast]
    · have hkept : (0 :: (lineEnds 0 front).map (· + 1)).getLast? ≠ some text.length := by
        have hpos := List.length_pos_iff.mpr hlast
        rw [hstart, Ne, Option.some_inj]
        omega
      rw [if_neg fun h => hkept h.1, if_neg hlast, dropLast_lineEnds, List.dropLast_concat]

theorem linesOf_ne_nil {text : Text} (h : text ≠ []) : linesOf text ≠ [] := by
  obtain ⟨front, last, htext, -, -, hlines⟩ := exists_pieces text
  rw [hlines]
  split
  · next hlast =>
    rintro rfl
    exact h (by simp [htext, hlast])
  · simp

/-- Counting the starts counts the lines. -/
theorem countLines_eq (text : Text) : countLines text = (linesOf text).length := by
  rw [countLines]
  cases htext : text with
  | nil => rfl
  | cons c s =>
    have hlines := List.length_pos_iff.mpr (linesOf_ne_nil (List.cons_ne_nil c s))
    rw [lineStarts_eq (List.cons_ne_nil c s)]
    simp
    omega

theorem lineEnd?_succ (text : Text) (i : Nat) :
    lineEnd? text (i + 1 : Nat) = (lineEnds 0 (linesOf text))[i]? := by
  have hsome := @lineEnd?_isSome_iff text (i + 1 : Nat)
  rw [countLines_eq] at hsome
  by_cases hi : i < (linesOf text).length
  · have hne : text ≠ [] := by
      rintro rfl
      cases hi
    have hstarts : (lineStarts text).length = (linesOf text).length := by
      rw [← countLines_eq, countLines, if_neg (by simpa using hne)]
    have hline : ¬ (text.isEmpty || decide (((i + 1 : Nat) : Int) < 1)
        || decide (((lineStarts text).length : Int) < (i + 1 : Nat))) = true := by
      simp [hne, hstarts]
      omega
    rw [lineEnd?, if_neg hline, Int.toNat_natCast, lineStarts_eq hne, List.getElem?_cons_succ,
      List.getElem?_map, List.getElem?_dropLast, length_lineEnds]
    by_cases hlast : i < (linesOf text).length - 1
    · rw [if_pos hlast, getElem?_lineEnds, if_pos hi]
      rfl
    · have hall : (linesOf text).take (i + 1) = linesOf text :=
        List.take_of_length_le (by omega)
      have hlength := congrArg List.length (intercalate_linesOf text)
      rw [List.length_append] at hlength
      rw [if_neg hlast, getElem?_lineEnds, if_pos hi, hall]
      split at hlength
      · next hend =>
        simp only [Option.map_none, if_pos hend, List.length_singleton] at hlength ⊢
        rw [← hlength, Nat.add_sub_cancel, Nat.zero_add]
      · next hend =>
        simp only [Option.map_none, if_neg hend, List.length_nil] at hlength ⊢
        rw [← hlength, Nat.add_zero, Nat.zero_add]
  · have hnone : lineEnd? text (i + 1 : Nat) = none := by
      rw [← Option.not_isSome_iff_eq_none, hsome]
      omega
    rw [hnone, getElem?_lineEnds, if_neg hi]

theorem lineEnd?_eq_some_iff {text : Text} {i stop : Nat} :
    lineEnd? text (i + 1 : Nat) = some stop ↔
      i < (linesOf text).length ∧
        stop = (['\n'].intercalate ((linesOf text).take (i + 1))).length := by
  rw [lineEnd?_succ, getElem?_lineEnds]
  split
  · next h => simp [h, eq_comm]
  · next h => simp [h]

/-- A line ends between two parts of a text: a newline follows, or the text is over, and it is not
over in the same place as the line before. -/
def EndsLine (front back : Text) : Prop :=
  back.head? = some '\n' ∨ back = [] ∧ front ≠ [] ∧ front.getLast? ≠ some '\n'

/-- The text is made of the lines up to the end of one of them, and of what follows there. -/
theorem exists_back {text : Text} {i : Nat} (hi : i < (linesOf text).length) :
    ∃ back, text = ['\n'].intercalate ((linesOf text).take (i + 1)) ++ back ∧
      EndsLine (['\n'].intercalate ((linesOf text).take (i + 1))) back := by
  have htext := intercalate_linesOf text
  have hlines := List.take_append_drop (i + 1) (linesOf text)
  cases hdrop : (linesOf text).drop (i + 1) with
  | nil =>
    rw [hdrop, List.append_nil] at hlines
    rw [hlines]
    refine ⟨_, htext.symm, ?_⟩
    split at htext
    · next hend => exact .inl (by rw [if_pos hend]; rfl)
    · next hend =>
      rw [List.append_nil] at htext
      rw [htext, if_neg hend]
      refine .inr ⟨rfl, ?_, hend⟩
      rintro rfl
      cases hi
  | cons line rest =>
    rw [hdrop] at hlines
    have hfront : (linesOf text).take (i + 1) ≠ [] := by
      intro hnil
      rw [hnil, List.nil_append] at hlines
      rw [← hlines, List.take_succ_cons] at hnil
      cases hnil
    rw [← hlines, intercalate_append hfront (List.cons_ne_nil _ _), List.append_assoc,
      List.cons_append] at htext
    exact ⟨_, htext.symm, .inl rfl⟩

/-- The text in front of the end of a line is made of the lines up to that one. -/
theorem take_lineEnd {text : Text} {i stop : Nat} (h : lineEnd? text (i + 1 : Nat) = some stop) :
    text.take stop = ['\n'].intercalate ((linesOf text).take (i + 1)) := by
  obtain ⟨hi, rfl⟩ := lineEnd?_eq_some_iff.mp h
  obtain ⟨back, htext, -⟩ := exists_back hi
  exact (List.prefix_iff_eq_take.mp ⟨back, htext.symm⟩).symm

theorem count_intercalate {lines : List Text} (hne : lines ≠ [])
    (h : ∀ line ∈ lines, '\n' ∉ line) :
    (['\n'].intercalate lines).count '\n' + 1 = lines.length := by
  rw [← Text.length_splitOn, List.splitOn_intercalate '\n' h hne]

/-- A line ends at its end, and as many newlines stand in front of it as there are lines in front of
the line. -/
theorem endsLine_lineEnd {text : Text} {i stop : Nat}
    (h : lineEnd? text (i + 1 : Nat) = some stop) :
    stop ≤ text.length ∧ EndsLine (text.take stop) (text.drop stop) ∧
      (text.take stop).count '\n' = i := by
  have hi := (lineEnd?_eq_some_iff.mp h).1
  obtain ⟨back, htext, hends⟩ := exists_back hi
  have hstop := (lineEnd?_eq_some_iff.mp h).2
  have hle : stop ≤ text.length := by
    rw [htext, List.length_append, hstop]
    exact Nat.le_add_right _ _
  have htake := take_lineEnd h
  have hdrop : text.drop stop = back := by
    have hboth := List.take_append_drop stop text
    rw [htake] at hboth
    exact List.append_cancel_left (hboth.trans htext)
  have hlength : ((linesOf text).take (i + 1)).length = i + 1 := List.length_take_of_le hi
  have hcount := count_intercalate (List.ne_nil_of_length_eq_add_one hlength) fun line hline =>
    newline_notMem_of_mem_linesOf (List.mem_of_mem_take hline)
  rw [htake, hdrop]
  exact ⟨hle, hends, by omega⟩

/-- Where a line ends, the line ends whose number is that of the newlines in front. -/
theorem lineEnd?_of_endsLine {front back : Text} (h : EndsLine front back) :
    lineEnd? (front ++ back) (front.count '\n' + 1 : Nat) = some front.length := by
  rw [lineEnd?_eq_some_iff]
  have hlength := Text.length_splitOn '\n' front
  -- the lines of the front are all whole
  have hlines : ∃ more, linesOf (front ++ back) = front.splitOn '\n' ++ more := by
    rcases h with hnewline | ⟨rfl, hne, hend⟩
    · obtain ⟨rest, rfl⟩ := List.head?_eq_some_iff.mp hnewline
      have hsplit : (front ++ '\n' :: rest).splitOn '\n'
          = front.splitOn '\n' ++ rest.splitOn '\n' :=
        List.splitOnP_append_cons front rest (beq_self_eq_true '\n')
      have hrest : rest.splitOn '\n' ≠ [] := List.splitOnP_ne_nil _ _
      simp only [linesOf, hsplit]
      split
      · exact ⟨_, List.dropLast_append_of_ne_nil hrest⟩
      · exact ⟨_, rfl⟩
    · -- the last piece is a line of its own, since no newline stands at the end
      obtain ⟨init, last, htext, -, hsplit, hlast⟩ := exists_pieces front
      refine ⟨[], ?_⟩
      rw [List.append_nil, List.append_nil, hlast, hsplit, if_neg]
      rintro rfl
      cases init with
      | nil => exact hne htext
      | cons line rest =>
        rw [intercalate_append (List.cons_ne_nil _ _) (List.cons_ne_nil _ _)] at htext
        exact hend (htext ▸ List.getLast?_concat)
  obtain ⟨more, hmore⟩ := hlines
  rw [hmore, List.length_append, List.take_append_of_le_length (by omega),
    List.take_of_length_le (by omega), List.intercalate_splitOn]
  exact ⟨by omega, rfl⟩

theorem le_of_mem_lineEnds {start stop : Nat} {lines : List Text}
    (h : stop ∈ lineEnds start lines) : start ≤ stop := by
  induction lines generalizing start with
  | nil => cases h
  | cons line rest ih =>
    rcases List.mem_cons.mp h with rfl | h
    · omega
    · have := ih h
      omega

/-- The end of a line lies in front of the ends of all later lines. -/
theorem pairwise_lineEnds (start : Nat) (lines : List Text) :
    (lineEnds start lines).Pairwise (· < ·) := by
  induction lines generalizing start with
  | nil => exact .nil
  | cons line rest ih =>
    refine .cons (fun stop hstop => ?_) (ih _)
    have := le_of_mem_lineEnds hstop
    omega

/-- No two lines have the same end. -/
theorem lineEnd?_inj {text : Text} {i j stop : Nat}
    (hi : lineEnd? text (i + 1 : Nat) = some stop)
    (hj : lineEnd? text (j + 1 : Nat) = some stop) : i = j := by
  rw [lineEnd?_succ] at hi hj
  have hnodup : (lineEnds 0 (linesOf text)).Nodup :=
    (pairwise_lineEnds 0 (linesOf text)).imp Nat.ne_of_lt
  exact (List.getElem?_inj (List.getElem?_eq_some_iff.mp hi).1 hnodup).mp (hi.trans hj.symm)

end Marginalia.Document
