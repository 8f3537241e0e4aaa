import Marginalia.Text.Basic

/-!
# Cutting and joining

Cutting a text at a character and joining the pieces by it undo each other, as long as the character
stands in none of the pieces.  A text that is cut at several kinds of characters may be cut at one
of them first (`splitOnP_eq_flatMap`).
-/

namespace Marginalia.Text

theorem join_eq_intercalate (sep : Text) (pieces : List Text) :
    join sep pieces = sep.intercalate pieces := by
  induction pieces with
  | nil => rfl
  | cons piece rest ih =>
    cases rest with
    | nil => simp [join]
    | cons next rest =>
      rw [join, ih, List.intercalate_cons_cons]
      simp

theorem not_mem_of_mem_splitOn {sep : Char} {s piece : Text} (h : piece ∈ s.splitOn sep) :
    sep ∉ piece := by
  induction s generalizing piece with
  | nil =>
    rw [List.splitOn_nil, List.mem_singleton] at h
    simp [h]
  | cons c s ih =>
    rw [List.splitOn_cons_eq_if_modifyHead] at h
    by_cases hc : c = sep
    · simp only [hc, beq_self_eq_true, if_true, List.mem_cons] at h
      rcases h with rfl | h
      · simp
      · exact ih h
    · simp only [beq_iff_eq, hc, if_false] at h
      cases hs : s.splitOn sep with
      | nil => simp [hs] at h
      | cons first rest =>
        rw [hs, List.modifyHead_cons, List.mem_cons] at h
        rcases h with rfl | h
        · have hfirst : sep ∉ first := ih (by simp [hs])
          simpa [Ne.symm hc] using hfirst
        · exact ih (by simp [hs, h])

/-- There is one piece more than there are places to cut at. -/
theorem length_splitOn (sep : Char) (s : Text) : (s.splitOn sep).length = s.count sep + 1 := by
  induction s with
  | nil => simp
  | cons c s ih =>
    rw [List.splitOn_cons_eq_if_modifyHead, List.count_cons]
    split
    · rw [List.length_cons, ih]
    · rw [List.length_modifyHead, ih, Nat.add_zero]

theorem sublist_of_mem_splitOnP {p : Char → Bool} {s piece : Text} (h : piece ∈ s.splitOnP p) :
    piece.Sublist s := by
  induction s generalizing piece with
  | nil =>
    rw [List.splitOnP_nil, List.mem_singleton] at h
    exact h ▸ List.Sublist.refl _
  | cons c s ih =>
    rw [List.splitOnP_cons_eq_if_modifyHead] at h
    split at h
    · rcases List.mem_cons.mp h with rfl | h
      · exact List.nil_sublist _
      · exact (ih h).cons c
    · cases hs : s.splitOnP p with
      | nil => exact absurd hs (List.splitOnP_ne_nil _ _)
      | cons first rest =>
        rw [hs, List.modifyHead_cons] at h
        rw [hs] at ih
        rcases List.mem_cons.mp h with rfl | h
        · exact (ih List.mem_cons_self).cons_cons c
        · exact (ih (List.mem_cons_of_mem _ h)).cons c

theorem notMem_of_mem_splitOnP {p : Char → Bool} {s piece : Text} {c : Char} (hc : c ∉ s)
    (h : piece ∈ s.splitOnP p) : c ∉ piece :=
  fun hmem => hc ((sublist_of_mem_splitOnP h).subset hmem)

theorem mem_join {sep : Char} {pieces : List Text} {c : Char} (hc : c ≠ sep) :
    c ∈ join [sep] pieces ↔ ∃ piece ∈ pieces, c ∈ piece := by
  induction pieces with
  | nil => simp [join]
  | cons piece rest ih =>
    cases rest with
    | nil => simp [join]
    | cons next rest =>
      rw [join, List.mem_append, List.mem_append, ih]
      · simp [hc]
      · simp

/-- Cutting at one kind of character first changes nothing. -/
theorem splitOnP_eq_flatMap {p : Char → Bool} {a : Char} (ha : p a = true) (s : Text) :
    s.splitOnP p = (s.splitOn a).flatMap (List.splitOnP p) := by
  induction s with
  | nil => rfl
  | cons c s ih =>
    rw [List.splitOn, List.splitOnP_cons_eq_if_modifyHead, List.splitOnP_cons_eq_if_modifyHead]
    rw [List.splitOn] at ih
    cases hpieces : s.splitOnP (· == a) with
    | nil => exact absurd hpieces (List.splitOnP_ne_nil _ _)
    | cons piece pieces =>
      rw [hpieces, List.flatMap_cons] at ih
      by_cases hc : c = a
      · subst hc
        rw [if_pos ha, if_pos (beq_self_eq_true c), List.flatMap_cons, List.flatMap_cons, ih]
        rfl
      · have hne : ¬ (c == a) = true := by simpa using hc
        rw [if_neg hne, List.modifyHead_cons, List.flatMap_cons,
          List.splitOnP_cons_eq_if_modifyHead, ih]
        split
        · rfl
        · cases hfirst : piece.splitOnP p with
          | nil => exact absurd hfirst (List.splitOnP_ne_nil _ _)
          | cons => rfl

end Marginalia.Text
