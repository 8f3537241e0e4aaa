import Marginalia.Proofs.Text.Fields
import Marginalia.Proofs.Text.Pieces
import Marginalia.Text.Lines

/-!
# The lines of captured output

Captured output is cut at ten characters, of which the newline is one.  A reader that passes over
empty lines does not see that CR LF is one boundary, nor that a boundary at the end starts no line:
to it, the lines are the pieces between any two of the ten characters (`dropEmpty_splitLines`).

So a text may as well be cut at its newlines first, and each piece of it on its own
(`dropEmpty_splitLines_newlines`).  A piece that is whole is not cut further.
-/

namespace Marginalia.Text

/-- No character of a text ends a line. -/
def IsWhole (s : Text) : Prop :=
  ∀ c ∈ s, endsLine c = false

theorem toNat_of_endsLine {c : Char} (h : endsLine c = true) :
    c.toNat ∈ [10, 11, 12, 13, 28, 29, 30, 0x85, 0x2028, 0x2029] := by
  simp only [endsLine, Bool.or_eq_true, Bool.and_eq_true, decide_eq_true_eq, beq_iff_eq] at h
  simp only [List.mem_cons, List.not_mem_nil, or_false]
  omega

/-- A digit ends no line. -/
theorem endsLine_of_isDigit {c : Char} (h : isDigit c = true) : endsLine c = false := by
  rw [← Bool.not_eq_true]
  exact fun hends => notMem_of_isDigit (by decide) h (toNat_of_endsLine hends)

/-- The lines without the empty ones. -/
def dropEmpty (lines : List Text) : List Text :=
  lines.filter fun line => !line.isEmpty

instance (s : Text) : Decidable (IsWhole s) :=
  List.decidableBAll (fun c => endsLine c = false) s

theorem IsWhole.infix {s t : Text} (ht : IsWhole t) (h : s <:+: t) : IsWhole s :=
  fun c hc => ht c (h.subset hc)

theorem isWhole_cons {c : Char} {s : Text} :
    IsWhole (c :: s) ↔ endsLine c = false ∧ IsWhole s :=
  List.forall_mem_cons

theorem isWhole_append {s t : Text} : IsWhole (s ++ t) ↔ IsWhole s ∧ IsWhole t :=
  List.forall_mem_append

/-- A text that is not whole has a first line end. -/
theorem isWhole_or_exists_lineEnd (s : Text) :
    IsWhole s ∨ ∃ line c rest, s = line ++ c :: rest ∧ IsWhole line ∧ endsLine c = true := by
  cases hfind : s.find? endsLine with
  | none => exact .inl fun c hc => by simpa using List.find?_eq_none.mp hfind c hc
  | some c =>
    obtain ⟨hc, line, rest, rfl, hline⟩ := List.find?_eq_some_iff_append.mp hfind
    exact .inr ⟨line, c, rest, rfl, fun d hd => by simpa using hline d hd, hc⟩

@[simp] theorem dropEmpty_empty (lines : List Text) : dropEmpty ([] :: lines) = dropEmpty lines :=
  rfl

theorem dropEmpty_append (lines more : List Text) :
    dropEmpty (lines ++ more) = dropEmpty lines ++ dropEmpty more :=
  List.filter_append lines more

theorem dropEmpty_flatMap {α : Type} (f : α → List Text) (xs : List α) :
    dropEmpty (xs.flatMap f) = xs.flatMap fun x => dropEmpty (f x) :=
  List.filter_flatMap

/-- The first line is empty or not, whatever the others are. -/
theorem dropEmpty_eq (lines : List Text) :
    dropEmpty lines = dropEmpty [lines.headD []] ++ dropEmpty lines.tail := by
  cases lines with
  | nil => rfl
  | cons line lines => exact dropEmpty_append [line] lines

theorem dropEndWhile_eq_self {p : Char → Bool} {s : Text} (h : ∀ c ∈ s, p c = false) :
    dropEndWhile p s = s := by
  unfold dropEndWhile
  cases hs : s.reverse with
  | nil => rw [List.dropWhile_nil, ← hs, List.reverse_reverse]
  | cons c rest =>
    have hc : p c = false := h c (List.mem_reverse.mp (hs ▸ List.mem_cons_self))
    rw [List.dropWhile_cons, hc, ← List.reverse_reverse s, hs]
    rfl

theorem dropLineEnd_eq_self {s : Text} (hreturn : '\r' ∉ s) (hnewline : '\n' ∉ s) :
    dropLineEnd s = s := by
  refine dropEndWhile_eq_self fun c hc => ?_
  rw [Bool.or_eq_false_iff, decide_eq_false_iff_not, decide_eq_false_iff_not]
  constructor
  · rintro rfl
    exact hreturn hc
  · rintro rfl
    exact hnewline hc

theorem IsWhole.notMem {s : Text} (h : IsWhole s) {c : Char} (hc : endsLine c = true) : c ∉ s := by
  intro hmem
  rw [h c hmem] at hc
  cases hc

/-- A whole text has no line end to drop. -/
theorem dropLineEnd_of_isWhole {s : Text} (h : IsWhole s) : dropLineEnd s = s :=
  dropLineEnd_eq_self (h.notMem (by decide)) (h.notMem (by decide))

/-! ## Cutting -/

theorem isWhole_of_mem_splitLines {s line : Text} (h : line ∈ splitLines s) : IsWhole line := by
  fun_induction splitLines s generalizing line with
  | case1 => cases h
  | case2 s ih =>
    rcases List.mem_cons.mp h with rfl | h
    · exact fun c hc => nomatch hc
    · exact ih h
  | case3 c s _ hends ih =>
    rcases List.mem_cons.mp h with rfl | h
    · exact fun c hc => nomatch hc
    · exact ih h
  | case4 c s _ hends ih =>
    cases hlines : splitLines s with
    | nil =>
      rw [hlines] at h
      cases List.mem_singleton.mp h
      intro d hd
      cases List.mem_singleton.mp hd
      simpa using hends
    | cons first rest =>
      rw [hlines] at h ih
      rcases List.mem_cons.mp h with rfl | h
      · intro d hd
        rcases List.mem_cons.mp hd with rfl | hd
        · simpa using hends
        · exact ih List.mem_cons_self d hd
      · exact ih (List.mem_cons_of_mem _ h)

theorem headD_consLine (c : Char) (lines : List Text) :
    (consLine c lines).headD [] = c :: lines.headD [] := by
  cases lines <;> rfl

theorem tail_consLine (c : Char) (lines : List Text) : (consLine c lines).tail = lines.tail := by
  cases lines <;> rfl

/-- The induction goes along the text, so it has to keep the first line, which grows, apart from the
others. -/
theorem splitLines_parts (s : Text) :
    (splitLines s).headD [] = (s.splitOnP endsLine).headD [] ∧
      dropEmpty (splitLines s).tail = dropEmpty (s.splitOnP endsLine).tail := by
  fun_induction splitLines s with
  | case1 => exact ⟨rfl, rfl⟩
  | case2 s ih =>
    have hreturn : endsLine '\r' = true := by decide
    have hnewline : endsLine '\n' = true := by decide
    rw [List.splitOnP_cons_eq_if_modifyHead, if_pos hreturn, List.splitOnP_cons_eq_if_modifyHead,
      if_pos hnewline]
    refine ⟨rfl, ?_⟩
    rw [List.tail_cons, List.tail_cons, dropEmpty_empty, dropEmpty_eq, ih.1, ih.2, ← dropEmpty_eq]
  | case3 c s _ hends ih =>
    rw [List.splitOnP_cons_eq_if_modifyHead, if_pos hends]
    refine ⟨rfl, ?_⟩
    rw [List.tail_cons, List.tail_cons, dropEmpty_eq, ih.1, ih.2, ← dropEmpty_eq]
  | case4 c s _ hends ih =>
    rw [List.splitOnP_cons_eq_if_modifyHead, if_neg hends, headD_consLine, tail_consLine, ih.1,
      ih.2]
    cases hpieces : s.splitOnP endsLine with
    | nil => exact absurd hpieces (List.splitOnP_ne_nil _ _)
    | cons piece pieces => exact ⟨rfl, rfl⟩

theorem dropEmpty_splitLines (s : Text) :
    dropEmpty (splitLines s) = dropEmpty (s.splitOnP endsLine) := by
  obtain ⟨hhead, htail⟩ := splitLines_parts s
  rw [dropEmpty_eq, hhead, htail, ← dropEmpty_eq]

/-- A text that is whole is one line. -/
theorem dropEmpty_splitLines_of_isWhole {s : Text} (h : IsWhole s) :
    dropEmpty (splitLines s) = dropEmpty [s] := by
  rw [dropEmpty_splitLines, List.splitOnP_eq_singleton h]

/-- A text is cut at its first line end, and what is behind that on its own. -/
theorem dropEmpty_splitLines_append_cons {line rest : Text} {c : Char} (hline : IsWhole line)
    (hc : endsLine c = true) :
    dropEmpty (splitLines (line ++ c :: rest)) = dropEmpty (line :: rest.splitOnP endsLine) := by
  rw [dropEmpty_splitLines, List.splitOnP_append_cons_of_forall_mem hline c hc]

/-! ## Cutting at newlines first -/

/-- Apart from empty lines, a text is cut as its pieces between newlines are. -/
theorem dropEmpty_splitLines_newlines (s : Text) :
    dropEmpty (splitLines s) = dropEmpty ((s.splitOn '\n').flatMap splitLines) := by
  rw [dropEmpty_splitLines, splitOnP_eq_flatMap (show endsLine '\n' = true by decide),
    dropEmpty_flatMap, dropEmpty_flatMap]
  simp only [dropEmpty_splitLines]

end Marginalia.Text
