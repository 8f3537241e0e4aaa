import Marginalia.Document
import Marginalia.Proofs.Document.Ends

/-!
# Three views of the lines

A document is asked for the number of its lines, for the end of a line and for the lines themselves.
The first two answers come from where lines start and the third from cutting the text.
`line_views_agree` says that they are answers about the same lines, which end where the ends say and
nowhere else, and that nothing of the text is lost between them.
-/

namespace Marginalia.Document

theorem lineCount_eq (d : Document) : d.lineCount = d.lines.length :=
  countLines_eq d.text

theorem lineEnd_whole (d : Document) (n : Int) :
    d.lineEnd (.whole n) = match lineEnd? d.text n with
      | some offset => Except.ok offset
      | none => Except.error (Refusal.noLine (.whole n) d.lineCount) := rfl

theorem lineEnd_eq_ok_iff {d : Document} {n : Int} {stop : Nat} :
    d.lineEnd (.whole n) = .ok stop ↔ lineEnd? d.text n = some stop := by
  rw [lineEnd_whole]
  cases lineEnd? d.text n with
  | none => exact ⟨(nomatch ·), (nomatch ·)⟩
  | some offset =>
    exact ⟨fun h => congrArg some (Except.ok.inj h), fun h => congrArg _ (Option.some.inj h)⟩

/-- Ends are refused to lines that are not there, and to no others. -/
theorem lineEnd_eq_error_iff (d : Document) (n : Int) :
    d.lineEnd (.whole n) = .error (.noLine (.whole n) d.lineCount) ↔ n < 1 ∨ d.lineCount < n := by
  have hnone : lineEnd? d.text n = none ↔ n < 1 ∨ d.lineCount < n := by
    have hcount : d.lineCount = countLines d.text := rfl
    rw [← Option.not_isSome_iff_eq_none, lineEnd?_isSome_iff, hcount]
    omega
  rw [← hnone, lineEnd_whole]
  cases lineEnd? d.text n with
  | none => exact ⟨fun _ => rfl, fun _ => rfl⟩
  | some offset => exact ⟨(nomatch ·), (nomatch ·)⟩

/-- A line that is there has an end, and it is the text between the start and the end of it. -/
theorem exists_lineEnd {d : Document} {i : Nat} (hi : i < d.lineCount) :
    ∃ line stop, d.lines[i]? = some line ∧ d.lineEnd (.whole (i + 1 : Nat)) = .ok stop ∧
      line.length ≤ stop ∧ (d.text.take stop).drop (stop - line.length) = line := by
  rw [lineCount_eq] at hi
  obtain ⟨line, hline⟩ : ∃ line, d.lines[i]? = some line := ⟨_, List.getElem?_eq_getElem hi⟩
  have hstop : lineEnd? d.text (i + 1 : Nat)
      = some (['\n'].intercalate (d.lines.take (i + 1))).length :=
    lineEnd?_eq_some_iff.mpr ⟨hi, rfl⟩
  have hsuffix : line <:+ ['\n'].intercalate (d.lines.take (i + 1)) := by
    rw [List.take_add_one, hline]
    by_cases hfront : d.lines.take i = []
    · simp [hfront]
    · rw [intercalate_append hfront (by simp)]
      exact ⟨['\n'].intercalate (d.lines.take i) ++ ['\n'], by simp⟩
  refine ⟨line, _, hline, lineEnd_eq_ok_iff.mpr hstop, hsuffix.length_le, ?_⟩
  rw [take_lineEnd hstop]
  exact (List.suffix_iff_eq_drop.mp hsuffix).symm

theorem lineEnd_lt_lineEnd {d : Document} {m n : Int} {i j : Nat}
    (hm : d.lineEnd (.whole m) = .ok i) (hn : d.lineEnd (.whole n) = .ok j) (h : m < n) :
    i < j := by
  rw [lineEnd_eq_ok_iff] at hm hn
  have hone := (lineEnd?_isSome_iff.mp (Option.isSome_of_eq_some hm)).1
  obtain ⟨k, rfl⟩ : ∃ k : Nat, m = (k + 1 : Nat) := ⟨m.toNat - 1, by omega⟩
  obtain ⟨l, rfl⟩ : ∃ l : Nat, n = (l + 1 : Nat) := ⟨n.toNat - 1, by omega⟩
  rw [lineEnd?_succ] at hm hn
  obtain ⟨hk, rfl⟩ := List.getElem?_eq_some_iff.mp hm
  obtain ⟨hl, rfl⟩ := List.getElem?_eq_some_iff.mp hn
  exact List.pairwise_iff_getElem.mp (pairwise_lineEnds 0 _) k l hk hl (by omega)

/-- The number of lines, their ends and the lines themselves are about the same lines, and with a
newline between each two of them, and one more if the text ends with it, the lines are the text. -/
theorem line_views_agree (d : Document) :
    d.lines.length = d.lineCount ∧
    -- a line that is there lies in front of its end, where a newline or nothing follows
    (∀ i, i < d.lineCount → ∃ line stop,
      d.lines[i]? = some line ∧ d.lineEnd (.whole (i + 1 : Nat)) = .ok stop ∧
      stop ≤ d.text.length ∧ line.length ≤ stop ∧
      (d.text.take stop).drop (stop - line.length) = line ∧ '\n' ∉ line ∧
      (d.text[stop]? = some '\n' ∨ stop = d.text.length)) ∧
    -- later lines end later
    (∀ m n i j, d.lineEnd (.whole m) = .ok i → d.lineEnd (.whole n) = .ok j → m < n → i < j) ∧
    -- every other line has no end
    (∀ n, d.lineEnd (.whole n) = .error (.noLine (.whole n) d.lineCount) ↔
      n < 1 ∨ d.lineCount < n) ∧
    ['\n'].intercalate d.lines ++ (if d.text.getLast? = some '\n' then ['\n'] else [])
      = d.text := by
  refine ⟨d.lineCount_eq.symm, fun i hi => ?_, fun m n i j => lineEnd_lt_lineEnd,
    d.lineEnd_eq_error_iff, intercalate_linesOf d.text⟩
  obtain ⟨line, stop, hline, hstop, hle, hcut⟩ := exists_lineEnd hi
  obtain ⟨hrange, hends, -⟩ := endsLine_lineEnd (lineEnd_eq_ok_iff.mp hstop)
  refine ⟨line, stop, hline, hstop, hrange, hle, hcut,
    newline_notMem_of_mem_linesOf (List.mem_of_getElem? hline), ?_⟩
  rcases hends with hnewline | ⟨hnil, -, -⟩
  · rw [List.head?_drop] at hnewline
    exact .inl hnewline
  · have := List.drop_eq_nil_iff.mp hnil
    exact .inr (by omega)

end Marginalia.Document
