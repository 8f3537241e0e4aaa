import Mathlib.Data.List.Basic
import Marginalia.Proofs.Text.Fields
import Marginalia.Text.Numeral

/-!
# Whole numbers of all scripts

`Numeral` says which texts are numerals and what their digits are, and `WritesInteger` which texts
write a whole number: white space, perhaps a sign, a numeral, white space.  Neither a digit nor a
sign is white space, so there is one way only to cut a text like that, and the reader finds it
(`integer?_eq_some_iff`).
-/

namespace Marginalia.Text

/-! ## Numerals -/

theorem moreDigits_suffix (p : Char → Bool) (s : Text) : (moreDigits p s).2 <:+ s := by
  fun_induction moreDigits p s with
  | case1 c s _ digits rest hmore ih =>
    rw [hmore] at ih
    exact ih.trans (List.suffix_append ['_', c] s)
  | case2 => exact List.suffix_refl _
  | case3 c s _ _ digits rest hmore ih =>
    rw [hmore] at ih
    exact ih.trans (List.suffix_cons c s)
  | case4 => exact List.suffix_refl _
  | case5 => exact List.suffix_refl _

/-- A numeral and its digits: between two digits there may be an underscore. -/
inductive Numeral : Text → Text → Prop where
  /-- A digit is a numeral. -/
  | one {c : Char} : isDigit c = true → Numeral [c] [c]
  /-- A numeral may stand behind a digit. -/
  | next {c : Char} {s digits : Text} :
    isDigit c = true → Numeral s digits → Numeral (c :: s) (c :: digits)
  /-- A numeral may stand behind a digit and an underscore. -/
  | spaced {c : Char} {s digits : Text} :
    isDigit c = true → Numeral s digits → Numeral (c :: '_' :: s) (c :: digits)

theorem numeral_of_moreDigits {s digits : Text} (h : moreDigits isDigit s = (digits, [])) {c : Char}
    (hc : isDigit c = true) : Numeral (c :: s) (c :: digits) := by
  fun_induction moreDigits isDigit s generalizing digits c with
  | case1 d s hd more rest hmore ih =>
    cases h
    exact .spaced hc (ih hmore hd)
  | case2 => cases h
  | case3 d s _ hd more rest hmore ih =>
    cases h
    exact .next hc (ih hmore hd)
  | case4 => cases h
  | case5 =>
    cases h
    exact .one hc

/-- A run of digits goes on with what would start one, also behind an underscore. -/
theorem moreDigits_of_digitRun? {s digits rest : Text}
    (h : digitRun? isDigit s = some (digits, rest)) :
    moreDigits isDigit s = (digits, rest) ∧ moreDigits isDigit ('_' :: s) = (digits, rest) := by
  cases s with
  | nil => cases h
  | cons c s =>
    rw [digitRun?] at h
    split at h
    · next hc =>
      have hne : c ≠ '_' := by
        rintro rfl
        exact absurd hc (by decide)
      constructor
      · rw [moreDigits, if_pos hc]
        · exact Option.some.inj h
        · exact fun _ _ heq => absurd heq hne
      · rw [moreDigits, if_pos hc]
        exact Option.some.inj h
    · cases h

/-- What is read as a run of digits to its end is a numeral. -/
theorem digitRun?_eq_some_nil_iff {s digits : Text} :
    digitRun? isDigit s = some (digits, []) ↔ Numeral s digits := by
  constructor
  · intro h
    cases s with
    | nil => cases h
    | cons c s =>
      rw [digitRun?] at h
      split at h
      · next hc =>
        obtain ⟨hdigits, hrest⟩ := Prod.mk.inj (Option.some.inj h)
        exact hdigits ▸ numeral_of_moreDigits (Prod.ext rfl hrest) hc
      · cases h
  · intro h
    induction h with
    | one hc => simp [digitRun?, moreDigits, hc]
    | next hc _ ih => simp [digitRun?, (moreDigits_of_digitRun? ih).1, hc]
    | spaced hc _ ih => simp [digitRun?, (moreDigits_of_digitRun? ih).2, hc]

theorem Numeral.ne_nil {s digits : Text} (h : Numeral s digits) : s ≠ [] := by
  cases h with
  | one | next | spaced => exact List.cons_ne_nil _ _

/-- A numeral starts and ends with a digit. -/
theorem Numeral.isDigit_of_ends {s digits : Text} (h : Numeral s digits) {c : Char}
    (hc : s.head? = some c ∨ s.getLast? = some c) : isDigit c = true := by
  induction h with
  | one hd =>
    rcases hc with hc | hc
    · exact Option.some.inj hc ▸ hd
    · exact Option.some.inj hc ▸ hd
  | @next d s _ hd hs ih =>
    rcases hc with hc | hc
    · exact Option.some.inj hc ▸ hd
    · exact ih (.inr ((List.getLast?_append_of_ne_nil [d] hs.ne_nil).symm.trans hc))
  | @spaced d s _ hd hs ih =>
    rcases hc with hc | hc
    · exact Option.some.inj hc ▸ hd
    · exact ih (.inr ((List.getLast?_append_of_ne_nil [d, '_'] hs.ne_nil).symm.trans hc))

/-- A sign is taken off a text, if it starts with one. -/
theorem exists_sign_append (s : Text) : ∃ mark, s = mark ++ (sign s).2 ∧
    (((sign s).1 = true ∧ mark = ['-']) ∨ ((sign s).1 = false ∧ (mark = [] ∨ mark = ['+']))) := by
  unfold sign
  split
  · exact ⟨['-'], rfl, .inl ⟨rfl, rfl⟩⟩
  · exact ⟨['+'], rfl, .inr ⟨rfl, .inr rfl⟩⟩
  · exact ⟨[], rfl, .inr ⟨rfl, .inl rfl⟩⟩

/-- A digit is no sign. -/
theorem Numeral.sign_eq {s digits : Text} (h : Numeral s digits) : sign s = (false, s) := by
  have hhead : ∀ c, s.head? = some c → isDigit c = true := fun c hc => h.isDigit_of_ends (.inl hc)
  unfold sign
  split
  · exact absurd (hhead '-' rfl) (by decide)
  · exact absurd (hhead '+' rfl) (by decide)
  · rfl

/-! ## White space around a number -/

theorem toNat_of_isSpace {c : Char} (h : isSpace c = true) :
    c.toNat ∈ List.range' 9 5 ++ [0x20, 0x85, 0xA0, 0x1680] ++ List.range' 0x2000 11
      ++ [0x2028, 0x2029, 0x202F, 0x205F, 0x3000] := by
  simp only [isSpace, Bool.or_eq_true, Bool.and_eq_true, decide_eq_true_eq, beq_iff_eq] at h
  simp only [List.mem_append, List.mem_range'_1, List.mem_cons, List.not_mem_nil, or_false]
  omega

/-- A digit is no white space. -/
theorem isSpace_of_isDigit {c : Char} (h : isDigit c = true) : isSpace c = false := by
  rw [← Bool.not_eq_true]
  exact fun hspace => notMem_of_isDigit (by decide) h (toNat_of_isSpace hspace)

/-- Neither a numeral nor one behind a sign has white space at its ends. -/
theorem Numeral.isSpace_of_ends {mark s digits : Text} (h : Numeral s digits)
    (hmark : mark = ['-'] ∨ mark = [] ∨ mark = ['+']) {c : Char}
    (hc : (mark ++ s).head? = some c ∨ (mark ++ s).getLast? = some c) : isSpace c = false := by
  rcases hc with hc | hc
  · rcases hmark with rfl | rfl | rfl
    · exact Option.some.inj hc ▸ by decide
    · exact isSpace_of_isDigit (h.isDigit_of_ends (.inl hc))
    · exact Option.some.inj hc ▸ by decide
  · rw [List.getLast?_append_of_ne_nil _ h.ne_nil] at hc
    exact isSpace_of_isDigit (h.isDigit_of_ends (.inr hc))

theorem stripSpace_append {front core back : Text} (hfront : ∀ c ∈ front, isSpace c = true)
    (hback : ∀ c ∈ back, isSpace c = true) (hne : core ≠ [])
    (hcore : ∀ c, core.head? = some c ∨ core.getLast? = some c → isSpace c = false) :
    stripSpace (front ++ core ++ back) = core := by
  have hhead : ∀ c, (core ++ back).head? = some c → isSpace c = false := by
    intro c hc
    obtain ⟨d, s, rfl⟩ := List.exists_cons_of_ne_nil hne
    exact hcore c (.inl hc)
  rw [stripSpace, List.append_assoc, dropWhile_append hfront hhead, dropEndWhile_append hback,
    dropEndWhile, dropWhile_eq_self, List.reverse_reverse]
  intro c hc
  rw [List.head?_reverse] at hc
  exact hcore c (.inr hc)

/-! ## Numbers -/

/-- A text writes a whole number, with as many digits as a number may have.  Zeros in front count as
digits, underscores do not. -/
def WritesInteger (s : Text) (n : Int) : Prop :=
  ∃ front mark numeral back digits, s = front ++ (mark ++ numeral) ++ back ∧
    (∀ c ∈ front, isSpace c = true) ∧ (∀ c ∈ back, isSpace c = true) ∧
    Numeral numeral digits ∧ digits.length ≤ digitLimit ∧
    ((mark = ['-'] ∧ n = -(digitsValue digits : Int)) ∨
      ((mark = [] ∨ mark = ['+']) ∧ n = digitsValue digits))

/-- A text is read as the whole number that it writes. -/
theorem integer?_eq_some_iff {s : Text} {n : Int} : integer? s = some n ↔ WritesInteger s n := by
  constructor
  · intro h
    obtain ⟨front, back, hs, hfront, hback⟩ := exists_trim_append isSpace s
    obtain ⟨mark, hmark, hsign⟩ := exists_sign_append (stripSpace s)
    rw [integer?] at h
    generalize sign (stripSpace s) = signed at h hmark hsign
    obtain ⟨negative, numeral⟩ := signed
    simp only at h
    split at h
    · next digits hdigits =>
      obtain ⟨value, hvalue, hn⟩ := Option.map_eq_some_iff.mp h
      rw [readNumber?, Option.ite_none_right_eq_some] at hvalue
      obtain ⟨hlength, hvalue⟩ := hvalue
      cases hvalue
      refine ⟨front, mark, numeral, back, digits, ?_, hfront, hback,
        digitRun?_eq_some_nil_iff.mp hdigits, hlength, ?_⟩
      · rw [← hmark, List.append_assoc]
        exact hs
      · rcases hsign with ⟨rfl, rfl⟩ | ⟨rfl, hplus⟩
        · exact .inl ⟨rfl, hn.symm⟩
        · exact .inr ⟨hplus, hn.symm⟩
    · cases h
  · rintro ⟨front, mark, numeral, back, digits, rfl, hfront, hback, hnumeral, hlength, hn⟩
    have hstrip : stripSpace (front ++ (mark ++ numeral) ++ back) = mark ++ numeral := by
      have hne : mark ++ numeral ≠ [] := List.append_ne_nil_of_right_ne_nil _ hnumeral.ne_nil
      exact stripSpace_append hfront hback hne fun _ hc =>
        hnumeral.isSpace_of_ends (hn.imp And.left And.left) hc
    have hread : digitRun? isDigit numeral = some (digits, []) :=
      digitRun?_eq_some_nil_iff.mpr hnumeral
    rw [integer?, hstrip]
    rcases hn with ⟨rfl, rfl⟩ | ⟨rfl | rfl, rfl⟩
    · simp [sign, hread, readNumber?, hlength]
    · simp [hnumeral.sign_eq, hread, readNumber?, hlength]
    · simp [sign, hread, readNumber?, hlength]

end Marginalia.Text
