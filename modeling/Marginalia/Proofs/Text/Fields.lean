import Mathlib.Algebra.GroupWithZero.Nat
import Mathlib.Data.List.TakeWhile
import Marginalia.Text.Blank
import Marginalia.Text.Digit

/-!
# Numbers and messages in a line

A number is written in the digits `0` to `9`, and they read back as the number
(`digitsValue_ofNat`).  Digits of other scripts, or zeros in front, only make a number longer than
it has to be (`length_ofNat_digitsValue`).

The blanks at the ends of a message are dropped once and for all (`strip_strip`).
-/

namespace Marginalia.Text

/-! ## Numbers -/

theorem digitValue?_of_isDigit {c : Char} (h : c.isDigit = true) :
    digitValue? c = some (c.toNat - '0'.toNat) := by
  have hrange : 0x30 ≤ c.toNat ∧ c.toNat < 0x30 + 10 := by
    simp only [Char.isDigit, Bool.and_eq_true, decide_eq_true_eq, ge_iff_le, UInt32.le_iff_toNat_le]
      at h
    have hlow : 0x30 ≤ c.toNat := h.1
    have hhigh : c.toNat ≤ 0x39 := h.2
    omega
  have hfind : (zeros.find? fun z => z ≤ c.toNat && c.toNat < z + 10) = some 0x30 := by
    rw [zeros, List.find?_cons_of_pos (by simpa using hrange)]
  rw [digitValue?, hfind]
  rfl

theorem isDigit_of_mem_ofNat {n : Nat} {c : Char} (h : c ∈ ofNat n) : isDigit c = true := by
  rw [isDigit, digitValue?_of_isDigit (Nat.isDigit_of_mem_toDigits (by decide) (by decide) h)]
  rfl

/-- No digit has a code point that is none of the ten digits of any script. -/
theorem notMem_of_isDigit {codes : List Nat}
    (hcodes : ∀ n ∈ codes, (zeros.find? fun z => z ≤ n && n < z + 10) = none) {c : Char}
    (h : isDigit c = true) : c.toNat ∉ codes := by
  intro hmem
  rw [isDigit, digitValue?, hcodes _ hmem] at h
  cases h

theorem ofNat_ne_nil (n : Nat) : ofNat n ≠ [] :=
  Nat.toDigits_ne_nil

theorem digitsValue_ofNat (n : Nat) : digitsValue (ofNat n) = n := by
  have hfold : ∀ (s : Text) (start : Nat), (∀ c ∈ s, c.isDigit = true) →
      s.foldl (fun n c => 10 * n + (digitValue? c).getD 0) start = Nat.ofDigitChars 10 s start := by
    intro s
    induction s with
    | nil => exact fun _ _ => rfl
    | cons c s ih =>
      intro start hs
      rw [List.foldl_cons, digitValue?_of_isDigit (hs c List.mem_cons_self),
        ih _ fun d hd => hs d (List.mem_cons_of_mem _ hd)]
      rfl
  have hdigits : ∀ c ∈ ofNat n, c.isDigit = true :=
    fun c hc => Nat.isDigit_of_mem_toDigits (by decide) (by decide) hc
  rw [digitsValue, hfold _ _ hdigits, ofNat]
  exact Nat.ofDigitChars_toDigits (by decide) (by decide)

theorem digitValue?_lt {c : Char} : (digitValue? c).getD 0 < 10 := by
  rw [digitValue?]
  cases hfind : zeros.find? fun z => z ≤ c.toNat && c.toNat < z + 10 with
  | none => exact Nat.zero_lt_succ 9
  | some z =>
    have hz := List.find?_some hfind
    rw [Bool.and_eq_true, decide_eq_true_eq, decide_eq_true_eq] at hz
    simp only [Option.map_some, Option.getD_some]
    omega

theorem digitsValue_lt (s : Text) : digitsValue s < 10 ^ s.length := by
  have hfold : ∀ (s : Text) (start : Nat),
      s.foldl (fun n c => 10 * n + (digitValue? c).getD 0) start < (start + 1) * 10 ^ s.length := by
    intro s
    induction s with
    | nil => intro start; simp
    | cons c s ih =>
      intro start
      have hdigit := digitValue?_lt (c := c)
      rw [List.foldl_cons, List.length_cons, Nat.pow_succ', ← Nat.mul_assoc]
      exact Nat.lt_of_lt_of_le (ih _) (Nat.mul_le_mul_right _ (by omega))
  simpa [digitsValue] using hfold s 0

/-- A number takes no more digits than it was read from. -/
theorem length_ofNat_digitsValue {s : Text} (h : s ≠ []) :
    (ofNat (digitsValue s)).length ≤ s.length :=
  (Nat.length_toDigits_le_iff (by decide) (List.length_pos_iff.mpr h)).mpr (digitsValue_lt s)

/-! ## Messages -/

section
variable {p : Char → Bool} {s : Text}

theorem dropWhile_eq_self (h : ∀ c, s.head? = some c → p c = false) : s.dropWhile p = s := by
  cases s with
  | nil => rfl
  | cons c s => rw [List.dropWhile_cons, h c rfl]; rfl

section
variable {run : Text} (hrun : ∀ c ∈ run, p c = true) (hs : ∀ c, s.head? = some c → p c = false)
include hrun hs

/-- A run of characters of a kind is taken as a whole, and what follows it is not. -/
theorem takeWhile_append : (run ++ s).takeWhile p = run := by
  rw [List.takeWhile_append_of_pos hrun]
  cases s with
  | nil => simp
  | cons c s => simp [hs c rfl]

theorem dropWhile_append : (run ++ s).dropWhile p = s := by
  rw [List.dropWhile_append_of_pos hrun, dropWhile_eq_self hs]

end

theorem head?_dropWhile {c : Char} (h : (s.dropWhile p).head? = some c) : p c = false := by
  have hnot := List.head?_dropWhile_not p s
  rw [h] at hnot
  exact hnot

theorem dropEndWhile_prefix : dropEndWhile p s <+: s := by
  rw [← List.reverse_suffix, dropEndWhile, List.reverse_reverse]
  exact List.dropWhile_suffix p

theorem exists_dropEndWhile_append (p : Char → Bool) (s : Text) :
    ∃ tail, s = dropEndWhile p s ++ tail ∧ ∀ c ∈ tail, p c = true := by
  refine ⟨(s.reverse.takeWhile p).reverse, ?_, ?_⟩
  · rw [dropEndWhile, ← List.reverse_append, List.takeWhile_append_dropWhile, List.reverse_reverse]
  · intro c hc
    exact List.mem_takeWhile_imp (List.mem_reverse.mp hc)

theorem dropEndWhile_append {t : Text} (ht : ∀ c ∈ t, p c = true) :
    dropEndWhile p (s ++ t) = dropEndWhile p s := by
  rw [dropEndWhile, List.reverse_append,
    List.dropWhile_append_of_pos fun c hc => ht c (List.mem_reverse.mp hc), dropEndWhile]

theorem dropEndWhile_dropEndWhile : dropEndWhile p (dropEndWhile p s) = dropEndWhile p s := by
  rw [dropEndWhile, dropEndWhile, List.reverse_reverse,
    dropWhile_eq_self fun c hc => head?_dropWhile hc]

end

theorem strip_infix (s : Text) : strip s <:+: s :=
  dropEndWhile_prefix.isInfix.trans (List.dropWhile_suffix isBlank).isInfix

/-- A text without the characters of a kind at its ends, and those characters. -/
theorem exists_trim_append (p : Char → Bool) (s : Text) : ∃ front tail,
    s = front ++ (dropEndWhile p (s.dropWhile p) ++ tail) ∧
      (∀ c ∈ front, p c = true) ∧ ∀ c ∈ tail, p c = true := by
  obtain ⟨tail, htail, hkind⟩ := exists_dropEndWhile_append p (s.dropWhile p)
  refine ⟨s.takeWhile p, tail, ?_, fun c hc => List.mem_takeWhile_imp hc, hkind⟩
  rw [← htail, List.takeWhile_append_dropWhile]

/-- A text without the blanks at its ends, and the blanks. -/
theorem exists_strip_append (s : Text) : ∃ front tail, s = front ++ (strip s ++ tail) ∧
    (∀ c ∈ front, isBlank c = true) ∧ ∀ c ∈ tail, isBlank c = true :=
  exists_trim_append isBlank s

theorem strip_of_blank {s : Text} (hs : ∀ c ∈ s, isBlank c = true) : strip s = [] := by
  rw [strip, List.dropWhile_eq_nil_iff.mpr hs]
  rfl

theorem strip_append {s t : Text} (ht : ∀ c ∈ t, isBlank c = true) : strip (s ++ t) = strip s := by
  rw [strip, List.dropWhile_append]
  split
  · next hs =>
    rw [List.isEmpty_iff] at hs
    rw [List.dropWhile_eq_nil_iff.mpr ht, strip, hs]
  · rw [dropEndWhile_append ht, strip]

theorem strip_strip (s : Text) : strip (strip s) = strip s := by
  have hfront : (strip s).dropWhile isBlank = strip s := by
    refine dropWhile_eq_self fun c hc => ?_
    obtain ⟨rest, hrest⟩ : strip s <+: s.dropWhile isBlank := dropEndWhile_prefix
    refine head?_dropWhile (s := s) ?_
    rw [← hrest, List.head?_append, hc]
    rfl
  rw [strip, hfront, strip, dropEndWhile_dropEndWhile]

/-- How many characters of a text are not blank. -/
def inkOf (s : Text) : Nat :=
  s.countP fun c => !isBlank c

theorem inkOf_append (s t : Text) : inkOf (s ++ t) = inkOf s + inkOf t :=
  List.countP_append

theorem inkOf_of_blank {s : Text} (hs : ∀ c ∈ s, isBlank c = true) : inkOf s = 0 := by
  rw [inkOf, List.countP_eq_zero]
  intro c hc
  rw [hs c hc]
  exact Bool.false_ne_true

theorem inkOf_le {s t : Text} (h : s.Sublist t) : inkOf s ≤ inkOf t :=
  h.countP_le

theorem inkOf_strip (s : Text) : inkOf (strip s) = inkOf s := by
  obtain ⟨front, tail, hs, hfront, htail⟩ := exists_strip_append s
  have hink := congrArg inkOf hs
  rw [inkOf_append, inkOf_append, inkOf_of_blank hfront, inkOf_of_blank htail] at hink
  omega

end Marginalia.Text
