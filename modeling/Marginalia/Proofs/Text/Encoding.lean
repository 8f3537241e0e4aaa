import Marginalia.Text.Utf8

/-!
# Encoding and decoding

A text that is encoded is decoded to itself: `decode_encode`.  What carries it is that the bytes of
a character are read as one item, whatever follows them (`firstItem_encoded`).  In turn, each item
that is a character was read from the bytes of that character (`encode_firstItem`), so bytes that are
decoded are those of the text: `decode_eq_ok_iff`.
-/

namespace Marginalia.Utf8

/-! ## Bytes -/

theorem toNat_lead {m : Nat} (hm : m < 256) : (UInt8.ofNat m).toNat = m := by
  rw [UInt8.toNat_ofNat', Nat.mod_eq_of_lt hm]

theorem toNat_continuation (k : Nat) : (UInt8.ofNat (k % 64 + 128)).toNat = k % 64 + 128 :=
  toNat_lead (by omega)

theorem isContinuation_encoded (k : Nat) : isContinuation (UInt8.ofNat (k % 64 + 128)) = true := by
  simp only [isContinuation, Bool.and_eq_true, decide_eq_true_eq, UInt8.le_iff_toNat_le,
    toNat_continuation, UInt8.reduceToNat]
  omega

theorem low6_encoded (k : Nat) : low6 (UInt8.ofNat (k % 64 + 128)) = k % 64 := by
  rw [low6, toNat_continuation]
  omega

/-- The second byte of a character is in the range that its first byte calls for. -/
theorem secondOk_encoded {m k : Nat} (hm : m < 256) (hE0 : m = 0xE0 → 0x20 ≤ k % 64)
    (hED : m = 0xED → k % 64 < 0x20) (hF0 : m = 0xF0 → 0x10 ≤ k % 64)
    (hF4 : m = 0xF4 → k % 64 < 0x10) :
    secondOk (UInt8.ofNat m) (UInt8.ofNat (k % 64 + 128)) = true := by
  simp only [secondOk, isContinuation_encoded, Bool.true_and, beq_iff_eq, ← UInt8.toNat_inj,
    UInt8.le_iff_toNat_le, toNat_lead hm, toNat_continuation, UInt8.reduceToNat]
  split
  · next h => simpa using hE0 h
  · split
    · next h =>
      have := hED h
      simp
      omega
    · split
      · next h => simpa using hF0 h
      · split
        · next h =>
          have := hF4 h
          simp
          omega
        · rfl

/-! ## Characters -/

/-- The bytes of a character are read as that character, whatever follows them. -/
theorem firstItem_encoded (c : Char) (rest : List UInt8) :
    ∃ lead tail, String.utf8EncodeChar c = lead :: tail ∧
      firstItem lead (tail ++ rest) = .char c (tail.length + 1) := by
  have hvalid : c.toNat < 0xD800 ∨ 0xDFFF < c.toNat ∧ c.toNat < 0x110000 := c.valid
  have hval : c.val.toNat = c.toNat := rfl
  -- one case for each number of bytes
  rw [String.utf8EncodeChar, hval]
  split
  · next h =>
    refine ⟨_, [], rfl, ?_⟩
    simp only [firstItem, toNat_lead (show c.toNat < 256 by omega), Char.ofNat_toNat]
    rw [if_pos (by omega)]
    rfl
  split
  · next h =>
    refine ⟨_, [_], rfl, ?_⟩
    have hc : (c.toNat / 64 % 32 + 192 - 0xC0) * 64 + c.toNat % 64 = c.toNat := by omega
    simp only [firstItem, toNat_lead (show c.toNat / 64 % 32 + 192 < 256 by omega),
      List.cons_append, isContinuation_encoded, low6_encoded, hc, Char.ofNat_toNat]
    rw [if_neg (by omega), if_neg (by omega), if_pos (by omega)]
    rfl
  split
  · next h =>
    refine ⟨_, [_, _], rfl, ?_⟩
    have hc : ((c.toNat / 4096 % 16 + 224 - 0xE0) * 64 + c.toNat / 64 % 64) * 64 + c.toNat % 64
        = c.toNat := by omega
    have hsecond : secondOk (UInt8.ofNat (c.toNat / 4096 % 16 + 224))
        (UInt8.ofNat (c.toNat / 64 % 64 + 128)) = true :=
      secondOk_encoded (by omega) (by omega) (by omega) (by omega) (by omega)
    simp only [firstItem, toNat_lead (show c.toNat / 4096 % 16 + 224 < 256 by omega),
      List.cons_append, hsecond, isContinuation_encoded, low6_encoded, hc, Char.ofNat_toNat]
    rw [if_neg (by omega), if_neg (by omega), if_neg (by omega), if_pos (by omega)]
    rfl
  · next h =>
    refine ⟨_, [_, _, _], rfl, ?_⟩
    have hc : (((c.toNat / 262144 % 8 + 240 - 0xF0) * 64 + c.toNat / 4096 % 64) * 64
        + c.toNat / 64 % 64) * 64 + c.toNat % 64 = c.toNat := by omega
    have hsecond : secondOk (UInt8.ofNat (c.toNat / 262144 % 8 + 240))
        (UInt8.ofNat (c.toNat / 4096 % 64 + 128)) = true :=
      secondOk_encoded (by omega) (by omega) (by omega) (by omega) (by omega)
    simp only [firstItem, toNat_lead (show c.toNat / 262144 % 8 + 240 < 256 by omega),
      List.cons_append, hsecond, isContinuation_encoded, low6_encoded, hc, Char.ofNat_toNat]
    rw [if_neg (by omega), if_neg (by omega), if_neg (by omega), if_neg (by omega),
      if_pos (by omega)]
    rfl

/-! ## Texts -/

theorem readItems_scan_encode (bytes : List UInt8) (position : Nat) (s : Text) :
    readItems bytes position (scan (encode s)) = .ok s := by
  induction s generalizing position with
  | nil => rw [show encode [] = [] from rfl, scan, readItems]
  | cons c s ih =>
    obtain ⟨lead, tail, hbytes, hitem⟩ := firstItem_encoded c (encode s)
    have hencode : encode (c :: s) = lead :: (tail ++ encode s) := by
      rw [encode, List.flatMap_cons, hbytes]
      rfl
    have hrest : (tail ++ encode s).drop ((Item.char c (tail.length + 1)).size - 1) = encode s :=
      List.drop_left
    rw [hencode, scan, hitem, hrest, readItems, ih]
    rfl

/-- Encoding loses nothing. -/
theorem decode_encode (s : Text) : decode (encode s) = .ok s :=
  readItems_scan_encode _ _ s

/-! ## Decoded texts -/

theorem toNat_ofNat {n : Nat} (h : n.isValidChar) : (Char.ofNat n).val.toNat = n := by
  rw [Char.ofNat, dif_pos h]
  rfl

theorem isContinuation_iff {b : UInt8} :
    isContinuation b = true ↔ 0x80 ≤ b.toNat ∧ b.toNat ≤ 0xBF := by
  simp [isContinuation, UInt8.le_iff_toNat_le]

/-- The ranges that the first byte of a character leaves to the second. -/
theorem bounds_of_secondOk {lead b : UInt8} (h : secondOk lead b = true) :
    isContinuation b = true ∧ (lead.toNat = 0xE0 → 0xA0 ≤ b.toNat) ∧
      (lead.toNat = 0xED → b.toNat ≤ 0x9F) ∧ (lead.toNat = 0xF0 → 0x90 ≤ b.toNat) ∧
      (lead.toNat = 0xF4 → b.toNat ≤ 0x8F) := by
  rw [secondOk, Bool.and_eq_true] at h
  obtain ⟨hb, h⟩ := h
  refine ⟨hb, ?_⟩
  simp only [beq_iff_eq, ← UInt8.toNat_inj, UInt8.le_iff_toNat_le, UInt8.reduceToNat] at h
  split at h
  · rw [decide_eq_true_eq] at h
    omega
  split at h
  · rw [decide_eq_true_eq] at h
    omega
  split at h
  · rw [decide_eq_true_eq] at h
    omega
  split at h
  · rw [decide_eq_true_eq] at h
    omega
  · omega

theorem ofNat_eq {b : UInt8} {k : Nat} (h : k = b.toNat) : UInt8.ofNat k = b := by
  rw [h, UInt8.ofNat_toNat]

theorem encode_one {lead : UInt8} (h : lead.toNat < 0x80) :
    String.utf8EncodeChar (Char.ofNat lead.toNat) = [lead] := by
  have hval := toNat_ofNat (n := lead.toNat) (.inl (by omega))
  rw [String.utf8EncodeChar, hval, if_pos (by omega), UInt8.ofNat_toNat]

theorem encode_two {lead b : UInt8} (hlow : 0xC2 ≤ lead.toNat) (hhigh : lead.toNat < 0xE0)
    (hb : isContinuation b = true) :
    String.utf8EncodeChar (Char.ofNat ((lead.toNat - 0xC0) * 64 + low6 b)) = [lead, b] := by
  obtain ⟨hb, hb'⟩ := isContinuation_iff.mp hb
  rw [low6]
  have hval := toNat_ofNat (n := (lead.toNat - 0xC0) * 64 + b.toNat % 64) (.inl (by omega))
  rw [String.utf8EncodeChar, hval, if_neg (by omega), if_pos (by omega),
    ofNat_eq (b := lead) (by omega), ofNat_eq (b := b) (by omega)]

theorem encode_three {lead b b' : UInt8} (hlow : 0xE0 ≤ lead.toNat) (hhigh : lead.toNat < 0xF0)
    (hb : secondOk lead b = true) (hb' : isContinuation b' = true) :
    String.utf8EncodeChar (Char.ofNat (((lead.toNat - 0xE0) * 64 + low6 b) * 64 + low6 b'))
      = [lead, b, b'] := by
  obtain ⟨hcont, hE0, hED, -, -⟩ := bounds_of_secondOk hb
  obtain ⟨h₁, h₂⟩ := isContinuation_iff.mp hcont
  obtain ⟨h₃, h₄⟩ := isContinuation_iff.mp hb'
  rw [low6, low6]
  have hval := toNat_ofNat (n := ((lead.toNat - 0xE0) * 64 + b.toNat % 64) * 64 + b'.toNat % 64)
    (by rw [Nat.isValidChar]; omega)
  rw [String.utf8EncodeChar, hval, if_neg (by omega), if_neg (by omega), if_pos (by omega),
    ofNat_eq (b := lead) (by omega), ofNat_eq (b := b) (by omega), ofNat_eq (b := b') (by omega)]

theorem encode_four {lead b b' b'' : UInt8} (hlow : 0xF0 ≤ lead.toNat) (hhigh : lead.toNat < 0xF5)
    (hb : secondOk lead b = true) (hb' : isContinuation b' = true)
    (hb'' : isContinuation b'' = true) :
    String.utf8EncodeChar
        (Char.ofNat ((((lead.toNat - 0xF0) * 64 + low6 b) * 64 + low6 b') * 64 + low6 b''))
      = [lead, b, b', b''] := by
  obtain ⟨hcont, -, -, hF0, hF4⟩ := bounds_of_secondOk hb
  obtain ⟨h₁, h₂⟩ := isContinuation_iff.mp hcont
  obtain ⟨h₃, h₄⟩ := isContinuation_iff.mp hb'
  obtain ⟨h₅, h₆⟩ := isContinuation_iff.mp hb''
  rw [low6, low6, low6]
  have hval := toNat_ofNat
    (n := (((lead.toNat - 0xF0) * 64 + b.toNat % 64) * 64 + b'.toNat % 64) * 64 + b''.toNat % 64)
    (by rw [Nat.isValidChar]; omega)
  rw [String.utf8EncodeChar, hval, if_neg (by omega), if_neg (by omega), if_neg (by omega),
    ofNat_eq (b := lead) (by omega), ofNat_eq (b := b) (by omega), ofNat_eq (b := b') (by omega),
    ofNat_eq (b := b'') (by omega)]

/-- A character that is read is written in the bytes it was read from. -/
theorem encode_firstItem {lead : UInt8} {rest : List UInt8} {c : Char} {n : Nat}
    (h : firstItem lead rest = .char c n) :
    String.utf8EncodeChar c ++ rest.drop (n - 1) = lead :: rest := by
  unfold firstItem at h
  simp only at h
  split at h
  · cases h
    rw [encode_one ‹_›]
    rfl
  split at h
  · cases h
  split at h
  · split at h
    · cases h
    · split at h
      · next hb =>
        cases h
        rw [encode_two (by omega) ‹_› hb]
        rfl
      · cases h
  split at h
  · split at h
    · cases h
    · split at h
      · cases h
      · cases h
    · split at h
      · cases h
      · split at h
        · cases h
        · next hb hb' =>
          cases h
          rw [encode_three (by omega) ‹_› (by simpa using hb) (by simpa using hb')]
          rfl
  split at h
  · split at h
    · cases h
    · split at h
      · cases h
      · cases h
    · split at h
      · cases h
      · split at h
        · cases h
        · cases h
    · split at h
      · cases h
      · split at h
        · cases h
        · split at h
          · cases h
          · next hb hb' hb'' =>
            cases h
            rw [encode_four (by omega) ‹_› (by simpa using hb) (by simpa using hb')
              (by simpa using hb'')]
            rfl
  · cases h

theorem encode_of_readItems {bytes rest : List UInt8} {position : Nat} {s : Text}
    (h : readItems bytes position (scan rest) = .ok s) : encode s = rest := by
  fun_induction scan rest generalizing position s with
  | case1 =>
    rw [readItems] at h
    cases h
    rfl
  | case2 lead rest item =>
    rename_i ih
    cases hitem : firstItem lead rest with
    | malformed reason n =>
      have hitem : item = .malformed reason n := hitem
      rw [hitem, readItems] at h
      cases h
    | char c n =>
      have hchar : item = .char c n := hitem
      rw [hchar, Item.size] at ih h
      rw [readItems] at h
      cases htail : readItems bytes (position + n) (scan (rest.drop (n - 1))) with
      | error r =>
        rw [htail] at h
        cases h
      | ok tail =>
        rw [htail] at h
        cases h
        rw [encode, List.flatMap_cons, ← encode, ih htail]
        exact encode_firstItem hitem

/-- Bytes are decoded to the text whose bytes they are, and to no other. -/
theorem decode_eq_ok_iff {bytes : List UInt8} {s : Text} :
    decode bytes = .ok s ↔ encode s = bytes :=
  ⟨encode_of_readItems, fun h => h ▸ decode_encode s⟩

end Marginalia.Utf8
