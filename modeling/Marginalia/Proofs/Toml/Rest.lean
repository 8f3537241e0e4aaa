import Mathlib.Data.List.Infix
import Marginalia.Proofs.Text.Integers
import Marginalia.Toml.Document

/-!
# What readers leave

A reader of a settings file takes a start of the text and leaves the rest, so whatever is read later
stands in the text as well.  Of the two ways to refuse a text, one is about a single number, which
has too many digits.  It follows that a text is refused that way only if it holds so many digits in
a row, with nothing but underscores between them: `hasLongNumeral_of_parse`.  And some texts are:
`parse_ones`.

Both facts are kept together in `Careful`, so that there is one lemma for each reader.
-/

namespace Marginalia.Toml

open Text (isAsciiDigit isHexDigit digitRun? moreDigits valueIn sign)

/-! ## Long numerals -/

/-- Somewhere in a text stand more digits than a number may have, with nothing but underscores
between them. -/
def HasLongNumeral (s : Text) : Prop :=
  ∃ run, run <:+: s ∧ (∀ c ∈ run, isAsciiDigit c = true ∨ c = '_') ∧
    Text.digitLimit < run.countP isAsciiDigit

theorem HasLongNumeral.of_suffix {s rest : Text} (hrest : rest <:+ s) (h : HasLongNumeral rest) :
    HasLongNumeral s := by
  obtain ⟨run, hrun, hdigits⟩ := h
  exact ⟨run, hrun.trans hrest.isInfix, hdigits⟩

/-! ## Careful readers -/

/-- A reader leaves an end of the text, and finds too many digits only where they are. -/
structure Careful {β : Type} (rest : β → Text) (s : Text) (x : Except Refusal β) : Prop where
  suffix : ∀ b, x = .ok b → rest b <:+ s
  long : x = .error .tooManyDigits → HasLongNumeral s

namespace Careful

variable {β γ : Type} {rest : β → Text} {rest' : γ → Text} {s s' : Text}

theorem malformed : Careful rest s fail :=
  ⟨nofun, nofun⟩

theorem ok {b : β} (h : rest b <:+ s) : Careful rest s (.ok b) :=
  ⟨fun _ hok => Except.ok.inj hok ▸ h, nofun⟩

theorem of_suffix {x : Except Refusal β} (hs : s' <:+ s) (h : Careful rest s' x) :
    Careful rest s x :=
  ⟨fun b hok => (h.suffix b hok).trans hs, fun hlong => (h.long hlong).of_suffix hs⟩

/-- What is read next is read from what the first reader leaves. -/
theorem bind {x : Except Refusal β} {f : β → Except Refusal γ} (h : Careful rest s x)
    (hf : ∀ b, rest b <:+ s → Careful rest' (rest b) (f b)) : Careful rest' s (x >>= f) := by
  cases x with
  | ok b => exact (hf b (h.suffix b rfl)).of_suffix (h.suffix b rfl)
  | error e => exact ⟨nofun, fun hlong => h.long (congrArg _ (Except.error.inj hlong))⟩

/-- What is done in between may refuse a text for other reasons. -/
theorem after {α : Type} {x : Except Refusal α} {f : α → Except Refusal γ}
    (h : x ≠ .error .tooManyDigits) (hf : ∀ a, Careful rest' s (f a)) :
    Careful rest' s (x >>= f) := by
  cases x with
  | ok a => exact hf a
  | error e => exact ⟨nofun, fun hlong => absurd (congrArg _ (Except.error.inj hlong)) h⟩

end Careful

/-! ## Blanks and comments -/

theorem careful_skipComment (s : Text) : Careful id s (skipComment s) := by
  unfold skipComment
  split
  · next rest =>
    simp only
    split
    · exact .ok ((List.drop_suffix _ rest).trans (List.suffix_cons _ rest))
    · exact .malformed
  · exact .ok (List.suffix_refl _)

theorem skipBlanks_suffix (s : Text) : skipBlanks s <:+ s :=
  List.dropWhile_suffix _

theorem skipSpace_suffix (s : Text) : skipSpace s <:+ s :=
  List.dropWhile_suffix _

theorem careful_skipFiller (fuel : Nat) (s : Text) : Careful id s (skipFiller fuel s) := by
  induction fuel generalizing s with
  | zero => exact .ok (List.suffix_refl s)
  | succ fuel ih =>
    refine ((careful_skipComment (skipSpace s)).of_suffix (skipSpace_suffix s)).bind ?_
    intro rest _
    show Careful id rest (if rest.length = s.length then _ else _)
    split
    · exact .ok (List.suffix_refl rest)
    · exact ih rest

/-! ## Strings -/

theorem careful_literalBody (s : Text) : Careful Prod.snd s (literalBody s) := by
  fun_induction literalBody s with
  | case1 => exact .malformed
  | case2 s => exact .ok (List.suffix_cons _ s)
  | case3 c s _ _ ih =>
    exact .of_suffix (List.suffix_cons _ s) (ih.bind fun _ _ => .ok (List.suffix_refl _))
  | case4 => exact .malformed

theorem careful_literalLines (s : Text) : Careful Prod.snd s (literalLines s) := by
  fun_induction literalLines s with
  | case1 => exact .malformed
  | case2 s => exact .ok (List.suffix_append ['\'', '\'', '\''] s)
  | case3 c s _ _ ih =>
    exact .of_suffix (List.suffix_cons _ s) (ih.bind fun _ _ => .ok (List.suffix_refl _))
  | case4 => exact .malformed

theorem careful_codePoint (count : Nat) (s : Text) : Careful Prod.snd s (codePoint count s) := by
  unfold codePoint
  simp only
  split
  · split
    · exact .ok (List.drop_suffix _ _)
    · exact .malformed
  · exact .malformed

theorem careful_escape (lines : Bool) (s : Text) : Careful Prod.snd s (escape lines s) := by
  unfold escape
  split
  · exact .malformed
  · next c rest =>
    refine .of_suffix (List.suffix_cons c rest) ?_
    split
    · exact .ok (skipSpace_suffix rest)
    split
    · split
      · exact .ok (List.nil_suffix)
      · next rest' hblanks =>
        have hrest : rest' <:+ rest :=
          (List.suffix_cons _ _).trans (hblanks ▸ skipBlanks_suffix rest)
        exact .ok ((skipSpace_suffix rest').trans hrest)
      · exact .malformed
    · split
      case h_8 => exact careful_codePoint 4 rest
      case h_9 => exact careful_codePoint 8 rest
      case h_10 => exact .malformed
      all_goals exact .ok (List.suffix_refl rest)

theorem careful_basicBody (lines : Bool) (fuel : Nat) (s : Text) :
    Careful Prod.snd s (basicBody lines fuel s) := by
  fun_induction basicBody lines fuel s with
  | case1 => exact .malformed
  | case2 => exact .malformed
  | case3 fuel s => exact .ok (List.suffix_cons _ s)
  | case4 fuel _ s => exact .ok (List.suffix_append ['"', '"', '"'] s)
  | case5 fuel s _ _ ih =>
    exact .of_suffix (List.suffix_cons _ s) (ih.bind fun _ _ => .ok (List.suffix_refl _))
  | case6 fuel s ih =>
    refine .of_suffix (List.suffix_cons _ s) ((careful_escape lines s).bind fun piece _ => ?_)
    exact (ih piece.2).bind fun _ _ => .ok (List.suffix_refl _)
  | case7 fuel c s _ _ _ ih =>
    exact .of_suffix (List.suffix_cons c s) (ih.bind fun _ _ => .ok (List.suffix_refl _))
  | case8 => exact .malformed

theorem skipNewline_suffix (s : Text) : skipNewline s <:+ s := by
  unfold skipNewline
  split
  · exact List.suffix_cons _ _
  · exact List.suffix_refl s

theorem careful_string (s : Text) : Careful Prod.snd s (string s) := by
  unfold string
  split
  · next s =>
    refine .of_suffix (List.suffix_append ['"', '"', '"'] s) ?_
    refine ((careful_basicBody true _ _).of_suffix (skipNewline_suffix s)).bind fun b _ => ?_
    exact .ok (List.drop_suffix _ b.2)
  · next s =>
    refine .of_suffix (List.suffix_append ['\'', '\'', '\''] s) ?_
    refine ((careful_literalLines _).of_suffix (skipNewline_suffix s)).bind fun b _ => ?_
    exact .ok (List.drop_suffix _ b.2)
  · next s _ => exact (careful_basicBody false _ s).of_suffix (List.suffix_cons _ s)
  · next s _ => exact (careful_literalBody s).of_suffix (List.suffix_cons _ s)
  · exact .malformed

/-! ## Keys -/

theorem careful_keyPart (s : Text) : Careful Prod.snd s (keyPart s) := by
  unfold keyPart
  split
  · next s => exact (careful_basicBody false _ s).of_suffix (List.suffix_cons _ s)
  · next s => exact (careful_literalBody s).of_suffix (List.suffix_cons _ s)
  · simp only
    split
    · exact .malformed
    · exact .ok (List.drop_suffix _ _)

theorem careful_keyParts (fuel : Nat) (s : Text) : Careful Prod.snd s (keyParts fuel s) := by
  induction fuel generalizing s with
  | zero => exact .malformed
  | succ fuel ih =>
    refine (careful_keyPart s).bind fun part _ => ?_
    simp only
    split
    · next rest hblanks =>
      have hrest : skipBlanks rest <:+ part.2 :=
        (skipBlanks_suffix rest).trans
          ((List.suffix_cons _ rest).trans (hblanks ▸ skipBlanks_suffix part.2))
      exact ((ih _).of_suffix hrest).bind fun _ _ => .ok (List.suffix_refl _)
    · exact .ok (skipBlanks_suffix part.2)

theorem careful_key (s : Text) : Careful Prod.snd s (key s) :=
  careful_keyParts _ s

/-! ## Numbers -/

/-- A reader that may find nothing leaves an end of the text. -/
def Leaves {α : Type} (s : Text) (x : Option (α × Text)) : Prop :=
  ∀ a ∈ x, a.2 <:+ s

theorem leaves_digitRun? (p : Char → Bool) (s : Text) : Leaves s (digitRun? p s) := by
  unfold digitRun?
  split
  · next c s =>
    split
    · intro a ha
      cases ha
      exact (Text.moreDigits_suffix p s).trans (List.suffix_cons c s)
    · exact nofun
  · exact nofun

theorem Leaves.map {α β : Type} {s : Text} {x : Option (α × Text)} {f : α × Text → β × Text}
    (h : Leaves s x) (hf : ∀ a, (f a).2 = a.2) : Leaves s (x.map f) := by
  intro b hb
  obtain ⟨a, ha, rfl⟩ := Option.map_eq_some_iff.mp hb
  exact hf a ▸ h a ha

theorem Leaves.of_suffix {α : Type} {s s' : Text} {x : Option (α × Text)} (hs : s' <:+ s)
    (h : Leaves s' x) : Leaves s x :=
  fun a ha => (h a ha).trans hs

theorem Leaves.bind {α β : Type} {s : Text} {x : Option (α × Text)}
    {f : α × Text → Option (β × Text)} (h : Leaves s x) (hf : ∀ a, Leaves a.2 (f a)) :
    Leaves s (x.bind f) := by
  intro b hb
  obtain ⟨a, ha, hb⟩ := Option.bind_eq_some_iff.mp hb
  exact (hf a b hb).trans (h a ha)

theorem leaves_none {α : Type} (s : Text) : Leaves s (none : Option (α × Text)) :=
  nofun

theorem leaves_some {α : Type} {s : Text} {a : α × Text} (h : a.2 <:+ s) : Leaves s (some a) := by
  intro b hb
  cases hb
  exact h

theorem leaves_radixNumber? (s : Text) : Leaves s (radixNumber? s) := by
  unfold radixNumber?
  simp only
  split
  case h_4 => exact leaves_none _
  all_goals
    refine Leaves.of_suffix (List.suffix_append ['0', _] _) ?_
    exact (leaves_digitRun? _ _).map fun _ => rfl

theorem leaves_wholePart? (s : Text) : Leaves s (wholePart? s) := by
  unfold wholePart?
  split
  · next s => exact leaves_some (List.suffix_cons _ s)
  · exact leaves_digitRun? _ _

theorem leaves_fractionPart? (s : Text) : Leaves s (fractionPart? s) := by
  unfold fractionPart?
  split
  · next s => exact (leaves_digitRun? _ s).of_suffix (List.suffix_cons _ s)
  · exact leaves_none _

theorem sign_suffix (s : Text) : (sign s).2 <:+ s := by
  unfold sign
  split
  · exact List.suffix_cons _ _
  · exact List.suffix_cons _ _
  · exact List.suffix_refl s

theorem leaves_exponentPart? (s : Text) : Leaves s (exponentPart? s) := by
  unfold exponentPart?
  split
  · next c s =>
    split
    · refine Leaves.of_suffix ((sign_suffix s).trans (List.suffix_cons c s)) ?_
      exact (leaves_digitRun? _ _).map fun _ => rfl
    · exact leaves_none _
  · exact leaves_none _

/-- A part of a number that is not there takes nothing. -/
theorem Leaves.getD {α : Type} {s : Text} {x : Option (α × Text)} (h : Leaves s x) (a : α) :
    (x.getD (a, s)).2 <:+ s := by
  cases x with
  | none => exact List.suffix_refl s
  | some b => exact h b rfl

theorem leaves_specialNumber? (s : Text) : Leaves s (specialNumber? s) := by
  unfold specialNumber?
  refine Leaves.of_suffix (sign_suffix s) ?_
  simp only
  split
  · next rest hs => exact leaves_some (hs ▸ List.suffix_append ['i', 'n', 'f'] rest)
  · next rest hs => exact leaves_some (hs ▸ List.suffix_append ['n', 'a', 'n'] rest)
  · exact leaves_none _

/-- What digits are taken from. -/
theorem exists_run_of_moreDigits (s : Text) :
    ∃ run, s = run ++ (moreDigits isAsciiDigit s).2 ∧
      (∀ c ∈ run, isAsciiDigit c = true ∨ c = '_') ∧
      run.countP isAsciiDigit = (moreDigits isAsciiDigit s).1.length := by
  fun_induction moreDigits isAsciiDigit s with
  | case1 c s hc digits rest hmore ih =>
    rw [hmore] at ih
    obtain ⟨run, hs, hrun, hcount⟩ := ih
    refine ⟨'_' :: c :: run, by rw [hs]; rfl, ?_, ?_⟩
    · exact List.forall_mem_cons.mpr ⟨.inr rfl, List.forall_mem_cons.mpr ⟨.inl hc, hrun⟩⟩
    · have hbar : isAsciiDigit '_' = false := by decide
      simp [hbar, hc, hcount]
  | case2 => exact ⟨[], rfl, List.forall_mem_nil _, rfl⟩
  | case3 c s _ hc digits rest hmore ih =>
    rw [hmore] at ih
    obtain ⟨run, hs, hrun, hcount⟩ := ih
    refine ⟨c :: run, by rw [hs]; rfl, List.forall_mem_cons.mpr ⟨.inl hc, hrun⟩, ?_⟩
    simp [hc, hcount]
  | case4 => exact ⟨[], rfl, List.forall_mem_nil _, rfl⟩
  | case5 => exact ⟨[], rfl, List.forall_mem_nil _, rfl⟩

theorem hasLongNumeral_of_digitRun? {s digits rest : Text}
    (h : digitRun? isAsciiDigit s = some (digits, rest)) (hlong : Text.digitLimit < digits.length) :
    HasLongNumeral s := by
  unfold digitRun? at h
  split at h
  · next c s =>
    split at h
    · next hc =>
      cases h
      obtain ⟨run, hs, hrun, hcount⟩ := exists_run_of_moreDigits s
      have hpiece : c :: run <:+: c :: s := ⟨[], _, congrArg (c :: ·) hs.symm⟩
      refine ⟨c :: run, hpiece, List.forall_mem_cons.mpr ⟨.inl hc, hrun⟩, ?_⟩
      simpa [hc, hcount] using hlong
    · cases h
  · cases h

theorem hasLongNumeral_of_wholePart? {s whole rest : Text} (h : wholePart? s = some (whole, rest))
    (hlong : Text.digitLimit < whole.length) : HasLongNumeral s := by
  unfold wholePart? at h
  split at h
  · cases h
    exact absurd hlong (by decide)
  · exact hasLongNumeral_of_digitRun? h hlong

theorem careful_decimalNumber? {s : Text} {x : Except Refusal (Value × Text)}
    (h : decimalNumber? s = some x) : Careful Prod.snd s x := by
  refine .of_suffix (sign_suffix s) ?_
  obtain ⟨⟨whole, afterWhole⟩, hwhole, h⟩ := Option.bind_eq_some_iff.mp h
  simp only at h
  have hrest : ((exponentPart? ((fractionPart? afterWhole).getD ([], afterWhole)).2).getD
      (0, ((fractionPart? afterWhole).getD ([], afterWhole)).2)).2 <:+ (sign s).2 :=
    (((leaves_exponentPart? _).getD 0).trans ((leaves_fractionPart? afterWhole).getD [])).trans
      (leaves_wholePart? _ _ hwhole)
  split at h
  · split at h
    · next hlong =>
      cases h
      exact ⟨nofun, fun _ => hasLongNumeral_of_wholePart? hwhole hlong⟩
    · cases h
      exact .ok hrest
  · cases h
    exact .ok hrest

/-! ## Moments -/

theorem leaves_fixedDigits? (count : Nat) (s : Text) : Leaves s (fixedDigits? count s) := by
  unfold fixedDigits?
  simp only
  split
  · exact leaves_some (List.drop_suffix _ _)
  · exact leaves_none _

theorem leaves_twoDigits? (greatest : Nat) (s : Text) : Leaves s (twoDigits? greatest s) :=
  (leaves_fixedDigits? 2 s).bind fun a => by
    simp only
    split
    · exact leaves_some (List.suffix_refl _)
    · exact leaves_none _

theorem expect?_suffix {c : Char} {s rest : Text} (h : expect? c s = some rest) : rest <:+ s := by
  unfold expect? at h
  split at h
  · split at h
    · cases h
      exact List.suffix_cons _ _
    · cases h
  · cases h

/-- A character that has to be there is taken, if it is there. -/
theorem Leaves.expect? {α : Type} {c : Char} {s : Text} {f : Text → Option (α × Text)}
    (hf : ∀ s, Leaves s (f s)) : Leaves s ((Toml.expect? c s).bind f) := by
  intro b hb
  obtain ⟨rest, hrest, hb⟩ := Option.bind_eq_some_iff.mp hb
  exact (hf rest b hb).trans (expect?_suffix hrest)

theorem leaves_date? (s : Text) : Leaves s (date? s) :=
  (leaves_fixedDigits? 4 s).bind fun _ => .expect? fun s =>
    (leaves_twoDigits? 12 s).bind fun _ => .expect? fun s =>
      (leaves_twoDigits? 31 s).bind fun _ => by
        simp only
        split
        · exact leaves_none _
        · exact leaves_some (List.suffix_refl _)

theorem fractionOfSecond_suffix (s : Text) : (fractionOfSecond s).2 <:+ s := by
  unfold fractionOfSecond
  split
  · next rest =>
    simp only
    split
    · exact List.suffix_refl _
    · exact (List.drop_suffix _ rest).trans (List.suffix_cons _ rest)
  · exact List.suffix_refl _

theorem leaves_clock? (s : Text) : Leaves s (clock? s) :=
  (leaves_twoDigits? 23 s).bind fun _ => .expect? fun s =>
    (leaves_twoDigits? 59 s).bind fun _ => .expect? fun s =>
      (leaves_twoDigits? 59 s).bind fun _ => leaves_some (fractionOfSecond_suffix _)

theorem leaves_offset? (s : Text) : Leaves s (offset? s) := by
  unfold offset?
  split
  · exact leaves_some (List.suffix_cons _ _)
  · exact leaves_some (List.suffix_cons _ _)
  · next c s _ _ =>
    split
    · refine Leaves.of_suffix (List.suffix_cons c s) ?_
      exact (leaves_twoDigits? 23 s).bind fun _ => .expect? fun s =>
        (leaves_twoDigits? 59 s).bind fun _ => leaves_some (List.suffix_refl _)
    · exact leaves_none _
  · exact leaves_none _

theorem leaves_clockAfterDate? (s : Text) : Leaves s (clockAfterDate? s) := by
  unfold clockAfterDate?
  split
  · exact (leaves_clock? _).of_suffix (List.suffix_cons _ _)
  · exact (leaves_clock? _).of_suffix (List.suffix_cons _ _)
  · exact (leaves_clock? _).of_suffix (List.suffix_cons _ _)
  · exact leaves_none _

theorem careful_moment? {s : Text} {x : Except Refusal (Value × Text)} (h : moment? s = some x) :
    Careful Prod.snd s x := by
  unfold moment? at h
  split at h
  · next d afterDate hdate =>
    refine .of_suffix (leaves_date? s _ hdate) ?_
    simp only
    split at h
    · cases h
      exact .malformed
    · split at h
      · cases h
        exact .ok (List.suffix_refl _)
      · next c afterClock hclock =>
        refine .of_suffix (leaves_clockAfterDate? _ _ hclock) ?_
        split at h
        · cases h
          exact .ok (List.suffix_refl _)
        · next hoffset =>
          cases h
          exact .ok (leaves_offset? _ _ hoffset)
  · obtain ⟨a, ha, rfl⟩ := Option.map_eq_some_iff.mp h
    exact .ok (leaves_clock? s a ha)

/-! ## Values -/

theorem after?_suffix {lead s rest : Text} (h : Text.after? lead s = some rest) : rest <:+ s := by
  unfold Text.after? at h
  split at h
  · cases h
    exact List.drop_suffix _ _
  · cases h

theorem careful_scalar (s : Text) : Careful Prod.snd s (scalar s) := by
  unfold scalar
  split
  · next htrue => exact .ok (after?_suffix htrue)
  split
  · next hfalse => exact .ok (after?_suffix hfalse)
  split
  · next hmoment => exact careful_moment? hmoment
  split
  · next hradix => exact .ok (leaves_radixNumber? s _ hradix)
  split
  · next hdecimal => exact careful_decimalNumber? hdecimal
  split
  · next hspecial => exact .ok (leaves_specialNumber? s _ hspecial)
  · exact .malformed

theorem inTable_ne {intoLists : Bool} {change : Fields → Except Refusal Fields}
    (hchange : ∀ fields, change fields ≠ .error .tooManyDigits) (v : Value) :
    inTable intoLists change v ≠ .error .tooManyDigits := by
  have hmap {fields : Fields} {f : Fields → Value} :
      (change fields).map f ≠ .error .tooManyDigits := by
    cases h : change fields with
    | ok fields' => exact nofun
    | error e => exact fun herror => hchange fields (h.trans (congrArg _ (Except.error.inj herror)))
  unfold inTable
  split
  · exact hmap
  · split
    · exact hmap
    · exact nofun
  · exact nofun

theorem changeAt_ne {intoLists : Bool} {change : Fields → Except Refusal Fields}
    (hchange : ∀ fields, change fields ≠ .error .tooManyDigits) (path : KeyPath)
    (fields : Fields) : changeAt intoLists change path fields ≠ .error .tooManyDigits := by
  induction path generalizing fields with
  | nil => exact hchange fields
  | cons name path ih =>
    have hinner := @inTable_ne intoLists _ ih ((fields.get? name).getD (.table []))
    rw [changeAt]
    cases h : inTable intoLists (changeAt intoLists change path)
        ((fields.get? name).getD (.table [])) with
    | ok v => exact nofun
    | error e => exact fun herror => hinner (h.trans (congrArg _ (Except.error.inj herror)))

theorem addNew_ne (name : Text) (v : Value) (fields : Fields) :
    addNew name v fields ≠ .error .tooManyDigits := by
  unfold addNew
  split
  · exact nofun
  · exact nofun

theorem addTable_ne (name : Text) (fields : Fields) :
    addTable name fields ≠ .error .tooManyDigits := by
  unfold addTable
  split
  · exact nofun
  · exact nofun
  · exact nofun

/-- The three readers of values are careful. -/
structure ReadsCarefully (fuel : Nat) : Prop where
  value (s : Text) : Careful Prod.snd s (value fuel s)
  items (s : Text) : Careful Prod.snd s (items fuel s)
  fields (closed : List KeyPath) (done : Fields) (s : Text) :
    Careful Prod.snd s (fields fuel closed done s)

namespace ReadsCarefully

variable {fuel : Nat}

theorem value_succ (ih : ReadsCarefully fuel) (s : Text) :
    Careful Prod.snd s (Toml.value (fuel + 1) s) := by
  unfold Toml.value
  split
  · next s =>
    refine .of_suffix (List.suffix_cons _ s) ((careful_skipFiller _ s).bind fun rest _ => ?_)
    split
    · exact .ok (List.suffix_cons _ _)
    · exact (ih.items rest).bind fun _ _ => .ok (List.suffix_refl _)
  · next s =>
    refine .of_suffix (List.suffix_cons _ s) ?_
    split
    · next rest hblanks =>
      exact .ok ((List.suffix_cons _ rest).trans (hblanks ▸ skipBlanks_suffix s))
    · next hblanks =>
      refine .of_suffix (skipBlanks_suffix s) ?_
      exact (ih.fields [] [] _).bind fun _ _ => .ok (List.suffix_refl _)
  · exact (careful_string _).bind fun _ _ => .ok (List.suffix_refl _)
  · exact (careful_string _).bind fun _ _ => .ok (List.suffix_refl _)
  · exact careful_scalar s

theorem items_succ (ih : ReadsCarefully fuel) (s : Text) :
    Careful Prod.snd s (Toml.items (fuel + 1) s) := by
  unfold Toml.items
  refine (ih.value s).bind fun item _ => (careful_skipFiller _ item.2).bind fun rest _ => ?_
  split
  · exact .ok (List.suffix_cons _ _)
  · next s _ =>
    refine .of_suffix (List.suffix_cons _ s) ((careful_skipFiller _ s).bind fun rest _ => ?_)
    split
    · exact .ok (List.suffix_cons _ _)
    · exact (ih.items rest).bind fun _ _ => .ok (List.suffix_refl _)
  · exact .malformed

theorem fields_succ (ih : ReadsCarefully fuel) (closed : List KeyPath) (done : Fields) (s : Text) :
    Careful Prod.snd s (Toml.fields (fuel + 1) closed done s) := by
  unfold Toml.fields
  refine (careful_key s).bind fun path _ => ?_
  simp only
  split
  · next s hs =>
    refine .of_suffix (hs ▸ (skipBlanks_suffix s).trans (List.suffix_cons _ s)) ?_
    refine (ih.value _).bind fun v _ => ?_
    split
    · exact .malformed
    · refine .after (changeAt_ne (addNew_ne _ _) _ _) fun changed => ?_
      refine .of_suffix (skipBlanks_suffix v.2) ?_
      split
      · next s hs => exact .ok (hs ▸ List.suffix_cons _ s)
      · next s hs =>
        refine .of_suffix (hs ▸ (skipBlanks_suffix s).trans (List.suffix_cons _ s)) ?_
        exact ih.fields _ changed _
      · exact .malformed
  · exact .malformed

end ReadsCarefully

theorem readsCarefully (fuel : Nat) : ReadsCarefully fuel := by
  induction fuel with
  | zero => exact ⟨fun _ => .malformed, fun _ => .malformed, fun _ _ _ => .malformed⟩
  | succ fuel ih => exact ⟨ih.value_succ, ih.items_succ, ih.fields_succ⟩

/-! ## Statements -/

/-- A refusal on a condition, and what is done otherwise. -/
theorem ite_fail_ne {α : Type} {p : Bool} {x : Except Refusal α}
    (h : x ≠ .error .tooManyDigits) : (if p then fail else x) ≠ .error .tooManyDigits := by
  split
  · exact nofun
  · exact h

theorem bind_ok_ne {α β : Type} {x : Except Refusal α} {f : α → β}
    (h : x ≠ .error .tooManyDigits) :
    (x >>= fun a => .ok (f a)) ≠ .error .tooManyDigits := by
  cases x with
  | ok a => exact nofun
  | error e => exact fun herror => h (congrArg _ (Except.error.inj herror))

theorem Progress.assign_ne (p : Progress) (path : KeyPath) (v : Value) :
    p.assign path v ≠ .error .tooManyDigits :=
  ite_fail_ne (bind_ok_ne (changeAt_ne (addNew_ne _ v) _ _))

theorem Progress.openTable_ne (p : Progress) (path : KeyPath) :
    p.openTable path ≠ .error .tooManyDigits :=
  ite_fail_ne (bind_ok_ne (@changeAt_ne true .ok (fun _ => nofun) _ _))

theorem Progress.openItem_ne (p : Progress) (path : KeyPath) :
    p.openItem path ≠ .error .tooManyDigits :=
  ite_fail_ne (bind_ok_ne (changeAt_ne (addTable_ne _) _ _))

theorem careful_statement (p : Progress) (s : Text) : Careful Prod.snd s (statement p s) := by
  unfold statement
  split
  · next s =>
    have hs : skipBlanks s <:+ '[' :: '[' :: s :=
      (skipBlanks_suffix s).trans (List.suffix_append ['[', '['] s)
    refine .of_suffix hs ((careful_key _).bind fun path _ => ?_)
    refine .after (p.settle.openItem_ne path.1) fun p => ?_
    split
    · next rest hrest => exact .ok (hrest ▸ List.suffix_append [']', ']'] rest)
    · exact .malformed
  · next s _ =>
    have hs : skipBlanks s <:+ '[' :: s := (skipBlanks_suffix s).trans (List.suffix_cons _ s)
    refine .of_suffix hs ((careful_key _).bind fun path _ => ?_)
    refine .after (p.settle.openTable_ne path.1) fun p => ?_
    split
    · next rest hrest => exact .ok (hrest ▸ List.suffix_append [']'] rest)
    · exact .malformed
  · refine (careful_key _).bind fun path _ => ?_
    simp only
    split
    · next rest hrest =>
      refine .of_suffix (hrest ▸ (skipBlanks_suffix rest).trans (List.suffix_cons _ rest)) ?_
      refine ((readsCarefully _).value _).bind fun v _ => ?_
      exact .after (p.assign_ne path.1 v.1) fun p => .ok (List.suffix_refl _)
    · exact .malformed

/-- Statements are careful; nothing is left of the text when all of them have been read. -/
theorem careful_statements (fuel : Nat) (p : Progress) (s : Text) :
    Careful (fun _ => []) s (statements fuel p s) := by
  induction fuel generalizing p s with
  | zero => exact .malformed
  | succ fuel ih =>
    unfold statements
    refine .of_suffix (skipBlanks_suffix s) ?_
    split
    · exact .ok List.nil_suffix
    · next s hs => exact (ih p s).of_suffix (hs ▸ List.suffix_cons _ s)
    · simp only
      split
      case' isFalse => refine (careful_statement p _).bind fun q _ => ?_
      all_goals
        refine .of_suffix (skipBlanks_suffix _) ((careful_skipComment _).bind fun rest _ => ?_)
        split
        · exact .ok List.nil_suffix
        · next s _ => exact (ih _ s).of_suffix (List.suffix_cons _ s)
        · exact .malformed

/-! ## Files -/

/-- Where line ends are written anew, what holds no line end stays as it is. -/
theorem prefix_of_foldLineEnds {run s : Text} (hrun : '\n' ∉ run) (h : run <+: foldLineEnds s) :
    run <+: s := by
  fun_induction foldLineEnds s generalizing run with
  | case1 => exact h
  | case2 s ih =>
    cases run with
    | nil => exact List.nil_prefix
    | cons c run =>
      obtain ⟨rfl, -⟩ := List.cons_prefix_cons.mp h
      exact absurd List.mem_cons_self hrun
  | case3 c s _ ih =>
    cases run with
    | nil => exact List.nil_prefix
    | cons d run =>
      obtain ⟨rfl, hrest⟩ := List.cons_prefix_cons.mp h
      have hrun : '\n' ∉ run := fun hmem => hrun (List.mem_cons_of_mem _ hmem)
      exact List.cons_prefix_cons.mpr ⟨rfl, ih hrun hrest⟩

theorem infix_of_foldLineEnds {run s : Text} (hrun : '\n' ∉ run) (h : run <:+: foldLineEnds s) :
    run <:+: s := by
  fun_induction foldLineEnds s with
  | case1 => exact h
  | case2 s ih =>
    rcases List.infix_cons_iff.mp h with hprefix | hinfix
    · have hfold : foldLineEnds ('\r' :: '\n' :: s) = '\n' :: foldLineEnds s := rfl
      exact (prefix_of_foldLineEnds hrun (hfold ▸ hprefix)).isInfix
    · exact (ih hinfix).trans (List.suffix_append ['\r', '\n'] s).isInfix
  | case3 c s hs ih =>
    rcases List.infix_cons_iff.mp h with hprefix | hinfix
    · refine (prefix_of_foldLineEnds hrun ?_).isInfix
      rw [foldLineEnds]
      · exact hprefix
      · exact hs
    · exact (ih hinfix).trans (List.suffix_cons c s).isInfix

/-- A text is refused for too many digits only if it holds them. -/
theorem hasLongNumeral_of_parse {s : Text} (h : parse s = .error .tooManyDigits) :
    HasLongNumeral s := by
  have hread : Careful (fun _ => []) (foldLineEnds s) (parse s) :=
    (careful_statements _ {} (foldLineEnds s)).bind fun _ _ => .ok (List.suffix_refl _)
  obtain ⟨run, hinfix, hdigits, hlong⟩ := hread.long h
  have hrun : '\n' ∉ run := by
    intro hmem
    rcases hdigits _ hmem with hdigit | hbar
    · cases hdigit
    · cases hbar
  exact ⟨run, infix_of_foldLineEnds hrun hinfix, hdigits, hlong⟩

/-! ## Too many ones -/

/-- A numeral of nothing but ones. -/
def ones (n : Nat) : Text := List.replicate n '1'

theorem foldLineEnds_eq_self {s : Text} (h : '\r' ∉ s) : foldLineEnds s = s := by
  fun_induction foldLineEnds s with
  | case1 => rfl
  | case2 s ih => exact absurd List.mem_cons_self h
  | case3 c s _ ih => rw [ih fun hmem => h (List.mem_cons_of_mem c hmem)]

theorem moreDigits_ones (n : Nat) : moreDigits isAsciiDigit (ones n) = (ones n, []) := by
  induction n with
  | zero => rfl
  | succ n ih =>
    show moreDigits isAsciiDigit ('1' :: ones n) = ('1' :: ones n, [])
    rw [moreDigits, if_pos (by decide), ih]
    exact fun _ _ heq => absurd heq (by decide)

theorem decimalNumber?_ones {n : Nat} (h : Text.digitLimit < n) :
    decimalNumber? (ones n) = some (.error .tooManyDigits) := by
  obtain ⟨n, rfl⟩ : ∃ m, n = m + 1 := ⟨n - 1, by omega⟩
  have hones : ones (n + 1) = '1' :: ones n := rfl
  have hsign : sign (ones (n + 1)) = (false, ones (n + 1)) := rfl
  have hwhole : wholePart? (ones (n + 1)) = some (ones (n + 1), []) := by
    rw [hones, wholePart?, digitRun?, if_pos (by decide), moreDigits_ones]
    exact fun _ heq => absurd (List.cons.inj heq).1 (by decide)
  have hlength : (ones (n + 1)).length = n + 1 := List.length_replicate
  rw [decimalNumber?, hsign]
  simp only [hwhole, Option.bind_eq_bind, Option.bind_some, fractionPart?, exponentPart?,
    Option.getD_none, Option.isNone_none, Bool.and_true, if_true, hlength, if_pos h]

theorem scalar_ones {n : Nat} (h : Text.digitLimit < n) :
    scalar (ones n) = .error .tooManyDigits := by
  have hnumber := decimalNumber?_ones h
  have hlow : 4 < n := lt_trans (by decide) h
  obtain ⟨n, rfl⟩ : ∃ m, n = m + 5 := ⟨n - 5, by omega⟩
  have hones : ones (n + 5) = '1' :: '1' :: '1' :: '1' :: '1' :: ones n := rfl
  have htrue : Text.after? "true".toList (ones (n + 5)) = none := rfl
  have hfalse : Text.after? "false".toList (ones (n + 5)) = none := rfl
  have hmoment : moment? (ones (n + 5)) = none := rfl
  have hradix : radixNumber? (ones (n + 5)) = none := rfl
  rw [scalar, htrue, hfalse, hmoment, hradix, hnumber]

theorem value_ones {n : Nat} (h : Text.digitLimit < n) (fuel : Nat) :
    value (fuel + 1) (ones n) = .error .tooManyDigits := by
  have hscalar := scalar_ones h
  obtain ⟨n, rfl⟩ : ∃ m, n = m + 1 := ⟨n - 1, by omega⟩
  have hones : ones (n + 1) = '1' :: ones n := rfl
  rw [← hscalar, hones, value]
  · exact nofun
  · exact nofun
  · exact nofun
  · exact nofun

theorem key_letter (s : Text) : key ('a' :: '=' :: s) = .ok ([['a']], '=' :: s) := rfl

theorem statement_ones {n : Nat} (h : Text.digitLimit < n) (p : Progress) :
    statement p ('a' :: '=' :: ones n) = .error .tooManyDigits := by
  have hblanks : skipBlanks (ones n) = ones n := by
    obtain ⟨n, rfl⟩ : ∃ m, n = m + 1 := ⟨n - 1, by omega⟩
    rfl
  rw [statement]
  · show (key ('a' :: '=' :: ones n) >>= _) = _
    rw [key_letter]
    show (value _ (skipBlanks (ones n)) >>= _) = _
    rw [hblanks, value_ones h]
    rfl
  · exact nofun
  · exact nofun

/-- A numeral of too many digits is found. -/
theorem parse_ones {n : Nat} (h : Text.digitLimit < n) :
    parse ('a' :: '=' :: ones n) = .error .tooManyDigits := by
  have hfold : foldLineEnds ('a' :: '=' :: ones n) = 'a' :: '=' :: ones n := by
    refine foldLineEnds_eq_self ?_
    simp [ones]
  have hblanks : skipBlanks ('a' :: '=' :: ones n) = 'a' :: '=' :: ones n := rfl
  have hstatements (fuel : Nat) :
      statements (fuel + 1) {} ('a' :: '=' :: ones n) = .error .tooManyDigits := by
    rw [statements, hblanks]
    show (statement {} ('a' :: '=' :: ones n) >>= _) = _
    rw [statement_ones h]
    rfl
  rw [parse, hfold, hstatements]
  rfl

end Marginalia.Toml
