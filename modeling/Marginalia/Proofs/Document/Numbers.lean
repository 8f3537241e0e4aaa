import Marginalia.Annotation

/-!
# Numbers of decorations

A document numbers its decorations from zero and never forgets one: what is taken off is kept.  A
document is *tidy* if each number below its count belongs to exactly one decoration, attached or
detached, and nothing detached is active.  Whatever is done to decorations keeps a document tidy.

`decoration?_detach` and `decoration?_deactivate` say that the two ways to take a decoration off
look the same to whoever holds its number.  `Annotation.render_eq` says which decorations
diagnostics are shown by.
-/

namespace Marginalia

/-- A decoration as it is once it has been removed. -/
def Decoration.retired (x : Decoration) : Decoration :=
  { x with active := false }

@[simp] theorem Decoration.retired_retired (x : Decoration) : x.retired.retired = x.retired := rfl

theorem Decoration.retired_of_not_active {x : Decoration} (h : x.active = false) :
    x.retired = x := by
  cases x
  cases h
  rfl

/-! ## Entries by key -/

section
variable {κ α β : Type} [BEq κ] [LawfulBEq κ]

theorem mem_of_lookup {entries : List (κ × α)} {k : κ} {x : α}
    (h : entries.lookup k = some x) : (k, x) ∈ entries := by
  obtain ⟨front, back, rfl, -⟩ := List.lookup_eq_some_iff.mp h
  simp

theorem lookup_of_mem {entries : List (κ × α)} (hd : (entries.map Prod.fst).Nodup) {k : κ}
    {x : α} (h : (k, x) ∈ entries) : entries.lookup k = some x := by
  obtain ⟨front, back, rfl⟩ := List.append_of_mem h
  apply List.lookup_eq_some_iff.mpr
  refine ⟨front, back, rfl, fun entry hentry => ?_⟩
  have hk : entry.1 ≠ k := by
    rw [List.map_append, List.nodup_append] at hd
    exact hd.2.2 entry.1 (List.mem_map_of_mem hentry) k (by simp)
  simpa using hk.symm

theorem lookup_eq_none_of_notMem {entries : List (κ × α)} {k : κ}
    (h : k ∉ entries.map Prod.fst) : entries.lookup k = none := by
  apply List.lookup_eq_none_iff.mpr
  intro entry hentry
  have hk : k ≠ entry.1 := fun heq => h (heq ▸ List.mem_map_of_mem hentry)
  simpa using hk

theorem lookup_map (f : κ → α → β) (entries : List (κ × α)) (k : κ) :
    (entries.map fun entry => (entry.1, f entry.1 entry.2)).lookup k
      = (entries.lookup k).map (f k) := by
  induction entries with
  | nil => rfl
  | cons entry rest ih =>
    obtain ⟨j, x⟩ := entry
    rw [List.map_cons, List.lookup_cons, List.lookup_cons, ih]
    by_cases h : k = j
    · subst h
      simp
    · simp [beq_false_of_ne h]

theorem lookup_filter_ne [DecidableEq κ] (entries : List (κ × α)) (j k : κ) :
    (entries.filter fun entry => entry.1 != k).lookup j
      = if j = k then none else entries.lookup j := by
  simpa [bne] using FileTree.lookup_filter_ne entries k j

end

namespace Document

/-! ## Tidy documents -/

/-- The numbers of the decorations on the text, in the order they were attached. -/
def numbers (d : Document) : List Nat :=
  d.attached.map Prod.fst

/-- Each number below the count belongs to one decoration, and nothing detached is active. -/
structure Tidy (d : Document) : Prop where
  /-- The numbers of all decorations. -/
  numbers_perm : ((d.attached ++ d.detached).map Prod.fst).Perm (List.range d.count)
  /-- Nothing detached is active. -/
  detached_retired : ∀ entry ∈ d.detached, entry.2.active = false

theorem tidy_ofText (id : Text) (file : Option Path) (text : Text) :
    (ofText id file text).Tidy :=
  ⟨List.Perm.refl [], fun _ h => nomatch h⟩

namespace Tidy
variable {d : Document}

theorem nodup (h : d.Tidy) : ((d.attached ++ d.detached).map Prod.fst).Nodup :=
  h.numbers_perm.nodup_iff.mpr List.nodup_range

theorem nodup_numbers (h : d.Tidy) : d.numbers.Nodup := by
  have hd := h.nodup
  rw [List.map_append, List.nodup_append] at hd
  exact hd.1

theorem lookup_detached (h : d.Tidy) {k : Nat} (hk : k ∈ d.numbers) :
    d.detached.lookup k = none := by
  have hd := h.nodup
  rw [List.map_append, List.nodup_append] at hd
  exact lookup_eq_none_of_notMem fun hk' => hd.2.2 k hk k hk' rfl

theorem lt_count_iff (h : d.Tidy) (k : Nat) :
    k < d.count ↔ ∃ x, d.decoration? k = some x := by
  rw [← List.mem_range, ← h.numbers_perm.mem_iff]
  constructor
  · intro hk
    obtain ⟨⟨k, x⟩, hmem, rfl⟩ := List.mem_map.mp hk
    exact ⟨x, lookup_of_mem h.nodup hmem⟩
  · rintro ⟨x, hx⟩
    exact List.mem_map.mpr ⟨(k, x), mem_of_lookup hx, rfl⟩

theorem lt_count (h : d.Tidy) {k : Nat} (hk : k ∈ d.numbers) : k < d.count := by
  rw [← List.mem_range, ← h.numbers_perm.mem_iff, List.map_append]
  exact List.mem_append_left _ hk

theorem decoration?_of_attached (h : d.Tidy) {k : Nat} {x : Decoration}
    (hk : (k, x) ∈ d.attached) : d.decoration? k = some x :=
  lookup_of_mem h.nodup (List.mem_append_left _ hk)

/-- A decoration that is numbered and not attached is not active. -/
theorem not_active (h : d.Tidy) {k : Nat} {x : Decoration} (hx : d.decoration? k = some x)
    (hk : k ∉ d.numbers) : x.active = false := by
  have hmem := mem_of_lookup hx
  rcases List.mem_append.mp hmem with hmem | hmem
  · exact absurd (List.mem_map.mpr ⟨_, hmem, rfl⟩) hk
  · exact h.detached_retired _ hmem

end Tidy

/-! ## What becomes of a document -/

/-- A later state of a document.  Numbers are handed out in order, and what has been taken off is
never attached again. -/
structure Evolves (d d' : Document) : Prop where
  id_eq : d'.id = d.id
  count_le : d.count ≤ d'.count
  /-- What is attached was attached before or is new. -/
  numbers_or : ∀ k ∈ d'.numbers, k ∈ d.numbers ∨ d.count ≤ k
  tidy : d.Tidy → d'.Tidy

/-- A later state of a document that differs from it in its decorations at most. -/
structure Redecorated (d d' : Document) : Prop extends Evolves d d' where
  file_eq : d'.file = d.file
  text_eq : d'.text = d.text
  listeners_eq : d'.listeners = d.listeners

theorem Evolves.refl (d : Document) : Evolves d d :=
  ⟨rfl, Nat.le_refl _, fun _ hk => .inl hk, fun h => h⟩

theorem Redecorated.refl (d : Document) : Redecorated d d := ⟨Evolves.refl d, rfl, rfl, rfl⟩

theorem Evolves.trans {d₁ d₂ d₃ : Document} (h : Evolves d₁ d₂) (h' : Evolves d₂ d₃) :
    Evolves d₁ d₃ := by
  refine ⟨h'.id_eq.trans h.id_eq, Nat.le_trans h.count_le h'.count_le, fun k hk => ?_,
    fun hd => h'.tidy (h.tidy hd)⟩
  rcases h'.numbers_or k hk with hk | hk
  · exact h.numbers_or k hk
  · exact .inr (Nat.le_trans h.count_le hk)

theorem Redecorated.trans {d₁ d₂ d₃ : Document} (h : Redecorated d₁ d₂)
    (h' : Redecorated d₂ d₃) : Redecorated d₁ d₃ :=
  ⟨h.toEvolves.trans h'.toEvolves, h'.file_eq.trans h.file_eq, h'.text_eq.trans h.text_eq,
    h'.listeners_eq.trans h.listeners_eq⟩

/-! ## Taking decorations off -/

theorem attached_detach (d : Document) (k : Nat) :
    (d.detach k).attached = d.attached.filter fun entry => entry.1 != k := by
  unfold detach
  cases h : d.attached.lookup k with
  | some x => rfl
  | none =>
    symm
    apply List.filter_eq_self.mpr
    intro entry hentry
    have hne : (k == entry.1) = false := by simpa using List.lookup_eq_none_iff.mp h entry hentry
    simpa using Ne.symm (ne_of_beq_false hne)

theorem attached_deactivate (d : Document) (k : Nat) :
    (d.deactivate k).attached = d.attached.map fun entry =>
      (entry.1, if entry.1 = k then entry.2.retired else entry.2) := by
  unfold deactivate
  apply List.map_congr_left
  intro entry _
  by_cases h : entry.1 = k
  · rw [if_pos h, if_pos h]
    rfl
  · rw [if_neg h, if_neg h]

theorem numbers_detach (d : Document) (k : Nat) :
    (d.detach k).numbers = d.numbers.filter fun j => j != k := by
  unfold numbers
  rw [attached_detach, List.filter_map]
  rfl

theorem numbers_deactivate (d : Document) (k : Nat) : (d.deactivate k).numbers = d.numbers := by
  unfold numbers
  rw [attached_deactivate, List.map_map]
  rfl

theorem Tidy.detach {d : Document} (h : d.Tidy) (k : Nat) : (d.detach k).Tidy := by
  unfold Document.detach
  cases hk : d.attached.lookup k with
  | none => exact h
  | some x =>
    obtain ⟨front, back, hsplit⟩ := List.append_of_mem (mem_of_lookup hk)
    have hrest : (d.attached.filter fun entry => entry.1 != k) = front ++ back := by
      have hd := h.nodup_numbers
      rw [numbers, hsplit, List.map_append, List.map_cons, List.perm_middle.nodup_iff,
        List.nodup_cons, ← List.map_append] at hd
      rw [hsplit, List.filter_append, List.filter_cons_of_neg (by simp), ← List.filter_append]
      apply List.filter_eq_self.mpr
      intro entry hentry
      have hne : entry.1 ≠ k := fun heq => hd.1 (List.mem_map.mpr ⟨entry, hentry, heq⟩)
      simpa using hne
    refine ⟨?_, ?_⟩
    · refine List.Perm.trans ?_ h.numbers_perm
      rw [hrest, hsplit]
      simp only [List.map_append, List.map_cons, List.map_nil, ← List.append_assoc]
      refine (List.perm_append_singleton _ _).trans ?_
      simp only [List.append_assoc]
      exact List.perm_middle.symm
    · intro entry hentry
      rcases List.mem_append.mp hentry with hentry | hentry
      · exact h.detached_retired entry hentry
      · rw [List.mem_singleton] at hentry
        rw [hentry]

theorem Tidy.deactivate {d : Document} (h : d.Tidy) (k : Nat) : (d.deactivate k).Tidy := by
  refine ⟨?_, h.detached_retired⟩
  have hnumbers : ((d.deactivate k).attached ++ d.detached).map Prod.fst
      = (d.attached ++ d.detached).map Prod.fst := by
    rw [List.map_append, List.map_append]
    exact congrArg (· ++ _) (numbers_deactivate d k)
  show ((((d.deactivate k).attached ++ d.detached).map Prod.fst).Perm (List.range d.count))
  rw [hnumbers]
  exact h.numbers_perm

theorem redecorated_detach (d : Document) (k : Nat) : Redecorated d (d.detach k) := by
  have hnumbers : ∀ j ∈ (d.detach k).numbers, j ∈ d.numbers ∨ d.count ≤ j := by
    intro j hj
    rw [numbers_detach] at hj
    exact .inl (List.mem_filter.mp hj).1
  have htidy : d.Tidy → (d.detach k).Tidy := fun h => h.detach k
  unfold detach at hnumbers htidy ⊢
  cases hk : d.attached.lookup k with
  | none => exact Redecorated.refl d
  | some x =>
    rw [hk] at hnumbers htidy
    exact ⟨⟨rfl, Nat.le_refl _, hnumbers, htidy⟩, rfl, rfl, rfl⟩

theorem redecorated_deactivate (d : Document) (k : Nat) : Redecorated d (d.deactivate k) := by
  refine ⟨⟨rfl, Nat.le_refl _, fun j hj => ?_, fun h => h.deactivate k⟩, rfl, rfl, rfl⟩
  rw [numbers_deactivate] at hj
  exact .inl hj

theorem decoration?_detach {d : Document} (h : d.Tidy) (j k : Nat) :
    (d.detach k).decoration? j
      = if j = k then (d.decoration? k).map Decoration.retired else d.decoration? j := by
  unfold Document.detach decoration?
  cases hk : d.attached.lookup k with
  | none =>
    by_cases hj : j = k
    · subst hj
      rw [if_pos rfl, List.lookup_append, hk, Option.none_or]
      cases hx : d.detached.lookup j with
      | none => rfl
      | some x =>
        have hoff := h.detached_retired _ (mem_of_lookup hx)
        exact congrArg some (Decoration.retired_of_not_active hoff).symm
    · rw [if_neg hj]
  | some x =>
    have hnone : d.detached.lookup k = none :=
      h.lookup_detached (List.mem_map_of_mem (mem_of_lookup hk))
    simp only [List.lookup_append, lookup_filter_ne, hk]
    by_cases hj : j = k
    · subst hj
      simp [hnone, Decoration.retired]
    · rw [if_neg hj, if_neg hj, List.lookup_cons, beq_false_of_ne hj]
      simp

theorem decoration?_deactivate {d : Document} (h : d.Tidy) (j k : Nat) :
    (d.deactivate k).decoration? j
      = if j = k then (d.decoration? k).map Decoration.retired else d.decoration? j := by
  unfold decoration?
  rw [attached_deactivate, List.lookup_append,
    lookup_map fun i x => if i = k then Decoration.retired x else x]
  show ((d.attached.lookup j).map _).or (d.detached.lookup j) = _
  rw [List.lookup_append, List.lookup_append]
  by_cases hj : j = k
  · subst hj
    cases hx : d.attached.lookup j with
    | some x => simp
    | none =>
      cases hy : d.detached.lookup j with
      | none => simp
      | some y =>
        have hoff := h.detached_retired _ (mem_of_lookup hy)
        simp [Decoration.retired_of_not_active hoff]
  · simp [hj]

/-! ## Putting decorations on -/

/-- The document with decorations attached, in their order. -/
def attachAll (d : Document) (fresh : List Decoration) : Document :=
  { d with
    attached := d.attached ++ (fresh.zipIdx d.count).map fun p => (p.2, p.1)
    count := d.count + fresh.length }

/-- What is attached is active if it was and what is put on is. -/
theorem active_attachAll {d : Document} (hd : ∀ entry ∈ d.attached, entry.2.active = true)
    {fresh : List Decoration} (hfresh : ∀ x ∈ fresh, x.active = true) :
    ∀ entry ∈ (d.attachAll fresh).attached, entry.2.active = true := by
  intro entry hentry
  rcases List.mem_append.mp hentry with hentry | hentry
  · exact hd entry hentry
  · obtain ⟨p, hp, rfl⟩ := List.mem_map.mp hentry
    exact hfresh p.1 (List.fst_mem_of_mem_zipIdx hp)

theorem numbers_attachAll (d : Document) (fresh : List Decoration) :
    (d.attachAll fresh).numbers = d.numbers ++ List.range' d.count fresh.length := by
  unfold numbers attachAll
  rw [List.map_append, List.map_map]
  exact congrArg _ (List.zipIdx_map_snd d.count fresh)

theorem Tidy.attachAll {d : Document} (h : d.Tidy) (fresh : List Decoration) :
    (d.attachAll fresh).Tidy := by
  refine ⟨?_, h.detached_retired⟩
  show (((d.attachAll fresh).attached ++ d.detached).map Prod.fst).Perm
    (List.range (d.count + fresh.length))
  have hfresh : (d.attachAll fresh).attached.map Prod.fst = _ := numbers_attachAll d fresh
  have hrange : List.range (d.count + fresh.length)
      = List.range d.count ++ List.range' d.count fresh.length := by
    rw [List.range_eq_range', List.range_eq_range', ← List.range'_append_1, Nat.zero_add]
  have hnumbers := h.numbers_perm
  rw [List.map_append] at hnumbers
  rw [List.map_append, hfresh, hrange, List.append_assoc]
  refine (List.perm_append_comm.append_left _).trans ?_
  rw [← List.append_assoc]
  exact hnumbers.append_right _

theorem redecorated_attachAll (d : Document) (fresh : List Decoration) :
    Redecorated d (d.attachAll fresh) := by
  refine ⟨⟨rfl, Nat.le_add_right _ _, fun k hk => ?_, fun h => h.attachAll fresh⟩, rfl, rfl, rfl⟩
  rw [numbers_attachAll, List.mem_append] at hk
  rcases hk with hk | hk
  · exact .inl hk
  · exact .inr (List.mem_range'_1.mp hk).1

theorem attach_eq (d : Document) (offset : Anchor) (text style : Text) :
    d.attach offset text style = (d.attachAll [⟨offset, text, style, true⟩], d.count) := rfl

theorem decorate_ok {d d' : Document} {offset : Position} {text style : Text} {k : Nat}
    (h : d.decorate offset text style = .ok (d', k)) :
    ∃ x : Decoration, x.active = true ∧ d' = d.attachAll [x] ∧ k = d.count := by
  unfold decorate at h
  split at h
  · next anchor _ _ =>
    rw [attach_eq] at h
    cases h
    exact ⟨⟨anchor, text, style, true⟩, rfl, rfl, rfl⟩
  · cases h
  · cases h

/-- What has a number keeps its decoration when others are attached. -/
theorem decoration?_attachAll {d : Document} (h : d.Tidy) {k : Nat} (hk : k < d.count)
    (fresh : List Decoration) : (d.attachAll fresh).decoration? k = d.decoration? k := by
  obtain ⟨x, hx⟩ := (h.lt_count_iff k).mp hk
  rw [hx]
  apply lookup_of_mem (h.attachAll fresh).nodup
  rcases List.mem_append.mp (mem_of_lookup hx) with hmem | hmem
  · exact List.mem_append_left _ (List.mem_append_left _ hmem)
  · exact List.mem_append_right _ hmem

/-! ## Moving decorations -/

theorem numbers_edited (d : Document) (text : Text) (move : Anchor → Anchor) :
    (d.edited text move).numbers = d.numbers := by
  unfold numbers edited
  rw [List.map_map]
  rfl

theorem Tidy.edited {d : Document} (h : d.Tidy) (text : Text) (move : Anchor → Anchor) :
    (d.edited text move).Tidy := by
  refine ⟨?_, h.detached_retired⟩
  show (((d.edited text move).attached ++ d.detached).map Prod.fst).Perm (List.range d.count)
  have hnumbers : (d.edited text move).attached.map Prod.fst = _ := numbers_edited d text move
  rw [List.map_append, hnumbers, numbers, ← List.map_append]
  exact h.numbers_perm

theorem insert_ok {d d' : Document} {offset : Position} {text : Text}
    (h : d.insert offset text = .ok d') : ∃ text move, d' = d.edited text move := by
  unfold insert at h
  split at h
  · cases h
    exact ⟨_, _, rfl⟩
  · cases h
  · cases h

theorem delete_ok {d d' : Document} {start stop : Position}
    (h : d.delete start stop = .ok d') : ∃ text move, d' = d.edited text move := by
  unfold delete at h
  split at h
  · cases h
    exact ⟨_, _, rfl⟩
  · cases h
  · cases h

/-- An edit that moves nothing. -/
theorem edited_self (d : Document) (text : Text) :
    d.edited text (fun x => x) = { d with text } := by
  unfold edited
  have hmap : (d.attached.map fun entry => (entry.1, { entry.2 with offset := entry.2.offset }))
      = d.attached := List.map_id'' (fun _ => rfl) d.attached
  rw [hmap]

/-- An edit moves decorations and numbers none. -/
theorem evolves_edited (d : Document) (text : Text) (move : Anchor → Anchor)
    (file : Option Path) : Evolves d { d.edited text move with file } := by
  refine ⟨rfl, Nat.le_refl _, fun k hk => ?_, fun h => ⟨(h.edited text move).numbers_perm,
    h.detached_retired⟩⟩
  have hk : k ∈ (d.edited text move).numbers := hk
  rw [numbers_edited] at hk
  exact .inl hk

theorem evolves_listeners (d : Document) (listeners : List Listener) :
    Evolves d { d with listeners } :=
  ⟨rfl, Nat.le_refl _, fun _ hk => .inl hk, fun h => ⟨h.numbers_perm, h.detached_retired⟩⟩

end Document

/-! ## Showing diagnostics -/

namespace Annotation

/-- A diagnostic with the decoration that shows it in a text, if the text has its line. -/
def placed? (look text : Text) (x : Diagnostic) : Option (Diagnostic × Decoration) :=
  (Document.lineEnd? text x.line.val).map fun offset => (x, ⟨.whole offset, note x, look, true⟩)

/-- The diagnostics whose lines a text has, each with the decoration that shows it. -/
def placed (look text : Text) (xs : List Diagnostic) : List (Diagnostic × Decoration) :=
  xs.filterMap (placed? look text)

/-- The annotations of diagnostics whose decorations in document `n` are numbered from `start`. -/
def numbered (n start : Nat) (placed : List (Diagnostic × Decoration)) : List Annotation :=
  (placed.zipIdx start).map fun p => ⟨p.1.1, ⟨n, p.2⟩⟩

/-- Diagnostics are shown by new decorations, numbered in their order. -/
theorem render_eq (n : Nat) (look : Text) (xs : List Diagnostic) (d : Document) :
    render n look xs d =
      (d.attachAll ((placed look d.text xs).map Prod.snd),
        numbered n d.count (placed look d.text xs)) := by
  induction xs generalizing d with
  | nil => simp [render, placed, numbered, Document.attachAll]
  | cons x rest ih =>
    unfold render placed
    rw [List.filterMap_cons, placed?]
    cases Document.lineEnd? d.text x.line.val with
    | none => exact ih d
    | some offset =>
      simp only [Document.attach_eq, ih, Option.map_some]
      simp [Document.attachAll, placed, numbered, Nat.add_assoc, Nat.add_comm 1]

theorem mark_numbered (n start : Nat) (placed : List (Diagnostic × Decoration)) :
    (numbered n start placed).map mark
      = (List.range' start placed.length).map fun k => ⟨n, k⟩ := by
  unfold numbered
  rw [List.map_map, ← List.zipIdx_map_snd start placed, List.map_map]
  rfl

/-- Each number of an annotation is that of the decoration it stands for. -/
theorem decoration?_placed {d : Document} (hd : d.Tidy) {placed : List (Diagnostic × Decoration)}
    {p : (Diagnostic × Decoration) × Nat} (hp : p ∈ placed.zipIdx d.count) :
    (d.attachAll (placed.map Prod.snd)).decoration? p.2 = some p.1.2 := by
  apply (hd.attachAll _).decoration?_of_attached
  apply List.mem_append_right
  rw [List.zipIdx_map, List.map_map]
  exact List.mem_map.mpr ⟨p, hp, rfl⟩

theorem active_placed {look text : Text} {xs : List Diagnostic} {p : Diagnostic × Decoration}
    (h : p ∈ placed look text xs) : p.2.active = true := by
  obtain ⟨x, -, hx⟩ := List.mem_filterMap.mp h
  obtain ⟨offset, -, rfl⟩ := Option.map_eq_some_iff.mp hx
  rfl

end Annotation

end Marginalia
