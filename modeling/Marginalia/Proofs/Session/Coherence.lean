import Mathlib.Algebra.BigOperators.Group.List.Basic
import Mathlib.Algebra.GroupWithZero.Nat
import Marginalia.Proofs.Session.Ledger

/-!
# The store and the documents agree

The main statement about whole sessions is `store_and_documents_agree`.  Whatever orderly steps a
host has made, what is attached to a document is what is live in the ledger and the batch that the
store keeps for the document; a batch that the store has kept before is inactive and attached
nowhere, and so is whatever else has ever been attached; a step that is aimed at one document
spares the others; and the store counts what is attached and not the host's.
-/

namespace Marginalia.Session

/-! ## Counting -/

theorem sum_ite_eq {α : Type} [DecidableEq α] [BEq α] [LawfulBEq α] (c : Nat) (a : α) (l : List α) :
    (l.map fun x => if x = a then c else 0).sum = c * l.count a := by
  induction l with
  | nil => rfl
  | cons x rest ih =>
    rw [List.map_cons, List.sum_cons, ih, List.count_cons]
    by_cases h : x = a
    · simp [h, Nat.mul_add, Nat.add_comm]
    · simp [h]

theorem sum_map_eq_add {α : Type} (l : List α) (f h : α → Nat) (g : Nat → Nat)
    (heq : ∀ n x, l[n]? = some x → f x = g n + h x) :
    (l.map f).sum = ((List.range l.length).map g).sum + (l.map h).sum := by
  induction l generalizing g with
  | nil => rfl
  | cons x rest ih =>
    have hx := heq 0 x rfl
    have hrest := ih (fun n => g (n + 1)) fun n y hy => heq (n + 1) y hy
    rw [List.map_cons, List.map_cons, List.sum_cons, List.sum_cons, hx, hrest, List.length_cons,
      List.range_succ_eq_map, List.map_cons, List.sum_cons, List.map_map]
    show _ = g 0 + ((List.range rest.length).map fun n => g (n + 1)).sum + _
    omega

/-- Every mark points into one of the documents. -/
theorem sum_length_marksOn {count : Nat} {marks : List Mark}
    (h : ∀ mark ∈ marks, mark.document < count) :
    ((List.range count).map fun n => (marksOn n marks).length).sum = marks.length := by
  induction marks with
  | nil => simp [marksOn]
  | cons mark rest ih =>
    have hrest := ih fun m hm => h m (List.mem_cons_of_mem mark hm)
    have hcons : ∀ n, (marksOn n (mark :: rest)).length
        = (if n = mark.document then 1 else 0) + (marksOn n rest).length := by
      intro n
      unfold marksOn
      rw [List.filter_cons]
      by_cases hn : n = mark.document
      · simp [hn, Nat.add_comm]
      · simp [hn, Ne.symm hn]
    have hone : (List.range count).count mark.document = 1 :=
      List.count_eq_one_of_mem List.nodup_range (List.mem_range.mpr (h mark List.mem_cons_self))
    rw [List.map_congr_left fun n _ => hcons n, List.sum_map_add, sum_ite_eq, hone, hrest,
      List.length_cons]
    omega

/-- A store that keeps nothing for others counts what it keeps for the documents. -/
theorem sum_length_annotations {ids : List Text} (hids : ids.Nodup)
    {batches : List (Text × List Annotation)} (hnodup : (batches.map Prod.fst).Nodup)
    (hnames : ∀ name ∈ batches.map Prod.fst, name ∈ ids) :
    (ids.map fun id => (Store.annotations ⟨batches⟩ id).length).sum = Store.size ⟨batches⟩ := by
  induction batches with
  | nil =>
    unfold Store.annotations Store.size
    simp
  | cons entry rest ih =>
    obtain ⟨name, batch⟩ := entry
    rw [List.map_cons, List.nodup_cons] at hnodup
    have hrest := ih hnodup.2 fun other hother => hnames other (List.mem_cons_of_mem name hother)
    have hcons : ∀ id, (Store.annotations ⟨(name, batch) :: rest⟩ id).length
        = (if id = name then batch.length else 0) + (Store.annotations ⟨rest⟩ id).length := by
      intro id
      unfold Store.annotations
      rw [List.lookup_cons]
      by_cases hid : id = name
      · subst hid
        have hnone : rest.lookup id = none := lookup_eq_none_of_notMem hnodup.1
        simp [hnone]
      · simp [hid, beq_false_of_ne hid]
    have hone : ids.count name = 1 :=
      List.count_eq_one_of_mem hids (hnames name List.mem_cons_self)
    have hsize : Store.size ⟨(name, batch) :: rest⟩ = batch.length + Store.size ⟨rest⟩ :=
      List.length_append
    rw [List.map_congr_left fun id _ => hcons id, List.sum_map_add, sum_ite_eq, hone, hrest, hsize]
    omega

/-- The store counts what is attached and not the host's. -/
theorem Coherent.size_add {own : List Mark} {k : Desk} (h : Coherent own k) :
    k.shared.size + own.length = (k.documents.map fun d => d.attached.length).sum := by
  have hlength : ∀ (n : Nat) (d : Document), (k.documents : List Document)[n]? = some d →
      d.attached.length = (marksOn n own).length + (k.shared.annotations d.id).length := by
    intro n d hd
    have hperm := (h.attached n d hd).length_eq
    unfold Document.numbers Store.marks at hperm
    simpa using hperm
  rw [sum_map_eq_add k.documents _ _ _ hlength, sum_length_marksOn h.own_lt]
  have hsize := sum_length_annotations h.ids h.names_nodup h.names
  rw [List.map_map] at hsize
  have hsize : (k.documents.map fun d => (k.shared.annotations d.id).length).sum
      = k.shared.size := hsize
  omega

/-! ## Steps that are aimed at one document -/

/-- A step is about document `n`, directly or through its controller. -/
def AimedAt (w : World) (n : Nat) (s : Step) : Prop :=
  if s.request.isMode then ∀ c, w.controllers[s.controller]? = some c → c.document = n
  else s.document = n

/-- All that the runners of the controllers of document `n` do is about that document, too. -/
def KeepsTo (w : World) (n : Nat) : Prop :=
  ∀ c ∈ w.controllers, c.document = n → ∀ run ∈ c.script, ∀ s ∈ run.during, AimedAt w n s

theorem orderly_of_aimedAt {r : Rules} {w : World} (hw : Fits r w) {n : Nat} {s : Step}
    (hs : s.request.isOrderly) (haimed : AimedAt w n s) : Orderly r.roster (· = n) s := by
  refine ⟨hs, ?_⟩
  unfold AimedAt at haimed
  split
  · next hmode =>
    rw [if_pos hmode] at haimed
    intro e he
    rw [← hw.roster, List.getElem?_map] at he
    obtain ⟨c, hc, rfl⟩ := Option.map_eq_some_iff.mp he
    exact haimed c hc
  · next hmode =>
    rw [if_neg hmode] at haimed
    exact haimed

theorem Agrees.spares_of_isOrderly {w : World} {l : Ledger} (h : Agrees w l) {s : Step}
    (hs : s.request.isOrderly) {n : Nat} (haimed : AimedAt w n s) (hkeeps : KeepsTo w n) :
    Spares (· = n) w.desk (advance s w).2.desk := by
  obtain ⟨roster, hshared, hfits⟩ := h.fits
  have hfits' : Fits (Rules.orderly roster hshared (· = n)) w := by
    refine ⟨hfits.roster, hfits.stores, fun m c hc hm run hrun s' hs' => ?_, hfits.callbacks,
      hfits.listeners⟩
    have hdoc : c.document = n := hm _ (hfits.roster_of hc)
    have horderly := (hfits.scripts m c hc (fun _ _ => trivial) run hrun s' hs').1
    exact orderly_of_aimedAt hfits horderly
      (hkeeps c (List.mem_of_getElem? hc) hdoc run hrun s' hs')
  have hcourse := course_advance (s := s) hfits' (orderly_of_aimedAt hfits hs haimed)
  exact (hcourse.orderly h.coherent).2

/-- A step that is aimed at a document spares the others. -/
theorem Agrees.spares {w : World} {l : Ledger} (h : Agrees w l) {s : Step} (hs : l.Allows w s)
    {n : Nat} (haimed : AimedAt w n s) (hkeeps : KeepsTo w n) :
    Spares (· = n) w.desk (advance s w).2.desk := by
  obtain ⟨i, m, request⟩ := s
  unfold Ledger.Allows at hs
  unfold AimedAt at haimed
  cases request with
  | decorate offset text style =>
    cases haimed
    rcases advance_decorate w i m offset text style with
      ⟨fault, -, hsame⟩ | ⟨d, x, k, hd, hx, -, -, hsame⟩
    · rw [hsame.desk]
      exact .refl _ w.desk
    · rw [hsame.desk]
      exact (h.coherent.update_decorate hd hx).toSpares h.coherent rfl
  | remove k =>
    cases haimed
    rcases advance_remove w i m k with ⟨fault, -, hsame⟩ | ⟨mark, hmark, -, hsame⟩
    · rw [hsame.desk]
      exact .refl _ w.desk
    · obtain ⟨hmade, hn⟩ := hs mark hmark
      obtain ⟨d, d', hupdate, -, -⟩ :=
        h.coherent.remove hn (h.made_numbered mark hmade) (h.made_or mark hmade)
      rw [hsame.desk]
      exact hupdate.toSpares h.coherent rfl
  | _ => exact h.spares_of_isOrderly hs haimed hkeeps

/-! ## Sessions -/

/-- The decoration is inactive and on no text. -/
def IsOff (docs : Documents) (mark : Mark) : Prop :=
  ¬ docs.Attached mark ∧ ∃ x, docs.decoration? mark = some x ∧ x.active = false

/-- What is neither the host's nor kept is off. -/
theorem Coherent.isOff {own : List Mark} {k : Desk} (h : Coherent own k) {mark : Mark}
    (hnumbered : k.documents.Numbered mark) (hown : mark ∉ own)
    (hkept : ∀ batch ∈ k.kept, mark ∉ batch) : IsOff k.documents mark := by
  have hoff : ¬ k.documents.Attached mark := by
    intro ha
    rcases h.own_or_kept ha with hmark | ⟨batch, hbatch, hmark⟩
    · exact hown hmark
    · exact hkept batch hbatch hmark
  exact ⟨hoff, h.tidy.not_active hnumbered hoff⟩

/-- A batch that the store does not keep any more is off as a whole. -/
theorem Agrees.kept_or_isOff {w : World} {l : Ledger} (h : Agrees w l) {batch : List Mark}
    (hbatch : batch ∈ l.shown) :
    batch ∈ w.desk.kept ∨ ∀ mark ∈ batch, IsOff w.documents mark := by
  by_cases hkept : batch ∈ w.desk.kept
  · exact .inl hkept
  · refine .inr fun mark hmark => h.coherent.isOff (h.shown_numbered batch hbatch mark hmark)
      (h.shown_not_live batch hbatch mark hmark) fun other hother hmem => hkept ?_
    obtain ⟨d, -, rfl⟩ := h.coherent.exists_of_mem_kept hother
    rcases h.shown_whole batch hbatch d.id with heq | hdisjoint
    · rw [heq]
      exact hother
    · exact (hdisjoint hmark hmem).elim

/-- Whatever steps such a host has made, failed ones included, the shared store and the documents
agree. -/
theorem store_and_documents_agree {w : World} {l : Ledger} (h : Played w l) :
    -- what is attached to a document is live or kept for it, once and active
    (∀ (n : Nat) (d : Document), (w.documents : List Document)[n]? = some d →
      (d.numbers.map (Mark.mk n)).Perm
          (marksOn n l.live ++ (w.desk.shared.annotations d.id).map Annotation.mark) ∧
        d.numbers.Nodup ∧ ∀ entry ∈ d.attached, entry.2.active = true) ∧
    -- a batch that has ever been kept is kept now, or it is off as a whole
    (∀ batch ∈ l.shown, batch ∈ w.desk.kept ∨ ∀ mark ∈ batch, IsOff w.documents mark) ∧
    -- so is whatever else there has ever been
    (∀ mark, w.documents.Numbered mark → mark ∉ l.live → (∀ batch ∈ w.desk.kept, mark ∉ batch) →
      IsOff w.documents mark) ∧
    -- a step that is aimed at one document spares the others
    (∀ (n : Nat) (s : Step), l.Allows w s → AimedAt w n s → KeepsTo w n →
      Spares (· = n) w.desk (advance s w).2.desk) ∧
    -- the store counts what is attached and not the host's
    w.desk.shared.size + l.live.length = (w.documents.map fun d => d.attached.length).sum := by
  have hagrees := h.agrees
  have hcoherent := hagrees.coherent
  refine ⟨fun n d hd => ⟨hcoherent.attached n d hd, ?_, ?_⟩, fun _ => hagrees.kept_or_isOff,
    fun _ => hcoherent.isOff, fun _ _ hs => hagrees.spares hs, hcoherent.size_add⟩
  · exact (hcoherent.tidy d (List.mem_of_getElem? hd)).nodup_numbers
  · exact hcoherent.active d (List.mem_of_getElem? hd)

theorem store_and_documents_agree_of_twoLines :
    let w₁ := (advance ⟨0, 0, .decorate (.whole 1) ['n'] []⟩ twoLines).2
    let w₂ := (advance ⟨0, 0, .run⟩ w₁).2
    let w := (advance ⟨0, 0, .run⟩ w₂).2
    w₂.desk.kept = [[⟨0, 1⟩]] ∧ w.desk.kept = [[⟨0, 2⟩]] ∧ IsOff w.documents ⟨0, 1⟩ ∧
      w.desk.shared.size + 1 = (w.documents.map fun d => d.attached.length).sum := by
  intro w₁ w₂ w
  have hstart : Played twoLines ⟨[], [], []⟩ := by
    apply Played.start
    · intro d hd
      cases List.mem_singleton.mp hd
      rfl
    · decide
    · decide
    · decide
  obtain ⟨l, hplayed, hlive, hmem⟩ : ∃ l : Ledger,
      Played w l ∧ l.live = [⟨0, 0⟩] ∧ [⟨0, 1⟩] ∈ l.shown :=
    ⟨_, ((hstart.step (s := ⟨0, 0, .decorate (.whole 1) ['n'] []⟩) trivial).step
      (s := ⟨0, 0, .run⟩) rfl).step (s := ⟨0, 0, .run⟩) rfl, by decide +kernel, by decide +kernel⟩
  have hfirst : w₂.desk.kept = [[⟨0, 1⟩]] := by decide +kernel
  have hsecond : w.desk.kept = [[⟨0, 2⟩]] := by decide +kernel
  obtain ⟨-, hshown, -, -, hsize⟩ := store_and_documents_agree hplayed
  rw [hlive] at hsize
  refine ⟨hfirst, hsecond, ?_, hsize⟩
  rcases hshown [⟨0, 1⟩] hmem with hkept | hoff
  · rw [hsecond] at hkept
    exact absurd hkept (by decide)
  · exact hoff ⟨0, 1⟩ List.mem_cons_self

end Marginalia.Session
