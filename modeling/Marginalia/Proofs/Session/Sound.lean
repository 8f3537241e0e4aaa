import Marginalia.Proofs.Session.Course
import Marginalia.Session.Opening

/-!
# Sound desks

A desk is *sound* if its documents are tidy and all annotations that are kept anywhere have marks
of decorations that there are.  Every deed keeps a desk sound, so the desk of every world that a
host can reach is sound, whatever steps the host has made and however often runs and callbacks
have made steps within them.  Between two steps of the host no run is in progress.
-/

namespace Marginalia

namespace Session

/-! ## Soundness -/

/-- Documents are tidy, and what is kept has been numbered. -/
structure Desk.Sound (k : Desk) : Prop where
  tidy : k.documents.Tidy
  stores : ∀ st ∈ k.stores, ∀ entry ∈ st.batches, ∀ a ∈ entry.2, k.documents.Numbered a.mark
  slots : ∀ slot ∈ k.slots, ∀ a ∈ slot.2, k.documents.Numbered a.mark

namespace Desk.Sound
variable {k : Desk}

theorem annotations (h : k.Sound) {s : Nat} {st : Store} (hs : k.stores[s]? = some st)
    {id : Text} {a : Annotation} (ha : a ∈ st.annotations id) : k.documents.Numbered a.mark :=
  h.stores st (List.mem_of_getElem? hs) _ (Store.mem_batches ha) a ha

/-- One store changes, and all that it keeps then has been numbered. -/
theorem of_set (h : k.Sound) {docs : Documents} (he : k.documents.Evolve docs) {s : Nat}
    {st : Store} (hst : ∀ entry ∈ st.batches, ∀ a ∈ entry.2, docs.Numbered a.mark) :
    Sound { k with documents := docs, stores := k.stores.set s st } := by
  refine ⟨he.tidy h.tidy, fun st' hmem entry hentry a ha => ?_,
    fun slot hslot a ha => he.numbered (h.slots slot hslot a ha)⟩
  rcases List.mem_or_eq_of_mem_set hmem with hmem | rfl
  · exact he.numbered (h.stores st' hmem entry hentry a ha)
  · exact hst entry hentry a ha

theorem of_evolve (h : k.Sound) {docs : Documents} (he : k.documents.Evolve docs) :
    Sound { k with documents := docs } :=
  ⟨he.tidy h.tidy, fun st hst entry hentry a ha => he.numbered (h.stores st hst entry hentry a ha),
    fun slot hslot a ha => he.numbered (h.slots slot hslot a ha)⟩

end Desk.Sound

/-- Every deed keeps a desk sound. -/
theorem Does.sound {a : Deed} {k k' : Desk} (hdoes : Does a k k') (h : k.Sound) : k'.Sound := by
  have he := hdoes.evolve
  cases hdoes with
  | aside => exact h
  | listen => exact h.of_evolve he
  | edit => exact h.of_evolve he
  | decorate => exact h.of_evolve he
  | remove => exact h.of_evolve he
  | render _ hshows hkept =>
    refine ⟨he.tidy h.tidy, (h.of_evolve he).stores, fun slot hslot a ha => ?_⟩
    rcases List.mem_append.mp hslot with hslot | hslot
    · rw [hkept slot hslot] at ha
      exact hshows.numbered ha
    · exact he.numbered (h.slots slot hslot a ha)
  | install hs _ hbatch =>
    refine h.of_set he fun entry hentry a ha => ?_
    rcases Store.mem_keep hentry with rfl | hentry
    · obtain ⟨slot, hslot, ha⟩ := hbatch a ha
      exact h.slots slot hslot a ha
    · exact h.stores _ (List.mem_of_getElem? hs) entry hentry a ha
  | clear hs _ =>
    refine h.of_set he fun entry hentry a ha => ?_
    exact he.numbered (h.stores _ (List.mem_of_getElem? hs) entry (Store.mem_drop hentry) a ha)
  | replace hs _ hshows =>
    refine h.of_set he fun entry hentry a ha => ?_
    rcases Store.mem_keep hentry with rfl | hentry
    · exact hshows.numbered ha
    · exact he.numbered (h.stores _ (List.mem_of_getElem? hs) entry hentry a ha)

theorem Course.sound {r : Rules} {w w' : World} (h : Course r w w') (hw : w.desk.Sound) :
    w'.desk.Sound :=
  h.invariant (fun _ hdoes hk => hdoes.sound hk) hw

theorem Course.evolve {r : Rules} {w w' : World} (h : Course r w w') :
    w.documents.Evolve w'.documents := by
  apply h.invariant (I := fun k => w.documents.Evolve k.documents)
  · exact fun _ hdoes hk => hk.trans hdoes.evolve
  · exact Documents.Evolve.refl w.documents

/-! ## Reachable worlds -/

end Session

/-- A document that has just been opened. -/
def Document.IsFresh (d : Document) : Prop :=
  d = ofText d.id d.file d.text

theorem Document.IsFresh.tidy {d : Document} (h : d.IsFresh) : d.Tidy := by
  rw [h]
  exact tidy_ofText d.id d.file d.text

namespace Session

theorem isFresh_open {host : Host} {untitled : Nat} {source : Source} {d : Document}
    (h : source.open host untitled = .ok d) : d.IsFresh := by
  cases source with
  | file path =>
    have h : Document.ofFile host.tree host.cwd (Path.ofText path) = .ok d := h
    unfold Document.ofFile at h
    split at h
    · cases h
      rfl
    · cases h
  | text content path id =>
    cases h
    rfl

/-- The documents that a session is opened with are fresh. -/
theorem isFresh_openAll {host : Host} {untitled : Nat} {sources : List Source}
    {docs : List Document} (h : openAll host untitled sources = .ok docs) :
    ∀ d ∈ docs, d.IsFresh := by
  induction sources generalizing untitled docs with
  | nil =>
    cases h
    exact fun _ h => nomatch h
  | cons source rest ih =>
    unfold openAll at h
    cases hd : source.open host untitled with
    | error e =>
      rw [hd] at h
      cases h
    | ok d =>
      rw [hd] at h
      cases hds : openAll host (if source.isUntitled then untitled + 1 else untitled) rest with
      | error e =>
        simp only [hds] at h
        cases h
      | ok ds =>
        simp only [hds] at h
        cases h
        intro d' hd'
        rcases List.mem_cons.mp hd' with rfl | hd'
        · exact isFresh_open hd
        · exact ih hds d' hd'

/-- The worlds that a host can bring about. -/
inductive Reachable : World → Prop
  /-- A session with documents that have just been opened. -/
  | start (host : Host) (terminal : Bool) {documents : List Document} (plans : List Plan) :
      (∀ d ∈ documents, d.IsFresh) → Reachable (World.start host terminal documents plans)
  /-- One more step. -/
  | step {w : World} (s : Step) : Reachable w → Reachable (advance s w).2

/-- The document and the store of the controller of each plan. -/
def rosterOf (plans : List Plan) : List (Nat × Nat) :=
  plans.zipIdx.map fun (p, n) => (p.document, if p.own then n + 1 else 0)

/-- Controllers without a store to themselves share the first one. -/
theorem shared_of_mem_rosterOf {plans : List Plan} (hown : ∀ p ∈ plans, p.own = false) :
    ∀ e ∈ rosterOf plans, e.2 = 0 := by
  intro e he
  obtain ⟨⟨p, n⟩, hp, rfl⟩ := List.mem_map.mp he
  have hp := hown p (List.fst_mem_of_mem_zipIdx hp)
  show (if p.own then n + 1 else 0) = 0
  rw [hp]
  rfl

/-- A session starts with nothing in store but the scripts of its plans. -/
theorem fits_start {r : Rules} (host : Host) (terminal : Bool) {documents : List Document}
    {plans : List Plan} (hdocs : ∀ d ∈ documents, d.IsFresh) (hroster : r.roster = rosterOf plans)
    (hscripts : ∀ p ∈ plans, ∀ run ∈ p.script, ∀ s ∈ run.during, r.step s) :
    Fits r (World.start host terminal documents plans) := by
  refine ⟨?_, fun e he => ?_, fun m c hc _ => ?_, (fun _ h => nomatch h),
    fun n m d hd hm => ?_⟩
  · rw [hroster]
    unfold World.start rosterOf
    rw [List.map_map]
    rfl
  · rw [hroster] at he
    obtain ⟨⟨p, n⟩, hmem, rfl⟩ := List.mem_map.mp he
    have hn : n < plans.length := by simpa using (List.mem_zipIdx hmem).2.1
    show (if p.own then n + 1 else 0) < (List.replicate (plans.length + 1) Store.empty).length
    rw [List.length_replicate]
    split
    · omega
    · omega
  · have hc : (plans.zipIdx.map fun (p, n) => p.controller (n + 1))[m]? = some c := hc
    rw [List.getElem?_map] at hc
    obtain ⟨⟨p, n⟩, hp, rfl⟩ := Option.map_eq_some_iff.mp hc
    have hmem : p ∈ plans := List.fst_mem_of_mem_zipIdx (List.mem_of_getElem? hp)
    exact hscripts p hmem
  · have hfresh : d.IsFresh := hdocs d (List.mem_of_getElem? hd)
    rw [hfresh] at hm
    cases hm

theorem sound_start (host : Host) (terminal : Bool) {documents : List Document}
    (plans : List Plan) (hdocs : ∀ d ∈ documents, d.IsFresh) :
    (World.start host terminal documents plans).desk.Sound := by
  refine ⟨fun d hd => (hdocs d hd).tidy, fun st hst entry hentry => ?_, fun _ h => nomatch h⟩
  cases List.eq_of_mem_replicate hst
  cases hentry

/-- The rules that allow everything. -/
def Rules.free (roster : List (Nat × Nat)) : Rules where
  roster
  deed _ := True
  step _ := True
  callback _ := True
  mode _ := True
  aside := trivial
  listen := trivial
  deed_of_step _ _ := trivial
  callback_of_step _ _ := trivial
  step_of_callback _ _ := trivial
  mode_of_step _ _ := trivial
  mode_of_save _ _ _ _ := trivial
  deed_of_mode _ _ := ⟨trivial, trivial⟩

namespace Reachable
variable {w : World}

theorem fits (h : Reachable w) : ∃ roster, Fits (Rules.free roster) w := by
  induction h with
  | start host terminal plans hdocs =>
    exact ⟨_, fits_start (r := .free _) host terminal hdocs rfl fun _ _ _ _ _ _ => trivial⟩
  | step s _ ih =>
    obtain ⟨roster, hfits⟩ := ih
    exact ⟨roster, (course_advance hfits trivial).fits hfits⟩

/-- Every desk that a host can bring about is sound. -/
theorem sound (h : Reachable w) : w.desk.Sound := by
  induction h with
  | start host terminal plans hdocs => exact sound_start host terminal plans hdocs
  | step s h ih =>
    obtain ⟨roster, hfits⟩ := h.fits
    exact (course_advance hfits trivial).sound ih

/-- Between two steps of the host no run is in progress. -/
theorem not_running (h : Reachable w) : ∀ c ∈ w.controllers, c.running = false := by
  have hruns : ∀ b ∈ w.runs, b = false := by
    induction h with
    | start host terminal plans hdocs =>
      intro b hb
      obtain ⟨c, hc, rfl⟩ := List.mem_map.mp hb
      obtain ⟨⟨p, n⟩, -, rfl⟩ := List.mem_map.mp hc
      rfl
    | step s h ih =>
      obtain ⟨roster, hfits⟩ := h.fits
      rw [(course_advance hfits trivial).runs]
      exact ih
  exact fun c hc => hruns _ (List.mem_map_of_mem hc)

/-- Every controller has its store. -/
theorem store_of_controller (h : Reachable w) {c : Controller} (hc : c ∈ w.controllers) :
    ∃ st, w.stores[c.store]? = some st := by
  obtain ⟨roster, hfits⟩ := h.fits
  have hmem : (c.document, c.store) ∈ roster := by
    have hmap := List.mem_map_of_mem (f := fun c : Controller => (c.document, c.store)) hc
    rw [hfits.roster] at hmap
    exact hmap
  exact ⟨_, List.getElem?_eq_getElem (hfits.stores _ hmem)⟩

end Reachable

/-! ## A session -/

/-- A session with a document of two lines, whose controller finds the same in every run. -/
def twoLines : World :=
  .start ⟨.empty, Path.ofText "/w".toList, []⟩ false
    [.ofText ['d'] (some (Path.ofText "/w/a.go".toList)) "a\nb\n".toList]
    [⟨0, false, .standard, .standard, some .recorded,
      [⟨[("diagnostics".toList, .list [.table
        [("source_file".toList, .text "./a.go".toList), ("line".toList, .integer 2),
          ("column".toList, .integer 14), ("message".toList, .text "moved".toList)]])], [], none⟩]⟩]

theorem reachable_twoLines : Reachable twoLines := by
  apply Reachable.start
  intro d hd
  cases List.mem_singleton.mp hd
  rfl

end Session

end Marginalia
