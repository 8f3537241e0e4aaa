import Marginalia.Proofs.Session.Sound
import Marginalia.Proofs.Store.Swap

/-!
# Runs that end well

What a run does whose runner makes no steps of its own and answers with an outcome.  `run_pipeline`
follows such a run from one end to the other, and `run_swaps_batch` is the result for a host: in
whatever state the session is, the batch of the document is swapped for one that shows the
diagnostics of the outcome in the present text.
-/

namespace Marginalia.Session

/-! ## Runners -/

/-- The runner of a controller answers with an outcome.  It makes no steps and does not fail. -/
def Returns (w : World) (c : Controller) (unitId : Text) (o : Outcome) : Prop :=
  match c.script with
  | [] => ∃ d, (w.documents : List Document)[c.document]? = some d ∧
      (Analysis.analyse w.host d unitId c.settings).2 = .ok o
  | run :: _ => run.during = [] ∧ run.failure = none ∧
      run.outcome.get? "unit_id".toList = none ∧
      Outcome.ofFields (("unit_id".toList, .text unitId) :: run.outcome) = .ok o

/-- Nothing has happened to files, documents and stores, and controllers are what they were in all
that a run needs. -/
structure Unaltered (w w' : World) : Prop where
  host : w'.host = w.host
  documents : w'.documents = w.documents
  stores : w'.stores = w.stores
  controllers : ∀ (n : Nat) (c : Controller), w.controllers[n]? = some c →
    ∃ c', w'.controllers[n]? = some c' ∧ c'.document = c.document ∧ c'.store = c.store ∧
      c'.style = c.style

namespace Unaltered

theorem of_eq {w w' : World} (hh : w'.host = w.host) (hd : w'.documents = w.documents)
    (hs : w'.stores = w.stores) (hc : w'.controllers = w.controllers) : Unaltered w w' :=
  ⟨hh, hd, hs, fun _ c h => ⟨c, hc ▸ h, rfl, rfl, rfl⟩⟩

theorem trans {w₁ w₂ w₃ : World} (h : Unaltered w₁ w₂) (h' : Unaltered w₂ w₃) :
    Unaltered w₁ w₃ := by
  refine ⟨h'.host.trans h.host, h'.documents.trans h.documents, h'.stores.trans h.stores,
    fun n c hc => ?_⟩
  obtain ⟨c', hc', hdoc, hstore, hstyle⟩ := h.controllers n c hc
  obtain ⟨c'', hc'', hdoc', hstore', hstyle'⟩ := h'.controllers n c' hc'
  exact ⟨c'', hc'', hdoc'.trans hdoc, hstore'.trans hstore, hstyle'.trans hstyle⟩

theorem modify (w : World) (n : Nat) {change : Controller → Controller}
    (h : ∀ c, (change c).document = c.document ∧ (change c).store = c.store ∧
      (change c).style = c.style) :
    Unaltered w { w with controllers := w.controllers.modify n change } := by
  refine ⟨rfl, rfl, rfl, fun m c hc => ?_⟩
  show ∃ c', (w.controllers.modify n change)[m]? = some c' ∧ _
  rw [List.getElem?_modify, hc]
  by_cases hm : n = m
  · exact ⟨change c, by simp [hm], h c⟩
  · exact ⟨c, by simp [hm], rfl, rfl, rfl⟩

end Unaltered

theorem run_say (voice : Voice) (level : Console.Level) (message : Text) (w : World) :
    ∃ w', (say voice level message).run w = (.ok (), w') ∧ Unaltered w w' ∧
      w'.controllers = w.controllers := by
  cases voice with
  | recorded => exact ⟨_, rfl, .of_eq rfl rfl rfl rfl, rfl⟩
  | printed m => exact ⟨_, rfl, .of_eq rfl rfl rfl rfl, rfl⟩

theorem run_sayAll (voice : Voice) (messages : List (Console.Level × Text)) (w : World) :
    ∃ w', (sayAll voice messages).run w = (.ok (), w') ∧ Unaltered w w' ∧
      w'.controllers = w.controllers := by
  induction messages generalizing w with
  | nil => exact ⟨w, rfl, .of_eq rfl rfl rfl rfl, rfl⟩
  | cons message rest ih =>
    obtain ⟨w₁, hrun₁, hsame₁, hc₁⟩ := run_say voice message.1 message.2 w
    obtain ⟨w₂, hrun₂, hsame₂, hc₂⟩ := ih w₁
    refine ⟨w₂, ?_, hsame₁.trans hsame₂, hc₂.trans hc₁⟩
    unfold sayAll
    rw [run_bind_ok hrun₁]
    exact hrun₂

/-- A runner that makes no steps leaves everything as it is. -/
theorem run_outcomeOf (make : Make) {w : World} {n : Nat} {c : Controller} {unitId : Text}
    {o : Outcome} (hc : w.controllers[n]? = some c) (ho : Returns w c unitId o) :
    ∃ w', (outcomeOf make n unitId).run w = (.ok o, w') ∧ Unaltered w w' := by
  unfold outcomeOf
  rw [controller_bind_some hc]
  unfold Returns at ho
  cases hscript : c.script with
  | nil =>
    rw [hscript] at ho
    obtain ⟨d, hd, hresult⟩ := ho
    simp only
    unfold compilerOutcome
    rw [document_bind_some hd]
    simp only [get_bind]
    cases hanalyse : Analysis.analyse w.host d unitId c.settings with
    | mk calls result =>
      rw [hanalyse] at hresult
      cases hresult
      exact ⟨_, rfl, .of_eq rfl rfl rfl rfl⟩
  | cons run rest =>
    rw [hscript] at ho
    obtain ⟨hduring, hfailure, hfield, hfields⟩ := ho
    have hscripted : ∀ w, (scriptedOutcome make run unitId).run w = (.ok o, w) := by
      intro w
      unfold scriptedOutcome
      simp only [hduring, hfailure, hfield, hfields]
      rfl
    have hshift : Unaltered w (w.after (changeController n fun c =>
        { c with script := if rest.isEmpty then [run] else rest })) :=
      .modify w n fun c => ⟨rfl, rfl, rfl⟩
    simp only
    unfold changeController record
    rw [modify_bind, modify_bind, hscripted]
    exact ⟨_, rfl, hshift.trans (.of_eq rfl rfl rfl rfl)⟩

/-! ## The pipeline -/

/-- What a run of a controller leaves: the documents, its store and the outcome. -/
structure Ran (n : Nat) (c : Controller) (o : Outcome) (docs : Documents) (st : Store)
    (w w' : World) : Prop where
  host : w'.host = w.host
  documents : w'.documents = docs
  stores : w'.stores = w.stores.set c.store st
  controllers : ∃ c', w'.controllers[n]? = some c' ∧ c'.document = c.document ∧
    c'.store = c.store ∧ c'.style = c.style ∧ c'.lastOutcome = some o

section
variable (make : Make) {w : World} {n : Nat} {c : Controller} {d : Document} {file : Path}
  {unitId : Text} {o : Outcome} {st : Store} {docs : Documents} {batch : List Annotation}

theorem run_renderIn_ok {n : Nat} {style : Style} {xs : List Diagnostic}
    (h : Store.render w.documents n style xs = .ok (docs, batch)) :
    (renderIn n style xs).run w = (.ok batch, { w with documents := docs }) := by
  unfold renderIn
  rw [get_bind, orFault_bind, h]
  rfl

theorem run_pipeline (hc : w.controllers[n]? = some c)
    (hd : (w.documents : List Document)[c.document]? = some d) (hfile : sourceFile d = .ok file)
    (hunit : Package.ofFile w.host.tree w.host.cwd file = .ok unitId)
    (ho : Returns w c unitId o) (hst : w.stores[c.store]? = some st)
    (hrender : Store.render (Store.release w.documents c.document (st.annotations d.id))
      c.document c.style o.diagnostics = .ok (docs, batch)) :
    ∃ w', (pipeline make n).run w = (.ok (some o), w') ∧
      Ran n c o docs (st.keep d.id batch) w w' := by
  obtain ⟨w₁, hsay, hsame₁, hc₁⟩ := run_say c.voice .info
    ("Analysing ".toList ++ unitId ++ ['…']) w
  have hreturns : Returns w₁ c unitId o := by
    unfold Returns at ho ⊢
    rw [hsame₁.documents, hsame₁.host]
    exact ho
  obtain ⟨w₂, houtcome, hsame₂⟩ := run_outcomeOf make (hc₁ ▸ hc) hreturns
  have hsame := hsame₁.trans hsame₂
  obtain ⟨c', hc', hdoc, hstore, hstyle⟩ := hsame.controllers n c hc
  have hd₂ : (w₂.documents : List Document)[c.document]? = some d := hsame.documents ▸ hd
  have hst₂ : w₂.stores[c.store]? = some st := hsame.stores ▸ hst
  have hrender₂ : Store.render (Store.release w₂.documents c.document (st.annotations d.id))
      c.document c.style o.diagnostics = .ok (docs, batch) := hsame.documents ▸ hrender
  have hreplace := run_replaceIn hst₂ hd₂ (Documents.shows_of_render hrender₂)
    ⟨_, run_clearStore hst₂ hd₂, run_renderIn_ok hrender₂⟩
  let w₃ : World := { w₂ with
    documents := docs
    stores := w₂.stores.set c.store (st.keep d.id batch)
    controllers := w₂.controllers.modify n fun c => { c with lastOutcome := some o } }
  have hc₃ : w₃.controllers[n]? = some { c' with lastOutcome := some o } := by
    show (w₂.controllers.modify n _)[n]? = _
    rw [List.getElem?_modify_eq, hc']
    rfl
  obtain ⟨w₄, hsayAll, hsame₄, hc₄⟩ := run_sayAll c.voice (verdict c'.settings file o) w₃
  refine ⟨w₄, ?_, ?_, ?_, ?_, ?_⟩
  · unfold pipeline changeController
    rw [controller_bind_some hc, document_bind_some hd]
    simp only [hfile]
    rw [get_bind, orFault_bind, hunit]
    simp only
    rw [run_bind_ok hsay, run_bind_ok houtcome, run_bind_ok hreplace, modify_bind]
    refine (controller_bind_some hc₃ _).trans ?_
    rw [run_bind_ok hsayAll]
    rfl
  · exact hsame₄.host.trans hsame.host
  · exact hsame₄.documents
  · exact hsame₄.stores.trans (congrArg (fun stores => stores.set c.store (st.keep d.id batch))
      hsame.stores)
  · exact ⟨{ c' with lastOutcome := some o }, hc₄ ▸ hc₃, hdoc, hstore, hstyle, rfl⟩

theorem run_run (hc : w.controllers[n]? = some c) (hidle : c.running = false)
    (hd : (w.documents : List Document)[c.document]? = some d) (hfile : sourceFile d = .ok file)
    (hunit : Package.ofFile w.host.tree w.host.cwd file = .ok unitId)
    (ho : Returns w c unitId o) (hst : w.stores[c.store]? = some st)
    (hrender : Store.render (Store.release w.documents c.document (st.annotations d.id))
      c.document c.style o.diagnostics = .ok (docs, batch)) :
    ∃ w', (run make n).run w = (.ok (some o), w') ∧
      Ran n c o docs (st.keep d.id batch) w w' := by
  have hbusy : (w.busy n).controllers[n]? = some { c with running := true } := by
    show (w.controllers.modify n _)[n]? = _
    rw [List.getElem?_modify_eq, hc]
    rfl
  obtain ⟨w', hrun, hran⟩ := run_pipeline make (w := w.busy n) hbusy hd hfile hunit ho
    hst hrender
  obtain ⟨c', hc', hbound⟩ := hran.controllers
  refine ⟨w'.idle n, ?_, hran.host, hran.documents, hran.stores, { c' with running := false }, ?_,
    hbound⟩
  · unfold run
    rw [controller_bind_some hc]
    simp only [hidle]
    show (ensuring (pipeline make n) (World.idle n)).run (w.busy n) = _
    rw [run_ensuring, hrun]
  · show (w'.controllers.modify n _)[n]? = _
    rw [List.getElem?_modify_eq, hc']
    rfl

/-- A run that a host asks for. -/
theorem advance_run {m : Nat} (hc : w.controllers[n]? = some c) (hidle : c.running = false)
    (hd : (w.documents : List Document)[c.document]? = some d) (hfile : sourceFile d = .ok file)
    (hunit : Package.ofFile w.host.tree w.host.cwd file = .ok unitId)
    (ho : Returns w c unitId o) (hst : w.stores[c.store]? = some st)
    (hrender : Store.render (Store.release w.documents c.document (st.annotations d.id))
      c.document c.style o.diagnostics = .ok (docs, batch)) :
    (advance ⟨m, n, .run⟩ w).1.answer = .ok (.outcome (some o)) ∧
      Ran n c o docs (st.keep d.id batch) w (advance ⟨m, n, .run⟩ w).2 := by
  obtain ⟨w', hrun, hran⟩ := run_run (step 199) (w := w.resumed) hc hidle hd hfile hunit
    ho hst hrender
  have hstep : (step deepest ⟨m, n, .run⟩).run w.resumed = (.ok (.outcome (some o)), w') := by
    show (aboutMode (step 199) n .run).run w.resumed = _
    unfold aboutMode
    rw [run_bind_ok hrun]
    rfl
  obtain ⟨hanswer, more, hafter⟩ := advance_eq ⟨m, n, .run⟩ w
  rw [hstep] at hanswer
  refine ⟨hanswer, ?_⟩
  rw [hafter]
  unfold World.after
  rw [hstep]
  exact ⟨hran.host, hran.documents, hran.stores, hran.controllers⟩

end

/-! ## Swaps -/

theorem sourceFile_ok {d : Document} {file : Path} (hfile : d.file = some file)
    (hsuffix : file.suffix = Diagnostic.sourceSuffix) : sourceFile d = .ok file := by
  unfold sourceFile
  rw [hfile]
  exact if_pos hsuffix

/-- A run of a reachable world swaps the batch of its document for one that shows the outcome, and
leaves a world in which the same holds. -/
theorem exists_swapped {w : World} (hw : Reachable w) (m : Nat) {n : Nat} {c : Controller}
    {d : Document} {file : Path} {unitId look : Text} {o : Outcome}
    (hc : w.controllers[n]? = some c) (hd : (w.documents : List Document)[c.document]? = some d)
    (hfile : d.file = some file) (hsuffix : file.suffix = Diagnostic.sourceSuffix)
    (hunit : Package.ofFile w.host.tree w.host.cwd file = .ok unitId)
    (hlook : c.style.toText? = some look) (ho : Returns w c unitId o) {st : Store}
    (hst : w.stores[c.store]? = some st) :
    ∃ docs' batch d', (docs' : List Document)[c.document]? = some d' ∧
      (advance ⟨m, n, .run⟩ w).1.answer = .ok (.outcome (some o)) ∧
      Ran n c o docs' (st.keep d.id batch) w (advance ⟨m, n, .run⟩ w).2 ∧
      Swapped c.document look o.diagnostics w.documents docs' d d' (st.annotations d.id) batch := by
  have hsound := hw.sound
  obtain ⟨docs', batch, d', hrender, hd', hswapped⟩ := swapped_render hsound.tidy hd
    (fun a ha => hsound.annotations hst ha) hlook o.diagnostics
  have hidle : c.running = false := hw.not_running c (List.mem_of_getElem? hc)
  obtain ⟨hanswer, hran⟩ := advance_run (m := m) hc hidle hd (sourceFile_ok hfile hsuffix) hunit ho
    hst hrender
  exact ⟨docs', batch, d', hd', hanswer, hran, hswapped⟩

/-- A run that comes to its runner, and whose runner answers with an outcome, swaps the batch of the
document for one that shows the outcome in the present text, whatever has happened before.  A run
right after it with the same outcome changes nothing that shows. -/
theorem run_swaps_batch {w : World} (hw : Reachable w) (m : Nat) {n : Nat} {c : Controller}
    {d : Document} {file : Path} {unitId look : Text} {o : Outcome}
    (hc : w.controllers[n]? = some c) (hd : (w.documents : List Document)[c.document]? = some d)
    (hfile : d.file = some file) (hsuffix : file.suffix = Diagnostic.sourceSuffix)
    (hunit : Package.ofFile w.host.tree w.host.cwd file = .ok unitId)
    (hlook : c.style.toText? = some look) (ho : Returns w c unitId o) :
    let w' := (advance ⟨m, n, .run⟩ w).2
    ∃ st st' d' c', w.stores[c.store]? = some st ∧ w'.stores[c.store]? = some st' ∧
      (w'.documents : List Document)[c.document]? = some d' ∧ w'.controllers[n]? = some c' ∧
      (advance ⟨m, n, .run⟩ w).1.answer = .ok (.outcome (some o)) ∧
      c'.lastOutcome = some o ∧
      Swapped c.document look o.diagnostics w.documents w'.documents d d' (st.annotations d.id)
        (st'.annotations d.id) ∧
      -- the same once more
      (Returns w' c' unitId o → ∀ m',
        let w'' := (advance ⟨m', n, .run⟩ w').2
        ∃ st'' d'', w''.stores[c.store]? = some st'' ∧
          (w''.documents : List Document)[c.document]? = some d'' ∧
          w''.documents.notes (st''.annotations d.id) = w'.documents.notes (st'.annotations d.id) ∧
          d''.attached.length = d'.attached.length) := by
  obtain ⟨st, hst⟩ := hw.store_of_controller (List.mem_of_getElem? hc)
  obtain ⟨docs', batch, d', hd', hanswer, hran, hswapped⟩ :=
    exists_swapped hw m hc hd hfile hsuffix hunit hlook ho hst
  have hw' : Reachable (advance ⟨m, n, .run⟩ w).2 := .step _ hw
  generalize (advance ⟨m, n, .run⟩ w).2 = w' at hran hw'
  obtain ⟨c', hc', hdoc, hstore, hstyle, hlast⟩ := hran.controllers
  cases hran.documents
  have hlt := (List.getElem?_eq_some_iff.mp hst).1
  have hst' : w'.stores[c.store]? = some (st.keep d.id batch) := by
    rw [hran.stores]
    exact List.getElem?_set_self hlt
  have hbatch : (st.keep d.id batch).annotations d.id = batch := by
    rw [Store.annotations_keep, if_pos rfl]
  refine ⟨st, st.keep d.id batch, d', c', hst, hst', hd', hc', hanswer, hlast, ?_, ?_⟩
  · rw [hbatch]
    exact hswapped
  · intro ho' m'
    have hid : d'.id = d.id := hswapped.redecorated.id_eq
    obtain ⟨docs'', batch', d'', hd'', -, hran', hswapped'⟩ :=
      exists_swapped hw' m' hc' (hdoc ▸ hd') (hswapped.redecorated.file_eq.trans hfile) hsuffix
        (hran.host ▸ hunit) (hstyle ▸ hlook) ho' (hstore ▸ hst')
    generalize (advance ⟨m', n, .run⟩ w').2 = w'' at hran'
    cases hran'.documents
    have htidy : d'.Tidy := hw'.sound.tidy d' (List.mem_of_getElem? hd')
    have hlt' := (List.getElem?_eq_some_iff.mp hst').1
    rw [hdoc, hid, hbatch] at hswapped'
    refine ⟨(st.keep d.id batch).keep d.id batch', d'', ?_, hdoc ▸ hd'', ?_, ?_⟩
    · rw [hran'.stores, hstore, hid]
      exact List.getElem?_set_self hlt'
    · rw [Store.annotations_keep, if_pos rfl, hbatch]
      exact hswapped.notes_eq hswapped'
    · exact hswapped.length_attached hswapped' htidy

/-- What the controller of `twoLines` finds. -/
def twoLinesOutcome : Outcome :=
  { Outcome.begun ['w'] [] with
    diagnostics := [⟨"./a.go".toList, ⟨2, by decide⟩, ⟨14, by decide⟩, "moved".toList⟩] }

theorem run_swaps_batch_of_twoLines :
    let w := (advance ⟨0, 0, .decorate (.whole 1) ['n'] []⟩ twoLines).2
    (advance ⟨0, 0, .run⟩ w).1.answer = .ok (.outcome (some twoLinesOutcome)) ∧
      ∃ d d' old batch, Swapped 0 "italic yellow".toList twoLinesOutcome.diagnostics w.documents
        (advance ⟨0, 0, .run⟩ w).2.documents d d' old batch := by
  intro w
  have hw : Reachable w := .step _ reachable_twoLines
  have hunit : Package.ofFile w.host.tree w.host.cwd (Path.ofText "/w/a.go".toList) = .ok ['w'] :=
    by decide
  have hlook : Style.standard.toText? = some "italic yellow".toList := by decide
  obtain ⟨st, st', d', c', -, -, -, -, hanswer, -, hswapped, -⟩ :=
    run_swaps_batch (n := 0) (o := twoLinesOutcome) hw 0 rfl rfl rfl (by decide) hunit hlook
      ⟨rfl, rfl, rfl, by rfl⟩
  exact ⟨hanswer, _, d', _, _, hswapped⟩

end Marginalia.Session
