import Marginalia.Proofs.Session.Guard
import Marginalia.Proofs.Session.Precept

/-!
# Runs within runs

Runs are entered while others are in progress: a runner, a callback or whoever hears a message may
ask for one.  Notes tell which runs are in progress at a moment, `inProgress`, the one that was
entered last first.  `precept_takeTurns` says that whatever happens, a run begins only while none of
the same controller is in progress, is dropped only while one is, and ends before all that were
entered earlier.

The guard is that of the controller and not that of the document.  The main statement is
`runs_take_turns`: what holds of every session, and that a document with a single controller has at
most one run in progress.  `two_runs_of_one_document` shows that a document with two controllers may
have two.
-/

namespace Marginalia.Session

/-! ## Runs in progress -/

/-- What a note makes of the runs in progress, the one that was entered last first. -/
def Note.enter (now : List Nat) : Note → List Nat
  | .event (.began n) => n :: now
  | .event (.ended n _) => now.erase n
  | _ => now

/-- The runs in progress after notes, the one that was entered last first. -/
def inProgress (notes : List Note) : List Nat :=
  notes.foldl Note.enter []

/-- What may be noted while runs are in progress. -/
def Note.Admitted (now : List Nat) : Note → Prop
  | .event (.began n) => n ∉ now
  | .event (.dropped n) => n ∈ now
  | .event (.ended n _) => now.head? = some n
  | .placed (some n) _ _ _ => n ∈ now
  | _ => True

/-- What may be noted in turn while runs are in progress at first. -/
def TakeTurns (now : List Nat) : List Note → Prop
  | [] => True
  | note :: notes => note.Admitted now ∧ TakeTurns (note.enter now) notes

theorem takeTurns_append {now : List Nat} {notes notes' : List Note} :
    TakeTurns now (notes ++ notes') ↔
      TakeTurns now notes ∧ TakeTurns (notes.foldl Note.enter now) notes' := by
  induction notes generalizing now with
  | nil => simp [TakeTurns]
  | cons note rest ih => simp [TakeTurns, ih, and_assoc]

/-- A run in progress was in progress before or has begun since. -/
theorem mem_foldl_enter {n : Nat} {now : List Nat} {notes : List Note}
    (h : n ∈ notes.foldl Note.enter now) : n ∈ now ∨ .event (.began n) ∈ notes := by
  induction notes generalizing now with
  | nil => exact .inl h
  | cons note rest ih =>
    rcases ih h with hn | hn
    · cases note with
      | placed runner s i batch => exact .inl hn
      | event e =>
        cases e with
        | began m =>
          rcases List.mem_cons.mp hn with rfl | hn
          · exact .inr (by simp)
          · exact .inl hn
        | ended m answered => exact .inl (List.mem_of_mem_erase hn)
        | _ => exact .inl hn
    · exact .inr (List.mem_cons_of_mem note hn)

theorem mem_inProgress_append {n : Nat} {notes notes' : List Note}
    (h : n ∈ inProgress (notes ++ notes')) : n ∈ inProgress notes ∨ .event (.began n) ∈ notes' := by
  rw [inProgress, List.foldl_append] at h
  exact mem_foldl_enter h

/-- Runs in progress differ from each other. -/
theorem TakeTurns.nodup {now : List Nat} {notes : List Note} (h : TakeTurns now notes)
    (hnow : now.Nodup) : (notes.foldl Note.enter now).Nodup := by
  induction notes generalizing now with
  | nil => exact hnow
  | cons note rest ih =>
    refine ih h.2 ?_
    cases note with
    | placed runner s i batch => exact hnow
    | event e =>
      cases e with
      | began n => exact List.nodup_cons.mpr ⟨h.1, hnow⟩
      | ended n answered => exact hnow.erase n
      | _ => exact hnow

/-! ## Turns are taken -/

/-- If some runs are in progress in a world, the same are in progress in the end, and meanwhile
turns are taken. -/
def InTurn (w w' : World) (notes : List Note) : Prop :=
  ∀ now : List Nat, (∀ n, Running n w ↔ n ∈ now) →
    (∀ n, Running n w' ↔ n ∈ now) ∧ TakeTurns now notes ∧ notes.foldl Note.enter now = now

namespace InTurn
variable {w w' w'' : World} {notes notes' : List Note}

theorem trans (h : InTurn w w' notes) (h' : InTurn w' w'' notes') :
    InTurn w w'' (notes ++ notes') := by
  intro now hw
  obtain ⟨hw', hturns, hsame⟩ := h now hw
  obtain ⟨hw'', hturns', hsame'⟩ := h' now hw'
  refine ⟨hw'', takeTurns_append.mpr ⟨hturns, ?_⟩, ?_⟩
  · rw [hsame]
    exact hturns'
  · rw [List.foldl_append, hsame, hsame']

/-- Nothing is noted, and no run begins or ends. -/
theorem silent (h : ∀ n, Running n w' ↔ Running n w) : InTurn w w' [] :=
  fun _ hw => ⟨fun n => (h n).trans (hw n), trivial, rfl⟩

/-- One thing is noted, and no run begins or ends. -/
theorem single {note : Note} (h : ∀ n, Running n w' ↔ Running n w)
    (henter : ∀ now, note.enter now = now)
    (hnote : ∀ now, (∀ n, Running n w ↔ n ∈ now) → note.Admitted now) : InTurn w w' [note] :=
  fun now hw => ⟨fun n => (h n).trans (hw n), ⟨hnote now hw, trivial⟩, henter now⟩

end InTurn

theorem running_congr {w w' : World} (h : w'.controllers = w.controllers) (n : Nat) :
    Running n w' ↔ Running n w := by
  unfold Running
  rw [h]

theorem running_modify {w w' : World} {m : Nat} {change : Controller → Controller}
    (hc : w'.controllers = w.controllers.modify m change)
    (h : ∀ c, (change c).running = c.running) (n : Nat) : Running n w' ↔ Running n w := by
  unfold Running
  rw [hc, List.getElem?_modify]
  cases w.controllers[n]? with
  | none => simp
  | some c =>
    by_cases hm : m = n
    · simp [hm, h]
    · simp [hm]

theorem running_busy {w : World} {n : Nat} {c : Controller} (hc : w.controllers[n]? = some c)
    (m : Nat) : Running m (w.busy n) ↔ m = n ∨ Running m w := by
  unfold Running
  by_cases hm : n = m
  · subst hm
    simp [busy_self hc]
  · simp [busy_of_ne hm, Ne.symm hm]

theorem running_idle {w : World} {n : Nat} (m : Nat) :
    Running m (w.idle n) ↔ m ≠ n ∧ Running m w := by
  unfold Running
  by_cases hm : n = m
  · subst hm
    cases hc : w.controllers[n]? with
    | none => simp [World.idle, hc]
    | some c => simp [idle_self hc]
  · simp [idle_of_ne hm, Ne.symm hm]

/-- Whatever happens, turns are taken. -/
theorem precept_takeTurns : Precept InTurn where
  quiet h := .silent (running_congr h.controllers)
  trans := .trans
  adjust h := .silent (running_modify rfl fun c => (h c).running)
  dropped hc hrunning :=
    .single (fun _ => .rfl) (fun _ => rfl) fun _ hw => (hw _).mp ⟨_, hc, hrunning⟩
  switchedOn _ _ :=
    .single (running_modify rfl fun _ => rfl) (fun _ => rfl) fun _ _ => trivial
  switchedOff := by
    intro w n c _
    have hoff : (w.switchedOff n c).controllers
        = w.controllers.modify n fun c => { c with on := false, subscribed := false } := rfl
    refine .single (fun m => ?_) (fun _ => rfl) fun _ _ => trivial
    rw [running_congr (calm_clearStore c.store c.document (w.switchedOff n c)).controllers]
    exact running_modify hoff (fun _ => rfl) m
  joined _ _ := .single (running_congr rfl) (fun _ => rfl) fun _ _ => trivial
  left _ _ := .single (running_congr rfl) (fun _ => rfl) fun _ _ => trivial
  cleared w s i := .silent (running_congr (calm_clearStore s i w).controllers)
  placed := by
    intro w runner s i st d batch _ _ _ _ hrunner
    refine .single (running_congr rfl) (fun _ => rfl) fun now hw => ?_
    cases runner with
    | none => trivial
    | some n =>
      obtain ⟨c, hc, hrunning, -⟩ := hrunner n rfl
      exact (hw n).mp ⟨c, hc, hrunning⟩
  run := by
    intro w w' n c notes answered hc hidle h now hw
    have hn : n ∉ now := by
      rw [← hw n]
      rintro ⟨c', hc', hrunning⟩
      cases hc.symm.trans hc'
      simp [hidle] at hrunning
    obtain ⟨hw', hturns, hsame⟩ := h (n :: now) fun m => by
      rw [running_busy hc, hw m, List.mem_cons]
    refine ⟨fun m => ?_, ?_, ?_⟩
    · rw [running_idle, hw' m, List.mem_cons]
      constructor
      · rintro ⟨hm, rfl | hm'⟩
        · exact absurd rfl hm
        · exact hm'
      · intro hm
        exact ⟨fun heq => hn (heq ▸ hm), .inr hm⟩
    · refine takeTurns_append.mpr ⟨⟨hn, hturns⟩, ?_, trivial⟩
      show (notes.foldl Note.enter (n :: now)).head? = some n
      rw [hsame]
      rfl
    · rw [List.foldl_append]
      show (notes.foldl Note.enter (n :: now)).erase n = now
      rw [hsame, List.erase_cons_head]

/-! ## Sessions -/

/-- A session starts without runs in progress. -/
theorem not_running_start (host : Host) (terminal : Bool) (documents : List Document)
    (plans : List Plan) (n : Nat) : ¬ Running n (World.start host terminal documents plans) := by
  rintro ⟨c, hc, hrunning⟩
  obtain ⟨⟨p, m⟩, -, rfl⟩ := List.mem_map.mp (List.mem_of_getElem? hc)
  cases hrunning

/-- In a session turns are taken from the start, and in the end no run is in progress. -/
theorem takeTurns_start (host : Host) (terminal : Bool) (documents : List Document)
    (plans : List Plan) (conduct : Conduct) (steps : List Step) :
    let start := World.start host terminal documents plans
    TakeTurns [] (hearAll conduct steps start).2 ∧
      inProgress (hearAll conduct steps start).2 = [] := by
  intro start
  obtain ⟨-, hturns, hsame⟩ := precept_takeTurns.hearAll conduct steps start [] fun n => by
    simpa using not_running_start host terminal documents plans n
  exact ⟨hturns, hsame⟩

/-- At every moment of a session the runs in progress differ, and admit what is noted next. -/
theorem admitted_at (host : Host) (terminal : Bool) (documents : List Document)
    (plans : List Plan) (conduct : Conduct) (steps : List Step) {before after : List Note}
    {note : Note}
    (hnotes : (hearAll conduct steps (World.start host terminal documents plans)).2
      = before ++ note :: after) :
    (inProgress before).Nodup ∧ note.Admitted (inProgress before) := by
  obtain ⟨hturns, -⟩ := takeTurns_start host terminal documents plans conduct steps
  rw [hnotes] at hturns
  obtain ⟨hbefore, hnote, -⟩ := takeTurns_append.mp hturns
  exact ⟨hbefore.nodup List.nodup_nil, hnote⟩

/-- A run that is asked for while one of the same controller is in progress is dropped. -/
theorem heard_run_of_running {n : Nat} {w : World} (hw : Running n w) (conduct : Conduct)
    (make : Step → Heard Answer) :
    Heard.run conduct make n w = ((.ok none, w), [.event (.dropped n)]) := by
  obtain ⟨c, hc, hrunning⟩ := hw
  have hrun : (controller n).run w = (.ok c, w) := by rw [run_controller, hc]
  rw [Heard.run, Heard.of_bind_ok hrun, hrunning]
  rfl

/-- A run that is asked for while none of the same controller is in progress is made. -/
theorem heard_run_of_idle {n : Nat} {w : World} {c : Controller}
    (hc : w.controllers[n]? = some c) (hidle : c.running = false) (conduct : Conduct)
    (make : Step → Heard Answer) :
    ∃ inner answered, (Heard.run conduct make n w).2
      = .event (.began n) :: inner ++ [.event (.ended n answered)] := by
  have hrun : (controller n).run w = (.ok c, w) := by rw [run_controller, hc]
  rw [Heard.run, Heard.of_bind_ok hrun, hidle]
  exact ⟨_, _, rfl⟩

/-- Elements that differ and are all the same are one at most. -/
theorem length_le_one {l : List Nat} (h : l.Nodup) (hsame : ∀ m ∈ l, ∀ n ∈ l, m = n) :
    l.length ≤ 1 := by
  cases l with
  | nil => exact Nat.zero_le 1
  | cons m rest =>
    cases rest with
    | nil => exact Nat.le_refl 1
    | cons n rest =>
      obtain ⟨hm, -⟩ := List.nodup_cons.mp h
      exact absurd (by simp [hsame m (by simp) n (by simp)]) hm

/-- Whatever is asked for by runners, by callbacks and by those who hear messages, at any depth:
runs of a controller never overlap, and a run is dropped exactly if one of the same controller is in
progress.  Two runs of a document overlap only if it has two controllers. -/
theorem runs_take_turns (host : Host) (terminal : Bool) (documents : List Document)
    (plans : List Plan) (conduct : Conduct) (steps : List Step) :
    let notes := (hearAll conduct steps (World.start host terminal documents plans)).2
    -- at every moment the runs in progress are of different controllers
    (∀ before note after, notes = before ++ note :: after →
      (inProgress before).Nodup ∧
      -- a run begins, or is dropped, as none of its controller is in progress, or one is
      (∀ n, note = .event (.began n) → n ∉ inProgress before) ∧
      (∀ n, note = .event (.dropped n) → n ∈ inProgress before) ∧
      -- a run ends before all those that were entered earlier
      (∀ n answered, note = .event (.ended n answered) →
        (inProgress before).head? = some n)) ∧
    inProgress notes = [] ∧
    -- a document with a single controller has at most one run in progress, and none begins then
    (∀ i, (∀ (m n : Nat) p q, plans[m]? = some p → plans[n]? = some q → p.document = i →
        q.document = i → m = n) →
      ∀ before note after, notes = before ++ note :: after →
        let busy := (inProgress before).filter fun n => (plans[n]?.map Plan.document) = some i
        busy.length ≤ 1 ∧
        ∀ n, note = .event (.began n) → plans[n]?.map Plan.document = some i → busy = []) ∧
    -- who asks for a run meanwhile is answered with none, and nothing changes
    (∀ (w : World) (n : Nat) make, Running n w →
      Heard.run conduct make n w = ((.ok none, w), [.event (.dropped n)])) ∧
    -- a run of an idle controller is made, whichever other runs are in progress
    (∀ (w : World) (n : Nat) c make, w.controllers[n]? = some c → c.running = false →
      ∃ inner answered, (Heard.run conduct make n w).2
        = .event (.began n) :: inner ++ [.event (.ended n answered)]) := by
  intro notes
  obtain ⟨-, hidle⟩ := takeTurns_start host terminal documents plans conduct steps
  have hmoment : ∀ before note after, notes = before ++ note :: after →
      (inProgress before).Nodup ∧ note.Admitted (inProgress before) :=
    fun _ _ _ => admitted_at host terminal documents plans conduct steps
  refine ⟨fun before note after hnotes => ?_, hidle, ?_, ?_, ?_⟩
  · obtain ⟨hnodup, hnote⟩ := hmoment before note after hnotes
    refine ⟨hnodup, ?_, ?_, ?_⟩
    · rintro n rfl
      exact hnote
    · rintro n rfl
      exact hnote
    · rintro n answered rfl
      exact hnote
  · intro i hsole before note after hnotes busy
    obtain ⟨hnodup, hnote⟩ := hmoment before note after hnotes
    have hsame : ∀ m n : Nat, plans[m]?.map Plan.document = some i →
        plans[n]?.map Plan.document = some i → m = n := by
      intro m n hm hn
      obtain ⟨p, hp, hpi⟩ := Option.map_eq_some_iff.mp hm
      obtain ⟨q, hq, hqi⟩ := Option.map_eq_some_iff.mp hn
      exact hsole m n p q hp hq hpi hqi
    have hbusy : ∀ n ∈ busy, n ∈ inProgress before ∧ plans[n]?.map Plan.document = some i := by
      intro n hn
      simpa [busy] using hn
    refine ⟨?_, ?_⟩
    · refine length_le_one (hnodup.filter _) fun m hm n hn => ?_
      exact hsame m n (hbusy m hm).2 (hbusy n hn).2
    · rintro n rfl hn
      refine List.eq_nil_iff_forall_not_mem.mpr fun m hm => hnote ?_
      obtain ⟨hm, hmi⟩ := hbusy m hm
      rw [← hsame m n hmi hn]
      exact hm
  · exact fun w n make hw => heard_run_of_running hw conduct make
  · exact fun w n c make hc hidle => heard_run_of_idle hc hidle conduct make

/-- A host that asks for a run of the controller that tells it something. -/
def echo : Conduct :=
  ⟨fun _ n _ => [⟨0, n, .run⟩], fun _ _ => false⟩

/-- Both messages of a run are answered by asking for another one, in vain. -/
example : eventsOf (hearAll echo [⟨0, 0, .run⟩] twoLines).2
    = [.began 0, .dropped 0, .dropped 0, .ended 0 true] := by
  decide +kernel

/-- A session with one document and two controllers, of which the first one asks for a run of the
second one during its own. -/
def twoRunners : World :=
  .start ⟨.empty, Path.ofText "/w".toList, []⟩ false
    [.ofText ['d'] (some (Path.ofText "/w/a.go".toList)) "a\nb\n".toList]
    [⟨0, false, .standard, .standard, some .recorded, [⟨[], [⟨0, 1, .run⟩], none⟩]⟩,
      ⟨0, false, .standard, .standard, some .recorded, [⟨[], [], none⟩]⟩]

/-- The second run is neither dropped nor does it wait: for a while two runs of the document are in
progress. -/
theorem two_runs_of_one_document :
    let notes := (hearAll .plain [⟨0, 0, .run⟩] twoRunners).2
    twoRunners.controllers.map Controller.document = [0, 0] ∧
    history [⟨0, 0, .run⟩] twoRunners = [.began 0, .began 1, .ended 1 true, .ended 0 true] ∧
    ∃ before after, notes = before ++ after ∧ inProgress before = [1, 0] := by
  intro notes
  refine ⟨by decide +kernel, by decide +kernel, notes.take 2, notes.drop 2, ?_, ?_⟩
  · exact (List.take_append_drop 2 notes).symm
  · decide +kernel

end Marginalia.Session
