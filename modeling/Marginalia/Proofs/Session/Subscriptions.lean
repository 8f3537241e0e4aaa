import Marginalia.Proofs.Session.Modes
import Marginalia.Proofs.Session.Precept
import Marginalia.Proofs.Session.Tickets

/-!
# Subscriptions of the host

A document knows only which callbacks wait for its saves, and the end of a subscription takes off
the first entry of its callback, whichever subscription that came from.  So a save tells the
callbacks that are `waiting`, a subscription counts as active while its callback waits, and both are
as the host expects them as long as each subscription is ended in order.

The main statement is `callbacks_wait_for_saves`, for whatever happens in a session and whatever the
host does of its own accord, within a save as well.  In `ended_for_another` subscriptions of one
callback stop or move each other.
-/

namespace Marginalia.Session

/-! ## Callbacks among listeners -/

/-- The name of a callback that listens. -/
def Listener.callback? : Listener → Option Text
  | .callback name => some name
  | .controller _ => none

/-- The callbacks among listeners. -/
def callbacksOf (ls : List Listener) : List Text :=
  ls.filterMap Listener.callback?

@[simp] theorem callbacksOf_append (ls ls' : List Listener) :
    callbacksOf (ls ++ ls') = callbacksOf ls ++ callbacksOf ls' :=
  List.filterMap_append

theorem eq_callback_of_callback? {l : Listener} {name : Text}
    (h : Listener.callback? l = some name) : l = .callback name := by
  cases l with
  | callback other => exact congrArg Listener.callback (Option.some.inj h)
  | controller n => cases h

@[simp] theorem mem_callbacksOf {ls : List Listener} {name : Text} :
    name ∈ callbacksOf ls ↔ .callback name ∈ ls := by
  rw [callbacksOf, List.mem_filterMap]
  constructor
  · rintro ⟨l, hl, hname⟩
    exact eq_callback_of_callback? hname ▸ hl
  · exact fun h => ⟨_, h, rfl⟩

theorem callbacksOf_erase_callback (ls : List Listener) (name : Text) :
    callbacksOf (ls.erase (.callback name)) = (callbacksOf ls).erase name := by
  have hname : Listener.callback? (.callback name) = some name := rfl
  exact filterMap_erase_of_some hname (fun _ => eq_callback_of_callback?) ls

theorem callbacksOf_erase_controller (ls : List Listener) (n : Nat) :
    callbacksOf (ls.erase (.controller n)) = callbacksOf ls :=
  filterMap_erase_of_none rfl ls

/-- Where only callbacks listen, their names say who. -/
theorem map_callbacksOf {ls : List Listener} (h : ∀ n, .controller n ∉ ls) :
    (callbacksOf ls).map .callback = ls := by
  induction ls with
  | nil => rfl
  | cons l rest ih =>
    have hrest := ih fun n hn => h n (by simp [hn])
    cases l with
    | callback name => exact congrArg (Listener.callback name :: ·) hrest
    | controller n => exact absurd (by simp) (h n)

/-- The callbacks that listen to a document. -/
def World.callbacksAt (w : World) (i : Nat) : List Text :=
  (w.audience[i]?.map callbacksOf).getD []

theorem World.callbacksAt_eq {w : World} {i : Nat} {d : Document}
    (hd : (w.documents : List Document)[i]? = some d) :
    w.callbacksAt i = callbacksOf d.listeners := by
  rw [callbacksAt, audience, List.getElem?_map, hd]
  rfl

theorem World.callbacksAt_congr {w w' : World} (h : w'.audience = w.audience) (i : Nat) :
    w'.callbacksAt i = w.callbacksAt i := by
  rw [callbacksAt, callbacksAt, h]

/-- What changes the listeners of one document changes the callbacks there, and nowhere else. -/
theorem World.callbacksAt_modify {w w' : World} {j : Nat} {d : Document}
    {f : List Listener → List Listener} {g : List Text → List Text}
    (h : w'.audience = w.audience.modify j f) (hd : (w.documents : List Document)[j]? = some d)
    (hf : ∀ ls, callbacksOf (f ls) = g (callbacksOf ls)) (i : Nat) :
    w'.callbacksAt i = if j = i then g (w.callbacksAt i) else w.callbacksAt i := by
  rw [callbacksAt, callbacksAt, h, List.getElem?_modify]
  split
  · next hi =>
    have hls : w.audience[i]? = some d.listeners := by
      rw [audience, List.getElem?_map, ← hi, hd]
      rfl
    rw [hls]
    exact hf d.listeners
  · cases w.audience[i]? with
    | none => rfl
    | some ls => rfl

/-- Controllers that come and go leave the callbacks as they are. -/
theorem World.callbacksAt_modify_self {w w' : World} {j : Nat} {f : List Listener → List Listener}
    (h : w'.audience = w.audience.modify j f) (hf : ∀ ls, callbacksOf (f ls) = callbacksOf ls)
    (i : Nat) : w'.callbacksAt i = w.callbacksAt i := by
  rw [callbacksAt, callbacksAt, h, List.getElem?_modify]
  cases w.audience[i]? with
  | none => rfl
  | some ls =>
    split
    · exact hf ls
    · rfl

/-! ## What happens to subscriptions -/

/-- The callbacks that listen are those that wait, wherever events start. -/
theorem law_waiting :
    Law fun w w' es => ∀ i, w'.callbacksAt i = es.foldl (Event.move i) (w.callbacksAt i) where
  still h i := World.callbacksAt_congr h.listeners.audience i
  trans h h' i := by rw [List.foldl_append, ← h i, h' i]
  adjust _ _ := rfl
  dropped _ _ _ := rfl
  run {w w₂ w₃ n c es answered} _ _ hinner hend i := by
    have hended : (w₃.idle n).callbacksAt i = w₂.callbacksAt i :=
      World.callbacksAt_congr hend.listeners.audience i
    have hbusy : (w.busy n).callbacksAt i = w.callbacksAt i := rfl
    simp [Event.move, hended, hinner i, hbusy]
  switchedOn _ _ := World.callbacksAt_modify_self (audience_switchedOn _ _ _) fun ls => by
    simp [callbacksOf, Listener.callback?]
  switchedOff {w n c} _ := by
    have haudience := audience_switchedOff w n c
    cases hsub : c.subscribed with
    | false =>
      rw [hsub] at haudience
      exact World.callbacksAt_congr haudience
    | true =>
      rw [hsub] at haudience
      exact World.callbacksAt_modify_self haudience fun ls => callbacksOf_erase_controller ls n
  joined {w w' j d name} hd _ hdocs _ :=
    World.callbacksAt_modify (g := fun names => names ++ [name])
      (audience_subscribe hd hdocs) hd fun ls => callbacksOf_append ls [.callback name]
  left {w k j l d} _ hd := by
    have haudience := audience_unsubscribe hd l
    cases l with
    | callback name =>
      exact World.callbacksAt_modify (g := fun names => names.erase name) haudience hd
        fun ls => callbacksOf_erase_callback ls name
    | controller n =>
      exact World.callbacksAt_modify_self haudience fun ls => callbacksOf_erase_controller ls n

/-- Some asks account for whatever happens, and the session numbers subscriptions as the host
does. -/
theorem law_asked :
    Law fun w w' es => ∀ tickets, w.subscriptions = tickets.map Ticket.subscription →
      ∃ asks, noted tickets asks = es.filter Event.isOfHost ∧
        w'.subscriptions = (asks.foldl Ask.enter tickets).map Ticket.subscription where
  still h _ hw := ⟨[], rfl, h.subscriptions.trans hw⟩
  trans h h' tickets hw := by
    obtain ⟨asks, hnoted, hw'⟩ := h tickets hw
    obtain ⟨asks', hnoted', hw''⟩ := h' _ hw'
    refine ⟨asks ++ asks', ?_, ?_⟩
    · rw [noted_append, hnoted, hnoted', List.filter_append]
    · rw [List.foldl_append]
      exact hw''
  adjust _ _ hw := ⟨[], rfl, hw⟩
  dropped _ _ _ hw := ⟨[], rfl, hw⟩
  run _ _ hinner hend tickets hw := by
    obtain ⟨asks, hnoted, hw'⟩ := hinner tickets hw
    exact ⟨asks, by simpa [Event.isOfHost] using hnoted, hend.subscriptions.trans hw'⟩
  switchedOn _ _ _ hw := ⟨[], rfl, hw⟩
  switchedOff _ _ hw := ⟨[], rfl, hw⟩
  joined {w w' i d name} _ _ _ hsubs tickets hw := by
    refine ⟨[.join i name], rfl, ?_⟩
    rw [hsubs, hw]
    simp [Ask.enter, Ticket.subscription]
  left {w k i l d} hs _ tickets hw := by
    rw [hw, List.getElem?_map] at hs
    obtain ⟨t, ht, hl⟩ := Option.map_eq_some_iff.mp hs
    cases hl
    have hnoted : noted tickets [.leave k] = [.left t.document (.callback t.name)] := by
      simp [noted, Ask.events, ht]
    refine ⟨[.leave k], by rw [hnoted]; rfl, ?_⟩
    rw [subscriptions_foldl_enter, hnoted]
    exact hw.trans (List.append_nil _).symm

/-- A world in which each subscription is one to a document that is there. -/
def World.Housed (w : World) : Prop :=
  ∀ s ∈ w.subscriptions, s.1 < w.audience.length

theorem World.Housed.of_eq {w w' : World} (h : w.Housed)
    (hsubs : w'.subscriptions = w.subscriptions)
    (hlength : w'.audience.length = w.audience.length) : w'.Housed := by
  rw [Housed, hsubs, hlength]
  exact h

/-- Documents do not go away. -/
theorem law_housed : Law fun w w' _ => w.Housed → w'.Housed where
  still h hw := hw.of_eq h.subscriptions (congrArg List.length h.listeners.audience)
  trans h h' hw := h' (h hw)
  adjust _ hw := hw
  dropped _ _ hw := hw
  run _ _ hinner hend hw :=
    (hinner hw).of_eq hend.subscriptions (congrArg List.length hend.listeners.audience)
  switchedOn _ _ hw := hw.of_eq rfl (by rw [audience_switchedOn, List.length_modify])
  switchedOff {w n c} _ hw := by
    refine hw.of_eq rfl ?_
    rw [audience_switchedOff]
    split <;> simp
  joined {w w' i d name} hd _ hdocs hsubs hw := by
    intro s hs
    rw [hsubs] at hs
    rw [audience_subscribe hd hdocs, List.length_modify]
    rcases List.mem_append.mp hs with hs | hs
    · exact hw s hs
    · cases List.mem_singleton.mp hs
      rw [World.audience, List.length_map]
      exact (List.getElem?_eq_some_iff.mp hd).1
  left {w k i l d} _ hd hw := by
    refine hw.of_eq rfl ?_
    rw [audience_unsubscribe hd, List.length_modify]

/-! ## Steps about subscriptions -/

/-- What a step asks for about subscriptions. -/
def askOf (s : Step) : Option Ask :=
  match s.request with
  | .subscribe name _ => some (.join s.document name)
  | .unsubscribe k => some (.leave k)
  | _ => none

theorem Heard.step_of_ask (conduct : Conduct) (depth : Nat) {s : Step} (hs : (askOf s).isSome) :
    Heard.step conduct (depth + 1) s = .ofWatched (Watched.perform watchNone s) := by
  obtain ⟨i, m, request⟩ := s
  cases request with
  | subscribe name actions => rfl
  | unsubscribe k => rfl
  | _ => cases hs

section
variable (conduct : Conduct) (depth : Nat) {w : World} {i j k : Nat} {d : Document}

theorem heard_subscribe (hd : (w.documents : List Document)[i]? = some d) (m : Nat) (name : Text)
    (actions : List Step) :
    (Heard.step conduct (depth + 1) ⟨i, m, .subscribe name actions⟩ w).1.1
        = .ok (.number w.subscriptions.length) ∧
      (Heard.step conduct (depth + 1) ⟨i, m, .subscribe name actions⟩ w).2
        = [.event (.joined i name)] := by
  rw [Heard.step_of_ask conduct depth rfl, Heard.ofWatched]
  rcases Watched.perform_subscribe Heard.watchNone w i m name actions with ⟨hnone, -⟩ | ⟨_, -, hrun⟩
  · cases hd.symm.trans hnone
  · rw [hrun]
    exact ⟨rfl, rfl⟩

theorem heard_unsubscribe {l : Listener} (hs : w.subscriptions[k]? = some (i, l))
    (hd : (w.documents : List Document)[i]? = some d) (m : Nat) :
    Heard.step conduct (depth + 1) ⟨j, m, .unsubscribe k⟩ w =
      ((.ok .done, { w with documents := List.set w.documents i (d.unsubscribe l) }),
        [.event (.left i l)]) := by
  rw [Heard.step_of_ask conduct depth rfl, Heard.ofWatched]
  rcases Watched.perform_unsubscribe Heard.watchNone w j m k with
    ⟨hnone, -⟩ | ⟨i', l', d', hs', hd', hrun⟩
  · cases hd.symm.trans (hnone i l hs)
  · cases hs.symm.trans hs'
    cases hd.symm.trans hd'
    rw [hrun]
    rfl

/-- A subscription counts as active while its callback waits. -/
theorem heard_subscriptions (i m : Nat) {tickets : List Ticket}
    (h : w.subscriptions = tickets.map Ticket.subscription) :
    Heard.step conduct (depth + 1) ⟨i, m, .subscriptions⟩ w =
      ((.ok (.truths (tickets.map fun t => decide (t.name ∈ w.callbacksAt t.document))), w),
        []) := by
  have hactive : ∀ t : Ticket, ((w.documents : List Document)[t.document]?.map
      fun d => d.listeners.contains (.callback t.name)).getD false
        = decide (t.name ∈ w.callbacksAt t.document) := by
    intro t
    cases hd : (w.documents : List Document)[t.document]? with
    | none => simp [World.callbacksAt, World.audience, hd]
    | some d => simp [World.callbacksAt_eq hd]
  have hanswer : w.subscriptions.map (fun s => ((w.documents : List Document)[s.1]?.map
      fun d => d.listeners.contains s.2).getD false)
        = tickets.map fun t => decide (t.name ∈ w.callbacksAt t.document) := by
    rw [h, List.map_map]
    exact List.map_congr_left fun t _ => hactive t
  rw [← hanswer]
  rfl

end

/-! ## Saves -/

/-- The callback that an entry says was told about a save. -/
def Entry.callback? : Entry → Option Text
  | .callback name => some name
  | _ => none

/-- The callbacks that were told about saves. -/
def tellingsOf (log : List Entry) : List Text :=
  log.filterMap Entry.callback?

@[simp] theorem tellingsOf_append (log log' : List Entry) :
    tellingsOf (log ++ log') = tellingsOf log ++ tellingsOf log' :=
  List.filterMap_append

/-- No callback is told anything, and what callbacks do stays as it is. -/
structure Untold (w w' : World) : Prop where
  tellings : tellingsOf w'.trace.log = tellingsOf w.trace.log
  callbacks : ∀ name steps, w.callbacks.lookup name = some steps →
    w'.callbacks.lookup name = some steps

namespace Untold
variable {w w' w'' : World}

theorem refl (w : World) : Untold w w :=
  ⟨rfl, fun _ _ h => h⟩

theorem trans (h : Untold w w') (h' : Untold w' w'') : Untold w w'' :=
  ⟨h'.tellings.trans h.tellings, fun name steps hw => h'.callbacks name steps
    (h.callbacks name steps hw)⟩

theorem bind {α β : Type} {m : Heard α} {k : α → Heard β} (h : Untold w (m w).1.2)
    (hk : ∀ a w', Untold w' (k a w').1.2) : Untold w ((m >>= k) w).1.2 := by
  rw [Heard.bind_eq]
  cases hm : m w with
  | mk result notes =>
    obtain ⟨answer, w'⟩ := result
    rw [hm] at h
    cases answer with
    | ok a => exact h.trans (hk a w')
    | error fault => exact h

end Untold

theorem Heard.world_attempt (conduct : Conduct) (m : Heard Unit) (w : World) :
    (attempt conduct m w).1.2 = (m w).1.2 := by
  unfold attempt
  cases m w with
  | mk result notes =>
    obtain ⟨answer, w'⟩ := result
    cases answer <;> rfl

section
variable (conduct : Conduct)

/-- Who asks about subscriptions tells nobody of a save. -/
theorem untold_ask (depth : Nat) (s : Step) (w : World) (hs : (askOf s).isSome) :
    Untold w (Heard.step conduct depth s w).1.2 := by
  cases depth with
  | zero => exact .refl w
  | succ depth =>
    rw [Heard.step_of_ask conduct depth hs, Heard.ofWatched]
    obtain ⟨i, m, request⟩ := s
    cases request with
    | subscribe name actions =>
      rcases Watched.perform_subscribe Heard.watchNone w i m name actions with
        ⟨-, hrun⟩ | ⟨d, -, hrun⟩
      · rw [hrun]
        exact .refl w
      · rw [hrun]
        refine ⟨rfl, fun other steps hsteps => ?_⟩
        dsimp only
        split
        · exact hsteps
        · rw [List.lookup_append, hsteps]
          rfl
    | unsubscribe k =>
      rcases Watched.perform_unsubscribe Heard.watchNone w i m k with
        ⟨-, hrun⟩ | ⟨_, _, _, -, -, hrun⟩
      · rw [hrun]
        exact .refl w
      · rw [hrun]
        exact ⟨rfl, fun _ _ h => h⟩
    | _ => cases hs

variable {make : Step → Heard Answer}
  (hmake : ∀ s w, (askOf s).isSome → Untold w (make s w).1.2)

include hmake

theorem untold_makeAll {steps : List Step} (hsteps : ∀ s ∈ steps, (askOf s).isSome) (w : World) :
    Untold w (Heard.makeAll conduct make .action steps w).1.2 := by
  induction steps generalizing w with
  | nil => exact .refl w
  | cons s rest ih =>
    refine .bind ?_ fun _ => ih fun s' hs' => hsteps s' (List.mem_cons_of_mem s hs')
    rw [Heard.world_attempt]
    refine .bind (hmake s w (hsteps s List.mem_cons_self)) fun answer w' => ?_
    refine ⟨?_, fun _ _ h => h⟩
    exact (tellingsOf_append ..).trans (List.append_nil _)

/-- A callback that does no more than to ask about subscriptions is told once. -/
theorem tellings_notify {name : Text} {steps : List Step} {w : World}
    (hlookup : w.callbacks.lookup name = some steps) (hsteps : ∀ s ∈ steps, (askOf s).isSome) :
    let out := (Heard.notify conduct make (.callback name) w).1
    tellingsOf out.2.trace.log = tellingsOf w.trace.log ++ [name] ∧
      (∀ other steps, w.callbacks.lookup other = some steps →
        out.2.callbacks.lookup other = some steps) ∧
      (steps = [] → out.1 = .ok ()) := by
  let w' : World := { w with trace := { w.trace with log := w.trace.log ++ [.callback name] } }
  have hrun : (told name).run w = (.ok ((w.callbacks.lookup name).getD []), w') := rfl
  rw [hlookup] at hrun
  have hnotify : Heard.notify conduct make (.callback name) w
      = Heard.makeAll conduct make .action steps w' := Heard.of_bind_ok hrun _
  have huntold := untold_makeAll conduct hmake hsteps w'
  intro out
  have hout : out = (Heard.makeAll conduct make .action steps w').1 := congrArg Prod.fst hnotify
  rw [hout]
  refine ⟨huntold.tellings.trans (tellingsOf_append ..), huntold.callbacks, ?_⟩
  rintro rfl
  rfl

/-- Callbacks that do no more than to ask about subscriptions are told in turn, up to the first one
that fails, whatever they ask for. -/
theorem tellings_notifyAll {names : List Text} {w : World}
    (h : ∀ name ∈ names, ∃ steps, w.callbacks.lookup name = some steps ∧
      ∀ s ∈ steps, (askOf s).isSome) :
    let out := (Heard.notifyAll conduct make (names.map .callback) w).1
    ∃ told, told <+: names ∧ tellingsOf out.2.trace.log = tellingsOf w.trace.log ++ told ∧
      (out.1 = .ok () → told = names) ∧
      ((∀ name ∈ names, w.callbacks.lookup name = some []) → out.1 = .ok ()) := by
  induction names generalizing w with
  | nil => exact ⟨[], List.prefix_rfl, (List.append_nil _).symm, fun _ => rfl, fun _ => rfl⟩
  | cons name rest ih =>
    obtain ⟨steps, hlookup, hsteps⟩ := h name List.mem_cons_self
    have hnotify := tellings_notify conduct hmake hlookup hsteps
    have hall : Heard.notifyAll conduct make ((name :: rest).map .callback) w
        = (Heard.notify conduct make (.callback name) >>= fun _ =>
            Heard.notifyAll conduct make (rest.map .callback)) w := rfl
    rw [hall, Heard.bind_eq]
    generalize Heard.notify conduct make (.callback name) w = first at hnotify
    obtain ⟨⟨answer, w'⟩, notes⟩ := first
    obtain ⟨hlog, hcallbacks, hquiet⟩ := hnotify
    cases answer with
    | error fault =>
      refine ⟨[name], ⟨rest, rfl⟩, hlog, nofun, fun hnone => ?_⟩
      have hnil : some steps = some [] := hlookup.symm.trans (hnone name List.mem_cons_self)
      cases hquiet (Option.some.inj hnil)
    | ok a =>
      have hrest : ∀ other ∈ rest, ∃ steps, w'.callbacks.lookup other = some steps ∧
          ∀ s ∈ steps, (askOf s).isSome := by
        intro other hmem
        obtain ⟨steps', hlookup', hsteps'⟩ := h other (List.mem_cons_of_mem name hmem)
        exact ⟨steps', hcallbacks other steps' hlookup', hsteps'⟩
      obtain ⟨told, hfirst, htellings, hanswer, hdone⟩ := ih hrest
      refine ⟨name :: told, List.cons_prefix_cons.mpr ⟨rfl, hfirst⟩, ?_, ?_, ?_⟩
      · show tellingsOf (Heard.notifyAll conduct make (rest.map .callback) w').1.2.trace.log = _
        rw [htellings, hlog, List.append_assoc]
        rfl
      · exact fun hok => congrArg (name :: ·) (hanswer hok)
      · exact fun hnone => hdone fun other hmem =>
          hcallbacks other [] (hnone other (List.mem_cons_of_mem name hmem))

end

/-- A save tells whoever listens when it begins. -/
theorem heard_save (conduct : Conduct) (depth m : Nat) {w : World} {i : Nat} {d : Document}
    {tree : FileTree} (hd : (w.documents : List Document)[i]? = some d)
    (htree : d.write w.host.tree w.host.cwd = .ok tree) :
    Heard.step conduct (depth + 1) ⟨i, m, .save⟩ w =
      (Heard.notifyAll conduct (Heard.step conduct depth) d.listeners >>= fun _ =>
        pure Answer.done) { w with host := { w.host with tree } } := by
  have hsave : Heard.save conduct (Heard.step conduct depth) i w
      = Heard.notifyAll conduct (Heard.step conduct depth) d.listeners
          { w with host := { w.host with tree } } := Heard.of_bind_ok (run_written hd htree) _
  show (Heard.save conduct (Heard.step conduct depth) i >>= fun _ => pure Answer.done) w = _
  rw [Heard.bind_eq, Heard.bind_eq, hsave]

/-- If callbacks that only ask about subscriptions are all that listens, a save tells them in turn,
and whatever they ask for counts from the next save on. -/
theorem tellings_save (conduct : Conduct) (depth m : Nat) {w : World} {i : Nat} {d : Document}
    {tree : FileTree} (hd : (w.documents : List Document)[i]? = some d)
    (htree : d.write w.host.tree w.host.cwd = .ok tree)
    (hcontroller : ∀ n, .controller n ∉ d.listeners)
    (hasks : ∀ name ∈ callbacksOf d.listeners, ∃ steps, w.callbacks.lookup name = some steps ∧
      ∀ s ∈ steps, (askOf s).isSome) :
    let out := (Heard.step conduct (depth + 1) ⟨i, m, .save⟩ w).1
    ∃ told, told <+: callbacksOf d.listeners ∧
      tellingsOf out.2.trace.log = tellingsOf w.trace.log ++ told ∧
      (out.1 = .ok .done → told = callbacksOf d.listeners) ∧
      ((∀ name ∈ callbacksOf d.listeners, w.callbacks.lookup name = some []) →
        out.1 = .ok .done) := by
  let w' : World := { w with host := { w.host with tree } }
  have htold := tellings_notifyAll conduct (untold_ask conduct depth) (w := w') hasks
  rw [map_callbacksOf hcontroller] at htold
  rw [heard_save conduct depth m hd htree, Heard.bind_eq]
  generalize Heard.notifyAll conduct (Heard.step conduct depth) d.listeners w' = all at htold
  obtain ⟨⟨answer, w''⟩, notes⟩ := all
  obtain ⟨told, hfirst, htellings, hanswer, hdone⟩ := htold
  refine ⟨told, hfirst, ?_, ?_, ?_⟩
  · cases answer <;> exact htellings
  · intro hok
    cases answer with
    | ok a => exact hanswer rfl
    | error fault => cases hok
  · intro hnone
    cases hdone hnone
    rfl

/-! ## Sessions -/

/-- Ending a subscription that is not active changes nothing. -/
theorem heard_unsubscribe_of_inactive (conduct : Conduct) (depth : Nat) {w : World} {k : Nat}
    {t : Ticket} {d : Document} (hs : w.subscriptions[k]? = some t.subscription)
    (hd : (w.documents : List Document)[t.document]? = some d)
    (hinactive : t.name ∉ callbacksOf d.listeners) (i m : Nat) :
    (Heard.step conduct (depth + 1) ⟨i, m, .unsubscribe k⟩ w).1 = (.ok .done, w) := by
  have hsame : d.unsubscribe (.callback t.name) = d := by
    rw [Document.unsubscribe, List.erase_of_not_mem (mt mem_callbacksOf.mpr hinactive)]
  have hdocs : List.set w.documents t.document d = w.documents := by
    obtain ⟨hlt, rfl⟩ := List.getElem?_eq_some_iff.mp hd
    exact List.set_getElem_self hlt
  rw [heard_unsubscribe conduct depth hs hd, hsame, hdocs]

theorem callbacksAt_start (host : Host) (terminal : Bool) {documents : List Document}
    (plans : List Plan) (hdocs : ∀ d ∈ documents, d.IsFresh) (i : Nat) :
    (World.start host terminal documents plans).callbacksAt i = [] := by
  rw [World.callbacksAt]
  cases hls : (World.start host terminal documents plans).audience[i]? with
  | none => rfl
  | some ls =>
    rw [audience_start hdocs ls (List.mem_of_getElem? hls)]
    rfl

/-- Whatever happens in a session, a document tells the callbacks that wait for its saves.  The host
finds the subscriptions that nobody has asked to end among them, and in its order, at all times
exactly if it ends each subscription in order. -/
theorem callbacks_wait_for_saves (host : Host) (terminal : Bool) {documents : List Document}
    (plans : List Plan) (hdocs : ∀ d ∈ documents, d.IsFresh) (conduct : Conduct)
    (steps : List Step) :
    let start := World.start host terminal documents plans
    let w := (hearAll conduct steps start).1
    let es := eventsOf (hearAll conduct steps start).2
    let next (s : Step) := Heard.step conduct deepest s w.resumed
    -- callbacks wait in the order of subscribing and do not get in each other's way
    (∀ i, (waiting i es).Sublist (es.filterMap (Event.joinedTo? i)) ∧
      ∀ p, (waiting i es).filter p = waiting i (es.filter (Event.isAbout i p))) ∧
    -- they are the callbacks that listen, and a save tells whoever listens when it begins
    (∀ (i m : Nat) d, (w.documents : List Document)[i]? = some d →
      callbacksOf d.listeners = waiting i es ∧
      ∀ tree, d.write w.host.tree w.host.cwd = .ok tree →
        next ⟨i, m, .save⟩ = (Heard.notifyAll conduct (Heard.step conduct 199) d.listeners >>=
          fun _ => pure Answer.done) { w.resumed with host := { w.host with tree } } ∧
        -- each callback is told once, if all of them only ask about subscriptions
        ((∀ n, .controller n ∉ d.listeners) →
          (∀ name ∈ waiting i es, ∃ actions, w.callbacks.lookup name = some actions ∧
            ∀ s ∈ actions, (askOf s).isSome) →
          tellingsOf (next ⟨i, m, .save⟩).1.2.trace.log <+: waiting i es ∧
          ((next ⟨i, m, .save⟩).1.1 = .ok .done →
            tellingsOf (next ⟨i, m, .save⟩).1.2.trace.log = waiting i es) ∧
          ((∀ name ∈ waiting i es, w.callbacks.lookup name = some []) →
            (next ⟨i, m, .save⟩).1.1 = .ok .done))) ∧
    -- the host can account for what has happened
    (∃ asks, Accounts asks es) ∧
    ∀ asks, Accounts asks es →
      let tickets := ticketsOf asks
      -- the callbacks that wait are those that are due if each subscription is ended in order
      (AllInOrder asks → ∀ i, waiting i es = due i tickets) ∧
      (AllInOrder asks ↔ ∀ before after, asks = before ++ after → ∀ i,
        waiting i (noted [] before) = due i (ticketsOf before)) ∧
      -- so it is where no callback is subscribed to a document twice: it waits until it is ended
      ((tickets.map Ticket.subscription).Nodup → AllInOrder asks ∧
        ∀ before i name after, asks = before ++ .join i name :: after →
          (name ∈ waiting i es ↔ .leave (ticketsOf before).length ∉ after)) ∧
      -- a subscription counts as active while its callback waits
      (∀ i m, next ⟨i, m, .subscriptions⟩ =
        ((.ok (.truths (tickets.map fun t => decide (t.name ∈ waiting t.document es))),
          w.resumed), [])) ∧
      -- subscribing and ending are answered; ending what is not active changes nothing
      (∀ i m name actions, i < w.documents.length →
        (next ⟨i, m, .subscribe name actions⟩).1.1 = .ok (.number tickets.length) ∧
        Accounts (asks ++ [.join i name])
          (es ++ eventsOf (next ⟨i, m, .subscribe name actions⟩).2)) ∧
      (∀ i m k t, tickets[k]? = some t →
        (next ⟨i, m, .unsubscribe k⟩).1.1 = .ok .done ∧
        Accounts (asks ++ [.leave k]) (es ++ eventsOf (next ⟨i, m, .unsubscribe k⟩).2) ∧
        (t.name ∉ waiting t.document es →
          (next ⟨i, m, .unsubscribe k⟩).1.2 = w.resumed)) := by
  intro start w es next
  have hwaiting : ∀ i, w.callbacksAt i = waiting i es := by
    intro i
    have h := (law_waiting.precept fun _ _ => rfl).hearAll conduct steps start i
    rw [callbacksAt_start host terminal plans hdocs] at h
    exact h
  have hlisten : ∀ (i : Nat) d, (w.documents : List Document)[i]? = some d →
      callbacksOf d.listeners = waiting i es := fun i d hd =>
    (World.callbacksAt_eq hd).symm.trans (hwaiting i)
  have hhoused : w.Housed :=
    (law_housed.precept fun _ hw => hw).hearAll conduct steps start (by simp [World.Housed, start,
      World.start])
  obtain ⟨asks₀, hasks₀, hsubs₀⟩ : ∃ asks, Accounts asks es ∧
      w.subscriptions = (ticketsOf asks).map Ticket.subscription :=
    (law_asked.precept fun _ _ hw => ⟨[], rfl, hw⟩).hearAll conduct steps start [] rfl
  refine ⟨fun i => ⟨waiting_sublist i es, fun p => waiting_filter i p es⟩, ?_, ⟨asks₀, hasks₀⟩, ?_⟩
  · intro i m d hd
    refine ⟨hlisten i d hd, fun tree htree => ⟨heard_save conduct 199 m hd htree, ?_⟩⟩
    intro hcontroller hcallbacks
    rw [← hlisten i d hd] at hcallbacks ⊢
    obtain ⟨told, hfirst, htellings, hanswer, hdone⟩ :=
      tellings_save conduct 199 m (w := w.resumed) hd htree hcontroller hcallbacks
    have htold : tellingsOf (next ⟨i, m, .save⟩).1.2.trace.log = told := htellings
    rw [htold]
    exact ⟨hfirst, hanswer, hdone⟩
  · intro asks hasks tickets
    have hsubs : w.subscriptions = tickets.map Ticket.subscription :=
      hsubs₀.trans (hasks₀.subscriptions_eq hasks)
    have hturn : AllInOrder asks → ∀ i, waiting i es = due i tickets := fun h i =>
      (hasks.waiting_eq i).symm.trans (h.waiting_eq i)
    refine ⟨hturn, allInOrder_iff, ?_, ?_, ?_, ?_⟩
    · intro hnodup
      refine ⟨allInOrder_of_nodup hnodup, ?_⟩
      rintro before i name after rfl
      rw [hturn (allInOrder_of_nodup hnodup)]
      exact mem_due_iff_of_nodup hnodup
    · intro i m
      have h := heard_subscriptions conduct 199 (w := w.resumed) i m hsubs
      have hsame : ∀ j, w.resumed.callbacksAt j = waiting j es := hwaiting
      simp only [hsame] at h
      exact h
    · intro i m name actions hi
      obtain ⟨hanswer, hnotes⟩ := heard_subscribe conduct 199 (w := w.resumed)
        (List.getElem?_eq_getElem hi) m name actions
      have hlength : w.subscriptions.length = tickets.length := by rw [hsubs, List.length_map]
      have hevents : eventsOf (next ⟨i, m, .subscribe name actions⟩).2 = [.joined i name] :=
        congrArg eventsOf hnotes
      refine ⟨?_, ?_⟩
      · rw [← hlength]
        exact hanswer
      · rw [hevents]
        exact hasks.concat (.join i name)
    · intro i m k t ht
      have hs : w.subscriptions[k]? = some t.subscription := by
        rw [hsubs, List.getElem?_map, ht]
        rfl
      have hi : t.document < w.documents.length := by
        simpa [World.audience, Ticket.subscription] using hhoused _ (List.mem_of_getElem? hs)
      have hd := List.getElem?_eq_getElem hi
      have h := heard_unsubscribe conduct 199 (w := w.resumed) (j := i) hs hd m
      refine ⟨congrArg (fun out => out.1.1) h, ?_, ?_⟩
      · have hevents : eventsOf (next ⟨i, m, .unsubscribe k⟩).2
            = (Ask.leave k).events tickets := by
          rw [Ask.events, ht]
          exact congrArg (fun out => eventsOf out.2) h
        rw [hevents]
        exact hasks.concat (.leave k)
      · intro hinactive
        rw [← hlisten _ _ hd] at hinactive
        exact congrArg Prod.snd
          (heard_unsubscribe_of_inactive conduct 199 (w := w.resumed) hs hd hinactive i m)

/-- A step that asks for something, of a callback that does nothing. -/
def Ask.step : Ask → Step
  | .join i name => ⟨i, 0, .subscribe name []⟩
  | .leave k => ⟨0, 0, .unsubscribe k⟩

/-- A session with a document that is kept in no file. -/
def oneNote : World :=
  .start ⟨.empty, Path.ofText "/".toList, []⟩ false [.ofText ['s'] none "x\n".toList] []

/-- Two callbacks are subscribed, and the first subscription is ended twice. -/
def twoCallbacks : List Ask :=
  [.join 0 ['a'], .join 0 ['b'], .leave 0, .leave 0]

theorem callbacks_wait_for_saves_of_twoCallbacks :
    let w := (hearAll .plain (twoCallbacks.map Ask.step) oneNote).1
    (Heard.step .plain deepest ⟨0, 0, .subscriptions⟩ w.resumed).1.1 = .ok (.truths [false, true]) ∧
    (Heard.step .plain deepest ⟨0, 0, .unsubscribe 0⟩ w.resumed).1 = (.ok .done, w.resumed) ∧
    (Heard.step .plain deepest ⟨0, 0, .save⟩ w.resumed).1.1 = .ok .done ∧
    tellingsOf (Heard.step .plain deepest ⟨0, 0, .save⟩ w.resumed).1.2.trace.log = [['b']] := by
  intro w
  have hfresh : ∀ d ∈ [Document.ofText ['s'] none "x\n".toList], d.IsFresh := by
    intro d hd
    cases List.mem_singleton.mp hd
    rfl
  obtain ⟨-, hsave, -, hhost⟩ := callbacks_wait_for_saves ⟨.empty, Path.ofText "/".toList, []⟩
    false [] hfresh .plain (twoCallbacks.map Ask.step)
  let es := eventsOf (hearAll .plain (twoCallbacks.map Ask.step) oneNote).2
  have hasks : Accounts twoCallbacks es := by decide +kernel
  have hwaiting : waiting 0 es = [['b']] := by decide +kernel
  obtain ⟨-, -, -, hactive, -, hend⟩ := hhost twoCallbacks hasks
  have htickets : ticketsOf twoCallbacks = [⟨0, ['a'], false⟩, ⟨0, ['b'], true⟩] := by decide
  have hfile : (w.documents : List Document)[0]?.map Document.file = some none := by
    decide +kernel
  obtain ⟨d, hd, hnone⟩ := Option.map_eq_some_iff.mp hfile
  have hlisteners : d.listeners = [.callback ['b']] := by
    have hall : (w.documents : List Document)[0]?.map Document.listeners
        = some [.callback ['b']] := by decide +kernel
    rw [hd] at hall
    exact Option.some.inj hall
  have htree : d.write w.host.tree w.host.cwd = .ok w.host.tree := by rw [Document.write, hnone]
  have hidle : ∀ name ∈ waiting 0 es, w.callbacks.lookup name = some [] := by
    rw [hwaiting]
    intro name hname
    cases List.mem_singleton.mp hname
    rfl
  obtain ⟨-, hsave⟩ := hsave 0 0 d hd
  obtain ⟨-, hsave⟩ := hsave _ htree
  obtain ⟨-, htold, hdone⟩ := hsave (by simp [hlisteners]) fun name hname =>
    ⟨[], hidle name hname, List.forall_mem_nil _⟩
  refine ⟨?_, ?_, hdone hidle, (htold (hdone hidle)).trans hwaiting⟩
  · have hanswer : (ticketsOf twoCallbacks).map (fun t => decide (t.name ∈ waiting t.document es))
        = [false, true] := by
      rw [htickets]
      decide +kernel
    rw [← hanswer]
    exact congrArg (fun out => out.1.1) (hactive 0 0)
  · obtain ⟨hok, -, hsame⟩ := hend 0 0 0 ⟨0, ['a'], false⟩ (by rw [htickets]; rfl)
    have hgone : ['a'] ∉ waiting 0 es := by simp [hwaiting]
    exact Prod.ext hok (hsame hgone)

/-- A callback is subscribed twice, and the first subscription is ended twice. -/
def endedTwice : List Ask :=
  [.join 0 ['a'], .join 0 ['a'], .leave 0, .leave 0]

/-- A callback is subscribed before and after another one, and the later subscription is ended. -/
def endedLater : List Ask :=
  [.join 0 ['a'], .join 0 ['b'], .join 0 ['a'], .leave 2]

/-- Subscriptions of one callback are ended for each other: nobody is told although one is live, and
a callback is told in the place of a subscription that has been ended. -/
theorem ended_for_another :
    let twice := endedTwice.map Ask.step
    let later := endedLater.map Ask.step
    (Accounts endedTwice (history twice oneNote) ∧
      ticketsOf endedTwice = [⟨0, ['a'], false⟩, ⟨0, ['a'], true⟩] ∧
      due 0 (ticketsOf endedTwice) = [['a']] ∧ waiting 0 (history twice oneNote) = [] ∧
      (advance ⟨0, 0, .subscriptions⟩ (oneNote.afterAll twice)).1.answer
        = .ok (.truths [false, false]) ∧
      tellingsOf (advance ⟨0, 0, .save⟩ (oneNote.afterAll twice)).1.trace.log = []) ∧
    Accounts endedLater (history later oneNote) ∧
      due 0 (ticketsOf endedLater) = [['a'], ['b']] ∧
      tellingsOf (advance ⟨0, 0, .save⟩ (oneNote.afterAll later)).1.trace.log
        = [['b'], ['a']] := by
  refine ⟨⟨?_, ?_, ?_, ?_, rfl, ?_⟩, ?_, ?_, ?_⟩ <;> decide +kernel

end Marginalia.Session
