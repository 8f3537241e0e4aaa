import Mathlib.Data.List.Chain
import Marginalia.Proofs.Session.Guard
import Marginalia.Proofs.Session.Sound

/-!
# Modes and subscriptions

Three records say that the mode of a controller is on: its own flag, the subscription that it holds,
and the listeners of its document.  `Tuned` says that they agree, and that the controllers among the
listeners of a document stand in the order in which they were switched on last.  `law_inTune` says
that whatever happens keeps them in tune with the events, and `modes_and_saves_agree` is what
follows for a session: a save runs the controllers that are on, each once and in that order.
-/

namespace Marginalia.Session

/-! ## Order of switching on -/

/-- What an event makes of the controllers that are on, in the order in which they were switched on
last. -/
def Event.update (order : List Nat) : Event → List Nat
  | .switched n true => order.erase n ++ [n]
  | .switched n false => order.erase n
  | _ => order

/-- The controllers that are on after events, in the order in which they were switched on last. -/
def lastOn (es : List Event) : List Nat :=
  es.foldl Event.update []

/-! ## Controllers among listeners -/

section
variable {α β : Type} [BEq α] [LawfulBEq α] {f : α → Option β} {a : α}

/-- What shows nothing leaves no trace when it goes. -/
theorem filterMap_erase_of_none (h : f a = none) (l : List α) :
    (l.erase a).filterMap f = l.filterMap f := by
  induction l with
  | nil => rfl
  | cons x rest ih =>
    by_cases hx : x = a
    · subst hx
      simp [h]
    · simp [hx, List.filterMap_cons, ih]

/-- What shows as nothing else does is the first of its kind on both sides. -/
theorem filterMap_erase_of_some [BEq β] [LawfulBEq β] {b : β} (h : f a = some b)
    (hf : ∀ x, f x = some b → x = a) (l : List α) :
    (l.erase a).filterMap f = (l.filterMap f).erase b := by
  induction l with
  | nil => rfl
  | cons x rest ih =>
    by_cases hx : x = a
    · subst hx
      simp [h]
    · have hne : f x ≠ some b := fun hb => hx (hf x hb)
      cases hfx : f x with
      | none => simp [hx, hfx, ih]
      | some c =>
        have hc : c ≠ b := fun hc => hne (by rw [hfx, hc])
        simp [hx, hfx, hc, ih]

end

/-- The number of a controller that listens. -/
def Listener.controller? : Listener → Option Nat
  | .callback _ => none
  | .controller n => some n

/-- The controllers among listeners. -/
def controllersOf (ls : List Listener) : List Nat :=
  ls.filterMap Listener.controller?

@[simp] theorem controllersOf_nil : controllersOf [] = [] := rfl

@[simp] theorem controllersOf_callback (name : Text) (ls : List Listener) :
    controllersOf (.callback name :: ls) = controllersOf ls := rfl

@[simp] theorem controllersOf_controller (n : Nat) (ls : List Listener) :
    controllersOf (.controller n :: ls) = n :: controllersOf ls := rfl

@[simp] theorem controllersOf_append (ls ls' : List Listener) :
    controllersOf (ls ++ ls') = controllersOf ls ++ controllersOf ls' :=
  List.filterMap_append

theorem controllersOf_erase_controller (ls : List Listener) (n : Nat) :
    controllersOf (ls.erase (.controller n)) = (controllersOf ls).erase n := by
  have hn : Listener.controller? (.controller n) = some n := rfl
  refine filterMap_erase_of_some hn (fun l hl => ?_) ls
  cases l with
  | callback name => cases hl
  | controller m => exact congrArg Listener.controller (Option.some.inj hl)

theorem controllersOf_erase_callback (ls : List Listener) (name : Text) :
    controllersOf (ls.erase (.callback name)) = controllersOf ls :=
  filterMap_erase_of_none rfl ls

theorem count_controllersOf (ls : List Listener) (n : Nat) :
    (controllersOf ls).count n = ls.count (.controller n) := by
  induction ls with
  | nil => rfl
  | cons l rest ih =>
    cases l with
    | callback name => simpa [List.count_cons] using ih
    | controller m => simp [List.count_cons, ih]

/-- Where only controllers listen, their numbers say who. -/
theorem map_controllersOf {ls : List Listener} (h : ∀ name, .callback name ∉ ls) :
    (controllersOf ls).map .controller = ls := by
  induction ls with
  | nil => rfl
  | cons l rest ih =>
    have hrest := ih fun name hname => h name (by simp [hname])
    cases l with
    | callback name => exact absurd (by simp) (h name)
    | controller m => simpa using hrest

/-! ## Seats -/

/-- What says where a controller sits. -/
structure Seat where
  document : Nat
  on : Bool
  subscribed : Bool

def Controller.seat (c : Controller) : Seat :=
  ⟨c.document, c.on, c.subscribed⟩

/-- The seats of the controllers. -/
def World.seats (w : World) : List Seat :=
  w.controllers.map Controller.seat

/-- The listeners of the documents. -/
def World.audience (w : World) : List (List Listener) :=
  (w.documents : List Document).map Document.listeners

/-- Whether a controller sits at a document. -/
def sitsAt (seats : List Seat) (i n : Nat) : Bool :=
  seats[n]?.any fun s => s.document = i

/-- The modes, the subscriptions and the listeners agree, and the order is that of switching on. -/
structure Tuned (seats : List Seat) (audience : List (List Listener)) (order : List Nat) :
    Prop where
  nodup : order.Nodup
  on_iff : ∀ n, n ∈ order ↔ ∃ s, seats[n]? = some s ∧ s.on = true
  subscribed : ∀ s ∈ seats, s.subscribed = s.on
  bound : ∀ s ∈ seats, s.document < audience.length
  heard : ∀ (i : Nat) ls, audience[i]? = some ls →
    controllersOf ls = order.filter (sitsAt seats i)

section
variable {seats : List Seat} {n : Nat} {s s' : Seat}

/-- Whoever is switched stays at the document. -/
theorem sitsAt_set (hs : seats[n]? = some s) (on subscribed : Bool) (i : Nat) :
    sitsAt (seats.set n ⟨s.document, on, subscribed⟩) i = sitsAt seats i := by
  funext m
  unfold sitsAt
  by_cases hm : n = m
  · subst hm
    rw [List.getElem?_set_self (List.getElem?_eq_some_iff.mp hs).1, hs]
    rfl
  · rw [List.getElem?_set_ne hm]

theorem mem_set_seat (h : s ∈ seats.set n s') : s = s' ∨ s ∈ seats :=
  (List.mem_or_eq_of_mem_set h).symm

end

namespace Tuned
variable {seats : List Seat} {audience : List (List Listener)} {order : List Nat} {n : Nat}
  {s : Seat}

theorem mem_iff (h : Tuned seats audience order) (hs : seats[n]? = some s) :
    n ∈ order ↔ s.on = true := by
  rw [h.on_iff]
  constructor
  · rintro ⟨s', hs', hon⟩
    cases hs.symm.trans hs'
    exact hon
  · intro hon
    exact ⟨s, hs, hon⟩

/-- Nothing changes for controllers when a callback of the host joins or leaves. -/
theorem modify (h : Tuned seats audience order) (i : Nat) {f : List Listener → List Listener}
    (hf : ∀ ls, controllersOf (f ls) = controllersOf ls) :
    Tuned seats (audience.modify i f) order := by
  refine ⟨h.nodup, h.on_iff, h.subscribed, ?_, ?_⟩
  · intro s hs
    simpa using h.bound s hs
  · intro j ls hls
    rw [List.getElem?_modify] at hls
    obtain ⟨ls', hls', rfl⟩ := Option.map_eq_some_iff.mp hls
    rw [← h.heard j ls' hls']
    split
    · exact hf ls'
    · rfl

theorem switchOn (h : Tuned seats audience order) (hs : seats[n]? = some s) (hoff : s.on = false) :
    Tuned (seats.set n ⟨s.document, true, true⟩)
      (audience.modify s.document fun ls => ls ++ [.controller n]) (order.erase n ++ [n]) := by
  have hn : n ∉ order := by simp [h.mem_iff hs, hoff]
  rw [List.erase_of_not_mem hn]
  refine ⟨?_, ?_, ?_, ?_, ?_⟩
  · exact List.nodup_append.mpr ⟨h.nodup, by simp, by grind⟩
  · intro m
    by_cases hm : n = m
    · subst hm
      simp [(List.getElem?_eq_some_iff.mp hs).1]
    · rw [List.getElem?_set_ne hm, ← h.on_iff m]
      simp [Ne.symm hm]
  · intro t ht
    rcases mem_set_seat ht with rfl | ht
    · rfl
    · exact h.subscribed t ht
  · intro t ht
    rw [List.length_modify]
    rcases mem_set_seat ht with rfl | ht
    · exact h.bound s (List.mem_of_getElem? hs)
    · exact h.bound t ht
  · intro i ls hls
    rw [List.getElem?_modify] at hls
    obtain ⟨ls', hls', rfl⟩ := Option.map_eq_some_iff.mp hls
    have hsits : (order ++ [n]).filter (sitsAt (seats.set n ⟨s.document, true, true⟩) i)
        = order.filter (sitsAt seats i) ++ if s.document = i then [n] else [] := by
      rw [sitsAt_set hs, List.filter_append]
      simp [sitsAt, hs, List.filter_cons]
    rw [hsits, ← h.heard i ls' hls']
    split <;> simp

theorem switchOff (h : Tuned seats audience order) (hs : seats[n]? = some s) :
    Tuned (seats.set n ⟨s.document, false, false⟩)
      (if s.subscribed then audience.modify s.document fun ls => ls.erase (.controller n)
        else audience) (order.erase n) := by
  have hlength : (if s.subscribed then audience.modify s.document fun ls =>
      ls.erase (.controller n) else audience).length = audience.length := by
    split <;> simp
  have herase : ∀ m, m ∈ order.erase n ↔ m ≠ n ∧ m ∈ order := fun m => h.nodup.mem_erase_iff
  refine ⟨h.nodup.erase n, ?_, ?_, ?_, ?_⟩
  · intro m
    rw [herase]
    by_cases hm : n = m
    · subst hm
      simp [(List.getElem?_eq_some_iff.mp hs).1]
    · rw [List.getElem?_set_ne hm, ← h.on_iff m]
      simp [Ne.symm hm]
  · intro t ht
    rcases mem_set_seat ht with rfl | ht
    · rfl
    · exact h.subscribed t ht
  · intro t ht
    rw [hlength]
    rcases mem_set_seat ht with rfl | ht
    · exact h.bound s (List.mem_of_getElem? hs)
    · exact h.bound t ht
  · intro i ls hls
    rw [sitsAt_set hs]
    have hsub := h.subscribed s (List.mem_of_getElem? hs)
    cases hon : s.on with
    | false =>
      have hn : n ∉ order := by simp [h.mem_iff hs, hon]
      rw [hsub, hon] at hls
      rw [List.erase_of_not_mem hn]
      exact h.heard i ls hls
    | true =>
      rw [hsub, hon, if_pos rfl, List.getElem?_modify] at hls
      obtain ⟨ls', hls', rfl⟩ := Option.map_eq_some_iff.mp hls
      have hfilter : (order.erase n).filter (sitsAt seats i)
          = (order.filter (sitsAt seats i)).erase n := by
        rw [h.nodup.erase_eq_filter, List.Nodup.erase_eq_filter (h.nodup.filter _),
          List.filter_filter, List.filter_filter]
        exact List.filter_congr fun m _ => Bool.and_comm _ _
      rw [hfilter, ← h.heard i ls' hls']
      split
      · exact controllersOf_erase_controller ls' n
      · next hi =>
        have hn : n ∉ controllersOf ls' := by
          rw [h.heard i ls' hls']
          simp [sitsAt, hs, hi]
        exact (List.erase_of_not_mem hn).symm

end Tuned

/-! ## Modes along a session -/

/-- A world whose modes are in tune, and in which the host has subscribed nothing but callbacks. -/
structure World.InTune (w : World) (order : List Nat) : Prop where
  tuned : Tuned w.seats w.audience order
  host : ∀ s ∈ w.subscriptions, ∃ name, s.2 = .callback name

theorem World.InTune.of_eq {w w' : World} {order : List Nat} (h : w.InTune order)
    (hseats : w'.seats = w.seats) (haudience : w'.audience = w.audience)
    (hsubs : w'.subscriptions = w.subscriptions) : w'.InTune order :=
  ⟨by rw [hseats, haudience]; exact h.tuned, by rw [hsubs]; exact h.host⟩

theorem SameListeners.audience {w w' : World} (h : SameListeners w.documents w'.documents) :
    w'.audience = w.audience := by
  apply List.ext_getElem?
  intro i
  rw [World.audience, World.audience, List.getElem?_map, List.getElem?_map]
  exact h i

theorem seats_modify {controllers : List Controller} {n : Nat} {change : Controller → Controller}
    (h : ∀ c, (change c).seat = c.seat) :
    (controllers.modify n change).map Controller.seat = controllers.map Controller.seat := by
  apply List.ext_getElem?
  intro m
  rw [List.getElem?_map, List.getElem?_map, List.getElem?_modify]
  cases controllers[m]? with
  | none => rfl
  | some c =>
    by_cases hm : n = m
    · simp [hm, h]
    · simp [hm]

section
variable {controllers : List Controller} {n : Nat} {c : Controller}

theorem seats_of {w : World} (hc : w.controllers[n]? = some c) : w.seats[n]? = some c.seat := by
  rw [World.seats, List.getElem?_map, hc]
  rfl

theorem exists_of_seats {w : World} {s : Seat} (hs : w.seats[n]? = some s) :
    ∃ c, w.controllers[n]? = some c ∧ c.seat = s := by
  rw [World.seats, List.getElem?_map] at hs
  exact Option.map_eq_some_iff.mp hs

theorem seats_set (hc : controllers[n]? = some c) (change : Controller → Controller) :
    (controllers.modify n change).map Controller.seat
      = (controllers.map Controller.seat).set n (change c).seat := by
  rw [← set_eq_modify hc, List.map_set]

end

theorem audience_modify (docs : List Document) (i : Nat) {f : Document → Document}
    {g : List Listener → List Listener} (h : ∀ d, (f d).listeners = g d.listeners) :
    (docs.modify i f).map Document.listeners = (docs.map Document.listeners).modify i g := by
  apply List.ext_getElem?
  intro j
  simp only [List.getElem?_map, List.getElem?_modify, Option.map_eq_map, Option.map_map]
  congr 1
  funext d
  simp only [Function.comp_apply]
  split
  · exact h d
  · rfl

theorem audience_switchedOn (w : World) (n : Nat) (c : Controller) :
    (w.switchedOn n c).audience
      = w.audience.modify c.document fun ls => ls ++ [.controller n] :=
  audience_modify _ _ fun _ => rfl

theorem audience_switchedOff (w : World) (n : Nat) (c : Controller) :
    (w.switchedOff n c).audience = if c.subscribed then
      w.audience.modify c.document fun ls => ls.erase (.controller n) else w.audience := by
  unfold World.switchedOff World.audience
  cases c.subscribed with
  | false => rfl
  | true => exact audience_modify _ _ fun _ => rfl

theorem audience_set {w w' : World} {i : Nat} {d : Document}
    (hd : (w.documents : List Document)[i]? = some d) (g : List Listener → List Listener)
    (hdocs : w'.documents = List.set w.documents i { d with listeners := g d.listeners }) :
    w'.audience = w.audience.modify i g := by
  rw [World.audience, hdocs, set_eq_modify hd fun d => { d with listeners := g d.listeners }]
  exact audience_modify _ _ fun _ => rfl

theorem audience_subscribe {w w' : World} {i : Nat} {d : Document} {l : Listener}
    (hd : (w.documents : List Document)[i]? = some d)
    (hdocs : w'.documents = List.set w.documents i (d.subscribe l)) :
    w'.audience = w.audience.modify i fun ls => ls ++ [l] :=
  audience_set hd (fun ls => ls ++ [l]) hdocs

theorem audience_unsubscribe {w : World} {i : Nat} {d : Document}
    (hd : (w.documents : List Document)[i]? = some d) (l : Listener) :
    World.audience { w with documents := List.set w.documents i (d.unsubscribe l) }
      = w.audience.modify i fun ls => ls.erase l :=
  audience_set hd (fun ls => ls.erase l) rfl

theorem Concluded.seats {n : Nat} {w w' : World} (h : Concluded n w w') : w'.seats = w.seats := by
  unfold World.seats
  rcases h.controllers with hc | ⟨o, hc⟩
  · rw [hc]
  · rw [hc]
    exact seats_modify fun _ => rfl

/-- Modes stay in tune with the events, wherever they start. -/
theorem law_inTune :
    Law fun w w' es => ∀ order, w.InTune order → w'.InTune (es.foldl Event.update order) where
  still h order hw :=
    hw.of_eq (congrArg (List.map Controller.seat) h.controllers) h.listeners.audience
      h.subscriptions
  trans h h' order hw := by
    rw [List.foldl_append]
    exact h' _ (h order hw)
  adjust h order hw := hw.of_eq (seats_modify fun c => by
    simp [Controller.seat, (h c).document, (h c).on, (h c).subscribed]) rfl rfl
  dropped _ _ order hw := hw
  run := by
    intro w w₂ w₃ n c es answered hc hidle hinner hend order hw
    have hbusy : (w.busy n).InTune order := hw.of_eq (seats_modify fun _ => rfl) rfl rfl
    have hended := (hinner order hbusy).of_eq hend.seats hend.listeners.audience hend.subscriptions
    have hidled : (w₃.idle n).InTune (es.foldl Event.update order) :=
      hended.of_eq (seats_modify fun _ => rfl) rfl rfl
    simpa [Event.update] using hidled
  switchedOn := by
    intro w n c hc hoff order hw
    have hseats : (w.switchedOn n c).seats = w.seats.set n ⟨c.document, true, true⟩ :=
      seats_set hc _
    refine ⟨?_, hw.host⟩
    rw [hseats, audience_switchedOn]
    exact hw.tuned.switchOn (seats_of hc) hoff
  switchedOff := by
    intro w n c hc order hw
    have hseats : (w.switchedOff n c).seats = w.seats.set n ⟨c.document, false, false⟩ :=
      seats_set hc _
    refine ⟨?_, hw.host⟩
    rw [hseats, audience_switchedOff]
    exact hw.tuned.switchOff (seats_of hc)
  joined := by
    intro w w' i d name hd hc hdocs hsubs order hw
    have hseats : w'.seats = w.seats := congrArg (List.map Controller.seat) hc
    have haudience : w'.audience = w.audience.modify i fun ls => ls ++ [.callback name] :=
      audience_subscribe hd hdocs
    refine ⟨?_, ?_⟩
    · rw [hseats, haudience]
      exact hw.tuned.modify i fun ls => by simp
    · intro s hs
      rw [hsubs] at hs
      rcases List.mem_append.mp hs with hs | hs
      · exact hw.host s hs
      · cases List.mem_singleton.mp hs
        exact ⟨name, rfl⟩
  left := by
    intro w k i l d hs hd order hw
    obtain ⟨name, hl⟩ := hw.host _ (List.mem_of_getElem? hs)
    simp only at hl
    subst hl
    refine ⟨?_, hw.host⟩
    show Tuned w.seats (World.audience { w with
      documents := List.set w.documents i (d.unsubscribe (.callback name)) }) order
    rw [audience_unsubscribe hd]
    exact hw.tuned.modify i fun ls => controllersOf_erase_callback ls name

/-- A world in which no callback of the host listens. -/
def World.Unheard (w : World) : Prop :=
  ∀ ls ∈ w.audience, ∀ name, .callback name ∉ ls

theorem World.Unheard.of_eq {w w' : World} (h : w.Unheard) (hw' : w'.audience = w.audience) :
    w'.Unheard := by
  rw [World.Unheard, hw']
  exact h

theorem World.Unheard.modify {w w' : World} (h : w.Unheard) {i : Nat}
    {f : List Listener → List Listener} (hw' : w'.audience = w.audience.modify i f)
    (hf : ∀ ls name, .callback name ∈ f ls → .callback name ∈ ls) : w'.Unheard := by
  intro ls hls name hname
  rw [hw'] at hls
  obtain ⟨j, hj⟩ := List.mem_iff_getElem?.mp hls
  rw [List.getElem?_modify] at hj
  obtain ⟨ls', hls', rfl⟩ := Option.map_eq_some_iff.mp hj
  have hmem := List.mem_of_getElem? hls'
  split at hname
  · exact h ls' hmem name (hf ls' name hname)
  · exact h ls' hmem name hname

/-- Unless the host subscribes a callback, none listens. -/
theorem law_unheard :
    Law fun w w' es => (∀ i name, .joined i name ∉ es) → w.Unheard → w'.Unheard where
  still h _ hw := hw.of_eq h.listeners.audience
  trans h h' hes hw :=
    h' (fun i name hmem => hes i name (by simp [hmem]))
      (h (fun i name hmem => hes i name (by simp [hmem])) hw)
  adjust _ _ hw := hw
  dropped _ _ _ hw := hw
  run {_ _ w₃ _ _ _ _} _ _ hinner hend hes hw := by
    have hended : w₃.Unheard :=
      (hinner (fun i name hmem => hes i name (by simp [hmem])) hw).of_eq hend.listeners.audience
    exact hended
  switchedOn _ _ _ hw := hw.modify (audience_switchedOn _ _ _) (by simp)
  switchedOff {w n c} _ _ hw := by
    have haudience := audience_switchedOff w n c
    cases hsub : c.subscribed with
    | false =>
      rw [hsub] at haudience
      exact hw.of_eq haudience
    | true =>
      rw [hsub] at haudience
      exact hw.modify haudience fun ls name => List.mem_of_mem_erase
  joined {w w' i d name} _ _ _ _ hes _ := absurd (by simp) (hes i name)
  left {_ _ _ l _} _ hd _ hw :=
    hw.modify (audience_unsubscribe hd l) fun ls name => List.mem_of_mem_erase

/-! ## Where sessions start -/

section
variable {host : Host} {terminal : Bool} {documents : List Document} {plans : List Plan}
  (hdocs : ∀ d ∈ documents, d.IsFresh)

include hdocs

theorem audience_start : ∀ ls ∈ (World.start host terminal documents plans).audience, ls = [] := by
  intro ls hls
  obtain ⟨d, hd, rfl⟩ := List.mem_map.mp hls
  rw [hdocs d hd]
  rfl

theorem unheard_start : (World.start host terminal documents plans).Unheard := by
  intro ls hls name
  rw [audience_start hdocs ls hls]
  simp

/-- A session starts with every mode off. -/
theorem inTune_start (hplans : ∀ p ∈ plans, p.document < documents.length) :
    (World.start host terminal documents plans).InTune [] := by
  have hseats : ∀ s ∈ (World.start host terminal documents plans).seats,
      s.on = false ∧ s.subscribed = false ∧ s.document < documents.length := by
    intro s hs
    obtain ⟨c, hc, rfl⟩ := List.mem_map.mp hs
    obtain ⟨⟨p, n⟩, hp, rfl⟩ := List.mem_map.mp hc
    exact ⟨rfl, rfl, hplans p (List.fst_mem_of_mem_zipIdx hp)⟩
  refine ⟨⟨List.nodup_nil, ?_, ?_, ?_, ?_⟩, by simp [World.start]⟩
  · intro n
    simp only [List.not_mem_nil, false_iff]
    rintro ⟨s, hs, hon⟩
    simp [(hseats s (List.mem_of_getElem? hs)).1] at hon
  · intro s hs
    obtain ⟨hon, hsubscribed, -⟩ := hseats s hs
    rw [hon, hsubscribed]
  · intro s hs
    simpa [World.audience, World.start] using (hseats s hs).2.2
  · intro i ls hls
    simp [audience_start hdocs ls (List.mem_of_getElem? hls)]

end

theorem Reachable.afterAll {w : World} (h : Reachable w) (steps : List Step) :
    Reachable (w.afterAll steps) := by
  induction steps generalizing w with
  | nil => exact h
  | cons s rest ih => exact ih (h.step s)

/-! ## Saves -/

/-- A run that has begun ends before anything else is noted. -/
def Event.Precedes : Event → Event → Prop
  | .began n, e => e = .ended n true ∨ e = .ended n false
  | _, _ => True

instance : DecidableRel Event.Precedes
  | .began n, e => inferInstanceAs (Decidable (e = .ended n true ∨ e = .ended n false))
  | .switched _ _, _ | .joined _ _, _ | .left _ _, _ | .ended _ _, _ | .dropped _, _ =>
    .isTrue trivial

/-- No run is entered again, and nothing else is asked of a controller while it is in progress. -/
def Unentered (es : List Event) : Prop :=
  es.IsChain Event.Precedes

instance : DecidablePred Unentered := fun es =>
  inferInstanceAs (Decidable (es.IsChain Event.Precedes))

/-- A run that is not entered notes its beginning and its end. -/
theorem Unentered.inner_eq {n : Nat} {inner es : List Event} {answered : Bool}
    (h : Unentered (.began n :: inner ++ [.ended n answered] ++ es))
    (hinner : ∀ e ∈ inner, e.runner? ≠ some n) : inner = [] := by
  cases inner with
  | nil => rfl
  | cons e inner =>
    have he : e = .ended n true ∨ e = .ended n false := (List.isChain_cons_cons.mp h).1
    refine absurd ?_ (hinner e (by simp))
    rcases he with rfl | rfl <;> rfl

/-- What is noted of runs that are made in turn, none of which fails. -/
def runsOf (ms : List Nat) : List Event :=
  ms.flatMap fun m => [.began m, .ended m true]

theorem Watched.bind_pure_eq {α β : Type} (m : Watched α) (b : β) (w : World) :
    (m >>= fun _ => pure b) w = (((m w).1.1.map fun _ => b, (m w).1.2), (m w).2) := by
  rw [bind_eq]
  cases m w with
  | mk result es =>
    obtain ⟨answer, w'⟩ := result
    cases answer with
    | ok a => simp [pure, Except.map]
    | error fault => rfl

/-- A listener that is on asks for a run. -/
theorem watched_notify_of_on {w : World} {n : Nat} {c : Controller}
    (hc : w.controllers[n]? = some c) (hon : c.on = true) (make : Step → Watched Answer) :
    Watched.notify make (.controller n) w
      = (((Watched.run make n w).1.1.map fun _ => (), (Watched.run make n w).1.2),
          (Watched.run make n w).2) := by
  have hrun : (controller n).run w = (.ok c, w) := by rw [run_controller, hc]
  rw [Watched.notify, Watched.of_bind_ok hrun, if_pos hon, Watched.bind_pure_eq]

/-- Listeners that are on and idle run in turn. -/
theorem watched_notifyAll {k : Nat} {w : World} {order ms : List Nat} (hw : w.InTune order)
    (hms : ∀ m ∈ ms, m ∈ order)
    (hidle : ∀ m ∈ ms, ∃ c, w.controllers[m]? = some c ∧ c.running = false)
    (hentered : Unentered (Watched.notifyAll (Watched.step k) (ms.map .controller) w).2)
    (hraised : ∀ m, .ended m false ∉
      (Watched.notifyAll (Watched.step k) (ms.map .controller) w).2) :
    (Watched.notifyAll (Watched.step k) (ms.map .controller) w).1.1 = .ok () ∧
      (Watched.notifyAll (Watched.step k) (ms.map .controller) w).2 = runsOf ms := by
  induction ms generalizing w with
  | nil => exact ⟨rfl, rfl⟩
  | cons m rest ih =>
    obtain ⟨c, hc, hrunning⟩ := hidle m (by simp)
    have hon : c.on = true := (hw.tuned.mem_iff (seats_of hc)).mp (hms m (by simp))
    have hrun := watched_run_of_idle hc hrunning (Watched.step k)
    obtain ⟨_, hinner, -⟩ :=
      Watched.ends_pipeline law_guarded (law_guarded.step k) m (w.busy m)
    obtain ⟨_, _, _, hinner⟩ := hinner m _ (busy_self hc)
    have hinner := (hinner rfl).2
    have htune := Watched.obeys_run law_inTune (law_inTune.step k) m w order hw
    have hguard := Watched.obeys_run law_guarded (law_guarded.step k) m w
    have hall : Watched.notifyAll (Watched.step k) ((m :: rest).map .controller) w
        = (Watched.notify (Watched.step k) (.controller m) >>= fun _ =>
            Watched.notifyAll (Watched.step k) (rest.map .controller)) w := rfl
    rw [hall, Watched.bind_eq, watched_notify_of_on hc hon] at hentered hraised ⊢
    generalize Watched.pipeline (Watched.step k) m (w.busy m) = out at hrun hinner
    obtain ⟨⟨answer, w₁⟩, inner⟩ := out
    rw [hrun] at hentered hraised htune hguard ⊢
    cases answer with
    | error fault => exact absurd (by simp [Except.map, Except.isOk, Except.toBool]) (hraised m)
    | ok o =>
      simp only [Except.map] at hentered hraised ⊢
      have hnothing := hentered.inner_eq hinner
      subst hnothing
      have hrest : ∀ m' ∈ rest, ∃ c', (w₁.idle m).controllers[m']? = some c' ∧
          c'.running = false := by
        intro m' hm'
        obtain ⟨c₀, hc₀, hidle₀⟩ := hidle m' (by simp [hm'])
        obtain ⟨c', hc', hsame, -⟩ := hguard m' c₀ hc₀
        exact ⟨c', hc', hsame.trans hidle₀⟩
      obtain ⟨hanswer, hevents⟩ := ih htune (fun m' hm' => hms m' (by simp [hm'])) hrest
        (List.IsChain.right_of_append hentered) fun m' hmem => hraised m' (by simp [hmem])
      exact ⟨hanswer, by rw [hevents]; rfl⟩

theorem run_written {w : World} {i : Nat} {d : Document} {tree : FileTree}
    (hd : (w.documents : List Document)[i]? = some d)
    (htree : d.write w.host.tree w.host.cwd = .ok tree) :
    (written i).run w = (.ok d, { w with host := { w.host with tree } }) := by
  rw [written, document_bind_some hd, get_bind, orFault_bind, htree]
  rfl

/-- A save runs the listeners of the document, if all of them are controllers. -/
theorem watched_save {w : World} {order : List Nat} (hw : w.InTune order)
    (hidle : ∀ c ∈ w.controllers, c.running = false) {i m : Nat} {d : Document} {tree : FileTree}
    (hd : (w.documents : List Document)[i]? = some d)
    (htree : d.write w.host.tree w.host.cwd = .ok tree)
    (hcallback : ∀ name, .callback name ∉ d.listeners) (depth : Nat)
    (hentered : Unentered (Watched.step (depth + 1) ⟨i, m, .save⟩ w).2)
    (hraised : ∀ n, .ended n false ∉ (Watched.step (depth + 1) ⟨i, m, .save⟩ w).2) :
    (Watched.step (depth + 1) ⟨i, m, .save⟩ w).1.1 = .ok .done ∧
      (Watched.step (depth + 1) ⟨i, m, .save⟩ w).2 = runsOf (order.filter (sitsAt w.seats i)) := by
  let w' : World := { w with host := { w.host with tree } }
  have hheard : controllersOf d.listeners = order.filter (sitsAt w.seats i) :=
    hw.tuned.heard i d.listeners (by simp [World.audience, hd])
  have hsave : Watched.save (Watched.step depth) i w
      = Watched.notifyAll (Watched.step depth) d.listeners w' :=
    Watched.of_bind_ok (run_written hd htree) _
  have hstep : Watched.step (depth + 1) ⟨i, m, .save⟩ w
      = (Watched.save (Watched.step depth) i >>= fun _ => pure Answer.done) w := rfl
  have hmem : ∀ n ∈ controllersOf d.listeners, n ∈ order := by
    intro n hn
    rw [hheard] at hn
    exact (List.mem_filter.mp hn).1
  have hidle' : ∀ n ∈ controllersOf d.listeners, ∃ c, w'.controllers[n]? = some c ∧
      c.running = false := by
    intro n hn
    obtain ⟨s, hs, -⟩ := (hw.tuned.on_iff n).mp (hmem n hn)
    obtain ⟨c, hc, -⟩ := exists_of_seats hs
    exact ⟨c, hc, hidle c (List.mem_of_getElem? hc)⟩
  have htune : w'.InTune order := hw.of_eq rfl rfl rfl
  rw [hstep, Watched.bind_pure_eq, hsave, ← map_controllersOf hcallback] at hentered hraised ⊢
  obtain ⟨hanswer, hevents⟩ := watched_notifyAll htune hmem hidle' hentered hraised
  exact ⟨by rw [hanswer]; rfl, by rw [hevents, hheard]⟩

/-- Whoever is on is not switched on again. -/
theorem watched_enable {w : World} {n : Nat} {c : Controller} (hc : w.controllers[n]? = some c)
    (hon : c.on = true) (depth i : Nat) :
    Watched.step (depth + 1) ⟨i, n, .enable⟩ w = ((.ok .done, w), []) := by
  have hrun : (controller n).run w = (.ok c, w) := by rw [run_controller, hc]
  have henable : Watched.enable (Watched.step depth) n w = ((.ok (), w), []) := by
    rw [Watched.enable, Watched.of_bind_ok hrun, if_pos hon]
    rfl
  have hstep : Watched.step (depth + 1) ⟨i, n, .enable⟩ w
      = (Watched.enable (Watched.step depth) n >>= fun _ => pure Answer.done) w := rfl
  rw [hstep, Watched.bind_pure_eq, henable]
  rfl

/-! ## Sessions -/

/-- Whatever steps a host makes, failed ones included, the modes, the subscriptions and the
listeners agree, and a save runs the controllers of the document that are on. -/
theorem modes_and_saves_agree (host : Host) (terminal : Bool) {documents : List Document}
    {plans : List Plan} (hdocs : ∀ d ∈ documents, d.IsFresh)
    (hplans : ∀ p ∈ plans, p.document < documents.length) (steps : List Step) :
    let start := World.start host terminal documents plans
    let w := start.afterAll steps
    let order := lastOn (history steps start)
    -- the order is that of the controllers that are on
    (order.Nodup ∧ ∀ n, n ∈ order ↔ ∃ c, w.controllers[n]? = some c ∧ c.on = true) ∧
    -- a controller that is on holds a subscription and listens once, to its own document
    (∀ n c, w.controllers[n]? = some c → c.subscribed = c.on ∧
      (∃ d, (w.documents : List Document)[c.document]? = some d ∧
        d.listeners.count (.controller n) = if c.on then 1 else 0) ∧
      ∀ (i : Nat) d, (w.documents : List Document)[i]? = some d → i ≠ c.document →
        .controller n ∉ d.listeners) ∧
    -- the listeners of a document stand in that order
    (∀ (i : Nat) d, (w.documents : List Document)[i]? = some d →
      controllersOf d.listeners = order.filter (sitsAt w.seats i) ∧
      ((∀ j name, .joined j name ∉ history steps start) →
        d.listeners = (order.filter (sitsAt w.seats i)).map .controller)) ∧
    -- a save that is written runs each of them once, in that order, if no run is entered or fails
    (∀ (i m : Nat) d tree, (w.documents : List Document)[i]? = some d →
      d.write w.host.tree w.host.cwd = .ok tree → (∀ name, .callback name ∉ d.listeners) →
      Unentered (Watched.step deepest ⟨i, m, .save⟩ w.resumed).2 →
      (∀ n, .ended n false ∉ (Watched.step deepest ⟨i, m, .save⟩ w.resumed).2) →
      (advance ⟨i, m, .save⟩ w).1.answer = .ok .done ∧
      (Watched.step deepest ⟨i, m, .save⟩ w.resumed).2
        = runsOf (order.filter (sitsAt w.seats i))) ∧
    -- one that is on is not switched on again
    (∀ (i n : Nat) c, w.controllers[n]? = some c → c.on = true →
      (step deepest ⟨i, n, .enable⟩).run w.resumed = (.ok .done, w.resumed) ∧
      (Watched.step deepest ⟨i, n, .enable⟩ w.resumed).2 = []) := by
  intro start w order
  have htune : w.InTune order :=
    law_inTune.afterAll steps start [] (inTune_start hdocs hplans)
  have hreach : Reachable w := (Reachable.start host terminal plans hdocs).afterAll steps
  have hheard : ∀ (i : Nat) d, (w.documents : List Document)[i]? = some d →
      controllersOf d.listeners = order.filter (sitsAt w.seats i) := by
    intro i d hd
    exact htune.tuned.heard i d.listeners (by simp [World.audience, hd])
  refine ⟨⟨htune.tuned.nodup, ?_⟩, ?_, ?_, ?_, ?_⟩
  · intro n
    rw [htune.tuned.on_iff]
    constructor
    · rintro ⟨s, hs, hon⟩
      obtain ⟨c, hc, rfl⟩ := exists_of_seats hs
      exact ⟨c, hc, hon⟩
    · rintro ⟨c, hc, hon⟩
      exact ⟨c.seat, seats_of hc, hon⟩
  · intro n c hc
    have hseat := seats_of hc
    have hmem := htune.tuned.mem_iff hseat
    refine ⟨htune.tuned.subscribed _ (List.mem_of_getElem? hseat), ?_, ?_⟩
    · have hbound : c.document < w.documents.length := by
        simpa [World.audience, Controller.seat] using
          htune.tuned.bound _ (List.mem_of_getElem? hseat)
      refine ⟨w.documents[c.document], List.getElem?_eq_getElem hbound, ?_⟩
      rw [← count_controllersOf, hheard _ _ (List.getElem?_eq_getElem hbound),
        List.Nodup.count (htune.tuned.nodup.filter _)]
      simp [hmem, sitsAt, hseat, Controller.seat]
    · intro i d hd hi hlistens
      have hcount := List.count_pos_iff.mpr hlistens
      rw [← count_controllersOf, hheard i d hd, List.count_pos_iff] at hcount
      simp [sitsAt, hseat, Controller.seat, Ne.symm hi] at hcount
  · intro i d hd
    refine ⟨hheard i d hd, fun hjoined => ?_⟩
    have hunheard : w.Unheard := law_unheard.afterAll steps start hjoined (unheard_start hdocs)
    rw [← hheard i d hd]
    exact (map_controllersOf (hunheard _ (List.mem_map_of_mem (List.mem_of_getElem? hd)))).symm
  · intro i m d tree hd htree hcallback hentered hraised
    have htune' : w.resumed.InTune order := htune.of_eq rfl rfl rfl
    obtain ⟨hanswer, hevents⟩ :=
      watched_save htune' hreach.not_running hd htree hcallback 199 hentered hraised
    refine ⟨?_, hevents⟩
    rw [(advance_eq _ w).1, ← Watched.step_eq]
    exact hanswer
  · intro i n c hc hon
    have hstep := watched_enable (w := w.resumed) hc hon 199 i
    rw [← Watched.step_eq]
    exact ⟨congrArg Prod.fst hstep, congrArg Prod.snd hstep⟩

/-- A document that is kept in no file, and two controllers of it. -/
def twoControllers : World :=
  .start ⟨.empty, Path.ofText "/".toList, []⟩ false [.ofText ['d'] none ['a']]
    [⟨0, false, .standard, .standard, some .recorded, []⟩,
      ⟨0, false, .standard, .standard, some .recorded, []⟩]

/-- Steps in which the second controller is switched on before the first one, and again after. -/
def switches : List Step :=
  [⟨0, 1, .enable⟩, ⟨0, 0, .enable⟩, ⟨0, 1, .toggle⟩, ⟨0, 1, .toggle⟩]

theorem modes_and_saves_agree_of_twoControllers :
    let w := twoControllers.afterAll switches
    (∃ d, (w.documents : List Document)[0]? = some d ∧
      d.listeners = [.controller 0, .controller 1]) ∧
    (Watched.step deepest ⟨0, 0, .save⟩ w.resumed).2
      = [.began 0, .ended 0 true, .began 1, .ended 1 true] ∧
    (step deepest ⟨0, 1, .enable⟩).run w.resumed = (.ok .done, w.resumed) := by
  intro w
  have hfresh : ∀ d ∈ [Document.ofText ['d'] none ['a']], d.IsFresh := by
    intro d hd
    cases List.mem_singleton.mp hd
    rfl
  have hplans : ∀ p ∈ [(⟨0, false, .standard, .standard, some .recorded, []⟩ : Plan),
      ⟨0, false, .standard, .standard, some .recorded, []⟩], p.document < 1 := by
    intro p hp
    have hdocument : p.document = 0 := by simp_all
    rw [hdocument]
    exact Nat.one_pos
  obtain ⟨-, hmodes, hheard, hsave, henable⟩ := modes_and_saves_agree
    ⟨.empty, Path.ofText "/".toList, []⟩ false hfresh hplans switches
  have hsecond : (w.controllers[1]?.map fun c => (c.document, c.on)) = some (0, true) := by
    decide +kernel
  obtain ⟨c, hc, hc'⟩ := Option.map_eq_some_iff.mp hsecond
  simp only [Prod.mk.injEq] at hc'
  obtain ⟨-, ⟨d, hd, -⟩, -⟩ := hmodes 1 c hc
  have hd : (w.documents : List Document)[0]? = some d := by
    rw [← hc'.1]
    exact hd
  have horder : (lastOn (history switches twoControllers)).filter (sitsAt w.seats 0) = [0, 1] := by
    decide +kernel
  have hpast : history switches twoControllers =
      [.switched 1 true, .began 1, .ended 1 true, .switched 0 true, .began 0, .ended 0 true,
        .switched 1 false, .switched 1 true, .began 1, .ended 1 true] := by
    decide +kernel
  have hlisteners : d.listeners = [.controller 0, .controller 1] := by
    have hjoined : ∀ j name, .joined j name ∉ history switches twoControllers := by simp [hpast]
    exact ((hheard 0 d hd).2 hjoined).trans (congrArg (List.map Listener.controller) horder)
  have hfile : (w.documents : List Document)[0]?.map Document.file = some none := by
    decide +kernel
  have htree : d.write w.host.tree w.host.cwd = .ok w.host.tree := by
    rw [hd] at hfile
    rw [Document.write, Option.some.inj hfile]
  have hnoted : (Watched.step deepest ⟨0, 0, .save⟩ w.resumed).2
      = [.began 0, .ended 0 true, .began 1, .ended 1 true] := by
    decide +kernel
  have hentered : Unentered (Watched.step deepest ⟨0, 0, .save⟩ w.resumed).2 := by
    rw [hnoted]
    decide
  have hraised : ∀ n, .ended n false ∉ (Watched.step deepest ⟨0, 0, .save⟩ w.resumed).2 := by
    simp [hnoted]
  obtain ⟨-, hsaved⟩ := hsave 0 0 d _ hd htree (by simp [hlisteners]) hentered hraised
  exact ⟨⟨d, hd, hlisteners⟩, hsaved.trans (congrArg runsOf horder), (henable 0 1 c hc hc'.2).1⟩

end Marginalia.Session
