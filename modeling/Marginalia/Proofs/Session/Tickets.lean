import Mathlib.Data.List.Induction
import Mathlib.Data.List.Nodup
import Mathlib.Data.List.TakeWhile
import Marginalia.Proofs.Session.Watched

/-!
# Subscriptions as the host sees them

A host that subscribes a callback to the saves of a document gets a subscription, which it knows by
its number, and it may ask to end it, more than once.  `ticketsOf` is the account that such a host
keeps, and `due` are the callbacks that ought to be told about a save by that account: one for each
subscription that nobody has asked to end, in the order of subscribing.

Events do not say which subscription was ended.  The callbacks that are `waiting` go by events, and
whoever ends a subscription takes off the first entry of its callback.  `inOrder_iff` says which asks
leave the two in agreement, and `allInOrder_iff` that they agree throughout exactly if every
subscription is ended in order.  Subscriptions of other callbacks and other documents are not
touched either way (`waiting_filter`).
-/

namespace Marginalia.Session

/-! ## Asks -/

/-- What a host asks for about subscriptions. -/
inductive Ask where
  /-- A callback is to be told about the saves of a document. -/
  | join (document : Nat) (name : Text)
  /-- A subscription is to end. -/
  | leave (number : Nat)
deriving DecidableEq

/-- A subscription as the host sees it. -/
structure Ticket where
  /-- The number of the document. -/
  document : Nat
  /-- The name of the callback. -/
  name : Text
  /-- Whether nobody has asked to end it. -/
  live : Bool
deriving DecidableEq

/-- What the session knows of a subscription. -/
def Ticket.subscription (t : Ticket) : Nat × Listener :=
  (t.document, .callback t.name)

/-- The subscription after somebody has asked to end it. -/
def Ticket.ended (t : Ticket) : Ticket :=
  { t with live := false }

/-- What an ask makes of the account. -/
def Ask.enter (tickets : List Ticket) : Ask → List Ticket
  | .join i name => tickets ++ [⟨i, name, true⟩]
  | .leave k => tickets.modify k Ticket.ended

/-- The account after asks. -/
def ticketsOf (asks : List Ask) : List Ticket :=
  asks.foldl Ask.enter []

theorem ticketsOf_append (asks asks' : List Ask) :
    ticketsOf (asks ++ asks') = asks'.foldl Ask.enter (ticketsOf asks) :=
  List.foldl_append

/-- A subscription is live until somebody asks to end it, whatever else is asked for. -/
theorem getElem?_foldl_enter {tickets : List Ticket} {k : Nat} {t : Ticket}
    (ht : tickets[k]? = some t) (asks : List Ask) :
    (asks.foldl Ask.enter tickets)[k]?
      = some { t with live := t.live && decide (.leave k ∉ asks) } := by
  induction asks generalizing tickets t with
  | nil => simpa using ht
  | cons a rest ih =>
    cases a with
    | join i name =>
      have ht' : (Ask.enter tickets (.join i name))[k]? = some t := by
        rw [Ask.enter, List.getElem?_append_left (List.getElem?_eq_some_iff.mp ht).1, ht]
      simpa using ih ht'
    | leave m =>
      by_cases hm : m = k
      · subst hm
        have ht' : (Ask.enter tickets (.leave m))[m]? = some t.ended := by simp [Ask.enter, ht]
        simpa [Ticket.ended] using ih ht'
      · have ht' : (Ask.enter tickets (.leave m))[k]? = some t := by simp [Ask.enter, ht, hm]
        simpa [Ne.symm hm] using ih ht'

/-! ## What is noted of asks -/

/-- Whether an event is about a subscription of the host. -/
def Event.isOfHost : Event → Bool
  | .joined _ _ | .left _ _ => true
  | _ => false

/-- The subscription that an event makes. -/
def Event.joined? : Event → Option (Nat × Listener)
  | .joined i name => some (i, .callback name)
  | _ => none

/-- What is noted of an ask.  Nothing is noted if there is no such subscription. -/
def Ask.events (tickets : List Ticket) : Ask → List Event
  | .join i name => [.joined i name]
  | .leave k => (tickets[k]?.map fun t => .left t.document (.callback t.name)).toList

/-- What is noted of asks in turn. -/
def noted : List Ticket → List Ask → List Event
  | _, [] => []
  | tickets, a :: rest => a.events tickets ++ noted (a.enter tickets) rest

/-- Asks account for what has happened between a session and its host. -/
def Accounts (asks : List Ask) (es : List Event) : Prop :=
  noted [] asks = es.filter Event.isOfHost

instance (asks : List Ask) (es : List Event) : Decidable (Accounts asks es) :=
  inferInstanceAs (Decidable (noted [] asks = es.filter Event.isOfHost))

theorem noted_append (tickets : List Ticket) (asks asks' : List Ask) :
    noted tickets (asks ++ asks')
      = noted tickets asks ++ noted (asks.foldl Ask.enter tickets) asks' := by
  induction asks generalizing tickets with
  | nil => rfl
  | cons a rest ih => simp [noted, ih]

theorem noted_concat (asks : List Ask) (a : Ask) :
    noted [] (asks ++ [a]) = noted [] asks ++ a.events (ticketsOf asks) := by
  simp [noted_append, noted, ticketsOf]

/-- The subscriptions there are go by what has been noted. -/
theorem subscriptions_foldl_enter (tickets : List Ticket) (asks : List Ask) :
    (asks.foldl Ask.enter tickets).map Ticket.subscription
      = tickets.map Ticket.subscription ++ (noted tickets asks).filterMap Event.joined? := by
  induction asks generalizing tickets with
  | nil => simp [noted]
  | cons a rest ih =>
    rw [List.foldl_cons, ih, noted, List.filterMap_append, ← List.append_assoc]
    congr 1
    cases a with
    | join i name => simp [Ask.enter, Ask.events, Event.joined?, Ticket.subscription]
    | leave k =>
      have hsame : (tickets.modify k Ticket.ended).map Ticket.subscription
          = tickets.map Ticket.subscription := by
        apply List.ext_getElem?
        intro m
        simp only [List.getElem?_map, List.getElem?_modify, Option.map_eq_map, Option.map_map]
        congr 1
        funext t
        simp only [Function.comp_apply]
        split <;> rfl
      have hnone : ((Ask.leave k).events tickets).filterMap Event.joined? = [] := by
        cases tickets[k]? <;> simp [Ask.events, Event.joined?, *]
      rw [hnone, List.append_nil]
      exact hsame

theorem Accounts.concat {asks : List Ask} {es : List Event} (h : Accounts asks es) (a : Ask) :
    Accounts (asks ++ [a]) (es ++ a.events (ticketsOf asks)) := by
  have hall : (a.events (ticketsOf asks)).filter Event.isOfHost = a.events (ticketsOf asks) := by
    cases a with
    | join i name => rfl
    | leave k => cases (ticketsOf asks)[k]? <;> simp [Ask.events, Event.isOfHost, *]
  rw [Accounts, noted_concat, h, List.filter_append, hall]

/-- Whichever asks account for what has happened, the subscriptions are the same. -/
theorem Accounts.subscriptions_eq {asks asks' : List Ask} {es : List Event}
    (h : Accounts asks es) (h' : Accounts asks' es) :
    (ticketsOf asks).map Ticket.subscription = (ticketsOf asks').map Ticket.subscription := by
  rw [ticketsOf, ticketsOf, subscriptions_foldl_enter, subscriptions_foldl_enter, h, h']

/-! ## Due -/

/-- The callback that ought to be told about a save of a document on account of a subscription. -/
def Ticket.due? (i : Nat) (t : Ticket) : Option Text :=
  if t.live ∧ t.document = i then some t.name else none

/-- The callbacks that ought to be told about a save of a document. -/
def due (i : Nat) (tickets : List Ticket) : List Text :=
  tickets.filterMap (Ticket.due? i)

@[simp] theorem due_append (i : Nat) (tickets tickets' : List Ticket) :
    due i (tickets ++ tickets') = due i tickets ++ due i tickets' :=
  List.filterMap_append

theorem due_cons_of_ended {i : Nat} {t : Ticket} (h : t.live = false ∨ t.document ≠ i)
    (tickets : List Ticket) : due i (t :: tickets) = due i tickets := by
  rcases h with h | h <;> simp [due, Ticket.due?, h]

theorem due_cons_of_live {t : Ticket} (h : t.live = true) (tickets : List Ticket) :
    due t.document (t :: tickets) = t.name :: due t.document tickets := by
  simp [due, Ticket.due?, h]

/-- A callback is due if some subscription of it is live. -/
theorem mem_due {tickets : List Ticket} {t : Ticket} :
    t.name ∈ due t.document tickets ↔
      ∃ t' ∈ tickets, t'.subscription = t.subscription ∧ t'.live = true := by
  simp only [due, Ticket.due?, List.mem_filterMap, Ticket.subscription, Prod.mk.injEq,
    Listener.callback.injEq]
  constructor
  · rintro ⟨t', hmem, hdue⟩
    split at hdue
    · next h => exact ⟨t', hmem, ⟨h.2, Option.some.inj hdue⟩, h.1⟩
    · cases hdue
  · rintro ⟨t', hmem, ⟨hdocument, hname⟩, hlive⟩
    exact ⟨t', hmem, by simp [hlive, hdocument, hname]⟩

/-! ## Waiting -/

/-- What an event makes of the callbacks that wait for the saves of a document. -/
def Event.move (i : Nat) (names : List Text) : Event → List Text
  | .joined j name => if j = i then names ++ [name] else names
  | .left j (.callback name) => if j = i then names.erase name else names
  | _ => names

/-- The callbacks that wait for the saves of a document after events. -/
def waiting (i : Nat) (es : List Event) : List Text :=
  es.foldl (Event.move i) []

/-- The callback that an event subscribes to a document. -/
def Event.joinedTo? (i : Nat) : Event → Option Text
  | .joined j name => if j = i then some name else none
  | _ => none

/-- Whether an event subscribes some callback to a document or ends a subscription of one. -/
def Event.isAbout (i : Nat) (p : Text → Bool) : Event → Bool
  | .joined j name => j = i && p name
  | .left j (.callback name) => j = i && p name
  | _ => false

theorem waiting_concat (i : Nat) (es : List Event) (e : Event) :
    waiting i (es ++ [e]) = e.move i (waiting i es) :=
  List.foldl_concat ..

/-- Callbacks wait in the order in which they were subscribed. -/
theorem waiting_sublist (i : Nat) (es : List Event) :
    (waiting i es).Sublist (es.filterMap (Event.joinedTo? i)) := by
  induction es using List.reverseRecOn with
  | nil => exact .slnil
  | append_singleton es e ih =>
    rw [waiting_concat, List.filterMap_append]
    have hmore := ih.trans (List.sublist_append_left _ ([e].filterMap (Event.joinedTo? i)))
    cases e with
    | joined j name =>
      by_cases hj : j = i
      · simpa [Event.move, Event.joinedTo?, hj] using ih
      · simpa [Event.move, Event.joinedTo?, hj] using ih
    | left j l =>
      cases l with
      | callback name =>
        by_cases hj : j = i
        · simpa only [Event.move, if_pos hj] using List.erase_sublist.trans hmore
        · simpa only [Event.move, if_neg hj] using hmore
      | controller n => exact hmore
    | _ => exact hmore

/-- Whether some callbacks wait, and in which order, is settled by the events about them. -/
theorem waiting_filter (i : Nat) (p : Text → Bool) (es : List Event) :
    (waiting i es).filter p = waiting i (es.filter (Event.isAbout i p)) := by
  induction es using List.reverseRecOn with
  | nil => rfl
  | append_singleton es e ih =>
    rw [waiting_concat, List.filter_append]
    cases e with
    | joined j name =>
      by_cases hj : j = i
      · by_cases hp : p name
        · simp [Event.move, Event.isAbout, hj, hp, ih, waiting_concat]
        · simp [Event.move, Event.isAbout, hj, hp, ih]
      · simp [Event.move, Event.isAbout, hj, ih]
    | left j l =>
      cases l with
      | callback name =>
        by_cases hj : j = i
        · by_cases hp : p name
          · simp [Event.move, Event.isAbout, hj, hp, ← ih, waiting_concat, List.erase_filter]
          · have hmem : name ∉ (waiting i es).filter p := by simp [hp]
            have herase := List.erase_of_not_mem hmem
            rw [List.erase_filter] at herase
            simp [Event.move, Event.isAbout, hj, hp, ← ih, herase]
        · simp [Event.move, Event.isAbout, hj, ih]
      | controller n => simp [Event.move, Event.isAbout, ih]
    | _ => simp [Event.move, Event.isAbout, ih]

/-- Only what happens between the session and its host counts. -/
theorem waiting_filter_isOfHost (i : Nat) (es : List Event) :
    waiting i (es.filter Event.isOfHost) = waiting i es := by
  induction es using List.reverseRecOn with
  | nil => rfl
  | append_singleton es e ih =>
    rw [waiting_concat, List.filter_append, ← ih]
    cases e with
    | joined j name => exact waiting_concat ..
    | left j l => exact waiting_concat ..
    | _ => simp [Event.isOfHost, Event.move]

theorem Accounts.waiting_eq {asks : List Ask} {es : List Event} (h : Accounts asks es) (i : Nat) :
    waiting i (noted [] asks) = waiting i es := by
  rw [h, waiting_filter_isOfHost]

/-! ## Order -/

/-- A subscription is ended in order: between the first entry of its callback and its own, only
entries of this callback stand, and if it has been ended before, no other of this callback is
left. -/
def InOrder (tickets : List Ticket) : Ask → Prop
  | .join _ _ => True
  | .leave k => ∀ t, tickets[k]? = some t →
    if t.live then
      ∀ name ∈ (due t.document (tickets.take k)).dropWhile (· ≠ t.name), name = t.name
    else t.name ∉ due t.document tickets

/-- Each ask of a sequence comes in order. -/
def AllInOrder (asks : List Ask) : Prop :=
  ∀ before a after, asks = before ++ a :: after → InOrder (ticketsOf before) a

section
variable {α : Type} {x : α} {p q : List α}

theorem concat_eq_cons_iff : p ++ [x] = x :: p ↔ ∀ y ∈ p, y = x := by
  induction p with
  | nil => simp
  | cons z rest ih =>
    rw [List.cons_append, List.cons.injEq, List.forall_mem_cons]
    refine and_congr_right ?_
    rintro rfl
    exact ih

/-- The first entry may be taken off for a later one if nothing else stands between them. -/
theorem erase_append_cons_iff [BEq α] [LawfulBEq α] [DecidableEq α] :
    (p ++ x :: q).erase x = p ++ q ↔ ∀ y ∈ p.dropWhile (· ≠ x), y = x := by
  induction p with
  | nil => simp
  | cons z rest ih =>
    by_cases hz : z = x
    · subst hz
      have hall := concat_eq_cons_iff (x := z) (p := rest)
      rw [List.cons_append, List.erase_cons_head, List.append_cons, List.append_cancel_right_eq]
      simpa using hall
    · simpa [List.erase_cons, hz] using ih

end

/-- A list in which one entry is another. -/
theorem exists_of_getElem? {α : Type} {l : List α} {k : Nat} {a : α} (h : l[k]? = some a)
    (f : α → α) :
    ∃ l', l = l.take k ++ a :: l' ∧ l.modify k f = l.take k ++ f a :: l' := by
  obtain ⟨hlt, rfl⟩ := List.getElem?_eq_some_iff.mp h
  refine ⟨l.drop (k + 1), ?_, ?_⟩
  · rw [List.getElem_cons_drop, List.take_append_drop]
  · rw [List.modify_eq_take_cons_drop hlt]

/-- The callbacks that wait are those that are due after an ask exactly if it comes in order. -/
theorem inOrder_iff {tickets : List Ticket} {a : Ask} :
    InOrder tickets a ↔
      ∀ i, (a.events tickets).foldl (Event.move i) (due i tickets) = due i (a.enter tickets) := by
  cases a with
  | join j name =>
    refine iff_of_true trivial fun i => ?_
    by_cases hj : j = i
    · simp [Ask.events, Ask.enter, Event.move, due, Ticket.due?, hj]
    · simp [Ask.events, Ask.enter, Event.move, due, Ticket.due?, hj]
  | leave k =>
    cases ht : tickets[k]? with
    | none =>
      have hsame : tickets.modify k Ticket.ended = tickets :=
        List.modify_eq_self (List.getElem?_eq_none_iff.mp ht)
      simp [InOrder, Ask.events, Ask.enter, ht, hsame]
    | some t =>
      obtain ⟨rest, htickets, hended⟩ := exists_of_getElem? ht Ticket.ended
      have hafter : ∀ i, due i (tickets.modify k Ticket.ended)
          = due i (tickets.take k) ++ due i rest := fun i => by
        rw [hended, due_append, due_cons_of_ended (.inl rfl)]
      have helse : ∀ i, t.document ≠ i → due i tickets = due i (tickets.modify k Ticket.ended) :=
        fun i hi => by
          rw [hafter, ← due_cons_of_ended (.inr hi) rest, ← due_append, ← htickets]
      have hmoved : (∀ i, ((Ask.leave k).events tickets).foldl (Event.move i) (due i tickets)
            = due i ((Ask.leave k).enter tickets)) ↔
          (due t.document tickets).erase t.name = due t.document (tickets.take k)
            ++ due t.document rest := by
        simp only [Ask.events, Ask.enter, ht, Option.map_some, Option.toList_some, List.foldl_cons,
          List.foldl_nil, Event.move, ← hafter]
        constructor
        · intro h
          simpa using h t.document
        · intro h i
          split
          · next hi =>
            rw [← hi]
            exact h
          · next hi => exact helse i hi
      rw [hmoved]
      simp only [InOrder, ht, Option.some.injEq, forall_eq']
      cases hlive : t.live with
      | true =>
        rw [if_pos rfl, ← erase_append_cons_iff (q := due t.document rest),
          ← due_cons_of_live hlive, ← due_append, ← htickets]
      | false =>
        have hsame : due t.document (tickets.take k) ++ due t.document rest
            = due t.document tickets := by
          rw [← due_cons_of_ended (.inl hlive) rest, ← due_append, ← htickets]
        rw [if_neg (by simp), hsame, List.erase_eq_self_iff]

theorem allInOrder_concat {asks : List Ask} {a : Ask} (h : AllInOrder (asks ++ [a])) :
    AllInOrder asks ∧ InOrder (ticketsOf asks) a := by
  refine ⟨?_, h asks a [] rfl⟩
  intro before a' after hasks
  exact h before a' (after ++ [a]) (by simp [hasks])

/-- The callbacks that wait are those that are due if each subscription is ended in order. -/
theorem AllInOrder.waiting_eq {asks : List Ask} (h : AllInOrder asks) (i : Nat) :
    waiting i (noted [] asks) = due i (ticketsOf asks) := by
  induction asks using List.reverseRecOn with
  | nil => rfl
  | append_singleton asks a ih =>
    obtain ⟨hasks, ha⟩ := allInOrder_concat h
    rw [noted_concat, waiting, List.foldl_append, ← waiting, ih hasks, inOrder_iff.mp ha,
      ticketsOf_append]
    rfl

/-- The callbacks that wait are at all times those that are due exactly if each subscription is
ended in order. -/
theorem allInOrder_iff {asks : List Ask} :
    AllInOrder asks ↔ ∀ before after, asks = before ++ after → ∀ i,
      waiting i (noted [] before) = due i (ticketsOf before) := by
  constructor
  · intro h before after hasks
    refine AllInOrder.waiting_eq fun earlier a later hbefore => ?_
    exact h earlier a (later ++ after) (by simp [hasks, hbefore])
  · intro h before a after hasks
    refine inOrder_iff.mpr fun i => ?_
    have hnext := h (before ++ [a]) after (by simp [hasks]) i
    rw [noted_concat, waiting, List.foldl_append, ← waiting, h before (a :: after) hasks i,
      ticketsOf_append] at hnext
    exact hnext

/-- Where no callback is subscribed to a document twice, whoever is ended comes in order. -/
theorem allInOrder_of_nodup {asks : List Ask}
    (h : ((ticketsOf asks).map Ticket.subscription).Nodup) : AllInOrder asks := by
  intro before a after hasks
  have hnodup : ((ticketsOf before).map Ticket.subscription).Nodup := by
    rw [hasks, ticketsOf_append, subscriptions_foldl_enter] at h
    exact h.of_append_left
  cases a with
  | join i name => trivial
  | leave k =>
    intro t ht
    split
    · obtain ⟨rest, htickets, -⟩ := exists_of_getElem? ht id
      have hfirst : t.name ∉ due t.document ((ticketsOf before).take k) := by
        rw [mem_due]
        rintro ⟨t', hmem, hsame, -⟩
        rw [htickets, List.map_append, List.nodup_append] at hnodup
        exact hnodup.2.2 _ (List.mem_map_of_mem hmem) t.subscription (by simp) hsame
      have hnone : ((due t.document ((ticketsOf before).take k)).dropWhile (· ≠ t.name)) = [] := by
        rw [List.dropWhile_eq_nil_iff]
        intro name hmem
        exact decide_eq_true fun hname => hfirst (hname ▸ hmem)
      rw [hnone]
      simp
    · next hlive =>
      rw [mem_due]
      rintro ⟨t', hmem, hsame, hlive'⟩
      have heq : t' = t := List.inj_on_of_nodup_map hnodup hmem (List.mem_of_getElem? ht) hsame
      exact hlive (heq ▸ hlive')

/-- Where no callback is subscribed to a document twice, it is due as long as its subscription is
live. -/
theorem mem_due_of_nodup {tickets : List Ticket} {t : Ticket}
    (h : (tickets.map Ticket.subscription).Nodup) (ht : t ∈ tickets) :
    t.name ∈ due t.document tickets ↔ t.live = true := by
  rw [mem_due]
  constructor
  · rintro ⟨t', hmem, hsame, hlive⟩
    cases List.inj_on_of_nodup_map h hmem ht hsame
    exact hlive
  · exact fun hlive => ⟨t, ht, rfl, hlive⟩

/-- Where no callback is subscribed to a document twice, it is due from when it is subscribed until
somebody asks to end that subscription. -/
theorem mem_due_iff_of_nodup {before after : List Ask} {i : Nat} {name : Text}
    (h : ((ticketsOf (before ++ .join i name :: after)).map Ticket.subscription).Nodup) :
    name ∈ due i (ticketsOf (before ++ .join i name :: after)) ↔
      .leave (ticketsOf before).length ∉ after := by
  have hmade : (Ask.enter (ticketsOf before) (.join i name))[(ticketsOf before).length]?
      = some ⟨i, name, true⟩ := by simp [Ask.enter]
  have hticket := getElem?_foldl_enter hmade after
  rw [ticketsOf_append, List.foldl_cons] at h ⊢
  have hdue := mem_due_of_nodup h (List.mem_of_getElem? hticket)
  simpa using hdue

end Marginalia.Session
