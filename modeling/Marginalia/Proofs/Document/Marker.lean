import Marginalia.Session.Opening
import Marginalia.Proofs.Session.Action

/-!
# Anchors as markers

An anchor keeps a place in a text by counting the characters in front of it, and an edit moves it
by arithmetic.  A *marker* keeps the place by its two sides, the text in front of it and the text
behind it, and an edit changes the two sides and counts nothing.  An insertion strictly in front
of a marker goes to the front and every other one to the back; a deletion takes from each side its
part of the range.

A marker *stands* at an anchor of a document if its sides make up the text and the anchor counts the
front.  `Document.stands_edit` says that an edit keeps it so, whether it succeeds or not, and
`anchors_are_markers` is the same for the edits that a host asks for in a session.
-/

namespace Marginalia

/-! ## Positions that count characters -/

/-- The number of characters that an anchor counts, if it counts any. -/
def Anchor.count? : Anchor → Option Nat
  | .whole n => some n
  | .truth b => some b.toNat
  | .real _ => none

theorem Position.le?_of_count {p q : Position} {m n : Int}
    (hp : p.count? = some m) (hq : q.count? = some n) : p.le? q = some (decide (m ≤ n)) := by
  have finite_le : ∀ i j : Int,
      Binary64.le (.finite (decide (i < 0)) i.natAbs 0) (.finite (decide (j < 0)) j.natAbs 0)
        = decide (i ≤ j) := by
    intro i j
    have one : Nat.pow 2 0 = 1 := rfl
    simp only [Binary64.le, Binary64.scale, Int.toNat_zero, Int.neg_zero, one, decide_eq_true_eq,
      decide_eq_decide]
    split
    · split <;> omega
    · split <;> omega
  cases p with
  | whole i =>
    cases hp
    cases q with
    | whole j => cases hq; rfl
    | truth b => cases hq; exact congrArg some (finite_le _ _)
    | real x => cases hq
    | other s => cases hq
  | truth b =>
    cases hp
    cases q with
    | whole j => cases hq; exact congrArg some (finite_le _ _)
    | truth b' => cases hq; exact congrArg some (finite_le _ _)
    | real x => cases hq
    | other s => cases hq
  | real x => cases hp
  | other s => cases hp

theorem Position.ascending?_of_count {p q : Position} {m n : Int}
    (hp : p.count? = some m) (hq : q.count? = some n) (rest : List Position) :
    ascending? (p :: q :: rest) = if m ≤ n then ascending? (q :: rest) else some false := by
  rw [ascending?, Position.le?_of_count hp hq]
  by_cases h : m ≤ n
  · simp [h]
  · simp [h]

theorem Anchor.count?_ofPosition {p : Position} {m : Int} (hp : p.count? = some m) :
    ∃ x, Anchor.ofPosition? p = some x ∧ x.count? = some m.toNat := by
  cases p with
  | whole i => cases hp; exact ⟨_, rfl, rfl⟩
  | truth b =>
    cases hp
    refine ⟨_, rfl, ?_⟩
    cases b with
    | false => rfl
    | true => rfl
  | real x => cases hp
  | other s => cases hp

theorem Anchor.count?_moveRight {x : Anchor} {n : Nat} (hx : x.count? = some n)
    (offset length : Nat) :
    (x.moveRight offset length).count? = some (shiftRight offset length n) := by
  cases x with
  | whole i => cases hx; rfl
  | truth b =>
    cases hx
    simp only [moveRight, shiftRight]
    split
    · rfl
    · rfl
  | real r => cases hx

theorem Anchor.count?_moveLeft {x landing : Anchor} {n start : Nat} (hx : x.count? = some n)
    (hl : landing.count? = some start) (stop : Nat) :
    (landing.moveLeft start stop x).count? = some (shiftLeft start stop n) := by
  cases x with
  | whole i =>
    cases hx
    simp only [moveLeft, shiftLeft]
    split
    · rfl
    · split
      · exact hl
      · rfl
  | truth b =>
    cases hx
    simp only [moveLeft, shiftLeft]
    split
    · rfl
    · split
      · exact hl
      · rfl
  | real r => cases hx

theorem shiftRight_le {m n : Nat} (h : m ≤ n) (offset length : Nat) :
    shiftRight offset length m ≤ shiftRight offset length n := by
  unfold shiftRight
  split
  · split <;> omega
  · split <;> omega

theorem shiftLeft_le {m n start stop : Nat} (h : m ≤ n) (hle : start ≤ stop) :
    shiftLeft start stop m ≤ shiftLeft start stop n := by
  unfold shiftLeft
  rcases Nat.lt_or_ge n stop with hn | hn
  · have hm : m < stop := Nat.lt_of_le_of_lt h hn
    rw [if_neg (Nat.not_le.mpr hm), if_neg (Nat.not_le.mpr hn)]
    split
    · split <;> omega
    · split <;> omega
  · rw [if_pos hn]
    split
    · omega
    · split <;> omega

/-! ## Edits of a document -/

/-- What a host may do to the text of a document. -/
inductive Edit where
  /-- More text. -/
  | insert (offset : Position) (text : Text)
  /-- Less text. -/
  | delete (start stop : Position)

/-- What an edit does to a text. -/
inductive Edit.Effect where
  /-- It is refused. -/
  | nothing
  /-- More text at an offset. -/
  | insertion (offset : Nat) (text : Text)
  /-- Less text. -/
  | deletion (start stop : Nat)

/-- What an edit does to a text of so many characters.  It is refused at positions that count no
characters or do not lie in the text. -/
def Edit.effect (length : Nat) : Edit → Edit.Effect
  | .insert offset text =>
    match offset.count? with
    | some n => if 0 ≤ n ∧ n ≤ length then .insertion n.toNat text else .nothing
    | none => .nothing
  | .delete start stop =>
    match start.count?, stop.count? with
    | some i, some j => if 0 ≤ i ∧ i ≤ j ∧ j ≤ length then .deletion i.toNat j.toNat else .nothing
    | _, _ => .nothing

theorem Edit.le_of_effect {e : Edit} {length start stop : Nat}
    (h : e.effect length = .deletion start stop) : start ≤ stop := by
  cases e with
  | insert offset text =>
    simp only [effect] at h
    split at h
    · split at h <;> cases h
    · cases h
  | delete p q =>
    simp only [effect] at h
    split at h
    · split at h
      · cases h
        omega
      · cases h
    · cases h

namespace Document

/-- The document after an edit, unless it is refused. -/
def tryEdit (d : Document) : Edit → Except Refusal Document
  | .insert offset text => d.insert offset text
  | .delete start stop => d.delete start stop

/-- The document after an edit, the same one if the edit is refused. -/
def edit (d : Document) (e : Edit) : Document :=
  match d.tryEdit e with
  | .ok d' => d'
  | .error _ => d

theorem edit_insert (d : Document) {offset : Position} {n : Int} (h : offset.count? = some n)
    (text : Text) :
    d.edit (.insert offset text) =
      if 0 ≤ n ∧ n ≤ d.text.length then
        d.edited (d.text.take n.toNat ++ text ++ d.text.drop n.toNat)
          (Anchor.moveRight n.toNat text.length)
      else d := by
  have first := Position.ascending?_of_count (p := .whole 0) rfl h [.whole d.text.length]
  have second := Position.ascending?_of_count (q := .whole d.text.length) h rfl []
  show (match d.insert offset text with | .ok d' => d' | .error _ => d) = _
  unfold Document.insert
  rw [first, second, h]
  by_cases h₀ : 0 ≤ n
  · by_cases h₁ : n ≤ d.text.length
    · simp [h₀, h₁]
    · simp [h₀, h₁]
  · simp [h₀]

theorem edit_insert_of_none (d : Document) {offset : Position} (h : offset.count? = none)
    (text : Text) : d.edit (.insert offset text) = d := by
  show (match d.insert offset text with | .ok d' => d' | .error _ => d) = d
  unfold Document.insert
  rw [h]
  split
  · next hd =>
    split at hd
    · next habsurd => cases habsurd
    · cases hd
    · cases hd
  · rfl

theorem edit_delete (d : Document) {start stop : Position} {m n : Int}
    (hm : start.count? = some m) (hn : stop.count? = some n) :
    ∃ landing : Anchor, landing.count? = some m.toNat ∧
      d.edit (.delete start stop) =
        if 0 ≤ m ∧ m ≤ n ∧ n ≤ d.text.length then
          d.edited (d.text.take m.toNat ++ d.text.drop n.toNat)
            (landing.moveLeft m.toNat n.toNat)
        else d := by
  obtain ⟨landing, hp, hc⟩ := Anchor.count?_ofPosition hm
  refine ⟨landing, hc, ?_⟩
  have first := Position.ascending?_of_count (p := .whole 0) rfl hm [stop, .whole d.text.length]
  have second := Position.ascending?_of_count hm hn [.whole d.text.length]
  have third := Position.ascending?_of_count (q := .whole d.text.length) hn rfl []
  show (match d.delete start stop with | .ok d' => d' | .error _ => d) = _
  unfold Document.delete
  rw [first, second, third, hm, hn, hp]
  by_cases h₀ : 0 ≤ m
  · by_cases h₁ : m ≤ n
    · by_cases h₂ : n ≤ d.text.length
      · simp [h₀, h₁, h₂]
      · simp [h₀, h₁, h₂]
    · simp [h₀, h₁]
  · simp [h₀]

theorem edit_delete_of_none (d : Document) {start stop : Position}
    (h : start.count? = none ∨ stop.count? = none) : d.edit (.delete start stop) = d := by
  show (match d.delete start stop with | .ok d' => d' | .error _ => d) = d
  unfold Document.delete
  split
  · next hd =>
    split at hd
    · next hm hn _ =>
      rcases h with h | h
      · rw [h] at hm; cases hm
      · rw [h] at hn; cases hn
    · cases hd
    · cases hd
  · rfl

/-- What an edit does to a document. -/
theorem edit_cases (d : Document) (e : Edit) :
    (e.effect d.text.length = .nothing ∧ d.edit e = d) ∨
    (∃ n s, e.effect d.text.length = .insertion n s ∧
      d.edit e = d.edited (d.text.take n ++ s ++ d.text.drop n) (Anchor.moveRight n s.length)) ∨
    (∃ i j landing, e.effect d.text.length = .deletion i j ∧ Anchor.count? landing = some i ∧
      d.edit e = d.edited (d.text.take i ++ d.text.drop j) (landing.moveLeft i j)) := by
  cases e with
  | insert offset s =>
    cases hn : offset.count? with
    | none => exact .inl ⟨by simp [Edit.effect, hn], d.edit_insert_of_none hn s⟩
    | some n =>
      have he := d.edit_insert hn s
      by_cases hr : 0 ≤ n ∧ n ≤ d.text.length
      · rw [if_pos hr] at he
        exact .inr (.inl ⟨n.toNat, s, by simp [Edit.effect, hn, hr], he⟩)
      · rw [if_neg hr] at he
        exact .inl ⟨by simp [Edit.effect, hn, hr], he⟩
  | delete start stop =>
    cases hi : start.count? with
    | none => exact .inl ⟨by simp [Edit.effect, hi], d.edit_delete_of_none (.inl hi)⟩
    | some i =>
      cases hj : stop.count? with
      | none => exact .inl ⟨by simp [Edit.effect, hj], d.edit_delete_of_none (.inr hj)⟩
      | some j =>
        obtain ⟨landing, hl, he⟩ := d.edit_delete hi hj
        by_cases hr : 0 ≤ i ∧ i ≤ j ∧ j ≤ d.text.length
        · rw [if_pos hr] at he
          exact .inr (.inr ⟨i.toNat, j.toNat, landing, by simp [Edit.effect, hi, hj, hr], hl, he⟩)
        · rw [if_neg hr] at he
          exact .inl ⟨by simp [Edit.effect, hi, hj, hr], he⟩

end Document

/-! ## Markers -/

/-- A place in a text. -/
@[ext]
structure Marker where
  /-- The text in front of it. -/
  front : Text
  /-- The text behind it. -/
  back : Text
deriving DecidableEq, Repr

namespace Marker

/-- The text that a marker stands in. -/
def text (m : Marker) : Text :=
  m.front ++ m.back

/-- The place in a text behind so many characters. -/
def behind (count : Nat) (text : Text) : Marker :=
  ⟨text.take count, text.drop count⟩

/-- More text at an offset: strictly in front of the marker it goes to the front. -/
def insert (offset : Nat) (text : Text) (m : Marker) : Marker :=
  if offset < m.front.length then
    ⟨m.front.take offset ++ text ++ m.front.drop offset, m.back⟩
  else
    let offset := offset - m.front.length
    ⟨m.front, m.back.take offset ++ text ++ m.back.drop offset⟩

/-- Less text: each side loses its part of the range. -/
def delete (start stop : Nat) (m : Marker) : Marker :=
  ⟨m.front.take start ++ m.front.drop stop,
    m.back.take (start - m.front.length) ++ m.back.drop (stop - m.front.length)⟩

/-- An edit of the text around a marker. -/
def edit (m : Marker) (e : Edit) : Marker :=
  match e.effect m.text.length with
  | .nothing => m
  | .insertion offset text => m.insert offset text
  | .deletion start stop => m.delete start stop

theorem behind_text (m : Marker) : behind m.front.length m.text = m := by
  simp [behind, text]

theorem text_behind (count : Nat) (s : Text) : (behind count s).text = s :=
  List.take_append_drop count s

theorem length_front_behind {count : Nat} {s : Text} (h : count ≤ s.length) :
    (behind count s).front.length = count := by
  simp [behind, h]

theorem text_insert (offset : Nat) (s : Text) (m : Marker) :
    (m.insert offset s).text = m.text.take offset ++ s ++ m.text.drop offset := by
  unfold insert text
  split
  · next h => simp [List.take_append_of_le_length, List.drop_append_of_le_length, Nat.le_of_lt h]
  · next h =>
    have hle : m.front.length ≤ offset := Nat.le_of_not_lt h
    simp [List.take_append, List.drop_append, List.take_of_length_le, List.drop_of_length_le, hle]

theorem length_front_insert {offset : Nat} {m : Marker} (s : Text) :
    (m.insert offset s).front.length = shiftRight offset s.length m.front.length := by
  unfold insert shiftRight
  split
  · next h =>
    simp only [List.length_append, List.length_take, List.length_drop]
    omega
  · rfl

theorem text_delete {start stop : Nat} (h : start ≤ stop) (m : Marker) :
    (m.delete start stop).text = m.text.take start ++ m.text.drop stop := by
  unfold delete text
  simp only [List.take_append, List.drop_append]
  rcases Nat.lt_or_ge start m.front.length with hs | hs
  · -- nothing in front of the range lies in the back
    simp [Nat.sub_eq_zero_of_le (Nat.le_of_lt hs)]
  · -- nothing behind the range lies in the front
    have ht : m.front.length ≤ stop := Nat.le_trans hs h
    simp [List.drop_of_length_le ht]

theorem length_front_delete {start stop : Nat} {m : Marker} (h : start ≤ stop) :
    (m.delete start stop).front.length = shiftLeft start stop m.front.length := by
  unfold delete shiftLeft
  simp only [List.length_append, List.length_take, List.length_drop]
  split
  · omega
  · split
    · omega
    · omega

/-- Two markers in one text do not pass each other. -/
theorem length_front_edit_le {m m' : Marker} (htext : m.text = m'.text)
    (h : m.front.length ≤ m'.front.length) (e : Edit) :
    (m.edit e).front.length ≤ (m'.edit e).front.length := by
  unfold edit
  rw [htext]
  cases he : e.effect m'.text.length with
  | nothing => exact h
  | insertion offset s =>
    simp only [length_front_insert]
    exact shiftRight_le h offset s.length
  | deletion start stop =>
    have hle : start ≤ stop := Edit.le_of_effect he
    simp only [length_front_delete hle]
    exact shiftLeft_le h hle

theorem text_edit_congr {m m' : Marker} (htext : m.text = m'.text) (e : Edit) :
    (m.edit e).text = (m'.edit e).text := by
  unfold edit
  rw [htext]
  cases he : e.effect m'.text.length with
  | nothing => exact htext
  | insertion offset s => simp only [text_insert, htext]
  | deletion start stop =>
    have hle : start ≤ stop := Edit.le_of_effect he
    simp only [text_delete hle, htext]

theorem length_front_edits_le (edits : List Edit) {m m' : Marker} (htext : m.text = m'.text)
    (h : m.front.length ≤ m'.front.length) :
    (edits.foldl edit m).front.length ≤ (edits.foldl edit m').front.length := by
  induction edits generalizing m m' with
  | nil => exact h
  | cons e rest ih => exact ih (text_edit_congr htext e) (length_front_edit_le htext h e)

end Marker

/-! ## Markers and anchors -/

/-- A marker stands at an anchor of a text. -/
structure Marker.StandsAt (m : Marker) (s : Text) (x : Anchor) : Prop where
  /-- Its sides make up the text. -/
  text_eq : m.text = s
  /-- The anchor counts its front. -/
  count_eq : x.count? = some m.front.length

namespace Document

/-- An edit moves the anchors of all decorations in one way, and every marker with its anchor. -/
theorem stands_edit (d : Document) (e : Edit) :
    ∃ move : Anchor → Anchor,
      (d.edit e).attached = d.attached.map (fun entry =>
        (entry.1, { entry.2 with offset := move entry.2.offset })) ∧
      ∀ m x, Marker.StandsAt m d.text x → (m.edit e).StandsAt (d.edit e).text (move x) := by
  rcases d.edit_cases e with ⟨he, hd⟩ | ⟨n, s, he, hd⟩ | ⟨i, j, landing, he, hl, hd⟩
  · refine ⟨fun x => x, by simp [hd], fun m x hm => ?_⟩
    have hedit : m.edit e = m := by rw [Marker.edit, hm.text_eq, he]
    rw [hedit, hd]
    exact hm
  · refine ⟨Anchor.moveRight n s.length, by rw [hd]; rfl, fun m x hm => ?_⟩
    have hedit : m.edit e = m.insert n s := by rw [Marker.edit, hm.text_eq, he]
    rw [hedit, hd]
    refine ⟨?_, ?_⟩
    · rw [Marker.text_insert, hm.text_eq]
      rfl
    · rw [Anchor.count?_moveRight hm.count_eq, Marker.length_front_insert]
  · refine ⟨landing.moveLeft i j, by rw [hd]; rfl, fun m x hm => ?_⟩
    have hle : i ≤ j := Edit.le_of_effect he
    have hedit : m.edit e = m.delete i j := by rw [Marker.edit, hm.text_eq, he]
    rw [hedit, hd]
    refine ⟨?_, ?_⟩
    · rw [Marker.text_delete hle, hm.text_eq]
      rfl
    · rw [Anchor.count?_moveLeft hm.count_eq hl, Marker.length_front_delete hle]

end Document

/-! ## Edits in a session -/

/-- The request for an edit. -/
def Edit.request : Edit → Session.Request
  | .insert offset text => .insert offset (some text)
  | .delete start stop => .delete start stop

namespace Session

/-- The step that asks for an edit of document `n`; it is about no controller. -/
def Edit.step (n : Nat) (e : Edit) : Step :=
  ⟨n, 0, e.request⟩

theorem set_documents_self {w : World} {n : Nat} {d : Document}
    (hd : (w.documents : List Document)[n]? = some d) :
    List.set w.documents n d = w.documents := by
  obtain ⟨hlt, rfl⟩ := List.getElem?_eq_some_iff.mp hd
  exact List.set_getElem_self hlt

theorem advance_edit {w : World} {n : Nat} {d : Document}
    (hd : (w.documents : List Document)[n]? = some d) (e : Edit) :
    (advance (Edit.step n e) w).1.answer =
        (match d.tryEdit e with | .ok _ => .ok .done | .error r => .error (.range r)) ∧
      (advance (Edit.step n e) w).2.documents = List.set w.documents n (d.edit e) := by
  have hr : (w.resumed.documents : List Document)[n]? = some d := hd
  rw [documents_advance, (advance_eq _ _).1, step_deepest]
  unfold World.after
  cases e with
  | insert offset s =>
    show ((aboutText n (.insert offset (some s))).run w.resumed).1 = _ ∧
      ((aboutText n (.insert offset (some s))).run w.resumed).2.documents = _
    unfold aboutText
    rw [document_bind_some hr]
    simp only [orFault_bind, Option.getD_some, Document.edit, Document.tryEdit]
    cases d.insert offset s with
    | ok d' => exact ⟨rfl, rfl⟩
    | error r => exact ⟨rfl, (set_documents_self hd).symm⟩
  | delete start stop =>
    show ((aboutText n (.delete start stop)).run w.resumed).1 = _ ∧
      ((aboutText n (.delete start stop)).run w.resumed).2.documents = _
    unfold aboutText
    rw [document_bind_some hr]
    simp only [orFault_bind, Document.edit, Document.tryEdit]
    cases d.delete start stop with
    | ok d' => exact ⟨rfl, rfl⟩
    | error r => exact ⟨rfl, (set_documents_self hd).symm⟩

/-- An edit that is refused changes nothing. -/
theorem documents_advance_of_refused {w : World} {n : Nat} {d : Document}
    (hd : (w.documents : List Document)[n]? = some d) {e : Edit} {fault : Fault}
    (hfault : (advance (Edit.step n e) w).1.answer = .error fault) :
    (advance (Edit.step n e) w).2.documents = w.documents := by
  obtain ⟨hanswer, hdocuments⟩ := advance_edit hd e
  rw [hanswer] at hfault
  have hsame : d.edit e = d := by
    unfold Document.edit
    cases he : d.tryEdit e with
    | ok d' => rw [he] at hfault; cases hfault
    | error r => rfl
  rw [hdocuments, hsame]
  exact set_documents_self hd

/-- Edits of a host move the anchors of all decorations in one way, and every marker with its
anchor. -/
theorem stands_afterAll (edits : List Edit) {w : World} {n : Nat} {d : Document}
    (hd : (w.documents : List Document)[n]? = some d) :
    ∃ (d' : Document) (move : Anchor → Anchor),
      ((w.afterAll (edits.map (Edit.step n))).documents : List Document)[n]? = some d' ∧
      d'.attached = d.attached.map (fun entry =>
        (entry.1, { entry.2 with offset := move entry.2.offset })) ∧
      ∀ m x, Marker.StandsAt m d.text x →
        (edits.foldl Marker.edit m).StandsAt d'.text (move x) := by
  induction edits generalizing w d with
  | nil => exact ⟨d, fun x => x, hd, by simp, fun m x hm => hm⟩
  | cons e rest ih =>
    have hlt : n < w.documents.length := (List.getElem?_eq_some_iff.mp hd).1
    have hnext : ((advance (Edit.step n e) w).2.documents : List Document)[n]?
        = some (d.edit e) := by
      rw [(advance_edit hd e).2, List.getElem?_set_self hlt]
    obtain ⟨move₁, hattached₁, hstands₁⟩ := d.stands_edit e
    obtain ⟨d', move₂, hd', hattached₂, hstands₂⟩ := ih hnext
    refine ⟨d', fun x => move₂ (move₁ x), hd', ?_, fun m x hm => ?_⟩
    · rw [hattached₂, hattached₁]
      simp
    · exact hstands₂ (m.edit e) (move₁ x) (hstands₁ m x hm)

/-- Whatever edits a host asks for, refused ones included, the text in front of an anchor and the
text behind it are what a marker that was put there has become. -/
theorem anchors_are_markers {w : World} {n : Nat} {d : Document}
    (hd : (w.documents : List Document)[n]? = some d) (edits : List Edit) :
    ∃ (d' : Document) (move : Anchor → Anchor),
      ((w.afterAll (edits.map (Edit.step n))).documents : List Document)[n]? = some d' ∧
      -- decorations keep their order and all but their anchors
      d'.attached = d.attached.map (fun entry =>
        (entry.1, { entry.2 with offset := move entry.2.offset })) ∧
      -- the two sides of an anchor
      (∀ x count, Anchor.count? x = some count → count ≤ d.text.length →
        ∃ count', (move x).count? = some count' ∧ count' ≤ d'.text.length ∧
          Marker.behind count' d'.text = edits.foldl Marker.edit (Marker.behind count d.text)) ∧
      -- anchors do not pass each other
      (∀ x y i j i' j', Anchor.count? x = some i → Anchor.count? y = some j →
        i ≤ j → j ≤ d.text.length →
        (move x).count? = some i' → (move y).count? = some j' → i' ≤ j') ∧
      -- what is refused changes nothing
      (∀ e fault, (advance (Edit.step n e) w).1.answer = .error fault →
        (advance (Edit.step n e) w).2.documents = w.documents) := by
  obtain ⟨d', move, hd', hattached, hstands⟩ := stands_afterAll edits hd
  have behind_stands : ∀ {x count}, Anchor.count? x = some count → count ≤ d.text.length →
      (edits.foldl Marker.edit (Marker.behind count d.text)).StandsAt d'.text (move x) := by
    intro x count hx hle
    apply hstands
    refine ⟨Marker.text_behind count d.text, ?_⟩
    rw [hx, Marker.length_front_behind hle]
  refine ⟨d', move, hd', hattached, ?_, ?_, fun e fault => documents_advance_of_refused hd⟩
  · intro x count hx hle
    have hm := behind_stands hx hle
    refine ⟨_, hm.count_eq, ?_, ?_⟩
    · rw [← hm.text_eq, Marker.text, List.length_append]
      exact Nat.le_add_right _ _
    · rw [← hm.text_eq, Marker.behind_text]
  · intro x y i j i' j' hx hy hij hle hx' hy'
    have hm := behind_stands hx (Nat.le_trans hij hle)
    have hm' := behind_stands hy hle
    rw [hm.count_eq] at hx'
    rw [hm'.count_eq] at hy'
    cases hx'
    cases hy'
    apply Marker.length_front_edits_le
    · rw [Marker.text_behind, Marker.text_behind]
    · rw [Marker.length_front_behind hle, Marker.length_front_behind (Nat.le_trans hij hle)]
      exact hij

theorem anchors_are_markers_of_abcd :
    let w := (advance ⟨0, 0, .decorate (.whole 2) ['n'] []⟩ (World.start
      ⟨.empty, Path.ofText ['/'], []⟩ false [.ofText ['d'] none "abcd".toList] [])).2
    -- the second edit is refused
    let edits : List Edit :=
      [.insert (.whole 0) "xy".toList, .delete (.whole 3) (.whole 9), .delete (.whole 1) (.whole 3)]
    ∃ (d' : Document) (x : Anchor) (count : Nat),
      ((w.afterAll (edits.map (Edit.step 0))).documents : List Document)[0]? = some d' ∧
      d'.attached.map (fun entry => entry.2.offset) = [x] ∧ x.count? = some count ∧
      Marker.behind count d'.text = ⟨"xb".toList, "cd".toList⟩ := by
  intro w edits
  obtain ⟨d', move, hd', hattached, hsides, -, -⟩ :=
    anchors_are_markers (w := w) (n := 0) rfl edits
  obtain ⟨count, hcount, -, hmarker⟩ := hsides (.whole 2) 2 rfl (by decide)
  refine ⟨d', move (.whole 2), count, hd', ?_, hcount, hmarker⟩
  rw [hattached]
  rfl

end Session

end Marginalia
