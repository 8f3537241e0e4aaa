import Marginalia.Proofs.Session.Action
import Marginalia.Proofs.Settings.Overrides

/-!
# Settings stay valid

Settings are read from a table, one of them is given a value, or changes are laid over them.  All
three come to the same: where a value is given, the setting of that name keeps of it what its reader
makes of it (`kept?`), and where none is given, what there was before stays (`Amends`).  A value of
which nothing can be kept refuses the change as a whole, and so does a name that no setting has.

So a host that goes on changing settings, whatever it tries, always holds settings whose table has
the right kind of value under each name.  In particular the detail level is one that flags are known
for.  Private names are left out, since a record takes any value under them and works on with it.

The main statement is `settings_stay_valid`.
-/

namespace Marginalia

theorem mapError_eq_ok_iff {ε ε' α : Type} {f : ε → ε'} {x : Except ε α} {a : α} :
    x.mapError f = .ok a ↔ x = .ok a := by
  cases x with
  | ok b => simp [Except.mapError]
  | error e => simp [Except.mapError]

theorem Checked.assigned_eq_ok_iff {ρ α : Type} {name : Text} {change : α → ρ} {x : Checked α}
    {r : ρ} : x.assigned name change = .ok r ↔ ∃ a, x = .ok a ∧ change a = r := by
  cases x with
  | ok a => simp [assigned, inside]
  | error issues => simp [assigned, inside]

namespace Settings

/-! ## What is kept of a value -/

/-- What a setting keeps of a value that it is given. -/
def kept? (name : Text) (v : Value) : Option Value :=
  if name = "allow_list".toList then
    (allowListOf v).toOption.map fun texts => .list (texts.map .text)
  else if name = "detail_level".toList then v.toPositive.toOption.map fun n => .integer n.val
  else if name = "go_binary".toList then v.toText.toOption.map .text
  else if name = "emoji".toList then v.toBool.toOption.map .boolean
  else if name = "color".toList then v.toBool.toOption.map .boolean
  else none

theorem mem_names_of_kept? {name : Text} {v : Value} (h : (kept? name v).isSome) :
    name ∈ names := by
  by_contra hname
  simp only [names, List.map_cons, List.map_nil, List.mem_cons, List.not_mem_nil, or_false,
    not_or] at hname
  obtain ⟨hallow, hdetail, hgo, hemoji, hcolor⟩ := hname
  rw [kept?, if_neg hallow, if_neg hdetail, if_neg hgo, if_neg hemoji, if_neg hcolor] at h
  cases h

theorem isSome_get?_toFields {s : Settings} {name : Text} :
    (s.toFields.get? name).isSome ↔ name ∈ names :=
  Fields.isSome_get?_iff

theorem toFields_inj {s s' : Settings} (h : s.toFields = s'.toFields) : s = s' := by
  have hs : ofFields s.toFields = .ok s := ofFields_eq_ok_iff.mpr (writtenIn_toFields s)
  have hs' : ofFields s'.toFields = .ok s' := ofFields_eq_ok_iff.mpr (writtenIn_toFields s')
  rw [h, hs'] at hs
  exact (Except.ok.inj hs).symm

/-- A setting is what its value is read as if the table of settings has what is kept of the value. -/
theorem taken_iff {α : Type} {v? : Option Value} {standard a : α} {read : Value → Checked α}
    {put : α → Value} (hput : Function.Injective put) :
    Taken v? standard read a
      ↔ some (put a) = v?.elim (some (put standard)) fun v => (read v).toOption.map put := by
  cases v? with
  | none => exact ⟨fun h => congrArg _ (congrArg _ h), fun h => hput (Option.some.inj h)⟩
  | some v =>
    show read v = .ok a ↔ some (put a) = (read v).toOption.map put
    cases read v with
    | error issues => exact ⟨nofun, nofun⟩
    | ok b =>
      exact ⟨fun h => (congrArg _ (congrArg _ (Except.ok.inj h))).symm,
        fun h => congrArg _ (hput (Option.some.inj h)).symm⟩

theorem texts_injective : Function.Injective fun texts : List Text =>
    Value.list (texts.map .text) :=
  fun _ _ h => List.map_injective_iff.mpr (fun _ _ h => Value.text.inj h) (Value.list.inj h)

theorem positive_injective : Function.Injective fun n : Positive => Value.integer n.val :=
  fun _ _ h => Subtype.ext (Int.ofNat.inj (Value.integer.inj h))

theorem settled_iff {value? : Text → Option Value} {s : Settings} :
    Settled value? s ↔ ∀ name ∈ names,
      s.toFields.get? name = (value? name).elim (standard.toFields.get? name) (kept? name) := by
  have hallow := @taken_iff _ (value? "allow_list".toList) standard.allowList s.allowList
    allowListOf _ texts_injective
  have hdetail := @taken_iff _ (value? "detail_level".toList) standard.detailLevel s.detailLevel
    Value.toPositive _ positive_injective
  have hgo := @taken_iff _ (value? "go_binary".toList) standard.goBinary s.goBinary
    Value.toText _ fun _ _ => Value.text.inj
  have hemoji := @taken_iff _ (value? "emoji".toList) standard.emoji s.emoji
    Value.toBool _ fun _ _ => Value.boolean.inj
  have hcolor := @taken_iff _ (value? "color".toList) standard.color s.color
    Value.toBool _ fun _ _ => Value.boolean.inj
  constructor
  · intro h
    simp only [names, List.map_cons, List.map_nil, List.forall_mem_cons]
    exact ⟨hallow.mp h.allowList, hdetail.mp h.detailLevel, hgo.mp h.goBinary,
      hemoji.mp h.emoji, hcolor.mp h.color, List.forall_mem_nil _⟩
  · intro h
    simp only [names, List.map_cons, List.map_nil, List.forall_mem_cons] at h
    obtain ⟨h₁, h₂, h₃, h₄, h₅, -⟩ := h
    exact ⟨hallow.mpr h₁, hdetail.mpr h₂, hgo.mpr h₃, hemoji.mpr h₄, hcolor.mpr h₅⟩

/-- What settings have is kept as it is. -/
theorem kept?_of_get?_toFields {s : Settings} {name : Text} {v : Value}
    (h : s.toFields.get? name = some v) : kept? name v = some v := by
  have hsettled := settled_iff.mp (writtenIn_iff.mp (writtenIn_toFields s)).1 name
    (isSome_get?_toFields.mp (Option.isSome_of_eq_some h))
  rw [h] at hsettled
  exact hsettled.symm

/-! ## Amended tables -/

/-- A table of settings is another one but for values that are given to some names: under those it
has what is kept of the values. -/
structure Amends (value? : Text → Option Value) (before after : Fields) : Prop where
  fits : ∀ name v, value? name = some v → (kept? name v).isSome
  names : after.map Prod.fst = names
  values : ∀ name, after.get? name = (value? name).elim (before.get? name) (kept? name)

theorem Amends.unique {value? : Text → Option Value} {before after after' : Fields}
    (h : Amends value? before after) (h' : Amends value? before after') : after = after' := by
  have hnodup : (after'.map Prod.fst).Nodup := h'.names ▸ (by decide : Settings.names.Nodup)
  exact Fields.eq_of_get? hnodup (h.names.trans h'.names.symm) fun name =>
    (h.values name).trans (h'.values name).symm

section
variable {value? : Text → Option Value} {s s' : Settings} {source name : Text} {v : Value}
  {fields changes : Fields}

/-- Settings stand for an amended table if they are what their own table says with the given values
laid over it. -/
theorem amends_iff : Amends value? s.toFields s'.toFields
    ↔ Settled (fun name => (value? name).or (s.toFields.get? name)) s'
      ∧ ∀ name, (value? name).isSome → name ∈ names := by
  have hover (name : Text) (hname : name ∈ names) :
      ((value? name).or (s.toFields.get? name)).elim (standard.toFields.get? name) (kept? name)
        = (value? name).elim (s.toFields.get? name) (kept? name) := by
    obtain ⟨w, hw⟩ := Option.isSome_iff_exists.mp (isSome_get?_toFields (s := s).mpr hname)
    cases value? name with
    | some v => rfl
    | none =>
      rw [hw]
      exact kept?_of_get?_toFields hw
  rw [settled_iff]
  constructor
  · intro h
    refine ⟨fun name hname => (h.values name).trans (hover name hname).symm, fun name hname => ?_⟩
    obtain ⟨v, hv⟩ := Option.isSome_iff_exists.mp hname
    exact mem_names_of_kept? (h.fits name v hv)
  · rintro ⟨h, hknown⟩
    have hvalues (name : Text) (hname : name ∈ names) :=
      (h name hname).trans (hover name hname)
    refine ⟨fun name v hv => ?_, rfl, fun name => ?_⟩
    · have hname : name ∈ names := hknown name (Option.isSome_of_eq_some hv)
      have hkept : s'.toFields.get? name = kept? name v := by
        rw [hvalues name hname, hv]
        rfl
      exact hkept ▸ isSome_get?_toFields.mpr hname
    · by_cases hname : name ∈ names
      · exact hvalues name hname
      · have hnone (s : Settings) : s.toFields.get? name = none :=
          Option.not_isSome_iff_eq_none.mp (mt isSome_get?_toFields.mp hname)
        have hsilent : value? name = none :=
          Option.not_isSome_iff_eq_none.mp (mt (hknown name) hname)
        rw [hnone, hsilent]
        exact (hnone s).symm

/-- Values can be given to settings if each of them can be kept. -/
theorem exists_amends_iff : (∃ s' : Settings, Amends value? s.toFields s'.toFields)
    ↔ ∀ name v, value? name = some v → (kept? name v).isSome := by
  constructor
  · rintro ⟨s', h⟩
    exact h.fits
  · intro h
    have hkept (name : Text) (v : Value) (hv : (value? name).or (s.toFields.get? name) = some v) :
        (kept? name v).isSome := by
      rcases Option.or_eq_some_iff.mp hv with hv | ⟨-, hv⟩
      · exact h name v hv
      · exact kept?_of_get?_toFields hv ▸ rfl
    have reads {α : Type} {x : Checked α} {put : α → Value}
        (hx : (x.toOption.map put).isSome) : ∃ a, x = .ok a := by
      cases x with
      | ok a => exact ⟨a, rfl⟩
      | error issues => cases hx
    have hfit : AllFit fun name => (value? name).or (s.toFields.get? name) :=
      ⟨fun v hv => reads (hkept _ v hv), fun v hv => reads (hkept _ v hv),
        fun v hv => reads (hkept _ v hv), fun v hv => reads (hkept _ v hv),
        fun v hv => reads (hkept _ v hv)⟩
    obtain ⟨s', hs'⟩ := exists_settled_iff.mpr hfit
    refine ⟨s', amends_iff.mpr ⟨hs', fun name hname => ?_⟩⟩
    obtain ⟨v, hv⟩ := Option.isSome_iff_exists.mp hname
    exact mem_names_of_kept? (h name v hv)

/-! ## The three ways to settings -/

theorem load_amends : load source fields = .ok s
    ↔ Amends fields.get? standard.toFields s.toFields := by
  have hover : Settled (fun name => (fields.get? name).or (standard.toFields.get? name)) s
      ↔ Settled fields.get? s := by
    rw [settled_iff, settled_iff]
    refine forall₂_congr fun name hname => ?_
    cases fields.get? name with
    | some v => rfl
    | none =>
      obtain ⟨w, hw⟩ := Option.isSome_iff_exists.mp
        (isSome_get?_toFields (s := standard).mpr hname)
      rw [Option.none_or, hw, Option.elim_some, Option.elim_none, kept?_of_get?_toFields hw]
  rw [load_eq_ok_iff, writtenIn_iff, amends_iff, hover]

theorem override_amends (hnodup : (changes.map Prod.fst).Nodup) : s.override changes = .ok s'
    ↔ changes.get? ownName = none ∧ Amends (actual changes).get? s.toFields s'.toFields := by
  have hlookup : (s.toFields.update (actual changes)).get?
      = fun name => ((actual changes).get? name).or (s.toFields.get? name) :=
    funext fun name => Fields.get?_update_of_nodup (nodup_map_fst_actual hnodup)
  have hwritten : WrittenIn (s.toFields.update (actual changes)) s'
      ↔ Amends (actual changes).get? s.toFields s'.toFields := by
    rw [writtenIn_iff, amends_iff, hlookup]
    refine and_congr_right fun _ => forall_congr' fun name => ?_
    rw [Option.isSome_or, Bool.or_eq_true, isSome_get?_toFields]
    exact ⟨fun h hsome => h (.inl hsome), fun h hsome => hsome.elim h id⟩
  constructor
  · intro h
    obtain ⟨hown, h⟩ := writtenIn_of_override h
    exact ⟨hown, hwritten.mp h⟩
  · rintro ⟨hown, h⟩
    rw [override_eq_load hown, load_eq_ok_iff]
    exact hwritten.mpr h

/-- A field that is read from a value amends the table in its own place. -/
theorem assigned_amends {α : Type} {x : Checked α} {change : α → Settings} {put : α → Value}
    (hkept : kept? name v = x.toOption.map put)
    (hset : ∀ a, (change a).toFields = s.toFields.set name (put a)) :
    x.assigned name change = .ok s' ↔ Amends (Fields.get? [(name, v)]) s.toFields s'.toFields := by
  have hchange (a : α) (hx : x = .ok a) :
      Amends (Fields.get? [(name, v)]) s.toFields (change a).toFields := by
    have hv : kept? name v = some (put a) := by
      rw [hkept, hx]
      rfl
    refine ⟨fun other w hw => ?_, rfl, fun other => ?_⟩
    · rw [Fields.get?_cons] at hw
      split at hw
      · next heq =>
        cases hw
        rw [heq, hv]
        rfl
      · cases hw
    · rw [hset, Fields.get?_set, Fields.get?_cons]
      split
      · next heq =>
        rw [heq]
        exact hv.symm
      · rfl
  rw [Checked.assigned_eq_ok_iff]
  constructor
  · rintro ⟨a, hx, rfl⟩
    exact hchange a hx
  · intro h
    have hv := h.fits name v (by rw [Fields.get?_cons, if_pos rfl])
    rw [hkept] at hv
    cases hx : x with
    | error issues =>
      rw [hx] at hv
      cases hv
    | ok a => exact ⟨a, rfl, toFields_inj ((hchange a hx).unique h)⟩

theorem assign_ne_ok (hopen : Checked.isPrivate name = false) (hname : name ∉ names) :
    s.assign name v ≠ .ok s' := by
  simp only [names, List.map_cons, List.map_nil, List.mem_cons, List.not_mem_nil, or_false,
    not_or] at hname
  obtain ⟨hallow, hdetail, hgo, hemoji, hcolor⟩ := hname
  rw [assign, if_neg hallow, if_neg hdetail, if_neg hgo, if_neg hemoji, if_neg hcolor,
    Checked.withOther, hopen]
  split
  · exact nofun
  · split
    · exact nofun
    · split
      · exact nofun
      · exact nofun

theorem assign_amends (hopen : Checked.isPrivate name = false) : s.assign name v = .ok s'
    ↔ Amends (Fields.get? [(name, v)]) s.toFields s'.toFields := by
  by_cases hname : name ∈ names
  · simp only [names, List.map_cons, List.map_nil, List.mem_cons, List.not_mem_nil,
      or_false] at hname
    rcases hname with rfl | rfl | rfl | rfl | rfl
    · exact assigned_amends rfl fun _ => rfl
    · exact assigned_amends rfl fun _ => rfl
    · exact assigned_amends rfl fun _ => rfl
    · exact assigned_amends rfl fun _ => rfl
    · exact assigned_amends rfl fun _ => rfl
  · refine ⟨fun h => absurd h (assign_ne_ok hopen hname), fun h => absurd ?_ hname⟩
    exact mem_names_of_kept? (h.fits name v (by rw [Fields.get?_cons, if_pos rfl]))

end

/-! ## Valid tables -/

/-- A value of the kind that the setting of a name has. -/
inductive HasKind : Text → Value → Prop where
  /-- Which messages are wanted is a list of texts. -/
  | allowList (texts : List Text) : HasKind "allow_list".toList (.list (texts.map .text))
  /-- The detail level is a whole number from one on. -/
  | detailLevel (n : Int) : 1 ≤ n → HasKind "detail_level".toList (.integer n)
  /-- The compiler is a text. -/
  | goBinary (text : Text) : HasKind "go_binary".toList (.text text)
  /-- Whether there are pictograms is a truth value. -/
  | emoji (b : Bool) : HasKind "emoji".toList (.boolean b)
  /-- Whether there are colours is a truth value. -/
  | color (b : Bool) : HasKind "color".toList (.boolean b)

/-- A table that has all settings and nothing else, each of them of its kind. -/
structure Valid (fields : Fields) : Prop where
  names : fields.map Prod.fst = names
  kinds : ∀ name v, fields.get? name = some v → HasKind name v

theorem hasKind_of_kept? {name : Text} {v w : Value} (h : kept? name v = some w) :
    HasKind name w := by
  have hname : name ∈ names := mem_names_of_kept? (Option.isSome_of_eq_some h)
  simp only [names, List.map_cons, List.map_nil, List.mem_cons, List.not_mem_nil,
    or_false] at hname
  rcases hname with rfl | rfl | rfl | rfl | rfl
  · obtain ⟨texts, -, rfl⟩ := Option.map_eq_some_iff.mp h
    exact .allowList texts
  · obtain ⟨n, -, rfl⟩ := Option.map_eq_some_iff.mp h
    exact .detailLevel n.val (Int.ofNat_le.mpr n.property)
  · obtain ⟨text, -, rfl⟩ := Option.map_eq_some_iff.mp h
    exact .goBinary text
  · obtain ⟨b, -, rfl⟩ := Option.map_eq_some_iff.mp h
    exact .emoji b
  · obtain ⟨b, -, rfl⟩ := Option.map_eq_some_iff.mp h
    exact .color b

theorem valid_toFields (s : Settings) : Valid s.toFields where
  names := rfl
  kinds := fun _ _ h => hasKind_of_kept? (kept?_of_get?_toFields h)

/-! ## Changes one after another -/

/-- A change that a host asks for. -/
inductive Change where
  /-- A setting is given a value. -/
  | assign (name : Text) (v : Value)
  /-- Changes are laid over the settings. -/
  | override (changes : Fields)

/-- Why a change is not made. -/
inductive Objection where
  /-- The setting does not take the value. -/
  | assign (e : Unassigned)
  /-- The changes do not fit. -/
  | override (r : Refusal)

namespace Change

/-- The values that a change gives; a null gives none where changes are laid over settings. -/
def given : Change → Fields
  | assign name v => [(name, v)]
  | override changes => actual changes

/-- The change stays clear of private names, and it names no setting twice. -/
def Plain : Change → Prop
  | assign name _ => Checked.isPrivate name = false
  | override changes => (changes.map Prod.fst).Nodup

/-- The change is one of the settings themselves and not of one of them. -/
def NamesItself : Change → Prop
  | assign _ _ => False
  | override changes => (changes.get? ownName).isSome

/-- The settings after a change. -/
def on (s : Settings) : Change → Except Objection Settings
  | assign name v => (s.assign name v).mapError .assign
  | override changes => (s.override changes).mapError .override

/-- The kept settings after a change.  To lay changes over settings makes new ones, unless there is
nothing to change. -/
def make (k : Kept Settings) : Change → Except Objection (Kept Settings)
  | assign name v => (k.assign Settings.assign name v).mapError .assign
  | override changes =>
    match k.record.override changes with
    | .ok s => .ok (if isIdle changes then k else .ofRecord s)
    | .error r => .error (.override r)

/-- The kept settings after a change, the same as before if it is not made. -/
def after (k : Kept Settings) (c : Change) : Kept Settings :=
  match c.make k with
  | .ok k => k
  | .error _ => k

/-- The kept settings after changes in turn. -/
def afterAll (k : Kept Settings) (changes : List Change) : Kept Settings :=
  changes.foldl after k

section
variable {c : Change} {s s' : Settings}

theorem make_ofRecord (h : c.Plain) : c.make (.ofRecord s) = (c.on s).map .ofRecord := by
  cases c with
  | assign name v =>
    rw [make, on, Kept.assign_ofRecord _ _ _ _ h]
    cases s.assign name v with
    | error e => rfl
    | ok s' => rfl
  | override changes =>
    have hrecord : (Kept.ofRecord s).record = s := rfl
    rw [make, on, hrecord]
    cases hs : s.override changes with
    | error r => rfl
    | ok s' =>
      show Except.ok _ = Except.ok _
      congr 1
      split
      · next hidle =>
        rw [Settings.override, withChanges, if_pos hidle] at hs
        split at hs
        · cases hs
        · rw [Except.ok.inj hs]
      · rfl

theorem on_eq_ok_iff (h : c.Plain) :
    c.on s = .ok s' ↔ ¬ c.NamesItself ∧ Amends c.given.get? s.toFields s'.toFields := by
  cases c with
  | assign name v =>
    rw [on, mapError_eq_ok_iff, assign_amends h]
    exact (and_iff_right id).symm
  | override changes =>
    rw [on, mapError_eq_ok_iff, override_amends h, ← Option.not_isSome_iff_eq_none]
    rfl

/-- A change is made, and then each value that it gives is kept, or it is not made, and then it is
one of the settings themselves or gives a value that cannot be kept. -/
theorem on_cases (h : c.Plain) :
    (∃ s', c.on s = .ok s' ∧ ¬ c.NamesItself ∧ Amends c.given.get? s.toFields s'.toFields) ∨
    ∃ e, c.on s = .error e ∧
      (c.NamesItself ∨ ∃ name v, c.given.get? name = some v ∧ kept? name v = none) := by
  cases hs : c.on s with
  | ok s' => exact .inl ⟨s', rfl, (on_eq_ok_iff h).mp hs⟩
  | error e =>
    refine .inr ⟨e, rfl, ?_⟩
    by_contra hfits
    rw [not_or] at hfits
    obtain ⟨hitself, hfits⟩ := hfits
    obtain ⟨s', hamends⟩ := exists_amends_iff (s := s).mpr fun name v hv => by
      by_contra hnone
      exact hfits ⟨name, v, hv, Option.not_isSome_iff_eq_none.mp hnone⟩
    rw [(on_eq_ok_iff h).mpr ⟨hitself, hamends⟩] at hs
    cases hs

/-- After a change that stays clear of private names there is again a record with sound works. -/
theorem after_ofRecord (h : c.Plain) (s : Settings) :
    c.after (.ofRecord s) = .ofRecord ((c.on s).toOption.getD s) := by
  rw [after, make_ofRecord h]
  cases c.on s with
  | ok s' => rfl
  | error e => rfl

theorem afterAll_ofRecord {changes : List Change} (h : ∀ c ∈ changes, c.Plain) (s : Settings) :
    ∃ t, afterAll (.ofRecord s) changes = .ofRecord t := by
  induction changes generalizing s with
  | nil => exact ⟨s, rfl⟩
  | cons c rest ih =>
    obtain ⟨hc, hrest⟩ := List.forall_mem_cons.mp h
    rw [afterAll, List.foldl_cons, after_ofRecord hc]
    exact ih hrest _

end

end Change

/-! ## Changes in a session -/

/-- A session gives a value to a setting of a controller as a host does to settings of its own.  A
step that fails to do so leaves everything as it was. -/
theorem run_assign (make : Session.Make) (n : Nat) (name : Text) (v : Value) (w : Session.World) :
    (∃ fault, (Session.aboutMode make n (.assign name v)).run w = (.error fault, w)) ∨
    ∃ c k, w.controllers[n]? = some c ∧
      (Change.assign name v).make ⟨c.settings, c.works⟩ = .ok k ∧
      (Session.aboutMode make n (.assign name v)).run w = (.ok .done, { w with
        controllers := w.controllers.modify n fun c =>
          { c with settings := k.record, works := k.works } }) := by
  rw [Session.aboutMode, Session.controller_bind]
  cases hc : w.controllers[n]? with
  | none => exact .inl ⟨_, rfl⟩
  | some c =>
    simp only [Change.make]
    cases hk : (Kept.mk c.settings c.works).assign Settings.assign name v with
    | ok k => exact .inr ⟨c, k, rfl, by rw [hk]; rfl, rfl⟩
    | error e =>
      cases e with
      | invalid issues => exact .inl ⟨_, rfl⟩
      | computed => exact .inl ⟨_, rfl⟩
      | structural => exact .inl ⟨_, rfl⟩

/-! ## Flags -/

/-- The detail level that a table of settings says is one that flags are known for, and the compiler
is given those. -/
theorem flags_known (s : Settings) :
    ∃ level, s.toFields.get? "detail_level".toList = some level ∧ levelFlags level = .ok s.flags ∧
      ∀ unitId, s.command unitId
        = [s.goBinary, "build".toList, "-gcflags=".toList ++ scopedTo unitId s.flags, ['.']] := by
  refine ⟨.integer s.detailLevel.val, rfl, ?_, fun unitId => rfl⟩
  have hpositive := s.detailLevel.property
  have hlow : ¬ (s.detailLevel.val : Int) < 1 := by omega
  have hverbose : 2 ≤ (s.detailLevel.val : Int) ↔ 2 ≤ s.detailLevel.val := by omega
  simp [levelFlags, flags, hlow, hverbose]

/-! ## All changes -/

/-- From settings that were read, and by whatever changes that stay clear of private names, a host
comes to a record with sound works whose table is valid and whose detail level has flags.  The next
change either is made, and amends the table by the values it gives, or it is refused and leaves
everything as it was, in a session as well. -/
theorem settings_stay_valid {source : Text} {fields : Fields} {s : Settings}
    (h : load source fields = .ok s) {changes : List Change} (hplain : ∀ c ∈ changes, c.Plain) :
    Amends fields.get? standard.toFields s.toFields ∧
    (∃ t, Change.afterAll (.ofRecord s) changes = .ofRecord t ∧ Valid t.toFields ∧
      (∀ c : Change, c.Plain →
        (∃ t', c.make (.ofRecord t) = .ok (.ofRecord t') ∧
          c.after (.ofRecord t) = .ofRecord t' ∧ ¬ c.NamesItself ∧
          Amends c.given.get? t.toFields t'.toFields) ∨
        (∃ e, c.make (.ofRecord t) = .error e ∧ c.after (.ofRecord t) = .ofRecord t ∧
          (c.NamesItself ∨ ∃ name v, c.given.get? name = some v ∧ kept? name v = none))) ∧
      ∃ level, t.toFields.get? "detail_level".toList = some level ∧
        levelFlags level = .ok t.flags ∧ ∀ unitId, t.command unitId
          = [t.goBinary, "build".toList, "-gcflags=".toList ++ scopedTo unitId t.flags, ['.']]) ∧
    ∀ make n name v w fault w',
      (Session.aboutMode make n (.assign name v)).run w = (.error fault, w') → w' = w := by
  obtain ⟨t, ht⟩ := Change.afterAll_ofRecord hplain s
  refine ⟨load_amends.mp h, ⟨t, ht, valid_toFields t, fun c hc => ?_, flags_known t⟩, ?_⟩
  · rw [Change.make_ofRecord hc, Change.after_ofRecord hc]
    rcases Change.on_cases (s := t) hc with ⟨t', hon, hmade⟩ | ⟨e, hon, hrefused⟩
    · rw [hon]
      exact .inl ⟨t', rfl, rfl, hmade⟩
    · rw [hon]
      exact .inr ⟨e, rfl, rfl, hrefused⟩
  · intro make n name v w fault w' hrun
    rcases run_assign make n name v w with ⟨_, hsame⟩ | ⟨_, _, -, -, hdone⟩
    · rw [hsame] at hrun
      exact (congrArg Prod.snd hrun).symm
    · rw [hdone] at hrun
      cases congrArg Prod.fst hrun

theorem settings_stay_valid_of_words :
    let fields : Fields := [("detail_level".toList, .text " 2".toList)]
    let changes : List Change :=
      [.assign "emoji".toList (.text "off".toList), .assign "detail_level".toList (.integer 0),
        .override [("_level".toList, .integer 3)], .assign "flags".toList (.text "-m".toList),
        .override [("allow_list".toList, .text ['m']), ("color".toList, .null)]]
    let s : Settings := { standard with detailLevel := ⟨2, by decide⟩ }
    let t : Settings := { s with allowList := [['m']], emoji := false }
    load "input".toList fields = .ok s ∧ (∀ c ∈ changes, c.Plain) ∧
      Change.afterAll (.ofRecord s) changes = .ofRecord t ∧ Valid t.toFields := by
  intro fields changes s t
  have hload : load "input".toList fields = .ok s := rfl
  have hplain : ∀ c ∈ changes, c.Plain := by
    simp only [changes, List.forall_mem_cons]
    have hapart : ["allow_list".toList, "color".toList].Nodup := by decide
    exact ⟨rfl, rfl, List.nodup_singleton _, rfl, hapart, List.forall_mem_nil _⟩
  obtain ⟨-, ⟨t', ht', hvalid, -⟩, -⟩ := settings_stay_valid hload hplain
  have ht : Change.afterAll (.ofRecord s) changes = .ofRecord t := rfl
  obtain rfl : t' = t := congrArg Kept.record (ht'.symm.trans ht)
  exact ⟨hload, hplain, ht, hvalid⟩

end Settings

end Marginalia
