import Mathlib.Data.List.Nodup
import Marginalia.Settings.Layers

/-!
# Tables that name each field once

A table is a list of named values, so it could name a field twice, and then it would hang on the
reader which of the two values counts.  The tables of settings files do not: the format forbids it,
and reading refuses such a file (`Toml.distinct_parse`).  So the value of a name in a layer is the
one value that the layer has for it (`Settings.Layer.distinct_load`).
-/

namespace Marginalia

/-! ## Values -/

/-- In a value, no table has two fields of one name. -/
inductive Value.Distinct : Value → Prop where
  /-- A value without parts. -/
  | single {v : Value} : Toml.isClosedValue v = false → Distinct v
  /-- A list. -/
  | list {items : List Value} : (∀ v ∈ items, Distinct v) → Distinct (.list items)
  /-- A table. -/
  | table {fields : Fields} : (fields.map Prod.fst).Nodup → (∀ field ∈ fields, Distinct field.2) →
    Distinct (.table fields)

/-- No two fields of a table have one name, and the same holds for the tables inside of it. -/
abbrev Fields.Distinct (fields : Fields) : Prop :=
  Value.Distinct (.table fields)

namespace Fields

variable {fields fields' : Fields} {name : Text} {v : Value}

theorem distinct_iff :
    fields.Distinct ↔ (fields.map Prod.fst).Nodup ∧ ∀ field ∈ fields, field.2.Distinct := by
  constructor
  · intro h
    cases h with
    | single hv => cases hv
    | table hnames hvalues => exact ⟨hnames, hvalues⟩
  · exact fun ⟨hnames, hvalues⟩ => .table hnames hvalues

theorem distinct_nil : Distinct [] :=
  .table List.nodup_nil (nofun)

theorem mem_of_get? (h : fields.get? name = some v) : (name, v) ∈ fields := by
  obtain ⟨front, back, rfl, -⟩ := List.lookup_eq_some_iff.mp h
  exact List.mem_append_right _ List.mem_cons_self

theorem Distinct.get? (h : fields.Distinct) (hv : fields.get? name = some v) : v.Distinct :=
  (distinct_iff.mp h).2 (name, v) (mem_of_get? hv)

theorem map_fst_set :
    (fields.set name v).map Prod.fst
      = if name ∈ fields.map Prod.fst then fields.map Prod.fst
        else fields.map Prod.fst ++ [name] := by
  induction fields with
  | nil => rfl
  | cons field rest ih =>
    by_cases hk : field.1 = name
    · simp [set, hk]
    · simp only [set, if_neg hk, List.map_cons, ih, List.mem_cons, Ne.symm hk, false_or]
      split
      · rfl
      · rfl

theorem nodup_map_fst_set (h : (fields.map Prod.fst).Nodup) :
    ((fields.set name v).map Prod.fst).Nodup := by
  rw [map_fst_set]
  split
  · exact h
  · next hname =>
    rw [← List.concat_eq_append]
    exact List.Nodup.concat hname h

theorem forall_mem_set {P : Value → Prop} (h : ∀ field ∈ fields, P field.2) (hv : P v) :
    ∀ field ∈ fields.set name v, P field.2 := by
  induction fields with
  | nil => exact List.forall_mem_singleton.mpr hv
  | cons field rest ih =>
    obtain ⟨hfield, hrest⟩ := List.forall_mem_cons.mp h
    rw [set]
    split
    · exact List.forall_mem_cons.mpr ⟨hv, hrest⟩
    · exact List.forall_mem_cons.mpr ⟨hfield, ih hrest⟩

theorem Distinct.set (h : fields.Distinct) (hv : v.Distinct) : (fields.set name v).Distinct :=
  have ⟨hnames, hvalues⟩ := distinct_iff.mp h
  distinct_iff.mpr ⟨nodup_map_fst_set hnames, forall_mem_set hvalues hv⟩

end Fields

namespace Toml

/-! ## Changes of tables -/

theorem bind_eq_ok {ε α β : Type} {x : Except ε α} {f : α → Except ε β} {b : β}
    (h : (x >>= f) = .ok b) : ∃ a, x = .ok a ∧ f a = .ok b := by
  cases x with
  | error e => cases h
  | ok a => exact ⟨a, rfl, h⟩

theorem map_eq_ok {ε α β : Type} {x : Except ε α} {f : α → β} {b : β}
    (h : x.map f = .ok b) : ∃ a, x = .ok a ∧ f a = b := by
  cases x with
  | error e => cases h
  | ok a => exact ⟨a, rfl, Except.ok.inj h⟩

/-- A change that leaves no table with two fields of one name. -/
def Preserves (change : Fields → Except Refusal Fields) : Prop :=
  ∀ {fields fields' : Fields}, fields.Distinct → change fields = .ok fields' → fields'.Distinct

theorem preserves_ok : Preserves .ok := by
  intro fields fields' h hok
  cases hok
  exact h

theorem preserves_addNew (name : Text) {v : Value} (hv : v.Distinct) :
    Preserves (addNew name v) := by
  intro fields fields' h hok
  rw [addNew] at hok
  split at hok
  · cases hok
  · cases hok
    exact h.set hv

theorem preserves_addTable (name : Text) : Preserves (addTable name) := by
  intro fields fields' h hok
  rw [addTable] at hok
  split at hok
  · cases hok
    exact h.set (.list (List.forall_mem_singleton.mpr Fields.distinct_nil))
  · next items hitems =>
    cases hok
    refine h.set (.list (List.forall_mem_append.mpr
      ⟨?_, List.forall_mem_singleton.mpr Fields.distinct_nil⟩))
    cases h.get? hitems with
    | single hv => cases hv
    | list h => exact h
  · cases hok

theorem distinct_inTable {intoLists : Bool} {change : Fields → Except Refusal Fields}
    (hchange : Preserves change) {v v' : Value} (hv : v.Distinct)
    (hok : inTable intoLists change v = .ok v') : v'.Distinct := by
  unfold inTable at hok
  split at hok
  · obtain ⟨fields', hfields', rfl⟩ := map_eq_ok hok
    exact hchange hv hfields'
  · next items =>
    have hitems : ∀ v ∈ items, v.Distinct := by
      cases hv with
      | single h => cases h
      | list h => exact h
    split at hok
    · next fields hlast =>
      obtain ⟨fields', hfields', rfl⟩ := map_eq_ok hok
      refine .list (List.forall_mem_append.mpr
        ⟨fun v hv => hitems v (List.dropLast_subset items hv), ?_⟩)
      exact List.forall_mem_singleton.mpr
        (hchange (hitems _ (List.mem_of_getLast? hlast)) hfields')
    · cases hok
  · cases hok

theorem preserves_changeAt {intoLists : Bool} {change : Fields → Except Refusal Fields}
    (hchange : Preserves change) (path : KeyPath) :
    Preserves (changeAt intoLists change path) := by
  induction path with
  | nil => exact hchange
  | cons name path ih =>
    intro fields fields' h hok
    obtain ⟨v, hv, hset⟩ := bind_eq_ok hok
    cases hset
    refine h.set (distinct_inTable ih ?_ hv)
    cases hget : fields.get? name with
    | none => exact Fields.distinct_nil
    | some v => exact h.get? hget

/-! ## Values -/

theorem isClosedValue_moment? {s rest : Text} {v : Value} (h : moment? s = some (.ok (v, rest))) :
    isClosedValue v = false := by
  unfold moment? at h
  split at h
  · split at h
    · cases h
    · split at h
      · cases h
        rfl
      · split at h
        · cases h
          rfl
        · cases h
          rfl
  · obtain ⟨⟨c, rest'⟩, -, hread⟩ := Option.map_eq_some_iff.mp h
    cases hread
    rfl

theorem isClosedValue_radixNumber? {s rest : Text} {v : Value}
    (h : radixNumber? s = some (v, rest)) : isClosedValue v = false := by
  unfold radixNumber? at h
  split at h
  case h_4 => cases h
  all_goals
    obtain ⟨⟨digits, rest'⟩, -, hread⟩ := Option.map_eq_some_iff.mp h
    cases hread
    rfl

theorem isClosedValue_decimalNumber? {s rest : Text} {v : Value}
    (h : decimalNumber? s = some (.ok (v, rest))) : isClosedValue v = false := by
  obtain ⟨⟨whole, afterWhole⟩, -, h⟩ := Option.bind_eq_some_iff.mp h
  simp only at h
  split at h
  · split at h
    · cases h
    · cases h
      rfl
  · cases h
    rfl

theorem isClosedValue_specialNumber? {s rest : Text} {v : Value}
    (h : specialNumber? s = some (v, rest)) : isClosedValue v = false := by
  unfold specialNumber? at h
  simp only at h
  split at h
  · cases h
    rfl
  · cases h
    rfl
  · cases h

theorem isClosedValue_scalar {s rest : Text} {v : Value} (h : scalar s = .ok (v, rest)) :
    isClosedValue v = false := by
  unfold scalar at h
  split at h
  · cases h
    rfl
  split at h
  · cases h
    rfl
  split at h
  · next hread =>
    cases h
    exact isClosedValue_moment? hread
  split at h
  · next hread =>
    cases h
    exact isClosedValue_radixNumber? hread
  split at h
  · next hread =>
    cases h
    exact isClosedValue_decimalNumber? hread
  split at h
  · next hread =>
    cases h
    exact isClosedValue_specialNumber? hread
  · cases h

/-- What the three readers of values return has no table with two fields of one name. -/
structure ReadsDistinct (fuel : Nat) : Prop where
  value {s rest : Text} {v : Value} : value fuel s = .ok (v, rest) → v.Distinct
  items {s rest : Text} {vs : List Value} : items fuel s = .ok (vs, rest) → ∀ v ∈ vs, v.Distinct
  fields {closed : List KeyPath} {done done' : Fields} {s rest : Text} : done.Distinct →
    fields fuel closed done s = .ok (done', rest) → done'.Distinct

namespace ReadsDistinct

variable {fuel : Nat} {s rest : Text}

theorem value_succ (ih : ReadsDistinct fuel) {v : Value}
    (h : Toml.value (fuel + 1) s = .ok (v, rest)) : v.Distinct := by
  unfold Toml.value at h
  split at h
  · obtain ⟨s, -, h⟩ := bind_eq_ok h
    split at h
    · cases h
      exact .list nofun
    · obtain ⟨⟨vs, s⟩, hitems, h⟩ := bind_eq_ok h
      cases h
      exact .list (ih.items hitems)
  · split at h
    · cases h
      exact Fields.distinct_nil
    · obtain ⟨⟨done, s⟩, hfields, h⟩ := bind_eq_ok h
      cases h
      exact ih.fields Fields.distinct_nil hfields
  · obtain ⟨⟨body, s⟩, -, h⟩ := bind_eq_ok h
    cases h
    exact .single rfl
  · obtain ⟨⟨body, s⟩, -, h⟩ := bind_eq_ok h
    cases h
    exact .single rfl
  · exact .single (isClosedValue_scalar h)

theorem items_succ (ih : ReadsDistinct fuel) {vs : List Value}
    (h : Toml.items (fuel + 1) s = .ok (vs, rest)) : ∀ v ∈ vs, v.Distinct := by
  unfold Toml.items at h
  obtain ⟨⟨item, s⟩, hitem, h⟩ := bind_eq_ok h
  have hitem := ih.value hitem
  obtain ⟨s, -, h⟩ := bind_eq_ok h
  split at h
  · cases h
    exact List.forall_mem_singleton.mpr hitem
  · obtain ⟨s, -, h⟩ := bind_eq_ok h
    split at h
    · cases h
      exact List.forall_mem_singleton.mpr hitem
    · obtain ⟨⟨vs, s⟩, hrest, h⟩ := bind_eq_ok h
      cases h
      exact List.forall_mem_cons.mpr ⟨hitem, ih.items hrest⟩
  · cases h

theorem fields_succ (ih : ReadsDistinct fuel) {closed : List KeyPath} {done done' : Fields}
    (hdone : done.Distinct) (h : Toml.fields (fuel + 1) closed done s = .ok (done', rest)) :
    done'.Distinct := by
  unfold Toml.fields at h
  obtain ⟨⟨path, s⟩, -, h⟩ := bind_eq_ok h
  dsimp only at h
  split at h
  · obtain ⟨⟨v, s⟩, hv, h⟩ := bind_eq_ok h
    simp only at h
    split at h
    · cases h
    · obtain ⟨changed, hchanged, h⟩ := bind_eq_ok h
      have hchanged := preserves_changeAt (preserves_addNew _ (ih.value hv)) _ hdone hchanged
      split at h
      · cases h
        exact hchanged
      · exact ih.fields hchanged h
      · cases h
  · cases h

end ReadsDistinct

theorem readsDistinct (fuel : Nat) : ReadsDistinct fuel := by
  induction fuel with
  | zero => exact ⟨nofun, nofun, nofun⟩
  | succ fuel ih => exact ⟨ih.value_succ, ih.items_succ, ih.fields_succ⟩

/-! ## Statements -/

theorem Progress.distinct_assign {p p' : Progress} {path : KeyPath} {v : Value}
    (hp : p.data.Distinct) (hv : v.Distinct) (h : p.assign path v = .ok p') : p'.data.Distinct := by
  unfold Progress.assign at h
  simp only at h
  split at h
  · cases h
  · obtain ⟨data, hdata, h⟩ := bind_eq_ok h
    cases h
    exact preserves_changeAt (preserves_addNew _ hv) _ hp hdata

theorem Progress.distinct_openTable (p : Progress) {p' : Progress} {path : KeyPath}
    (hp : p.data.Distinct) (h : p.openTable path = .ok p') : p'.data.Distinct := by
  unfold Progress.openTable at h
  simp only at h
  split at h
  · cases h
  · obtain ⟨data, hdata, h⟩ := bind_eq_ok h
    cases h
    exact preserves_changeAt preserves_ok _ hp hdata

theorem Progress.distinct_openItem (p : Progress) {p' : Progress} {path : KeyPath}
    (hp : p.data.Distinct) (h : p.openItem path = .ok p') : p'.data.Distinct := by
  unfold Progress.openItem at h
  simp only at h
  split at h
  · cases h
  · obtain ⟨data, hdata, h⟩ := bind_eq_ok h
    cases h
    exact preserves_changeAt (preserves_addTable _) _ hp hdata

theorem distinct_statement {p p' : Progress} {s rest : Text} (hp : p.data.Distinct)
    (h : statement p s = .ok (p', rest)) : p'.data.Distinct := by
  unfold statement at h
  split at h
  · obtain ⟨⟨path, s⟩, -, h⟩ := bind_eq_ok h
    obtain ⟨p'', hp'', h⟩ := bind_eq_ok h
    split at h
    · cases h
      exact p.settle.distinct_openItem hp hp''
    · cases h
  · obtain ⟨⟨path, s⟩, -, h⟩ := bind_eq_ok h
    obtain ⟨p'', hp'', h⟩ := bind_eq_ok h
    split at h
    · cases h
      exact p.settle.distinct_openTable hp hp''
    · cases h
  · obtain ⟨⟨path, s⟩, -, h⟩ := bind_eq_ok h
    dsimp only at h
    split at h
    · obtain ⟨⟨v, s⟩, hv, h⟩ := bind_eq_ok h
      obtain ⟨p'', hp'', h⟩ := bind_eq_ok h
      cases h
      exact Progress.distinct_assign hp ((readsDistinct _).value hv) hp''
    · cases h

theorem distinct_statements {p p' : Progress} {fuel : Nat} {s : Text} (hp : p.data.Distinct)
    (h : statements fuel p s = .ok p') : p'.data.Distinct := by
  induction fuel generalizing p s with
  | zero => cases h
  | succ fuel ih =>
    unfold statements at h
    split at h
    · cases h
      exact hp
    · exact ih hp h
    · simp only at h
      split at h
      · obtain ⟨-, ⟨⟩, h⟩ := bind_eq_ok h
        obtain ⟨s, -, h⟩ := bind_eq_ok h
        split at h
        · cases h
          exact hp
        · exact ih hp h
        · cases h
      · obtain ⟨⟨q, s⟩, hq, h⟩ := bind_eq_ok h
        have hq := distinct_statement hp hq
        obtain ⟨s, -, h⟩ := bind_eq_ok h
        split at h
        · cases h
          exact hq
        · exact ih hq h
        · cases h

/-- A text that writes a table writes no field of it twice. -/
theorem distinct_parse {s : Text} {fields : Fields} (h : parse s = .ok fields) :
    fields.Distinct := by
  obtain ⟨p, hp, h⟩ := bind_eq_ok h
  cases h
  exact distinct_statements Fields.distinct_nil hp

end Toml

/-! ## Layers -/

namespace Settings.Layer

theorem distinct_follow {table : List Text} {v : Value} (h : v.Distinct) :
    (follow table v).Distinct := by
  fun_induction follow table v with
  | case1 v => exact h
  | case2 name rest fields ih =>
    apply ih
    cases hget : Fields.get? fields name with
    | none => exact Fields.distinct_nil
    | some v => exact Fields.Distinct.get? h hget
  | case3 => exact Fields.distinct_nil

/-- The fields of a layer have different names. -/
theorem distinct_load {t : FileTree} {cwd : List Text} {layer : Layer} {fields : Fields}
    (h : layer.load t cwd = .ok fields) : fields.Distinct := by
  unfold load at h
  split at h
  · cases h
  · cases h
    exact Fields.distinct_nil
  · split at h
    · cases h
    · unfold fieldsIn at h
      split at h
      · cases h
      · split at h
        · cases h
        · cases h
        · next parsed hparse =>
          have hfollow : (follow layer.table (.table parsed)).Distinct :=
            distinct_follow (Toml.distinct_parse hparse)
          split at h
          · next hfields =>
            cases h
            rwa [hfields] at hfollow
          · cases h

end Settings.Layer

end Marginalia
