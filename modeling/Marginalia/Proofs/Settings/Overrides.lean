import Marginalia.Proofs.Settings.Merging

/-!
# Overrides

Changes of settings compose: to make some and then others gives what the others give that are laid
over the first ones.  The settings in between are read from their own table, so this needs that a
table of settings is read as those settings (`writtenIn_toFields`).

A null changes nothing, but it has a place among the changes, and the refusals of unknown names come
in the order of the changes.  So a null for an unknown name can move the refusal of that name
forwards: `null_moves_refusal`.

The main statement is `overrides_compose`.
-/

namespace Marginalia

/-! ## Changes of tables -/

namespace Fields

variable {front back fields changes : Fields} {name : Text} {v : Value}

theorem set_append (h : name ∉ front.map Prod.fst) :
    (front ++ back : Fields).set name v = front ++ back.set name v := by
  induction front with
  | nil => rfl
  | cons field rest ih =>
    rw [List.map_cons, List.mem_cons, not_or] at h
    rw [List.cons_append, set, if_neg (Ne.symm h.1), ih h.2, List.cons_append]

/-- Changes of other names leave a table as it is. -/
theorem update_append (h : ∀ change ∈ changes, change.1 ∉ front.map Prod.fst) :
    (front ++ back : Fields).update changes = front ++ back.update changes := by
  induction changes generalizing back with
  | nil => rfl
  | cons change rest ih =>
    obtain ⟨hchange, hrest⟩ := List.forall_mem_cons.mp h
    show Fields.update (Fields.set (front ++ back) change.1 change.2) rest = _
    rw [set_append hchange]
    exact ih hrest

theorem update_nil_of_nodup (h : (fields.map Prod.fst).Nodup) :
    Fields.update [] fields = fields := by
  induction fields with
  | nil => rfl
  | cons field rest ih =>
    rw [List.map_cons, List.nodup_cons] at h
    have hrest : ∀ change ∈ rest, change.1 ∉ [field].map Prod.fst := by
      intro change hchange hfield
      rw [List.map_singleton, List.mem_singleton] at hfield
      exact h.1 (hfield ▸ List.mem_map_of_mem hchange)
    exact (@update_append [field] [] rest hrest).trans (congrArg _ (ih h.2))

theorem filter_set (p : Text → Bool) :
    (fields.set name v).filter (fun field => p field.1)
      = if p name then Fields.set (fields.filter fun field => p field.1) name v
        else fields.filter fun field => p field.1 := by
  induction fields with
  | nil =>
    cases hp : p name with
    | true => simp [set, hp]
    | false => simp [set, hp]
  | cons field rest ih =>
    by_cases hk : field.1 = name
    · subst hk
      cases hp : p field.1 with
      | true => simp [set, hp]
      | false => simp [set, hp]
    · rw [set, if_neg hk, List.filter_cons, List.filter_cons, ih]
      cases hp : p field.1 with
      | true =>
        cases hn : p name with
        | true => simp [set, hk]
        | false => simp
      | false => simp

theorem filter_update (p : Text → Bool) :
    (fields.update changes).filter (fun field => p field.1)
      = Fields.update (fields.filter fun field => p field.1)
          (changes.filter fun change => p change.1) := by
  induction changes generalizing fields with
  | nil => rfl
  | cons change rest ih =>
    show ((fields.set change.1 change.2).update rest).filter _ = _
    rw [ih, filter_set, List.filter_cons]
    split
    · rfl
    · rfl

theorem forall_mem_update {P : Value → Prop} (h : ∀ field ∈ fields, P field.2)
    (hchanges : ∀ change ∈ changes, P change.2) : ∀ field ∈ fields.update changes, P field.2 := by
  induction changes generalizing fields with
  | nil => exact h
  | cons change rest ih =>
    obtain ⟨hchange, hrest⟩ := List.forall_mem_cons.mp hchanges
    exact ih (forall_mem_set h hchange) hrest

end Fields

namespace Settings

/-! ## Nulls -/

/-- Whether a value is more than a null. -/
def isGiven : Value → Bool
  | .null => false
  | _ => true

theorem actual_eq (changes : Fields) :
    actual changes = changes.filter fun change => isGiven change.2 :=
  rfl

theorem isGiven_of_mem_actual {changes : Fields} :
    ∀ change ∈ actual changes, isGiven change.2 = true := by
  intro change hchange
  exact (List.mem_filter.mp hchange).2

theorem isGiven_of_mem_update {changes : Fields} (h : ∀ change ∈ changes, isGiven change.2 = true) :
    ∀ field ∈ Fields.update [] changes, isGiven field.2 = true :=
  Fields.forall_mem_update (P := fun v => isGiven v = true) (List.forall_mem_nil _) h

theorem isIdle_iff {changes : Fields} :
    isIdle changes ↔ ∀ change ∈ changes, change.2 = .null := by
  have hnull (v : Value) : isGiven v = false ↔ v = .null := by
    cases v <;> simp [isGiven]
  simp only [isIdle, actual_eq, List.isEmpty_iff, List.filter_eq_nil_iff, Bool.not_eq_true, hnull]

theorem nodup_map_fst_actual {changes : Fields} (h : (changes.map Prod.fst).Nodup) :
    ((actual changes).map Prod.fst).Nodup :=
  h.sublist (List.filter_sublist.map _)

theorem get?_actual {changes : Fields} (h : (changes.map Prod.fst).Nodup) (name : Text) :
    (actual changes).get? name = (changes.get? name).filter isGiven := by
  induction changes with
  | nil => rfl
  | cons change rest ih =>
    obtain ⟨k, v⟩ := change
    rw [List.map_cons, List.nodup_cons] at h
    have hrest : Fields.get? rest k = none := Fields.get?_eq_none_iff.mpr h.1
    have ih : Fields.get? (rest.filter fun change => isGiven change.2) name
        = (Fields.get? rest name).filter isGiven := ih h.2
    rw [actual_eq, List.filter_cons, Fields.get?_cons]
    by_cases hname : name = k
    · subst hname
      rw [if_pos rfl, Option.filter_some]
      split
      · rw [Fields.get?_cons, if_pos rfl]
      · rw [ih, hrest]
        rfl
    · rw [if_neg hname, ← ih]
      split
      · rw [Fields.get?_cons, if_neg hname]
      · rfl

/-! ## Unknown names -/

/-- The fields whose names are none of settings. -/
def unknown (fields : Fields) : Fields :=
  fields.filter fun field => !names.contains field.1

/-- What is said of a name that is none of a setting. -/
def unknownIssue (name : Text) : Issue :=
  ⟨[.field name], .extraForbidden⟩

/-- The settings in a table, whatever else is in it. -/
def settingsIn (fields : Fields) : Checked (Unit → Settings) :=
  (Checked.pure fun allowList detailLevel goBinary emoji color (_ : Unit) =>
      (⟨allowList, detailLevel, goBinary, emoji, color⟩ : Settings))
    |>.ap (fields.withDefault "allow_list".toList standard.allowList allowListOf)
    |>.ap (fields.withDefault "detail_level".toList standard.detailLevel Value.toPositive)
    |>.ap (fields.withDefault "go_binary".toList standard.goBinary Value.toText)
    |>.ap (fields.withDefault "emoji".toList standard.emoji Value.toBool)
    |>.ap (fields.withDefault "color".toList standard.color Value.toBool)

theorem ofFields_eq (fields : Fields) :
    ofFields fields = (settingsIn fields).ap (fields.onlyKnown names) :=
  rfl

theorem onlyKnown_eq (fields : Fields) :
    fields.onlyKnown names
      = if unknown fields = [] then .ok ()
        else .error (((unknown fields).map Prod.fst).map unknownIssue) := by
  rw [Fields.onlyKnown, unknown]
  split
  · next h => rw [if_pos h]
  · next hne =>
    rw [if_neg hne, List.map_map]
    rfl

/-- Outcomes that are the same but for the order of unknown names: the same settings, or refusals
that agree on the issues of settings and then refuse the same names that are none of settings. -/
inductive SameOutcome (source : Text) : Except Refusal Settings → Except Refusal Settings → Prop
  /-- The same settings. -/
  | settled {s : Settings} : SameOutcome source (.ok s) (.ok s)
  /-- The same issues, where unknown names come last. -/
  | refused {issues : List Issue} {extra extra' : List Text} : extra.Perm extra' →
    SameOutcome source (.error (.invalid source (issues ++ extra.map unknownIssue)))
      (.error (.invalid source (issues ++ extra'.map unknownIssue)))

theorem load_same {source : Text} {fields fields' : Fields}
    (hsettings : settingsIn fields' = settingsIn fields)
    (hunknown : ((unknown fields').map Prod.fst).Perm ((unknown fields).map Prod.fst)) :
    SameOutcome source (load source fields') (load source fields) := by
  have hnil : unknown fields' = [] ↔ unknown fields = [] := by
    rw [← List.map_eq_nil_iff (f := Prod.fst), ← List.map_eq_nil_iff (f := Prod.fst)]
    exact ⟨fun h => (h ▸ hunknown).nil_eq.symm, fun h => (h ▸ hunknown).eq_nil⟩
  rw [load, load, ofFields_eq, ofFields_eq, onlyKnown_eq, onlyKnown_eq, hsettings]
  by_cases h : unknown fields = []
  · rw [if_pos h, if_pos (hnil.mpr h)]
    cases settingsIn fields with
    | ok make => exact .settled
    | error issues =>
      have hrefused : SameOutcome source (.error (.invalid source (issues ++ [].map unknownIssue)))
          (.error (.invalid source (issues ++ [].map unknownIssue))) := .refused (.refl _)
      rwa [List.map_nil, List.append_nil] at hrefused
  · rw [if_neg h, if_neg (mt hnil.mp h)]
    cases settingsIn fields with
    | ok make => exact @SameOutcome.refused source [] _ _ hunknown
    | error issues => exact .refused hunknown

theorem load_congr {source : Text} {fields fields' : Fields}
    (hsettings : settingsIn fields' = settingsIn fields)
    (hunknown : unknown fields' = unknown fields) : load source fields' = load source fields := by
  rw [load, load, ofFields_eq, ofFields_eq, onlyKnown_eq, onlyKnown_eq, hsettings, hunknown]

/-! ## Changes of settings -/

theorem settingsIn_congr {fields fields' : Fields}
    (h : ∀ name, fields'.get? name = fields.get? name) : settingsIn fields' = settingsIn fields := by
  simp only [settingsIn, Fields.withDefault, h]

/-- What is read from a changed table hangs on the changes and on what was read before them. -/
theorem settingsIn_update {fields fields' changes : Fields} {s : Settings}
    (h : WrittenIn fields s) (h' : WrittenIn fields' s) :
    settingsIn (fields'.update changes) = settingsIn (fields.update changes) := by
  have same {α : Type} {name : Text} {standard a : α} {read : Value → Checked α}
      (h : fields.Gives name standard read a) (h' : fields'.Gives name standard read a) :
      (fields'.update changes).withDefault name standard read
        = (fields.update changes).withDefault name standard read := by
    have hread := (Fields.withDefault_eq_ok_iff.mpr h').trans
      (Fields.withDefault_eq_ok_iff.mpr h).symm
    rw [Fields.withDefault, Fields.withDefault] at hread ⊢
    rw [Fields.get?_update fields', Fields.get?_update fields]
    cases (Fields.update [] changes).get? name with
    | some v => rfl
    | none => exact hread
  rw [settingsIn, settingsIn, same h.allowList h'.allowList, same h.detailLevel h'.detailLevel,
    same h.goBinary h'.goBinary, same h.emoji h'.emoji, same h.color h'.color]

theorem unknown_of_writtenIn {fields : Fields} {s : Settings} (h : WrittenIn fields s) :
    unknown fields = [] := by
  have hknown := Fields.onlyKnown_eq_ok_iff (u := ()).mpr h.known
  rw [onlyKnown_eq] at hknown
  by_contra hne
  rw [if_neg hne] at hknown
  cases hknown

theorem unknown_update {fields changes : Fields} {s : Settings} (h : WrittenIn fields s) :
    unknown (fields.update changes) = Fields.update [] (unknown changes) := by
  have hfilter := @Fields.filter_update fields changes fun name => !names.contains name
  exact hfilter.trans (congrArg (Fields.update · _) (unknown_of_writtenIn h))

theorem override_eq_load {s : Settings} {changes : Fields} (h : changes.get? ownName = none) :
    s.override changes = load "overrides".toList (s.toFields.update (actual changes)) := by
  have hchanged : s.withChanges changes = ofFields (s.toFields.update (actual changes)) := by
    rw [withChanges]
    split
    · next hidle =>
      rw [isIdle, List.isEmpty_iff] at hidle
      rw [hidle]
      exact (ofFields_eq_ok_iff.mpr (writtenIn_toFields s)).symm
    · rfl
  rw [override, h, hchanged]
  rfl

section
variable {fields a b : Fields} {s s' : Settings}

/-- The values of changes that are made in two steps are those of the changes put together. -/
theorem get?_update_actual (ha : (a.map Prod.fst).Nodup) (name : Text) :
    (fields.update (actual (a.update (actual b)))).get? name
      = ((fields.update (actual a)).update (actual b)).get? name := by
  have hnodup : ((a.update (actual b)).map Prod.fst).Nodup := Fields.nodup_map_fst_update ha
  rw [Fields.get?_update_of_nodup (nodup_map_fst_actual hnodup), get?_actual hnodup,
    Fields.get?_update a, Fields.get?_update (fields.update (actual a)),
    Fields.get?_update_of_nodup (nodup_map_fst_actual ha), get?_actual ha]
  cases h : (Fields.update [] (actual b)).get? name with
  | none => rw [Option.none_or, Option.none_or]
  | some v =>
    have hv : isGiven v = true :=
      isGiven_of_mem_update isGiven_of_mem_actual (name, v) (Fields.mem_of_get? h)
    rw [Option.some_or, Option.filter_some, if_pos hv]
    rfl

theorem nodup_map_fst_unknown (h : (fields.map Prod.fst).Nodup) :
    ((unknown fields).map Prod.fst).Nodup :=
  h.sublist (List.filter_sublist.map _)

theorem unknown_actual (changes : Fields) : unknown (actual changes) = actual (unknown changes) :=
  List.filter_comm _ _ _

/-- Changes that settings come of give values to names of settings only. -/
theorem actual_unknown_of_writtenIn (h : WrittenIn (s.toFields.update (actual a)) s') :
    actual (unknown a) = [] := by
  have hnone := unknown_of_writtenIn h
  rw [unknown_update (writtenIn_toFields s), unknown_actual] at hnone
  cases hunknown : actual (unknown a) with
  | nil => rfl
  | cons change rest =>
    have hsome : ((Fields.update [] (change :: rest)).get? change.1).isSome := by
      rw [Fields.isSome_get?_update, Fields.isSome_get?_iff]
      exact List.mem_cons_self
    rw [← hunknown, hnone] at hsome
    cases hsome

theorem unknown_update_actual (ha : (a.map Prod.fst).Nodup) :
    unknown (s.toFields.update (actual (a.update (actual b))))
      = actual ((unknown a).update (unknown (actual b))) := by
  have hfilter : unknown (a.update (actual b)) = (unknown a).update (unknown (actual b)) :=
    @Fields.filter_update a (actual b) fun name => !names.contains name
  rw [unknown_update (writtenIn_toFields s), unknown_actual, hfilter]
  exact Fields.update_nil_of_nodup
    (nodup_map_fst_actual (Fields.nodup_map_fst_update (nodup_map_fst_unknown ha)))

/-- Nulls that are laid under values leave no trace but the order of the names. -/
theorem perm_actual_update (ha : (a.map Prod.fst).Nodup) (hnulls : actual a = [])
    (hb : ∀ change ∈ b, isGiven change.2 = true) :
    ((actual (a.update b)).map Prod.fst).Perm ((Fields.update [] b).map Prod.fst) := by
  have hnodup : ((a.update b).map Prod.fst).Nodup := Fields.nodup_map_fst_update ha
  have hnodup' : ((Fields.update [] b).map Prod.fst).Nodup :=
    Fields.nodup_map_fst_update List.nodup_nil
  refine (List.perm_ext_iff_of_nodup (nodup_map_fst_actual hnodup) hnodup').mpr fun name => ?_
  have hnull : (a.get? name).filter isGiven = none := by
    rw [← get?_actual ha, hnulls]
    rfl
  rw [← Fields.isSome_get?_iff, ← Fields.isSome_get?_iff, get?_actual hnodup, Fields.get?_update a]
  cases h : (Fields.update [] b).get? name with
  | none => rw [Option.none_or, hnull]
  | some v =>
    have hv : isGiven v = true := isGiven_of_mem_update hb (name, v) (Fields.mem_of_get? h)
    rw [Option.some_or, Option.filter_some, if_pos hv]

/-- Nulls that are laid under values of other names leave no trace. -/
theorem actual_update_of_disjoint (hnulls : actual a = [])
    (hb : ∀ change ∈ b, isGiven change.2 = true)
    (hdisjoint : ∀ change ∈ b, change.1 ∉ a.map Prod.fst) :
    actual (a.update b) = Fields.update [] b := by
  have happend : a.update b = a ++ Fields.update [] b := by
    have h := @Fields.update_append a [] b hdisjoint
    rwa [List.append_nil] at h
  rw [happend, actual_eq, List.filter_append, ← actual_eq, hnulls, List.nil_append,
    List.filter_eq_self]
  exact isGiven_of_mem_update hb

theorem writtenIn_of_override (h : s.override a = .ok s') :
    a.get? ownName = none ∧ WrittenIn (s.toFields.update (actual a)) s' := by
  have hown : a.get? ownName = none := by
    rw [override] at h
    split at h
    · cases h
    · next hown => exact Option.not_isSome_iff_eq_none.mp hown
  rw [override_eq_load hown] at h
  exact ⟨hown, load_eq_ok_iff.mp h⟩

theorem get?_ownName_update (ha : a.get? ownName = none) (hb : b.get? ownName = none) :
    (a.update (actual b)).get? ownName = none := by
  have hactual : (actual b).get? ownName = none :=
    Fields.get?_eq_none_iff.mpr fun h =>
      Fields.get?_eq_none_iff.mp hb ((List.filter_sublist.map _).subset h)
  have hsome := Fields.isSome_get?_update (actual b) ownName
  rw [hactual, Option.isSome_none, Option.isSome_eq_false_iff, Option.isNone_iff_eq_none] at hsome
  rw [Fields.get?_update, ha, hsome, Option.or_none]

end

/-! ## Records -/

/-- Kept records of settings, after the one at a place has been overridden, and the place of the
outcome.  With nothing to change the outcome is that record itself, else it is a new one. -/
def overrideAt (records : List (Kept Settings)) (n : Fin records.length) (changes : Fields) :
    List (Kept Settings) × Except Refusal Nat :=
  match records[n].record.override changes with
  | .error r => (records, .error r)
  | .ok s =>
    if isIdle changes then (records, .ok n)
    else (records ++ [.ofRecord s], .ok records.length)

theorem getElem?_overrideAt (records : List (Kept Settings)) (n : Fin records.length)
    (changes : Fields) {i : Nat} (hi : i < records.length) :
    (overrideAt records n changes).1[i]? = records[i]? := by
  rw [overrideAt]
  split
  · rfl
  · split
    · rfl
    · exact List.getElem?_append_left hi

theorem overrideAt_of_nulls (records : List (Kept Settings)) (n : Fin records.length)
    {changes : Fields} (hown : changes.get? ownName = none)
    (h : ∀ change ∈ changes, change.2 = .null) :
    overrideAt records n changes = (records, .ok n) := by
  have hidle := isIdle_iff.mpr h
  rw [overrideAt, override, hown, withChanges, if_pos hidle]
  exact if_pos hidle

/-! ## Overrides in two steps -/

/-- To override settings twice gives what the changes give together: the same settings, or the same
issues, where unknown names may come in another order if the first changes have a null for an
unknown name that the second ones give a value.  No record changes by it, nulls give back the same
record, and settings are read from their own table as they are. -/
theorem overrides_compose {s s' : Settings} {a b : Fields} (ha : (a.map Prod.fst).Nodup)
    (hb : b.get? ownName = none) (hs : s.override a = .ok s') :
    SameOutcome "overrides".toList (s'.override b) (s.override (a.update (actual b))) ∧
    ((∀ name, name ∉ names → (a.get? name).isSome → (actual b).get? name = none) →
      s'.override b = s.override (a.update (actual b))) ∧
    (∀ records n changes i, i < records.length →
      (overrideAt records n changes).1[i]? = records[i]?) ∧
    (∀ records n changes, changes.get? ownName = none → (∀ change ∈ changes, change.2 = .null) →
      overrideAt records n changes = (records, .ok n)) ∧
    ∀ source r, load source r.toFields = .ok r := by
  obtain ⟨hown, hwritten⟩ := writtenIn_of_override hs
  have hnulls := actual_unknown_of_writtenIn hwritten
  have hgiven : ∀ change ∈ unknown (actual b), isGiven change.2 = true :=
    fun change hchange => isGiven_of_mem_actual change (List.mem_filter.mp hchange).1
  have hsettings : settingsIn (s'.toFields.update (actual b))
      = settingsIn (s.toFields.update (actual (a.update (actual b)))) :=
    (settingsIn_update hwritten (writtenIn_toFields s')).trans
      (settingsIn_congr (get?_update_actual ha)).symm
  have htwice := @unknown_update s'.toFields (actual b) s' (writtenIn_toFields s')
  have honce := @unknown_update_actual a b s ha
  rw [override_eq_load hb, override_eq_load (get?_ownName_update hown hb)]
  refine ⟨?_, fun hdisjoint => ?_, fun records n changes i hi => getElem?_overrideAt _ _ _ hi,
    fun records n changes => overrideAt_of_nulls records n,
    fun source r => load_eq_ok_iff.mpr (writtenIn_toFields r)⟩
  · refine load_same hsettings ?_
    rw [htwice, honce]
    exact (perm_actual_update (nodup_map_fst_unknown ha) hnulls hgiven).symm
  · refine load_congr hsettings ?_
    rw [htwice, honce, actual_update_of_disjoint hnulls hgiven]
    intro change hchange hmem
    obtain ⟨field, hfield, hname⟩ := List.mem_map.mp hmem
    obtain ⟨hfield, hnot⟩ := List.mem_filter.mp hfield
    have hsome : (a.get? change.1).isSome :=
      Fields.isSome_get?_iff.mpr (hname ▸ List.mem_map_of_mem hfield)
    have hactual : ((actual b).get? change.1).isSome :=
      Fields.isSome_get?_iff.mpr (List.mem_map_of_mem (List.mem_filter.mp hchange).1)
    rw [hdisjoint change.1 (by simpa [hname] using hnot) hsome] at hactual
    cases hactual

theorem overrides_compose_of_words :
    let a : Fields := [("allow_list".toList, .text ['m']), ("detail_level".toList, .text " 2".toList),
      ("emoji".toList, .text "no".toList), ("color".toList, .null), (['x'], .null)]
    let b : Fields := [("color".toList, .text "off".toList), ("allow_list".toList, .null)]
    let s : Settings := ⟨[['m']], ⟨2, by decide⟩, "go".toList, false, true⟩
    (a.map Prod.fst).Nodup ∧ b.get? ownName = none ∧ standard.override a = .ok s ∧
      s.override b = standard.override (a.update (actual b)) ∧
      s.override b = .ok { s with color := false } := by
  intro a b s
  have ha : (a.map Prod.fst).Nodup := by decide
  have hs : standard.override a = .ok s := rfl
  obtain ⟨-, hequal, -⟩ := @overrides_compose standard s a b ha rfl hs
  have hapart : ∀ name ∈ a.map Prod.fst, name ∉ names → ((actual b).get? name).isNone := by decide
  refine ⟨ha, rfl, hs, hequal fun name hname hsome => ?_, rfl⟩
  exact Option.isNone_iff_eq_none.mp (hapart name (Fields.isSome_get?_iff.mp hsome) hname)

/-- With a null for the first of two unknown names that are then given values, the two are refused
in one order after the other changes, and in the other order together with them. -/
theorem null_moves_refusal :
    let a : Fields := [(['x'], .null)]
    let b : Fields := [(['y'], .integer 1), (['x'], .integer 2)]
    standard.override a = .ok standard ∧
      standard.override b
        = .error (.invalid "overrides".toList [unknownIssue ['y'], unknownIssue ['x']]) ∧
      standard.override (a.update (actual b))
        = .error (.invalid "overrides".toList [unknownIssue ['x'], unknownIssue ['y']]) ∧
      standard.override b ≠ standard.override (a.update (actual b)) := by
  intro a b
  have hb : standard.override b
      = .error (.invalid "overrides".toList [unknownIssue ['y'], unknownIssue ['x']]) := rfl
  have hab : standard.override (a.update (actual b))
      = .error (.invalid "overrides".toList [unknownIssue ['x'], unknownIssue ['y']]) := rfl
  refine ⟨rfl, hb, hab, fun h => ?_⟩
  rw [hb, hab] at h
  cases h

end Settings

end Marginalia
