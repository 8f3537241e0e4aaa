import Marginalia.Proofs.Settings.Choice
import Marginalia.Proofs.Text.Pieces
import Marginalia.Proofs.Toml.Distinct

/-!
# Merged layers

Layers are laid over each other before anything is read from them.  So what a layer says of a
setting counts only if no later layer says something of that setting, and only then need it be
valid.  The names that a layer uses, in contrast, must all be names of settings.

The main statement is `layers_merge_by_name`: when layers stand for settings and for which, how
their refusal reads, and which layers make no difference.
-/

namespace Marginalia

/-! ## Tables laid over each other -/

namespace Fields

variable {fields fields' : Fields} {name : Text}

/-- In a table that names each field once, the values that are laid over others are its own. -/
theorem get?_update_of_nodup {changes : Fields} (h : (changes.map Prod.fst).Nodup) :
    (fields.update changes).get? name = (changes.get? name).or (fields.get? name) := by
  rw [get?_update]
  congr 1
  induction changes with
  | nil => rfl
  | cons change rest ih =>
    obtain ⟨k, v⟩ := change
    rw [List.map_cons, List.nodup_cons] at h
    show (Fields.update (Fields.set [] k v) rest).get? name = Fields.get? ((k, v) :: rest) name
    rw [get?_update, ih h.2, get?_set, get?_cons]
    by_cases hname : name = k
    · have hrest : Fields.get? rest name = none := get?_eq_none_iff.mpr (hname ▸ h.1)
      rw [hrest, Option.none_or, if_pos hname, if_pos hname]
    · rw [if_neg hname, if_neg hname]
      exact Option.or_none

/-- The value of a name in the last of the tables that have one for it. -/
def lastValue? (tables : List Fields) (name : Text) : Option Value :=
  tables.reverse.findSome? (Fields.get? · name)

theorem lastValue?_cons (fields : Fields) (tables : List Fields) (name : Text) :
    lastValue? (fields :: tables) name = (lastValue? tables name).or (fields.get? name) := by
  rw [lastValue?, List.reverse_cons, List.findSome?_append, List.findSome?_singleton, lastValue?]

theorem lastValue?_append (front back : List Fields) (name : Text) :
    lastValue? (front ++ back) name = (lastValue? back name).or (lastValue? front name) := by
  rw [lastValue?, List.reverse_append, List.findSome?_append, lastValue?, lastValue?]

theorem get?_foldl_update {tables : List Fields}
    (h : ∀ table ∈ tables, (table.map Prod.fst).Nodup) :
    (tables.foldl Fields.update fields).get? name
      = (lastValue? tables name).or (fields.get? name) := by
  induction tables generalizing fields with
  | nil => rfl
  | cons table rest ih =>
    obtain ⟨htable, hrest⟩ := List.forall_mem_cons.mp h
    rw [List.foldl_cons, ih hrest, get?_update_of_nodup htable, lastValue?_cons, Option.or_assoc]

theorem isSome_lastValue?_iff {tables : List Fields} :
    (lastValue? tables name).isSome ↔ ∃ table ∈ tables, name ∈ table.map Prod.fst := by
  simp [lastValue?, isSome_get?_iff]

theorem get?_cons_congr {k : Text} {v v' : Value} (hv : name = k → v' = v)
    (h : fields'.get? name = fields.get? name) :
    Fields.get? ((k, v') :: fields') name = Fields.get? ((k, v) :: fields) name := by
  rw [get?_cons, get?_cons, h]
  by_cases hname : name = k
  · rw [hv hname]
  · rw [if_neg hname, if_neg hname]

/-! ## Their names -/

/-- Names after another one has been met. -/
def meet (names : List Text) (name : Text) : List Text :=
  if name ∈ names then names else names ++ [name]

theorem map_fst_update (fields changes : Fields) :
    (fields.update changes).map Prod.fst
      = (changes.map Prod.fst).foldl meet (fields.map Prod.fst) := by
  rw [update, List.foldl_map]
  exact (List.foldl_hom (List.map Prod.fst) fun fields change => map_fst_set.symm).symm

theorem foldl_update_eq (fields : Fields) (tables : List Fields) :
    tables.foldl Fields.update fields = fields.update tables.flatten :=
  List.foldl_flatten.symm

theorem nodup_map_fst_update {changes : Fields} (h : (fields.map Prod.fst).Nodup) :
    ((fields.update changes).map Prod.fst).Nodup := by
  induction changes generalizing fields with
  | nil => exact h
  | cons change rest ih => exact ih (nodup_map_fst_set h)

/-- Which names stand where is settled by the names alone. -/
theorem map_fst_foldl_update_congr {tables tables' : List Fields}
    (h : tables'.map (List.map Prod.fst) = tables.map (List.map Prod.fst)) :
    (tables'.foldl Fields.update fields).map Prod.fst
      = (tables.foldl Fields.update fields).map Prod.fst := by
  rw [foldl_update_eq, foldl_update_eq, map_fst_update, map_fst_update, List.map_flatten,
    List.map_flatten, h]

theorem eq_of_get? (h : (fields.map Prod.fst).Nodup)
    (hnames : fields'.map Prod.fst = fields.map Prod.fst)
    (hvalues : ∀ name, fields'.get? name = fields.get? name) : fields' = fields := by
  induction fields generalizing fields' with
  | nil => exact List.map_eq_nil_iff.mp hnames
  | cons field rest ih =>
    obtain ⟨⟨k, v'⟩, rest', rfl, hk, hrest⟩ := List.map_eq_cons_iff.mp hnames
    obtain ⟨k, v⟩ := field
    cases hk
    rw [List.map_cons, List.nodup_cons] at h
    have hv : some v' = some v := by
      have hk := hvalues k
      rwa [get?_cons, get?_cons, if_pos rfl, if_pos rfl] at hk
    have htails : ∀ name, Fields.get? rest' name = Fields.get? rest name := by
      intro name
      by_cases hname : name = k
      · have hnot : name ∉ rest.map Prod.fst := hname ▸ h.1
        rw [get?_eq_none_iff.mpr hnot, get?_eq_none_iff.mpr (hrest ▸ hnot)]
      · have hname' := hvalues name
        rwa [get?_cons, get?_cons, if_neg hname, if_neg hname] at hname'
    rw [Option.some.inj hv, ih h.2 hrest htails]

end Fields

namespace Settings

/-! ## Values of settings -/

/-- Each setting takes the value that it is given, if it is given one. -/
structure AllFit (value? : Text → Option Value) : Prop where
  allowList : ∀ v, value? "allow_list".toList = some v → ∃ a, allowListOf v = .ok a
  detailLevel : ∀ v, value? "detail_level".toList = some v → ∃ a, v.toPositive = .ok a
  goBinary : ∀ v, value? "go_binary".toList = some v → ∃ a, v.toText = .ok a
  emoji : ∀ v, value? "emoji".toList = some v → ∃ a, v.toBool = .ok a
  color : ∀ v, value? "color".toList = some v → ∃ a, v.toBool = .ok a

/-- A setting is what its value is read as, and the standard where there is no value. -/
def Taken {α : Type} (v? : Option Value) (standard : α) (read : Value → Checked α) (a : α) : Prop :=
  match v? with
  | some v => read v = .ok a
  | none => a = standard

/-- Each setting is what its value is read as, and the standard where it is given none. -/
structure Settled (value? : Text → Option Value) (s : Settings) : Prop where
  allowList : Taken (value? "allow_list".toList) standard.allowList allowListOf s.allowList
  detailLevel : Taken (value? "detail_level".toList) standard.detailLevel Value.toPositive
    s.detailLevel
  goBinary : Taken (value? "go_binary".toList) standard.goBinary Value.toText s.goBinary
  emoji : Taken (value? "emoji".toList) standard.emoji Value.toBool s.emoji
  color : Taken (value? "color".toList) standard.color Value.toBool s.color

theorem exists_taken_iff {α : Type} {v? : Option Value} {standard : α}
    {read : Value → Checked α} :
    (∃ a, Taken v? standard read a) ↔ ∀ v, v? = some v → ∃ a, read v = .ok a := by
  cases v? with
  | none => exact ⟨fun _ => nofun, fun _ => ⟨standard, rfl⟩⟩
  | some v =>
    constructor
    · intro ha v' hv'
      cases hv'
      exact ha
    · exact fun h => h v rfl

theorem Taken.unique {α : Type} {v? : Option Value} {standard : α} {read : Value → Checked α}
    {a b : α} (ha : Taken v? standard read a) (hb : Taken v? standard read b) : a = b := by
  cases v? with
  | none => exact Eq.trans ha (Eq.symm hb)
  | some v => exact Except.ok.inj (Eq.trans (Eq.symm ha) hb)

theorem exists_settled_iff {value? : Text → Option Value} :
    (∃ s, Settled value? s) ↔ AllFit value? := by
  constructor
  · rintro ⟨s, hs⟩
    exact ⟨exists_taken_iff.mp ⟨_, hs.allowList⟩, exists_taken_iff.mp ⟨_, hs.detailLevel⟩,
      exists_taken_iff.mp ⟨_, hs.goBinary⟩, exists_taken_iff.mp ⟨_, hs.emoji⟩,
      exists_taken_iff.mp ⟨_, hs.color⟩⟩
  · intro h
    obtain ⟨allowList, hallow⟩ := exists_taken_iff.mpr h.allowList
    obtain ⟨detailLevel, hdetail⟩ := exists_taken_iff.mpr h.detailLevel
    obtain ⟨goBinary, hgo⟩ := exists_taken_iff.mpr h.goBinary
    obtain ⟨emoji, hemoji⟩ := exists_taken_iff.mpr h.emoji
    obtain ⟨color, hcolor⟩ := exists_taken_iff.mpr h.color
    exact ⟨⟨allowList, detailLevel, goBinary, emoji, color⟩, hallow, hdetail, hgo, hemoji, hcolor⟩

theorem writtenIn_iff {fields : Fields} {s : Settings} :
    WrittenIn fields s
      ↔ Settled fields.get? s ∧ ∀ name, (fields.get? name).isSome → name ∈ names :=
  ⟨fun h => ⟨⟨h.allowList, h.detailLevel, h.goBinary, h.emoji, h.color⟩, h.known⟩,
    fun ⟨h, known⟩ => ⟨h.allowList, h.detailLevel, h.goBinary, h.emoji, h.color, known⟩⟩

/-- What two settings are given the same value for is the same in both. -/
theorem Settled.toFields_congr {value? value?' : Text → Option Value} {s s' : Settings}
    (hs : Settled value? s) (hs' : Settled value?' s') {name : Text}
    (h : value?' name = value? name) : s'.toFields.get? name = s.toFields.get? name := by
  have same {α : Type} {field : Text} {standard : α} {read : Value → Checked α} {a a' : α}
      (ha : Taken (value? field) standard read a) (ha' : Taken (value?' field) standard read a')
      (hname : name = field) : a' = a := by
    rw [← hname] at ha ha'
    rw [h] at ha'
    exact ha'.unique ha
  refine Fields.get?_cons_congr (fun hname => by rw [same hs.allowList hs'.allowList hname]) ?_
  refine Fields.get?_cons_congr (fun hname => by rw [same hs.detailLevel hs'.detailLevel hname]) ?_
  refine Fields.get?_cons_congr (fun hname => by rw [same hs.goBinary hs'.goBinary hname]) ?_
  refine Fields.get?_cons_congr (fun hname => by rw [same hs.emoji hs'.emoji hname]) ?_
  exact Fields.get?_cons_congr (fun hname => by rw [same hs.color hs'.color hname]) rfl

/-! ## Layers -/

/-- What layers are called together, each that has fields by its own description. -/
def calledTogether (tables : List (Layer × Fields)) : Text :=
  Text.join ", ".toList ((tables.filter fun e => !e.2.isEmpty).map fun e => e.1.describe)

/-- The value of a name in the last of the layers that have one for it. -/
def lastIn? (tables : List (Layer × Fields)) (name : Text) : Option Value :=
  Fields.lastValue? (tables.map Prod.snd) name

/-- A layer with the names of its fields. -/
def outline (e : Layer × Fields) : Layer × List Text :=
  (e.1, e.2.map Prod.fst)

section
variable {t : FileTree} {cwd : Path} {tables : List (Layer × Fields)}

theorem merge_snd (tables : List (Layer × Fields)) :
    (merge tables).2 = (tables.filter fun e => !e.2.isEmpty).map fun e => e.1.describe := by
  cases tables with
  | nil => rfl
  | cons => rfl

/-- Layers of which none says anything go by another name, but they stand for settings. -/
theorem ofLayers_eq_load (h : ∀ e ∈ tables, e.1.load t cwd.names = .ok e.2) :
    ofLayers t cwd (tables.map Prod.fst)
      = Settings.load (calledTogether tables)
          ((tables.map Prod.snd).foldl Fields.update []) := by
  rw [ofLayers_eq_bind, mapM_loaded_eq_ok h, calledTogether, ← merge_snd, List.foldl_map,
    ← merge_eq]
  show Settings.load _ (merge tables).1 = _
  split
  · next hnone =>
    have hmerged : (merge tables).1 = [] := by
      rw [merge_snd, List.isEmpty_iff, List.map_eq_nil_iff, List.filter_eq_nil_iff] at hnone
      rw [merge_eq]
      clear h
      induction tables with
      | nil => rfl
      | cons e rest ih =>
        obtain ⟨he, hrest⟩ := List.forall_mem_cons.mp hnone
        have he : e.2 = [] := by simpa using he
        rw [List.foldl_cons, he]
        exact ih hrest
    rw [hmerged]
    rfl
  · rfl

theorem merge_insert (front back : List (Layer × Fields)) (layer : Layer) :
    merge (front ++ (layer, []) :: back) = merge (front ++ back) := by
  refine Prod.ext ?_ ?_
  · simp only [merge_eq, List.foldl_append, List.foldl_cons]
    rfl
  · simp only [merge_snd, List.filter_append, List.filter_cons]
    rfl

theorem lookup_merged (h : ∀ e ∈ tables, e.1.load t cwd.names = .ok e.2) :
    ((tables.map Prod.snd).foldl Fields.update []).get? = lastIn? tables := by
  funext name
  rw [Fields.get?_foldl_update, lastIn?]
  · exact Option.or_none
  · exact List.forall_mem_map.mpr fun e he =>
      (Fields.distinct_iff.mp (Layer.distinct_load (h e he))).1

theorem ofLayers_eq_ok_iff (h : ∀ e ∈ tables, e.1.load t cwd.names = .ok e.2) {s : Settings} :
    ofLayers t cwd (tables.map Prod.fst) = .ok s ↔
      Settled (lastIn? tables) s ∧ ∀ e ∈ tables, ∀ field ∈ e.2, field.1 ∈ names := by
  rw [ofLayers_eq_load h, load_eq_ok_iff, writtenIn_iff, lookup_merged h]
  refine and_congr_right fun _ => ?_
  simp only [lastIn?, Fields.isSome_lastValue?_iff]
  constructor
  · intro hknown e he field hfield
    exact hknown field.1 ⟨e.2, List.mem_map_of_mem he, List.mem_map_of_mem hfield⟩
  · rintro hknown name ⟨fields, hfields, hname⟩
    obtain ⟨e, he, rfl⟩ := List.mem_map.mp hfields
    obtain ⟨field, hfield, rfl⟩ := List.mem_map.mp hname
    exact hknown e he field hfield

theorem ofLayers_eq_error (h : ∀ e ∈ tables, e.1.load t cwd.names = .ok e.2) {r : Refusal}
    (hr : ofLayers t cwd (tables.map Prod.fst) = .error r) :
    ∃ issues, r = .invalid (calledTogether tables) issues := by
  rw [ofLayers_eq_load h, Settings.load] at hr
  split at hr
  · cases hr
  · cases hr
    exact ⟨_, rfl⟩

theorem calledTogether_eq (tables : List (Layer × Fields)) :
    calledTogether tables = Text.join ", ".toList
      (((tables.map outline).filter fun e => !e.2.isEmpty).map fun e => e.1.describe) := by
  rw [calledTogether, List.filter_map, List.map_map]
  simp [Function.comp_def, outline]

/-- A layer is called by its file, with the names that lead to its table in brackets behind it. -/
theorem calledTogether_eq_intercalate (tables : List (Layer × Fields)) :
    calledTogether tables = ", ".toList.intercalate ((tables.filter fun e => !e.2.isEmpty).map
      fun e => if e.1.table.isEmpty then e.1.file.toText
        else e.1.file.toText ++ " [".toList ++ ['.'].intercalate e.1.table ++ [']']) := by
  simp only [calledTogether, Layer.describe, Text.join_eq_intercalate]

/-- Layers with the same names stand for the same if the last value of each name is the same. -/
theorem ofLayers_congr (h : ∀ e ∈ tables, e.1.load t cwd.names = .ok e.2) {t' : FileTree}
    {cwd' : Path} {tables' : List (Layer × Fields)}
    (h' : ∀ e ∈ tables', e.1.load t' cwd'.names = .ok e.2)
    (houtline : tables'.map outline = tables.map outline)
    (hvalues : lastIn? tables' = lastIn? tables) :
    ofLayers t' cwd' (tables'.map Prod.fst) = ofLayers t cwd (tables.map Prod.fst) := by
  have hfields : (tables'.map Prod.snd).foldl Fields.update []
      = (tables.map Prod.snd).foldl Fields.update [] := by
    have hnames := congrArg (List.map Prod.snd) houtline
    refine Fields.eq_of_get? ?_ (Fields.map_fst_foldl_update_congr ?_) fun name => ?_
    · rw [Fields.foldl_update_eq]
      exact Fields.nodup_map_fst_update List.nodup_nil
    · rwa [List.map_map, List.map_map] at hnames ⊢
    · rw [lookup_merged h, lookup_merged h', hvalues]
  rw [ofLayers_eq_load h, ofLayers_eq_load h', hfields, calledTogether_eq, calledTogether_eq,
    houtline]

theorem ofLayers_insert {front back : List Layer} {layer : Layer}
    (h : layer.load t cwd.names = .ok []) :
    ofLayers t cwd (front ++ layer :: back) = ofLayers t cwd (front ++ back) := by
  have hlayer : loaded t cwd layer = .ok (layer, []) := by
    rw [loaded, h]
    rfl
  rw [ofLayers_eq_bind, ofLayers_eq_bind, List.mapM_append, List.mapM_append, List.mapM_cons, hlayer]
  cases front.mapM (loaded t cwd) with
  | error r => rfl
  | ok front =>
    cases back.mapM (loaded t cwd) with
    | error r => rfl
    | ok back =>
      show Settings.load (if (merge (front ++ (layer, []) :: back)).2.isEmpty then _ else _) _ = _
      rw [merge_insert]
      rfl

end

/-! ## Layers without fields -/

namespace Layer

/-- Names lead from a value through tables to a value. -/
inductive LeadsTo : List Text → Value → Value → Prop where
  /-- No names are left. -/
  | here {v : Value} : LeadsTo [] v v
  /-- A table has a value for the first name. -/
  | inside {name : Text} {rest : List Text} {fields : Fields} {v w : Value} :
    fields.get? name = some v → LeadsTo rest v w → LeadsTo (name :: rest) (.table fields) w

theorem LeadsTo.follow_eq {table : List Text} {v w : Value} (h : LeadsTo table v w) :
    follow table v = w := by
  induction h with
  | here => rfl
  | inside hv _ ih =>
    rw [follow, hv]
    exact ih

theorem follow_empty (table : List Text) : follow table (.table []) = .table [] := by
  induction table with
  | nil => rfl
  | cons name rest ih => exact ih

theorem follow_of_not_leadsTo {table : List Text} {v : Value} (h : ¬∃ w, LeadsTo table v w) :
    follow table v = .table [] := by
  fun_induction follow table v with
  | case1 v => exact absurd ⟨v, .here⟩ h
  | case2 name rest fields ih =>
    cases hv : Fields.get? fields name with
    | none => exact follow_empty rest
    | some v =>
      rw [hv] at ih
      refine ih fun hv' => ?_
      obtain ⟨w, hw⟩ := hv'
      exact h ⟨w, .inside hv hw⟩
  | case3 => rfl

/-- The file of a layer is there, and its text writes a table. -/
def FileWrites (t : FileTree) (cwd : List Text) (layer : Layer) (fields : Fields) : Prop :=
  ∃ bytes s, t.isFile cwd layer.file.toText = .ok true ∧
    t.read cwd layer.file.toText = .ok bytes ∧ Utf8.decode bytes = .ok s ∧
    Toml.parse s = .ok fields

theorem FileWrites.load_eq {t : FileTree} {cwd : List Text} {layer : Layer} {fields : Fields}
    (h : layer.FileWrites t cwd fields) {inner : Fields}
    (hinner : follow layer.table (.table fields) = .table inner) :
    layer.load t cwd = .ok inner := by
  obtain ⟨bytes, s, hfile, hread, hdecode, hparse⟩ := h
  simp only [load, hfile, hread, fieldsIn, hdecode, hparse, hinner]

/-- A layer without fields: there is no such file, no such table in it, or nothing in the table. -/
inductive Bare (t : FileTree) (cwd : List Text) (layer : Layer) : Prop where
  /-- There is no such file. -/
  | noFile : t.isFile cwd layer.file.toText = .ok false → Bare t cwd layer
  /-- There is no such table in the file. -/
  | noTable {fields : Fields} : layer.FileWrites t cwd fields →
    (¬∃ v, LeadsTo layer.table (.table fields) v) → Bare t cwd layer
  /-- There is nothing in the table. -/
  | nothing {fields : Fields} : layer.FileWrites t cwd fields →
    LeadsTo layer.table (.table fields) (.table []) → Bare t cwd layer

theorem Bare.load_eq {t : FileTree} {cwd : List Text} {layer : Layer} (h : layer.Bare t cwd) :
    layer.load t cwd = .ok [] := by
  cases h with
  | noFile h => rw [load, h]
  | noTable hfile h => exact hfile.load_eq (follow_of_not_leadsTo h)
  | nothing hfile h => exact hfile.load_eq h.follow_eq

end Layer

/-! ## What layers stand for -/

/-- Layers are laid over each other name by name, and the last value counts.  They stand for
settings exactly if all names are names of settings and the last value of each setting fits; the
settings are these values, and the standard where there is none.  A refusal names the layers that
have fields, in their order, each by its file and the names that lead to its table.  What a later
layer replaces makes no difference, nor does a layer without fields, and a layer leaves alone what
it does not name. -/
theorem layers_merge_by_name {t : FileTree} {cwd : Path} {tables : List (Layer × Fields)}
    (hload : ∀ e ∈ tables, e.1.load t cwd.names = .ok e.2) :
    ((∃ s, ofLayers t cwd (tables.map Prod.fst) = .ok s) ↔
      (∀ e ∈ tables, ∀ field ∈ e.2, field.1 ∈ names) ∧ AllFit (lastIn? tables)) ∧
    (∀ s, ofLayers t cwd (tables.map Prod.fst) = .ok s → Settled (lastIn? tables) s) ∧
    (∀ r, ofLayers t cwd (tables.map Prod.fst) = .error r →
      let called := ", ".toList.intercalate ((tables.filter fun e => !e.2.isEmpty).map
        fun e => if e.1.table.isEmpty then e.1.file.toText
          else e.1.file.toText ++ " [".toList ++ ['.'].intercalate e.1.table ++ [']'])
      (∃ issues, r = .invalid called issues) ∧
      r.message = "Invalid configuration from ".toList ++ called) ∧
    (∀ t' cwd' tables', (∀ e ∈ tables', e.1.load t' cwd'.names = .ok e.2) →
      tables'.map outline = tables.map outline → lastIn? tables' = lastIn? tables →
      ofLayers t' cwd' (tables'.map Prod.fst) = ofLayers t cwd (tables.map Prod.fst)) ∧
    (∀ front e back, tables = front ++ e :: back →
      ∀ s, ofLayers t cwd (tables.map Prod.fst) = .ok s →
      ∀ s', ofLayers t cwd ((front ++ back).map Prod.fst) = .ok s' →
      ∀ name, e.2.get? name = none → s.toFields.get? name = s'.toFields.get? name) ∧
    ∀ front layer back, layer.Bare t cwd.names →
      ofLayers t cwd (front ++ layer :: back) = ofLayers t cwd (front ++ back) := by
  refine ⟨?_, fun s hs => ((ofLayers_eq_ok_iff hload).mp hs).1, fun r hr => ?_,
    fun t' cwd' tables' hload' houtline hvalues => ofLayers_congr hload hload' houtline hvalues,
    ?_, fun front layer back hbare => ofLayers_insert hbare.load_eq⟩
  · constructor
    · rintro ⟨s, hs⟩
      obtain ⟨hsettled, hknown⟩ := (ofLayers_eq_ok_iff hload).mp hs
      exact ⟨hknown, exists_settled_iff.mp ⟨s, hsettled⟩⟩
    · rintro ⟨hknown, hfit⟩
      obtain ⟨s, hsettled⟩ := exists_settled_iff.mpr hfit
      exact ⟨s, (ofLayers_eq_ok_iff hload).mpr ⟨hsettled, hknown⟩⟩
  · obtain ⟨issues, rfl⟩ := ofLayers_eq_error hload hr
    rw [← calledTogether_eq_intercalate]
    exact ⟨⟨issues, rfl⟩, rfl⟩
  · rintro front e back rfl s hs s' hs' name hname
    have hload' : ∀ e ∈ front ++ back, e.1.load t cwd.names = .ok e.2 := fun e' he' =>
      hload e' (by grind)
    have hs := ((ofLayers_eq_ok_iff hload).mp hs).1
    have hs' := ((ofLayers_eq_ok_iff hload').mp hs').1
    refine hs'.toFields_congr hs ?_
    rw [lastIn?, lastIn?, List.map_append, List.map_append, List.map_cons,
      Fields.lastValue?_append, Fields.lastValue?_append, Fields.lastValue?_cons, hname,
      Option.or_none]

/-- A tree in which the file of all tools gives a detail level that is none, and the file of this
tool gives another one. -/
def shadowingTree : FileTree :=
  let file (name content : String) : List Text × Node :=
    ([['w'], name.toList], .file ⟨Utf8.encode content.toList, .plain, none⟩)
  ⟨[([['w']], .directory),
    file "pyproject.toml" "[tool.goescape]\ndetail_level = 'many'\ngo_binary = 'p'\n",
    file ".goescape.toml" "detail_level = '2'\n"]⟩

theorem load_eq_ok_of_texts {t : FileTree} {cwd : List Text} {layer : Layer}
    {texts : List (Text × Text)}
    (h : (layer.load t cwd).toOption.map (List.map fun field => (field.1, field.2.toText.toOption))
      = some (texts.map fun text => (text.1, some text.2))) :
    layer.load t cwd = .ok (texts.map fun text => (text.1, .text text.2)) := by
  obtain ⟨fields, hfields, htexts⟩ := Option.map_eq_some_iff.mp h
  rw [eq_ok_of_toOption hfields]
  congr 1
  clear h hfields
  induction texts generalizing fields with
  | nil => exact List.map_eq_nil_iff.mp htexts
  | cons text rest ih =>
    obtain ⟨⟨k, v⟩, fields, rfl, hfield, hrest⟩ := List.map_eq_cons_iff.mp htexts
    cases v <;> cases hfield
    rw [ih fields hrest, List.map_cons]

theorem layers_merge_by_name_of_shadowingTree :
    let tables : List (Layer × Fields) :=
      [(⟨⟨.top, [['w'], projectFile]⟩, projectTable⟩,
          [("detail_level".toList, .text "many".toList), ("go_binary".toList, .text ['p'])]),
        (⟨⟨.top, [['w'], ownFile]⟩, []⟩, [("detail_level".toList, .text ['2'])])]
    (∀ e ∈ tables, e.1.load shadowingTree [] = .ok e.2) ∧
      ∃ s, ofLayers shadowingTree ⟨.top, []⟩ (tables.map Prod.fst) = .ok s ∧
        s.detailLevel.val = 2 ∧ s.goBinary = ['p'] ∧ s.emoji = true := by
  intro tables
  have hload : ∀ e ∈ tables, e.1.load shadowingTree [] = .ok e.2 := by
    refine List.forall_mem_cons.mpr ⟨?_, List.forall_mem_singleton.mpr ?_⟩
    · exact @load_eq_ok_of_texts _ _ _
        [("detail_level".toList, "many".toList), ("go_binary".toList, ['p'])] (by decide +kernel)
    · exact @load_eq_ok_of_texts _ _ _ [("detail_level".toList, ['2'])] (by decide +kernel)
  obtain ⟨hok, hsettled, -⟩ := @layers_merge_by_name shadowingTree ⟨.top, []⟩ tables hload
  have hlevel : lastIn? tables "detail_level".toList = some (.text ['2']) := rfl
  have hbinary : lastIn? tables "go_binary".toList = some (.text ['p']) := rfl
  have hfit : AllFit (lastIn? tables) := by
    refine ⟨nofun, fun v hv => ⟨⟨2, by decide⟩, ?_⟩, fun v hv => ⟨['p'], ?_⟩, nofun, nofun⟩
    · obtain rfl := Option.some.inj (hlevel.symm.trans hv)
      rfl
    · obtain rfl := Option.some.inj (hbinary.symm.trans hv)
      rfl
  obtain ⟨s, hs⟩ := hok.mpr ⟨by decide, hfit⟩
  have hsettled := hsettled s hs
  refine ⟨hload, s, hs, ?_, ?_, hsettled.emoji⟩
  · have hs : Value.toPositive (.text ['2']) = .ok s.detailLevel := hsettled.detailLevel
    have htwo : Value.toPositive (.text ['2']) = .ok ⟨2, by decide⟩ := rfl
    exact congrArg Subtype.val (Except.ok.inj (hs.symm.trans htwo))
  · exact Except.ok.inj (Eq.symm hsettled.goBinary)

end Settings

end Marginalia
