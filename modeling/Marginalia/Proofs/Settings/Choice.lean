import Marginalia.Settings.Layers

/-!
# Choices of settings

A table of a settings file chooses some of the settings.  What layers stand for together is what the
uppermost of them chooses, and where that one is silent, what the next one chooses, down to the
standard settings: `ofLayers_of_choices`.

A layer is asked for its choice on its own: `Layer.choice` gives one if the layer alone stands for
settings, so that each of its values is valid.
-/

namespace Marginalia

theorem eq_ok_of_toOption {ε α : Type} {x : Except ε α} {a : α} (h : x.toOption = some a) :
    x = .ok a := by
  cases x with
  | error => cases h
  | ok => exact congrArg _ (Option.some.inj h)

/-! ## Changes of tables -/

namespace Fields

theorem get?_cons (fields : Fields) (name k : Text) (v : Value) :
    Fields.get? ((k, v) :: fields) name = if name = k then some v else fields.get? name := by
  rw [get?, get?, List.lookup_cons]
  by_cases h : name = k
  · rw [if_pos h, beq_iff_eq.mpr h]
  · rw [if_neg h, beq_eq_false_iff_ne.mpr h]

theorem isSome_get?_iff {fields : Fields} {name : Text} :
    (fields.get? name).isSome ↔ name ∈ fields.map Prod.fst := by
  induction fields with
  | nil => exact ⟨nofun, nofun⟩
  | cons field rest ih =>
    rw [get?_cons, List.map_cons, List.mem_cons, ← ih]
    by_cases h : name = field.1
    · simp [h]
    · simp [h]

theorem get?_eq_none_iff {fields : Fields} {name : Text} :
    fields.get? name = none ↔ name ∉ fields.map Prod.fst := by
  rw [← Option.not_isSome_iff_eq_none, isSome_get?_iff]

/-- What has been changed counts, and where nothing has, what was there before. -/
theorem get?_update (fields changes : Fields) (name : Text) :
    (fields.update changes).get? name
      = ((Fields.update [] changes).get? name).or (fields.get? name) := by
  induction changes generalizing fields with
  | nil => rfl
  | cons change rest ih =>
    show ((fields.set change.1 change.2).update rest).get? name
      = ((Fields.update (Fields.set [] change.1 change.2) rest).get? name).or _
    rw [ih, ih (Fields.set [] change.1 change.2), get?_set, get?_set, Option.or_assoc]
    by_cases h : name = change.1
    · rw [if_pos h, if_pos h, Option.some_or]
    · rw [if_neg h, if_neg h]
      rfl

theorem isSome_get?_update (fields : Fields) (name : Text) :
    ((Fields.update [] fields).get? name).isSome = (fields.get? name).isSome := by
  induction fields with
  | nil => rfl
  | cons field rest ih =>
    obtain ⟨k, v⟩ := field
    show ((Fields.update (Fields.set [] k v) rest).get? name).isSome
      = (Fields.get? ((k, v) :: rest) name).isSome
    rw [get?_update, get?_set, Option.isSome_or, ih, get?_cons]
    by_cases h : name = k
    · simp [h]
    · simp [h, get?]

theorem map_get?_update {α : Type} (fields : Fields) (name : Text) (a : α) :
    ((Fields.update [] fields).get? name).map (fun _ => a)
      = (fields.get? name).map fun _ => a := by
  have hsome := isSome_get?_update fields name
  cases hu : (Fields.update [] fields).get? name with
  | none =>
    rw [hu] at hsome
    rw [Option.not_isSome_iff_eq_none.mp (Bool.eq_false_iff.mp hsome.symm)]
  | some v =>
    rw [hu] at hsome
    obtain ⟨v', hv'⟩ := Option.isSome_iff_exists.mp hsome.symm
    rw [hv']
    rfl

/-- A field is read as `a`, and `a` is the default if the field is not there. -/
def Gives {α : Type} (fields : Fields) (name : Text) (default : α) (read : Value → Checked α)
    (a : α) : Prop :=
  match fields.get? name with
  | some v => read v = .ok a
  | none => a = default

section
variable {α : Type} {fields changes : Fields} {name : Text} {default a b : α}
  {read : Value → Checked α}

theorem withDefault_eq_ok_iff :
    fields.withDefault name default read = .ok a ↔ fields.Gives name default read a := by
  rw [withDefault, Gives]
  cases fields.get? name with
  | some v => exact Checked.inside_eq_ok_iff
  | none => exact ⟨fun h => (Except.ok.inj h).symm, fun h => congrArg _ h.symm⟩

theorem Gives.eq_getD (h : fields.Gives name default read a) :
    a = ((fields.get? name).map fun _ => a).getD default := by
  rw [Gives] at h
  cases hv : fields.get? name with
  | some v => rfl
  | none =>
    rw [hv] at h
    exact h

theorem Gives.update (ha : fields.Gives name default read a)
    (hb : (Fields.update [] changes).Gives name default read b) :
    (fields.update changes).Gives name default read
      (((((Fields.update [] changes).get? name).map fun _ => b).or
        ((fields.get? name).map fun _ => a)).getD default) := by
  rw [Option.getD_or, ← ha.eq_getD]
  rw [Gives] at ha hb ⊢
  rw [get?_update]
  cases hv : (Fields.update [] changes).get? name with
  | some v =>
    rw [hv] at hb
    exact hb
  | none => exact ha

end

theorem onlyKnown_eq_ok_iff {fields : Fields} {known : List Text} {u : Unit} :
    fields.onlyKnown known = .ok u ↔ ∀ name, (fields.get? name).isSome → name ∈ known := by
  have hextra : fields.onlyKnown known = .ok u ↔
      (fields.filter fun field => !known.contains field.1) = [] := by
    rw [onlyKnown]
    cases fields.filter fun field => !known.contains field.1 with
    | nil => exact ⟨fun _ => rfl, fun _ => rfl⟩
    | cons field rest => exact ⟨(nomatch ·), (nomatch ·)⟩
  rw [hextra, List.filter_eq_nil_iff]
  constructor
  · intro h name hname
    obtain ⟨field, hfield, rfl⟩ := List.mem_map.mp (isSome_get?_iff.mp hname)
    simpa using h field hfield
  · intro h field hfield
    simpa using h field.1 (isSome_get?_iff.mpr (List.mem_map_of_mem hfield))

end Fields

namespace Settings

/-! ## Tables of settings -/

/-- Settings are what a table says of each of them, and the table says nothing else. -/
structure WrittenIn (fields : Fields) (s : Settings) : Prop where
  allowList : fields.Gives "allow_list".toList standard.allowList allowListOf s.allowList
  detailLevel : fields.Gives "detail_level".toList standard.detailLevel Value.toPositive
    s.detailLevel
  goBinary : fields.Gives "go_binary".toList standard.goBinary Value.toText s.goBinary
  emoji : fields.Gives "emoji".toList standard.emoji Value.toBool s.emoji
  color : fields.Gives "color".toList standard.color Value.toBool s.color
  known : ∀ name, (fields.get? name).isSome → name ∈ names

theorem ofFields_eq_ok_iff {fields : Fields} {s : Settings} :
    ofFields fields = .ok s ↔ WrittenIn fields s := by
  simp only [ofFields, Checked.ap_eq_ok_iff, Fields.withDefault_eq_ok_iff]
  constructor
  · rintro ⟨_, _, ⟨_, color, ⟨_, emoji, ⟨_, goBinary, ⟨_, detailLevel, ⟨_, allowList, hpure,
      hallow, rfl⟩, hdetail, rfl⟩, hgo, rfl⟩, hemoji, rfl⟩, hcolor, rfl⟩, hknown, rfl⟩
    cases hpure
    exact ⟨hallow, hdetail, hgo, hemoji, hcolor, Fields.onlyKnown_eq_ok_iff.mp hknown⟩
  · intro h
    exact ⟨_, (), ⟨_, _, ⟨_, _, ⟨_, _, ⟨_, _, ⟨_, _, rfl, h.allowList, rfl⟩, h.detailLevel, rfl⟩,
      h.goBinary, rfl⟩, h.emoji, rfl⟩, h.color, rfl⟩, Fields.onlyKnown_eq_ok_iff.mpr h.known, rfl⟩

/-! ## Choices -/

/-- A choice of some of the settings. -/
structure Choice where
  /-- Which messages are wanted. -/
  allowList : Option (List Text)
  /-- How much detail the compiler gives. -/
  detailLevel : Option Positive
  /-- Which program the compiler is. -/
  goBinary : Option Text
  /-- Whether messages start with a pictogram. -/
  emoji : Option Bool
  /-- Whether messages are coloured. -/
  color : Option Bool
deriving DecidableEq

namespace Choice

/-- Nothing is chosen. -/
def nothing : Choice := ⟨none, none, none, none, none⟩

/-- What `c` chooses, and what `d` chooses where `c` is silent. -/
def orElse (c d : Choice) : Choice where
  allowList := c.allowList.or d.allowList
  detailLevel := c.detailLevel.or d.detailLevel
  goBinary := c.goBinary.or d.goBinary
  emoji := c.emoji.or d.emoji
  color := c.color.or d.color

/-- The settings of a choice, and those of `s` where it is silent. -/
def onto (c : Choice) (s : Settings) : Settings where
  allowList := c.allowList.getD s.allowList
  detailLevel := c.detailLevel.getD s.detailLevel
  goBinary := c.goBinary.getD s.goBinary
  emoji := c.emoji.getD s.emoji
  color := c.color.getD s.color

/-- The settings of a choice, the standard ones where it is silent. -/
def settings (c : Choice) : Settings :=
  c.onto standard

/-- What a table chooses that stands for settings. -/
def ofTable (fields : Fields) (s : Settings) : Choice where
  allowList := (fields.get? "allow_list".toList).map fun _ => s.allowList
  detailLevel := (fields.get? "detail_level".toList).map fun _ => s.detailLevel
  goBinary := (fields.get? "go_binary".toList).map fun _ => s.goBinary
  emoji := (fields.get? "emoji".toList).map fun _ => s.emoji
  color := (fields.get? "color".toList).map fun _ => s.color

@[simp] theorem nothing_orElse (c : Choice) : nothing.orElse c = c := by
  simp [orElse, nothing]

@[simp] theorem orElse_nothing (c : Choice) : c.orElse nothing = c := by
  simp [orElse, nothing]

theorem orElse_onto (c d : Choice) (s : Settings) : (c.orElse d).onto s = c.onto (d.onto s) := by
  simp [orElse, onto, Option.getD_or]

/-- A table makes the same choice when it is laid over nothing. -/
theorem ofTable_update (fields : Fields) (s : Settings) :
    ofTable (Fields.update [] fields) s = ofTable fields s := by
  simp only [ofTable, Fields.map_get?_update]

theorem map_or_getD {α β : Type} (x y : Option β) (a b d : α) :
    ((x.or y).map fun _ => ((x.map fun _ => b).or (y.map fun _ => a)).getD d)
      = (x.map fun _ => b).or (y.map fun _ => a) := by
  cases x with
  | some => rfl
  | none =>
    cases y with
    | some => rfl
    | none => rfl

/-- A table that is laid over another one chooses first. -/
theorem ofTable_orElse (fields changes : Fields) (s t : Settings) :
    ofTable (fields.update changes) ((ofTable changes t).orElse (ofTable fields s)).settings
      = (ofTable changes t).orElse (ofTable fields s) := by
  rw [← ofTable_update changes t]
  simp only [ofTable, orElse, settings, onto, Fields.get?_update fields changes, map_or_getD]

end Choice

theorem WrittenIn.settings_ofTable {fields : Fields} {s : Settings} (h : WrittenIn fields s) :
    (Choice.ofTable fields s).settings = s := by
  simp only [Choice.settings, Choice.onto, Choice.ofTable, ← h.allowList.eq_getD,
    ← h.detailLevel.eq_getD, ← h.goBinary.eq_getD, ← h.emoji.eq_getD, ← h.color.eq_getD]

theorem WrittenIn.update {fields changes : Fields} {s t : Settings} (hs : WrittenIn fields s)
    (ht : WrittenIn (Fields.update [] changes) t) :
    WrittenIn (fields.update changes)
      ((Choice.ofTable changes t).orElse (Choice.ofTable fields s)).settings := by
  rw [← Choice.ofTable_update changes t]
  refine ⟨hs.allowList.update ht.allowList, hs.detailLevel.update ht.detailLevel,
    hs.goBinary.update ht.goBinary, hs.emoji.update ht.emoji, hs.color.update ht.color,
    fun name hname => ?_⟩
  rw [Fields.get?_update, Option.isSome_or, Bool.or_eq_true] at hname
  exact hname.elim (ht.known name) (hs.known name)

/-! ## Layers -/

theorem load_eq_ok_iff {source : Text} {fields : Fields} {s : Settings} :
    load source fields = .ok s ↔ WrittenIn fields s := by
  rw [load, ← ofFields_eq_ok_iff]
  cases ofFields fields with
  | ok => exact ⟨fun h => congrArg _ (Except.ok.inj h), fun h => congrArg _ (Except.ok.inj h)⟩
  | error => exact ⟨(nomatch ·), (nomatch ·)⟩

/-- Layers are laid over each other field by field, those without any included. -/
theorem merge_eq (layers : List (Layer × Fields)) :
    (merge layers).1 = layers.foldl (fun merged layer => Fields.update merged layer.2) [] := by
  cases layers with
  | nil => rfl
  | cons layer rest =>
    show ((layer :: rest).filter fun entry => !entry.2.isEmpty).foldl _ [] = _
    rw [List.foldl_filter]
    congr 1
    funext merged entry
    cases entry.2 with
    | nil => rfl
    | cons => rfl

/-- A layer with its fields, if it can be loaded. -/
def loaded (t : FileTree) (cwd : Path) (layer : Layer) : Except Refusal (Layer × Fields) := do
  let fields ← layer.load t cwd.names
  .ok (layer, fields)

/-- What a layer chooses that stands for settings on its own. -/
def Layer.choice (t : FileTree) (cwd : Path) (layer : Layer) : Except Refusal Choice := do
  let fields ← layer.load t cwd.names
  let s ← ofLayers t cwd [layer]
  .ok (Choice.ofTable fields s)

section
variable {t : FileTree} {cwd : Path}

theorem ofLayers_eq_bind (layers : List Layer) :
    ofLayers t cwd layers = (layers.mapM (loaded t cwd)).bind fun tables =>
      Settings.load (if (merge tables).2.isEmpty then "defaults".toList
        else Text.join ", ".toList (merge tables).2) (merge tables).1 :=
  rfl

theorem mapM_loaded_eq_ok {tables : List (Layer × Fields)}
    (h : ∀ table ∈ tables, table.1.load t cwd.names = .ok table.2) :
    (tables.map Prod.fst).mapM (loaded t cwd) = .ok tables := by
  induction tables with
  | nil => rfl
  | cons table rest ih =>
    rw [List.map_cons, List.mapM_cons, loaded, h table List.mem_cons_self,
      ih fun table htable => h table (List.mem_cons_of_mem _ htable)]
    rfl

theorem ofLayers_eq {tables : List (Layer × Fields)}
    (h : ∀ table ∈ tables, table.1.load t cwd.names = .ok table.2) :
    ∃ source, ofLayers t cwd (tables.map Prod.fst) = Settings.load source
      (tables.foldl (fun merged table => merged.update table.2) []) := by
  rw [ofLayers_eq_bind, mapM_loaded_eq_ok h, ← merge_eq]
  exact ⟨_, rfl⟩

theorem Layer.exists_of_choice {layer : Layer} {c : Choice} (h : layer.choice t cwd = .ok c) :
    ∃ fields s, layer.load t cwd.names = .ok fields ∧
      WrittenIn (Fields.update [] fields) s ∧ c = Choice.ofTable fields s := by
  rw [Layer.choice] at h
  cases hload : layer.load t cwd.names with
  | error r =>
    rw [hload] at h
    cases h
  | ok fields =>
    have hself : ∀ table ∈ [(layer, fields)], table.1.load t cwd.names = .ok table.2 :=
      List.forall_mem_singleton.mpr hload
    obtain ⟨source, hlayers⟩ := ofLayers_eq hself
    have hlayers : ofLayers t cwd [layer] = Settings.load source (Fields.update [] fields) :=
      hlayers
    rw [hload, hlayers] at h
    cases hs : Settings.load source (Fields.update [] fields) with
    | error r =>
      rw [hs] at h
      cases h
    | ok s =>
      rw [hs] at h
      cases h
      exact ⟨fields, s, rfl, load_eq_ok_iff.mp hs, rfl⟩

/-- What tables stand for that are laid over each other. -/
theorem WrittenIn.foldl {merged : Fields} {s : Settings} (hs : WrittenIn merged s)
    {tables : List (Fields × Settings)}
    (h : ∀ table ∈ tables, WrittenIn (Fields.update [] table.1) table.2) :
    WrittenIn (tables.foldl (fun merged table => merged.update table.1) merged)
      (tables.foldl (fun below table => (Choice.ofTable table.1 table.2).orElse below)
        (Choice.ofTable merged s)).settings := by
  induction tables generalizing merged s with
  | nil => exact hs.settings_ofTable.symm ▸ hs
  | cons table rest ih =>
    have hmerged := ih (hs.update (h table List.mem_cons_self)) fun table htable =>
      h table (List.mem_cons_of_mem _ htable)
    rw [Choice.ofTable_orElse] at hmerged
    exact hmerged

/-- Settings of layers are what the uppermost layer chooses, and where it is silent, what those
below it choose. -/
theorem ofLayers_of_choices {choices : List (Layer × Choice)}
    (h : ∀ e ∈ choices, e.1.choice t cwd = .ok e.2) :
    ofLayers t cwd (choices.map Prod.fst)
      = .ok (choices.foldl (fun below e => e.2.orElse below) Choice.nothing).settings := by
  obtain ⟨tables, rfl, htables⟩ : ∃ tables : List (Layer × Fields × Settings),
      choices = tables.map (fun e => (e.1, Choice.ofTable e.2.1 e.2.2)) ∧
        ∀ e ∈ tables, e.1.load t cwd.names = .ok e.2.1 ∧
          WrittenIn (Fields.update [] e.2.1) e.2.2 := by
    induction choices with
    | nil => exact ⟨[], rfl, fun _ he => nomatch he⟩
    | cons e rest ih =>
      obtain ⟨tables, rfl, htables⟩ := ih fun e he => h e (List.mem_cons_of_mem _ he)
      obtain ⟨fields, s, hload, hs, hc⟩ := Layer.exists_of_choice (h e List.mem_cons_self)
      refine ⟨(e.1, fields, s) :: tables, ?_, List.forall_mem_cons.mpr ⟨⟨hload, hs⟩, htables⟩⟩
      rw [List.map_cons, ← hc]
  have hempty : WrittenIn [] standard := ofFields_eq_ok_iff.mp rfl
  have hload : ∀ table ∈ tables.map (fun e => (e.1, e.2.1)),
      table.1.load t cwd.names = .ok table.2 :=
    List.forall_mem_map.mpr fun e he => (htables e he).1
  have hvalid : ∀ table ∈ tables.map Prod.snd, WrittenIn (Fields.update [] table.1) table.2 :=
    List.forall_mem_map.mpr fun e he => (htables e he).2
  obtain ⟨source, hlayers⟩ := ofLayers_eq hload
  have hfold := hempty.foldl hvalid
  simp only [List.foldl_map, List.map_map] at hlayers hfold ⊢
  exact hlayers.trans (load_eq_ok_iff.mpr hfold)

/-- What the nearest file of a name chooses in its table; nothing, if there is no such file. -/
def nearestChoice (t : FileTree) (cwd directory : Path) (name : Text) (table : List Text) :
    Except Refusal Choice :=
  match t.nearestFile? cwd.names (directory.absolute cwd) (Path.ofText name) with
  | .error r => .error (.tree r)
  | .ok none => .ok .nothing
  | .ok (some file) => Layer.choice t cwd ⟨file, table⟩

theorem exists_of_nearestChoice {directory : Path} {name : Text} {table : List Text} {c : Choice}
    (h : nearestChoice t cwd directory name table = .ok c) :
    ∃ file? : Option Path,
      t.nearestFile? cwd.names (directory.absolute cwd) (Path.ofText name) = .ok file? ∧
      ∃ choices : List (Layer × Choice),
        choices.map Prod.fst = (file?.map (⟨·, table⟩)).toList ∧
        (∀ e ∈ choices, e.1.choice t cwd = .ok e.2) ∧
        ∀ below : Choice,
          choices.foldl (fun below e => e.2.orElse below) below = c.orElse below := by
  rw [nearestChoice] at h
  split at h
  · cases h
  · next hnone =>
    cases h
    exact ⟨none, hnone, [], rfl, fun _ he => (nomatch he),
      fun below => (Choice.nothing_orElse below).symm⟩
  · next file hfile =>
    exact ⟨some file, hfile, [(⟨file, table⟩, c)], rfl, List.forall_mem_singleton.mpr h,
      fun _ => rfl⟩

/-- The settings for a directory are what the file of this tool chooses, and where it is silent,
what the file of all tools chooses. -/
theorem above_of_choices {directory : Path} {project own : Choice}
    (hproject : nearestChoice t cwd directory projectFile projectTable = .ok project)
    (hown : nearestChoice t cwd directory ownFile [] = .ok own) :
    above t cwd directory = .ok (own.orElse project).settings := by
  obtain ⟨file?, hfile, choices, hlayers, hchoices, hfold⟩ := exists_of_nearestChoice hproject
  obtain ⟨file?', hfile', choices', hlayers', hchoices', hfold'⟩ := exists_of_nearestChoice hown
  have habove : layersAbove t cwd directory = .ok ((choices ++ choices').map Prod.fst) := by
    rw [List.map_append, hlayers, hlayers', layersAbove, hfile, hfile']
    rfl
  have hall := List.forall_mem_append.mpr ⟨hchoices, hchoices'⟩
  rw [above, habove]
  simp only
  rw [ofLayers_of_choices hall, List.foldl_append, hfold, hfold', Choice.orElse_nothing]

end

/-! ## Changes -/

theorem toTexts_texts (kind : Issue.Kind) (texts : List Text) :
    Value.toTexts kind (.list (texts.map .text)) = .ok texts := by
  have hitems : ∀ n, Checked.items Value.toText n (texts.map .text) = .ok texts := by
    induction texts with
    | nil => exact fun _ => rfl
    | cons text rest ih =>
      intro n
      rw [List.map_cons, Checked.items, ih]
      rfl
  exact hitems 0

theorem writtenIn_toFields (s : Settings) : WrittenIn s.toFields s where
  allowList := toTexts_texts .tupleType s.allowList
  detailLevel := Value.toPositive_integer _
  goBinary := rfl
  emoji := rfl
  color := rfl
  known := Fields.onlyKnown_eq_ok_iff.mp (show s.toFields.onlyKnown names = .ok () from rfl)

/-- Changes are laid over settings as a table is over others. -/
theorem override_of_writtenIn {s t : Settings} {changes : Fields}
    (hown : changes.get? ownName = none) (ht : WrittenIn (Fields.update [] (actual changes)) t) :
    s.override changes = .ok ((Choice.ofTable (actual changes) t).onto s) := by
  have hchanged : s.withChanges changes = .ok ((Choice.ofTable (actual changes) t).onto s) := by
    rw [withChanges]
    split
    · next hidle =>
      rw [isIdle, List.isEmpty_iff] at hidle
      rw [hidle]
      rfl
    · have hs := writtenIn_toFields s
      have hsettings : (Choice.ofTable s.toFields s).onto standard = s := hs.settings_ofTable
      rw [ofFields_eq_ok_iff.mpr (hs.update ht), Choice.settings, Choice.orElse_onto, hsettings]
  rw [override, hown, hchanged]
  rfl

end Settings

end Marginalia
