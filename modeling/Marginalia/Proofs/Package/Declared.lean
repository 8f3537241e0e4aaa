import Marginalia.Proofs.Text.Fields
import Marginalia.Proofs.Files.Reach
import Marginalia.Manifest

/-!
# Declared modules

A manifest names the module that the first of its lines declares.  `Declares` says what it is for a
line to declare a name, and `declares_iff` that reading a line finds just that.  The reading takes
all the blanks behind the keyword at once.  Nothing is lost by this, since a name starts with a
character that is not blank (`Begins.head`), and so a line declares at most one name.

The main statement is `moduleName_declared`.
-/

namespace Marginalia.Manifest

/-! ## What a line declares -/

/-- The word that a declaration starts with. -/
def keyword : Text := "module".toList

/-- A text begins with a name: one between two quotes, or a bare one that does not go on. -/
inductive Begins : Text → Text → Prop where
  /-- A name between quotes, whatever follows it. -/
  | quoted {name rest : Text} : name ≠ [] → '"' ∉ name → Begins ('"' :: (name ++ '"' :: rest)) name
  /-- A bare name, up to a character that does not belong to it. -/
  | bare {name rest : Text} : name ≠ [] → (∀ c ∈ name, isBare c = true) →
      (∀ c, rest.head? = some c → isBare c = false) → Begins (name ++ rest) name

/-- A line declares a name: blanks or none, the keyword, at least one blank, and the name. -/
def Declares (line name : Text) : Prop :=
  ∃ front gap rest, line = front ++ (keyword ++ (gap ++ rest)) ∧
    (∀ c ∈ front, Text.isBlank c = true) ∧ gap ≠ [] ∧ (∀ c ∈ gap, Text.isBlank c = true) ∧
    Begins rest name

/-- The first of the lines that declare a name declares this one. -/
def FirstDeclares (lines : List Text) (name : Text) : Prop :=
  ∃ front line back, lines = front ++ line :: back ∧ Declares line name ∧
    ∀ earlier ∈ front, ∀ other, ¬ Declares earlier other

/-! ## Reading a name -/

/-- The declaration whose name a text begins with. -/
def nameAt? : Text → Option Declaration
  | '"' :: rest =>
    let name := rest.takeWhile (· != '"')
    if name.length < rest.length then some (.quoted name) else none
  | rest =>
    let name := rest.takeWhile isBare
    if name.isEmpty then none else some (.bare name)

/-- The declaration that goes on so behind the keyword. -/
def behindKeyword? (s : Text) : Option Declaration :=
  if (s.dropWhile Text.isBlank).length = s.length then none else nameAt? (s.dropWhile Text.isBlank)

theorem declaration?_eq (line : Text) :
    declaration? line = (Text.after? keyword (line.dropWhile Text.isBlank)).bind behindKeyword? := by
  unfold declaration? behindKeyword? keyword
  cases Text.after? "module".toList (line.dropWhile Text.isBlank) with
  | none => rfl
  | some s =>
    simp only [Option.bind_some]
    split
    · rfl
    · unfold nameAt?
      rfl

/-! ### Names -/

/-- A name does not begin with a blank. -/
theorem Begins.head {s name : Text} (h : Begins s name) :
    ∀ c, s.head? = some c → Text.isBlank c = false := by
  intro c hc
  cases h with
  | quoted =>
    cases hc
    decide
  | bare hne hbare =>
    cases name with
    | nil => exact absurd rfl hne
    | cons d name =>
      cases hc
      have hd := hbare c List.mem_cons_self
      rw [isBare, Bool.and_eq_true, Bool.not_eq_true'] at hd
      exact hd.1

theorem nameAt?_quoted (name rest : Text) (h : '"' ∉ name) :
    nameAt? ('"' :: (name ++ '"' :: rest)) = some (.quoted name) := by
  have hname : (name ++ '"' :: rest).takeWhile (· != '"') = name := by
    refine Text.takeWhile_append (fun c hc => ?_) (fun c hc => ?_)
    · exact bne_iff_ne.mpr (ne_of_mem_of_not_mem hc h)
    · cases hc
      rfl
  simp [nameAt?, hname]

/-- Behind an opening quote there is only a name if there is a closing one. -/
theorem nameAt?_unclosed {s : Text} (h : '"' ∉ s) : nameAt? ('"' :: s) = none := by
  have hname : s.takeWhile (· != '"') = s :=
    List.takeWhile_eq_self_iff.mpr fun c hc => bne_iff_ne.mpr (ne_of_mem_of_not_mem hc h)
  simp [nameAt?, hname]

theorem nameAt?_bare {s : Text} (h : s.head? ≠ some '"') :
    nameAt? s
      = if (s.takeWhile isBare).isEmpty then none else some (.bare (s.takeWhile isBare)) := by
  unfold nameAt?
  split
  · exact absurd rfl h
  · rfl

theorem begins_takeWhile {s : Text} (h : s.takeWhile isBare ≠ []) :
    Begins s (s.takeWhile isBare) := by
  have hbegins : Begins (s.takeWhile isBare ++ s.dropWhile isBare) (s.takeWhile isBare) :=
    .bare h (fun c hc => List.mem_takeWhile_imp hc) fun c hc => Text.head?_dropWhile hc
  rwa [List.takeWhile_append_dropWhile] at hbegins

/-- A text begins with the name that is read from it, unless that is empty. -/
theorem begins_iff {s name : Text} :
    Begins s name ↔ (∃ d, nameAt? s = some d ∧ d.name = name) ∧ name ≠ [] := by
  constructor
  · intro h
    cases h with
    | quoted hne hquote => exact ⟨⟨_, nameAt?_quoted _ _ hquote, rfl⟩, hne⟩
    | bare hne hbare hrest =>
      rename_i rest
      have hhead : (name ++ rest).head? ≠ some '"' := by
        cases name with
        | nil => exact absurd rfl hne
        | cons c name =>
          intro hc
          cases hc
          have hquote := hbare '"' List.mem_cons_self
          revert hquote
          decide
      refine ⟨⟨.bare name, ?_, rfl⟩, hne⟩
      rw [nameAt?_bare hhead, Text.takeWhile_append hbare hrest]
      simp [hne]
  · rintro ⟨⟨d, hd, rfl⟩, hne⟩
    rcases s with _ | ⟨c, s⟩
    · cases hd
    by_cases hc : c = '"'
    · subst hc
      by_cases hquote : '"' ∈ s
      · obtain ⟨name, rest, rfl, hname⟩ := List.eq_append_cons_of_mem hquote
        rw [nameAt?_quoted name rest hname] at hd
        cases hd
        exact .quoted hne hname
      · rw [nameAt?_unclosed hquote] at hd
        cases hd
    · have hhead : (c :: s).head? ≠ some '"' := fun h => hc (Option.some.inj h)
      rw [nameAt?_bare hhead] at hd
      split at hd
      · cases hd
      · cases hd
        exact begins_takeWhile hne

/-! ### Lines -/

theorem after?_append (lead s : Text) : Text.after? lead (lead ++ s) = some s := by
  simp [Text.after?]

theorem after?_eq_some {lead s rest : Text} (h : Text.after? lead s = some rest) :
    s = lead ++ rest := by
  unfold Text.after? at h
  split at h
  · next hlead =>
    cases h
    exact (List.prefix_iff_eq_append.mp (List.isPrefixOf_iff_prefix.mp hlead)).symm
  · cases h

/-- The blanks in front of the keyword do not matter. -/
theorem declaration?_append {front : Text} (hfront : ∀ c ∈ front, Text.isBlank c = true)
    (s : Text) : declaration? (front ++ (keyword ++ s)) = behindKeyword? s := by
  have hkeyword : (keyword ++ s).dropWhile Text.isBlank = keyword ++ s :=
    Text.dropWhile_eq_self fun c hc => by
      cases hc
      decide
  rw [declaration?_eq, List.dropWhile_append_of_pos hfront, hkeyword, after?_append]
  rfl

theorem exists_of_declaration? {line : Text} {d : Declaration} (h : declaration? line = some d) :
    ∃ front s, line = front ++ (keyword ++ s) ∧ (∀ c ∈ front, Text.isBlank c = true) ∧
      behindKeyword? s = some d := by
  rw [declaration?_eq, Option.bind_eq_some_iff] at h
  obtain ⟨s, hs, hd⟩ := h
  refine ⟨line.takeWhile Text.isBlank, s, ?_, fun c hc => List.mem_takeWhile_imp hc, hd⟩
  rw [← after?_eq_some hs, List.takeWhile_append_dropWhile]

/-- Behind the keyword all blanks are taken, of which there is at least one. -/
theorem behindKeyword?_append {gap rest : Text} (hgap : ∀ c ∈ gap, Text.isBlank c = true)
    (hrest : ∀ c, rest.head? = some c → Text.isBlank c = false) :
    behindKeyword? (gap ++ rest) = if gap = [] then none else nameAt? rest := by
  rw [behindKeyword?, Text.dropWhile_append hgap hrest]
  simp

theorem exists_of_behindKeyword? {s : Text} {d : Declaration} (h : behindKeyword? s = some d) :
    ∃ gap rest, s = gap ++ rest ∧ gap ≠ [] ∧ (∀ c ∈ gap, Text.isBlank c = true) ∧
      nameAt? rest = some d := by
  have hs : s.takeWhile Text.isBlank ++ s.dropWhile Text.isBlank = s :=
    List.takeWhile_append_dropWhile
  have hgap : ∀ c ∈ s.takeWhile Text.isBlank, Text.isBlank c = true :=
    fun c hc => List.mem_takeWhile_imp hc
  rw [← hs, behindKeyword?_append hgap fun c hc => Text.head?_dropWhile hc] at h
  split at h
  · cases h
  · next hne => exact ⟨_, _, hs.symm, hne, hgap, h⟩

/-- Reading a line finds the name that the line declares, unless that is empty. -/
theorem declares_iff {line name : Text} :
    Declares line name ↔ (∃ d, declaration? line = some d ∧ d.name = name) ∧ name ≠ [] := by
  constructor
  · rintro ⟨front, gap, rest, rfl, hfront, hne, hgap, hname⟩
    rw [declaration?_append hfront, behindKeyword?_append hgap hname.head, if_neg hne]
    exact begins_iff.mp hname
  · rintro ⟨⟨d, hd, hname⟩, hne⟩
    obtain ⟨front, s, rfl, hfront, hs⟩ := exists_of_declaration? hd
    obtain ⟨gap, rest, rfl, hgap, hblank, hrest⟩ := exists_of_behindKeyword? hs
    exact ⟨front, gap, rest, rfl, hfront, hgap, hblank, begins_iff.mpr ⟨⟨d, hrest, hname⟩, hne⟩⟩

theorem Declares.unique {line a b : Text} (ha : Declares line a) (hb : Declares line b) : a = b := by
  obtain ⟨⟨d, hd, rfl⟩, -⟩ := declares_iff.mp ha
  obtain ⟨⟨e, he, rfl⟩, -⟩ := declares_iff.mp hb
  rw [hd] at he
  cases he
  rfl

section
variable {front gap s name : Text} (hfront : ∀ c ∈ front, Text.isBlank c = true)
include hfront

/-- Text that is glued to the keyword makes another word of it. -/
theorem not_declares_glued (hglued : ∀ c, s.head? = some c → Text.isBlank c = false) :
    ¬ Declares (front ++ (keyword ++ s)) name := by
  rintro hdeclares
  obtain ⟨⟨d, hd, -⟩, -⟩ := declares_iff.mp hdeclares
  rw [declaration?_append hfront, ← List.nil_append s,
    behindKeyword?_append (List.forall_mem_nil _) hglued] at hd
  cases hd

variable (hgap : ∀ c ∈ gap, Text.isBlank c = true)
include hgap

theorem begins_of_declares (hs : ∀ c, s.head? = some c → Text.isBlank c = false)
    (h : Declares (front ++ (keyword ++ (gap ++ s))) name) : Begins s name := by
  obtain ⟨⟨d, hd, hname⟩, hne⟩ := declares_iff.mp h
  rw [declaration?_append hfront, behindKeyword?_append hgap hs] at hd
  split at hd
  · cases hd
  · exact begins_iff.mpr ⟨⟨d, hd, hname⟩, hne⟩

theorem not_declares_unclosed (hs : '"' ∉ s) :
    ¬ Declares (front ++ (keyword ++ (gap ++ '"' :: s))) name := by
  intro h
  have hbegins := begins_of_declares hfront hgap (fun c hc => by cases hc; decide) h
  obtain ⟨⟨d, hd, -⟩, -⟩ := begins_iff.mp hbegins
  rw [nameAt?_unclosed hs] at hd
  cases hd

theorem not_declares_empty : ¬ Declares (front ++ (keyword ++ (gap ++ '"' :: '"' :: s))) name := by
  intro h
  have hbegins := begins_of_declares hfront hgap (fun c hc => by cases hc; decide) h
  obtain ⟨⟨d, hd, hname⟩, hne⟩ := begins_iff.mp hbegins
  have hempty : nameAt? ('"' :: '"' :: s) = some (.quoted []) := nameAt?_quoted [] s List.not_mem_nil
  rw [hempty] at hd
  cases hd
  exact hne hname.symm

end

/-! ## What a manifest declares -/

/-- The name that a line declares, also an empty one. -/
def declaredName? (line : Text) : Option Text :=
  (declaration? line).map Declaration.name

theorem declaredName?_eq_some_iff {line name : Text} :
    declaredName? line = some name ∧ name ≠ [] ↔ Declares line name := by
  rw [declares_iff, declaredName?, Option.map_eq_some_iff]

theorem declaresAny_iff {line : Text} :
    (declaredName? line).any (fun name => !name.isEmpty) = true ↔ ∃ name, Declares line name := by
  simp only [← declaredName?_eq_some_iff, Option.any_eq_true, Bool.not_eq_true',
    List.isEmpty_eq_false_iff]

theorem moduleName?_eq (text : Text) :
    moduleName? text
      = ((Text.splitLines text).find? fun line =>
          (declaredName? line).any fun name => !name.isEmpty).bind declaredName? :=
  List.find?_filterMap

/-- The name of the module is what the first line declares that declares one. -/
theorem moduleName?_eq_some_iff {text name : Text} :
    moduleName? text = some name ↔ FirstDeclares (Text.splitLines text) name := by
  rw [moduleName?_eq, Option.bind_eq_some_iff]
  constructor
  · rintro ⟨line, hfind, hname⟩
    obtain ⟨hany, front, back, hlines, hfront⟩ := List.find?_eq_some_iff_append.mp hfind
    obtain ⟨name', hdeclares⟩ := declaresAny_iff.mp hany
    obtain ⟨hname', -⟩ := declaredName?_eq_some_iff.mpr hdeclares
    cases hname.symm.trans hname'
    refine ⟨front, line, back, hlines, hdeclares, fun earlier hearlier other hother => ?_⟩
    have hnot := hfront earlier hearlier
    rw [declaresAny_iff.mpr ⟨other, hother⟩] at hnot
    cases hnot
  · rintro ⟨front, line, back, hlines, hdeclares, hfront⟩
    refine ⟨line, List.find?_eq_some_iff_append.mpr ⟨declaresAny_iff.mpr ⟨name, hdeclares⟩,
      front, back, hlines, fun earlier hearlier => ?_⟩, (declaredName?_eq_some_iff.mpr hdeclares).1⟩
    rw [Bool.not_eq_true', ← Bool.not_eq_true, declaresAny_iff]
    exact fun ⟨other, hother⟩ => hfront earlier hearlier other hother

theorem moduleName?_eq_none_iff {text : Text} :
    moduleName? text = none ↔ ∀ line ∈ Text.splitLines text, ∀ name, ¬ Declares line name := by
  have hnone : moduleName? text = none ↔ ∀ line ∈ Text.splitLines text,
      ¬ (declaredName? line).any (fun name => !name.isEmpty) = true := by
    rw [moduleName?_eq, Option.bind_eq_none_iff]
    constructor
    · intro h
      refine List.find?_eq_none.mp (Option.eq_none_iff_forall_not_mem.mpr fun line hline => ?_)
      have hany := List.find?_some hline
      rw [h line hline] at hany
      cases hany
    · intro h line hline
      rw [List.find?_eq_none.mpr h] at hline
      cases hline
  simp only [hnone, declaresAny_iff, not_exists]

/-! ## Files -/

section
variable {t : FileTree} {cwd : List Text} {manifest : Path}

theorem moduleName_of_text {text : Text} (h : t.readText cwd manifest.toText = .ok text) :
    moduleName t cwd manifest
      = match moduleName? text with
        | some name => .ok name
        | none => .error (.unreadable manifest "no module declaration".toList) := by
  unfold moduleName
  exact h ▸ rfl

theorem moduleName_of_unread {r : FileTree.TextRefusal}
    (h : t.readText cwd manifest.toText = .error r) (hpath : '\u0000' ∉ manifest.toText) :
    moduleName t cwd manifest = .error (.unreadable manifest r.message) := by
  rw [moduleName, h]
  split
  · next heq =>
    cases heq
    exact absurd (FileTree.readText_eq_endsInside_iff.mp h).1 hpath
  · next heq =>
    cases heq
    rfl
  · next heq => cases heq

theorem moduleName_of_endsInside (hpath : '\u0000' ∈ manifest.toText) :
    moduleName t cwd manifest = .error (.tree ⟨.endsInside, manifest.toText⟩) := by
  rw [moduleName, FileTree.readText_eq_endsInside_iff.mpr ⟨hpath, rfl⟩]

theorem moduleName_eq_ok_iff {name : Text} :
    moduleName t cwd manifest = .ok name ↔
      ∃ text, t.readText cwd manifest.toText = .ok text ∧
        FirstDeclares (Text.splitLines text) name := by
  cases hread : t.readText cwd manifest.toText with
  | ok text =>
    rw [moduleName_of_text hread]
    simp only [Except.ok.injEq, exists_eq_left', ← moduleName?_eq_some_iff]
    cases moduleName? text with
    | none => simp
    | some found => simp
  | error r =>
    by_cases hpath : '\u0000' ∈ manifest.toText
    · simp [moduleName_of_endsInside hpath]
    · simp [moduleName_of_unread hread hpath]

/-- A manifest is unreadable if it declares nothing, or if it cannot be read as a text. -/
theorem moduleName_eq_unreadable_iff {reason : Text} :
    moduleName t cwd manifest = .error (.unreadable manifest reason) ↔
      (∃ text, t.readText cwd manifest.toText = .ok text ∧
        (∀ line ∈ Text.splitLines text, ∀ name, ¬ Declares line name) ∧
        reason = "no module declaration".toList) ∨
      ('\u0000' ∉ manifest.toText ∧
        ∃ r, t.readText cwd manifest.toText = .error r ∧ reason = r.message) := by
  cases hread : t.readText cwd manifest.toText with
  | ok text =>
    rw [moduleName_of_text hread]
    simp only [Except.ok.injEq, exists_eq_left', ← moduleName?_eq_none_iff]
    cases moduleName? text with
    | none => simp [eq_comm]
    | some found => simp
  | error r =>
    by_cases hpath : '\u0000' ∈ manifest.toText
    · simp [moduleName_of_endsInside hpath, hpath]
    · simp [moduleName_of_unread hread hpath, hpath, eq_comm]

theorem refusal_of_moduleName {r : Refusal} (h : moduleName t cwd manifest = .error r)
    (hpath : '\u0000' ∉ manifest.toText) : ∃ reason, r = .unreadable manifest reason := by
  cases hread : t.readText cwd manifest.toText with
  | ok text =>
    rw [moduleName_of_text hread] at h
    split at h
    · cases h
    · cases h
      exact ⟨_, rfl⟩
  | error r =>
    rw [moduleName_of_unread hread hpath] at h
    cases h
    exact ⟨_, rfl⟩

end

/-! ## The main statement -/

/-- The name that is read from a manifest is the one that its first line declares that declares one.
It is refused as unreadable exactly if no line declares a name, or if the file cannot be read or is
no text; a path that holds the character that ends every path leads to no file.  A line declares at
most one name.  It declares none if text is glued to the keyword, if a quote is not closed, and if
there is nothing between the quotes. -/
theorem moduleName_declared (t : FileTree) (cwd : List Text) (manifest : Path) :
    (∀ name, moduleName t cwd manifest = .ok name ↔
      ∃ text, t.readText cwd manifest.toText = .ok text ∧
        FirstDeclares (Text.splitLines text) name) ∧
    (∀ reason, moduleName t cwd manifest = .error (.unreadable manifest reason) ↔
      (∃ text, t.readText cwd manifest.toText = .ok text ∧
        (∀ line ∈ Text.splitLines text, ∀ name, ¬ Declares line name) ∧
        reason = "no module declaration".toList) ∨
      ('\u0000' ∉ manifest.toText ∧
        ∃ r, t.readText cwd manifest.toText = .error r ∧ reason = r.message)) ∧
    (∀ r, moduleName t cwd manifest = .error r → '\u0000' ∉ manifest.toText →
      ∃ reason, r = .unreadable manifest reason) ∧
    (∀ line name other, Declares line name → Declares line other → name = other) ∧
    ∀ front gap s name, (∀ c ∈ front, Text.isBlank c = true) → (∀ c ∈ gap, Text.isBlank c = true) →
      ((∀ c, s.head? = some c → Text.isBlank c = false) →
        ¬ Declares (front ++ (keyword ++ s)) name) ∧
      ('"' ∉ s → ¬ Declares (front ++ (keyword ++ (gap ++ '"' :: s))) name) ∧
      ¬ Declares (front ++ (keyword ++ (gap ++ '"' :: '"' :: s))) name := by
  refine ⟨fun name => moduleName_eq_ok_iff, fun reason => moduleName_eq_unreadable_iff,
    fun r hr hpath => refusal_of_moduleName hr hpath, fun line name other => Declares.unique, ?_⟩
  intro front gap s name hfront hgap
  exact ⟨not_declares_glued hfront, not_declares_unclosed hfront hgap,
    not_declares_empty hfront hgap⟩

end Marginalia.Manifest
