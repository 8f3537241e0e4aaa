import Marginalia.Proofs.CommandLine.Ending
import Marginalia.Proofs.CommandLine.Words

/-!
# Which settings count

Each setting of a command ought to be what an option of the command says, and if there is none, what
the file of this tool says, then what the file of all tools says, and what is standard in the end.
That is how the wanted messages, the detail level and the compiler are found.  Pictograms and
colours are on unless an option of the command turns them off: no file has a say in it.

The main statement is `command_layers`; `file_cannot_silence` is a file that is not heard.
-/

namespace Marginalia.CommandLine

open Settings (Choice WrittenIn)

/-! ## The settings of a command -/

/-- What a command lays over the settings of files: its choice, and whether pictograms and colours
are on, chosen or not. -/
def imposed (c : Choice) : Choice :=
  { c with emoji := some (c.emoji.getD true), color := some (c.color.getD true) }

section
variable {a : Annotate} {c : Choice} (hkeeps : Keeps a c)
include hkeeps

theorem changes_of_keeps :
    changes a = [
      ("detail_level".toList, (c.detailLevel.map fun n => Value.integer n.val).getD .null),
      ("allow_list".toList, (c.allowList.map fun texts => Value.list (texts.map .text)).getD .null),
      ("emoji".toList, .boolean (c.emoji.getD true)),
      ("color".toList, .boolean (c.color.getD true))] := by
  rw [changes, hkeeps.detail_eq, hkeeps.allow_eq, hkeeps.emoji_eq, hkeeps.color_eq]
  rcases hallow : c.allowList with _ | _ | ⟨text, rest⟩
  · rfl
  · exact absurd hallow hkeeps.allow_ne
  · rfl

theorem writtenIn_changes :
    WrittenIn (Fields.update [] (Settings.actual (changes a))) (imposed c).settings ∧
      Choice.ofTable (Settings.actual (changes a)) (imposed c).settings = imposed c := by
  rw [changes_of_keeps hkeeps]
  have hgo := hkeeps.goBinary_eq
  obtain ⟨allowList, detailLevel, goBinary, emoji, color⟩ := c
  cases hgo
  have hknown : ∀ fields : Fields, fields.onlyKnown Settings.names = .ok () →
      ∀ name, (fields.get? name).isSome → name ∈ Settings.names :=
    fun _ => Fields.onlyKnown_eq_ok_iff.mp
  cases allowList with
  | none =>
    cases detailLevel with
    | none => exact ⟨⟨rfl, rfl, rfl, rfl, rfl, hknown _ rfl⟩, rfl⟩
    | some level =>
      exact ⟨⟨rfl, Value.toPositive_integer level, rfl, rfl, rfl, hknown _ rfl⟩, rfl⟩
  | some wanted =>
    have hwanted := Settings.toTexts_texts .tupleType wanted
    cases detailLevel with
    | none => exact ⟨⟨hwanted, rfl, rfl, rfl, rfl, hknown _ rfl⟩, rfl⟩
    | some level =>
      exact ⟨⟨hwanted, Value.toPositive_integer level, rfl, rfl, rfl, hknown _ rfl⟩, rfl⟩

theorem override_changes (s : Settings) : s.override (changes a) = .ok ((imposed c).onto s) := by
  obtain ⟨hwritten, htable⟩ := writtenIn_changes hkeeps
  have hown : (changes a).get? Settings.ownName = none := rfl
  rw [Settings.override_of_writtenIn hown hwritten, htable]

end

theorem settings_of_choices {h : Host} {a : Annotate} {c project own : Choice} (hkeeps : Keeps a c)
    (hproject : Settings.nearestChoice h.tree h.cwd (a.root.getD a.file.parent)
      Settings.projectFile Settings.projectTable = .ok project)
    (hown : Settings.nearestChoice h.tree h.cwd (a.root.getD a.file.parent)
      Settings.ownFile [] = .ok own) :
    settings h a = .ok ((imposed c).orElse (own.orElse project)).settings := by
  rw [settings, Settings.above_of_choices hproject hown]
  exact (override_changes hkeeps _).trans (congrArg _ (Choice.orElse_onto _ _ _).symm)

/-- To be on unless turned off is the same with and without what lies below, unless that one alone
would turn it off. -/
theorem getD_true_eq_iff (given below : Option Bool) :
    given.getD true = (given.or below).getD true ↔ given.isSome ∨ below ≠ some false := by
  cases given with
  | some on => simp
  | none => rcases below with _ | _ | _ <;> decide

/-! ## The main statement -/

/-- The settings of a command are what its options choose, and where they are silent, what the
nearest file of this tool chooses and then the nearest file of all tools, except for pictograms and
colours: they are on unless an option turns them off, which makes a difference exactly if no option
is given and the files turn them off.  The detail level that an option chooses is what its last
value is read as, which for `detail?` is the whole number that the value writes.  Under these
settings the compiler runs, and its diagnostics are found and printed. -/
theorem command_layers {level? : LevelReading} {h : Host} {words : List Text} {a : Annotate}
    {project own : Choice} (hcommand : annotate? level? h words = some (.annotate a))
    (hproject : Settings.nearestChoice h.tree h.cwd (a.root.getD a.file.parent)
      Settings.projectFile Settings.projectTable = .ok project)
    (hown : Settings.nearestChoice h.tree h.cwd (a.root.getD a.file.parent)
      Settings.ownFile [] = .ok own) :
    ∃ items, items? words = some items ∧
      let given := choiceOf level? items
      let layered := (given.orElse (own.orElse project)).settings
      let s := { layered with emoji := given.emoji.getD true, color := given.color.getD true }
      let m : Console.Messenger := ⟨s.emoji, if s.color then none else some false⟩
      settings h a = .ok s ∧
      (level? = detail? → ∀ level, given.detailLevel = some level ↔
        ∃ text, (items.filterMap (Item.value? .detail)).getLast? = some text ∧
          Text.WritesInteger text level.val) ∧
      (s.emoji = layered.emoji ↔ given.emoji.isSome ∨ (own.orElse project).emoji ≠ some false) ∧
      (s.color = layered.color ↔ given.color.isSome ∨ (own.orElse project).color ≠ some false) ∧
      ∀ terminal d unitId, Document.ofFile h.tree h.cwd a.file = .ok d →
        a.file.suffix = Diagnostic.sourceSuffix →
        Package.ofFile h.tree h.cwd a.file = .ok unitId →
        execute h terminal ("annotate".toList :: words) level?
          = endingOf terminal m a.file s d unitId (Analysis.analyse h d unitId s) := by
  obtain ⟨items, hitems, hkeeps⟩ := exists_items_of_annotate? hcommand
  have hsettings := settings_of_choices hkeeps hproject hown
  refine ⟨items, hitems, hsettings, ?_, ?_, ?_, ?_⟩
  · rintro rfl level
    rw [choiceOf, Option.bind_eq_some_iff]
    simp only [detail?_eq_some_iff]
  · exact getD_true_eq_iff _ _
  · exact getD_true_eq_iff _ _
  · intro terminal d unitId hopen hsuffix hunit
    have hnamed : command? level? h ("annotate".toList :: words) = some (.annotate a) := hcommand
    rw [execute, hnamed]
    simp only
    rw [annotate, hsettings, messenger, hkeeps.emoji_eq, hkeeps.color_eq]
    exact annotateWith_eq hopen hsuffix hunit

/-- A host with a file of this tool that turns pictograms off, and a file of all tools. -/
def layeredHost : Host :=
  let file (name content : String) : List Text × Node :=
    ([['w'], name.toList], .file ⟨Utf8.encode content.toList, .plain, none⟩)
  ⟨⟨[([['w']], .directory), file "a.go" "package a\n",
      file "pyproject.toml" "[tool.goescape]\ndetail_level = 2\ngo_binary = 'p'\n",
      file ".goescape.toml" "go_binary = 'o'\nemoji = false\n"]⟩,
    ⟨.top, [['w']]⟩, []⟩

theorem nearestChoice_layeredHost :
    Settings.nearestChoice layeredHost.tree layeredHost.cwd ⟨.top, [['w']]⟩
        Settings.projectFile Settings.projectTable
        = .ok ⟨none, some ⟨2, by decide⟩, some ['p'], none, none⟩ ∧
      Settings.nearestChoice layeredHost.tree layeredHost.cwd ⟨.top, [['w']]⟩ Settings.ownFile []
        = .ok ⟨none, none, some ['o'], some false, none⟩ :=
  ⟨eq_ok_of_toOption (by decide +kernel), eq_ok_of_toOption (by decide +kernel)⟩

theorem command_layers_of_layeredHost :
    let words := ["-d", "+3 ", "-a", "y", "a.go"].map String.toList
    ∃ a s, annotate? detail? layeredHost words = some (.annotate a) ∧
      settings layeredHost a = .ok s ∧ s.allowList = [['y']] ∧ s.detailLevel.val = 3 ∧
      s.goBinary = ['o'] ∧ s.emoji = true := by
  intro words
  let a : Annotate :=
    ⟨⟨.top, [['w'], "a.go".toList]⟩, some ⟨3, by decide⟩, [['y']], none, true, true⟩
  have hcommand : annotate? detail? layeredHost words = some (.annotate a) := by decide +kernel
  obtain ⟨hproject, hown⟩ := nearestChoice_layeredHost
  obtain ⟨items, hitems, hsettings, -⟩ := command_layers hcommand hproject hown
  cases hitems
  exact ⟨a, _, hcommand, hsettings, rfl, rfl, rfl, rfl⟩

/-- Where no option is given and the file of this tool turns pictograms off, they are on all the
same, in the settings and in what is printed. -/
theorem file_cannot_silence :
    let words := ["a.go".toList]
    let a : Annotate := ⟨⟨.top, [['w'], "a.go".toList]⟩, none, [], none, true, true⟩
    annotate? detail? layeredHost words = some (.annotate a) ∧
      items? words = some [.word "a.go".toList] ∧
      Settings.nearestChoice layeredHost.tree layeredHost.cwd a.file.parent Settings.ownFile []
        = .ok ⟨none, none, some ['o'], some false, none⟩ ∧
      (∃ s, settings layeredHost a = .ok s ∧ s.emoji = true) ∧
      ∃ e, execute layeredHost false ("annotate".toList :: words) detail? = .ok e ∧
        e.printed.any ("ℹ️ Analysing w…\n".toList.isPrefixOf ·) := by
  intro words a
  obtain ⟨hproject, hown⟩ := nearestChoice_layeredHost
  have hkeeps : Keeps a (choiceOf detail? [.word "a.go".toList]) := ⟨rfl, nofun, rfl, rfl, rfl, rfl⟩
  have hsettings := settings_of_choices (h := layeredHost) hkeeps hproject hown
  have hprinted :
      ((execute layeredHost false ("annotate".toList :: words) detail?).toOption.map fun e =>
        e.printed.any ("ℹ️ Analysing w…\n".toList.isPrefixOf ·)) = some true := by decide +kernel
  obtain ⟨e, he, hany⟩ := Option.map_eq_some_iff.mp hprinted
  exact ⟨by decide +kernel, rfl, hown, ⟨_, hsettings, rfl⟩, e, eq_ok_of_toOption he, hany⟩

end Marginalia.CommandLine
