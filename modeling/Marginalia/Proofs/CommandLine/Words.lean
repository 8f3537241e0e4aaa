import Marginalia.CommandLine
import Marginalia.Proofs.Settings.Choice
import Marginalia.Proofs.Text.Integers

/-!
# What the words of a command say

A command is read word by word, and what it has said so far is all that is kept.  Here its words are
first cut into *items*, each of which says one thing: `read?_eq`.  So it can be asked whether an
option was given at all, which the reading forgets for the options that are on or off.

`exists_items_of_annotate?` says what becomes of the items in a command.
-/

namespace Marginalia.CommandLine

/-! ## Items -/

/-- What one or two words of a command say. -/
inductive Item where
  /-- A word that is no option. -/
  | word (text : Text)
  /-- Pictograms are on or off. -/
  | emoji (on : Bool)
  /-- Colours are on or off. -/
  | color (on : Bool)
  /-- An option has a value. -/
  | value (option : Valued) (text : Text)
deriving DecidableEq, Repr

/-- What words of a command say, one thing after another, if they say anything. -/
def items? : List Text → Option (List Item)
  | [] => some []
  | word :: rest =>
    if word = "--".toList then some (rest.map .word)
    else if isFlag word then
      match flag? word with
      | none => none
      | some (.emoji on) => (items? rest).map (.emoji on :: ·)
      | some (.color on) => (items? rest).map (.color on :: ·)
      | some (.valued option (some text)) => (items? rest).map (.value option text :: ·)
      | some (.valued option none) =>
        match rest with
        | [] => none
        | text :: rest => (items? rest).map (.value option text :: ·)
    else (items? rest).map (.word word :: ·)

namespace Given

/-- One more thing is said. -/
def after (g : Given) : Item → Given
  | .word text => { g with words := g.words ++ [text] }
  | .emoji on => { g with emoji := on }
  | .color on => { g with color := on }
  | .value option text => g.value text option

theorem foldl_after_words (g : Given) (words : List Text) :
    (words.map Item.word).foldl after g = { g with words := g.words ++ words } := by
  induction words generalizing g with
  | nil => simp
  | cons word rest ih =>
    rw [List.map_cons, List.foldl_cons, ih]
    simp [after]

theorem map_foldl_after (g : Given) (item : Item) (items : Option (List Item)) :
    (items.map (item :: ·)).map (fun items => items.foldl after g)
      = items.map fun items => items.foldl after (g.after item) := by
  rw [Option.map_map]
  rfl

end Given

/-- Words are read as their items say. -/
theorem read?_eq (g : Given) (words : List Text) :
    read? g words = (items? words).map fun items => items.foldl Given.after g := by
  fun_induction read? g words with
  | case1 g => rfl
  | case2 g rest =>
    rw [items?, if_pos rfl]
    exact congrArg some (Given.foldl_after_words g rest).symm
  | case3 g word rest hdashes hflag hnone =>
    rw [items?, if_neg hdashes, if_pos hflag, hnone]
    rfl
  | case4 g word rest hdashes hflag on hemoji ih =>
    rw [items?, if_neg hdashes, if_pos hflag, hemoji, ih]
    exact (Given.map_foldl_after g (.emoji on) _).symm
  | case5 g word rest hdashes hflag on hcolor ih =>
    rw [items?, if_neg hdashes, if_pos hflag, hcolor, ih]
    exact (Given.map_foldl_after g (.color on) _).symm
  | case6 g word rest hdashes hflag option text hjoined ih =>
    rw [items?, if_neg hdashes, if_pos hflag, hjoined, ih]
    exact (Given.map_foldl_after g (.value option text) _).symm
  | case7 g word hdashes hflag option hvalued =>
    rw [items?, if_neg hdashes, if_pos hflag, hvalued]
    rfl
  | case8 g word hdashes hflag option hvalued text rest ih =>
    rw [items?, if_neg hdashes, if_pos hflag, hvalued, ih]
    exact (Given.map_foldl_after g (.value option text) _).symm
  | case9 g word rest hdashes hflag ih =>
    rw [items?, if_neg hdashes, if_neg hflag, ih]
    exact (Given.map_foldl_after g (.word word) _).symm

/-! ## What items say about one thing -/

namespace Item

/-- What an item says about pictograms. -/
def emoji? : Item → Option Bool
  | .emoji on => some on
  | _ => none

/-- What an item says about colours. -/
def color? : Item → Option Bool
  | .color on => some on
  | _ => none

/-- The value that an item gives an option. -/
def value? (option : Valued) : Item → Option Text
  | .value other text => if other = option then some text else none
  | _ => none

end Item

/-- The last item that speaks of something counts. -/
theorem foldl_after_last {α : Type} (part : Given → Option α) (speech : Item → Option α)
    (h : ∀ g item, part (g.after item) = (speech item).or (part g)) (g : Given)
    (items : List Item) :
    part (items.foldl Given.after g) = (items.filterMap speech).getLast?.or (part g) := by
  induction items generalizing g with
  | nil => rfl
  | cons item rest ih =>
    rw [List.foldl_cons, ih, h, List.filterMap_cons]
    cases speech item with
    | none => rfl
    | some a =>
      rw [List.getLast?_cons]
      cases (rest.filterMap speech).getLast? with
      | none => rfl
      | some b => rfl

section
variable (g : Given) (items : List Item)

theorem emoji_foldl_after :
    (items.foldl Given.after g).emoji = (items.filterMap Item.emoji?).getLast?.getD g.emoji := by
  have hone : ∀ (g : Given) (item : Item),
      some (g.after item).emoji = item.emoji?.or (some g.emoji) := by
    rintro g (_ | _ | _ | ⟨_ | _ | _, _⟩) <;> rfl
  have hlast := foldl_after_last (fun g => some g.emoji) Item.emoji? hone g items
  rw [Option.or_some] at hlast
  exact Option.some.inj hlast

theorem color_foldl_after :
    (items.foldl Given.after g).color = (items.filterMap Item.color?).getLast?.getD g.color := by
  have hone : ∀ (g : Given) (item : Item),
      some (g.after item).color = item.color?.or (some g.color) := by
    rintro g (_ | _ | _ | ⟨_ | _ | _, _⟩) <;> rfl
  have hlast := foldl_after_last (fun g => some g.color) Item.color? hone g items
  rw [Option.or_some] at hlast
  exact Option.some.inj hlast

theorem detail_foldl_after :
    (items.foldl Given.after g).detail
      = (items.filterMap (Item.value? .detail)).getLast?.or g.detail := by
  have hone : ∀ (g : Given) (item : Item),
      (g.after item).detail = (item.value? .detail).or g.detail := by
    rintro g (_ | _ | _ | ⟨_ | _ | _, _⟩) <;> rfl
  exact foldl_after_last Given.detail (Item.value? .detail) hone g items

/-- Wanted messages add up. -/
theorem allow_foldl_after :
    (items.foldl Given.after g).allow = g.allow ++ items.filterMap (Item.value? .allow) := by
  induction items generalizing g with
  | nil => simp
  | cons item rest ih =>
    have hone : (g.after item).allow = g.allow ++ (item.value? .allow).toList := by
      rcases item with _ | _ | _ | ⟨_ | _ | _, _⟩ <;> simp [Given.after, Given.value, Item.value?]
    rw [List.foldl_cons, ih, hone, List.filterMap_cons, List.append_assoc]
    cases item.value? .allow with
    | none => rfl
    | some text => rfl

end

/-! ## What a command chooses -/

/-- What the items of a command choose.  The last of several counts, except for wanted messages,
which add up. -/
def choiceOf (level? : LevelReading) (items : List Item) : Settings.Choice where
  allowList :=
    match items.filterMap (Item.value? .allow) with
    | [] => none
    | wanted => some wanted
  detailLevel := (items.filterMap (Item.value? .detail)).getLast?.bind level?
  goBinary := none
  emoji := (items.filterMap Item.emoji?).getLast?
  color := (items.filterMap Item.color?).getLast?

/-- The detail level that a text writes is the whole number that it writes, from one on. -/
theorem detail?_eq_some_iff {text : Text} {level : Positive} :
    detail? text = some level ↔ Text.WritesInteger text level.val := by
  rw [← Text.integer?_eq_some_iff, detail?]
  obtain ⟨level, hlevel⟩ := level
  split
  · next n hn =>
    rw [hn, Option.some_inj, Int.ofNat_eq_natCast, Int.natCast_inj]
    split
    · next hone => rw [Option.some_inj, Subtype.mk.injEq]
    · next hone =>
      refine ⟨nofun, ?_⟩
      rintro rfl
      exact absurd hlevel hone
  · next hnone =>
    refine ⟨nofun, fun h => ?_⟩
    exact absurd h (hnone level)

/-- The choice of a command, as far as the command keeps it. -/
structure Keeps (a : Annotate) (c : Settings.Choice) : Prop where
  allow_eq : a.allow = c.allowList.getD []
  allow_ne : c.allowList ≠ some []
  detail_eq : a.detail = c.detailLevel
  goBinary_eq : c.goBinary = none
  emoji_eq : a.emoji = c.emoji.getD true
  color_eq : a.color = c.color.getD true

/-- The value of an option that need not be given, but is read if it is. -/
def optional {α : Type} (read : Text → Option α) : Option Text → Option (Option α)
  | none => some none
  | some text => (read text).map some

theorem eq_bind_of_optional {α : Type} {read : Text → Option α} {text : Option Text}
    {a : Option α} (h : optional read text = some a) : a = text.bind read := by
  cases text with
  | none => exact (Option.some.inj h).symm
  | some text =>
    obtain ⟨x, hx, rfl⟩ := Option.map_eq_some_iff.mp h
    exact hx.symm

theorem annotate?_eq (level? : LevelReading) (h : Host) (words : List Text) :
    annotate? level? h words = (read? .nothing words).bind fun g =>
      match g.words with
      | [word] =>
        (file? h word).bind fun file =>
        (optional level? g.detail).bind fun detail =>
        (optional (root? h) g.root).bind fun root =>
          some (.annotate ⟨file, detail, g.allow, root, g.emoji, g.color⟩)
      | _ => none := by
  rw [annotate?]
  refine congrArg _ (funext fun g => ?_)
  rcases g.words with _ | ⟨word, _ | ⟨more, rest⟩⟩
  · rfl
  · show (file? h word).bind _ = (file? h word).bind _
    refine congrArg _ (funext fun file => ?_)
    cases g.detail with
    | none =>
      cases g.root with
      | none => rfl
      | some => rfl
    | some =>
      cases g.root with
      | none => rfl
      | some => rfl
  · rfl

/-- The parts of a command that come from what its words say. -/
theorem exists_given_of_annotate? {level? : LevelReading} {h : Host} {words : List Text}
    {a : Annotate} (hcommand : annotate? level? h words = some (.annotate a)) :
    ∃ g, read? .nothing words = some g ∧ a.detail = g.detail.bind level? ∧ a.allow = g.allow ∧
      a.emoji = g.emoji ∧ a.color = g.color := by
  rw [annotate?_eq, Option.bind_eq_some_iff] at hcommand
  obtain ⟨g, hg, hcommand⟩ := hcommand
  split at hcommand
  · simp only [Option.bind_eq_some_iff] at hcommand
    obtain ⟨file, -, detail, hdetail, root, -, hcommand⟩ := hcommand
    cases hcommand
    exact ⟨g, hg, eq_bind_of_optional hdetail, rfl, rfl, rfl⟩
  · cases hcommand

/-- A command keeps what its items choose, but not whether they say anything of pictograms and
colours. -/
theorem exists_items_of_annotate? {level? : LevelReading} {h : Host} {words : List Text}
    {a : Annotate} (hcommand : annotate? level? h words = some (.annotate a)) :
    ∃ items, items? words = some items ∧ Keeps a (choiceOf level? items) := by
  obtain ⟨g, hg, hdetail, hallow, hemoji, hcolor⟩ := exists_given_of_annotate? hcommand
  rw [read?_eq, Option.map_eq_some_iff] at hg
  obtain ⟨items, hitems, rfl⟩ := hg
  rw [allow_foldl_after] at hallow
  rw [detail_foldl_after, Given.nothing, Option.or_none] at hdetail
  rw [emoji_foldl_after] at hemoji
  rw [color_foldl_after] at hcolor
  refine ⟨items, hitems, ?_, ?_, hdetail, rfl, hemoji, hcolor⟩
  · rw [hallow, choiceOf]
    cases items.filterMap (Item.value? .allow) with
    | nil => rfl
    | cons => rfl
  · rw [choiceOf]
    cases items.filterMap (Item.value? .allow) with
    | nil => exact nofun
    | cons => exact nofun

end Marginalia.CommandLine
