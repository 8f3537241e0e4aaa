import Marginalia.Proofs.CommandLine.Status
import Marginalia.Proofs.Text.Encoding
import Marginalia.Proofs.Toml.Rest

/-!
# Settings files that cannot be used

A settings file that is there ought to give a table, or a refusal that names the file, and then the
command ends with status one and a message.  It does so for every file that is a text and writes no
number of too many digits, whatever else is wrong with it.  But a file whose bytes are no text, and
one that has such a number, are refused in a way that is about neither settings nor the file
(`Settings.Refusal.Blames` fails), and then the command does not end with a status.

What comes of each file is said by `Settings.Layer.Reads`.  The main statement is
`settings_file_refusals`; `malformed_settings_have_no_status` is a file whose bytes are no text.
-/

namespace Marginalia

namespace Settings

/-! ## Refusals -/

/-- A refusal of settings that is about a file. -/
inductive Refusal.Blames (file : Path) : Refusal → Prop where
  /-- The file may not be read. -/
  | closed (r : FileTree.Refusal) : Blames file (.closed file r)
  /-- The file is not written as a settings file. -/
  | unreadable : Blames file (.unreadable file)
  /-- The wanted table of the file is no table. -/
  | notTable : Blames file (.notTable file)

/-- A refusal that is about a file names it. -/
theorem Refusal.Blames.infix_message {file : Path} {r : Refusal} (h : r.Blames file) :
    file.toText <:+: r.message := by
  cases h with
  | closed r =>
    refine ⟨"Unable to read configuration at ".toList, ": ".toList ++ r.message, ?_⟩
    exact (List.append_assoc _ _ _).symm
  | unreadable => exact (List.suffix_append _ _).isInfix
  | notTable => exact ⟨"Configuration at ".toList, " must be a table".toList, rfl⟩

namespace Layer

/-! ## Reading a file -/

/-- What comes of the file of a layer, if it is there. -/
inductive Reads (t : FileTree) (cwd : List Text) (layer : Layer) : Except Refusal Fields → Prop where
  /-- The file may not be read. -/
  | closed {r} : t.read cwd layer.file.toText = .error r →
    Reads t cwd layer (.error (.closed layer.file r))
  /-- The bytes of the file are those of no text. -/
  | bytes {bytes r} : t.read cwd layer.file.toText = .ok bytes → (∀ s, Utf8.encode s ≠ bytes) →
    Utf8.decode bytes = .error r → Reads t cwd layer (.error (.bytes r))
  /-- The text of the file breaks a rule of the format. -/
  | malformed {s} : t.read cwd layer.file.toText = .ok (Utf8.encode s) →
    Toml.parse s = .error .malformed → Reads t cwd layer (.error (.unreadable layer.file))
  /-- The text of the file has a number of too many digits. -/
  | tooManyDigits {s} : t.read cwd layer.file.toText = .ok (Utf8.encode s) →
    Toml.parse s = .error .tooManyDigits → Toml.HasLongNumeral s →
    Reads t cwd layer (.error .tooManyDigits)
  /-- The names of the layer lead to a value that is no table. -/
  | notTable {s parsed} : t.read cwd layer.file.toText = .ok (Utf8.encode s) →
    Toml.parse s = .ok parsed → (∀ fields, follow layer.table (.table parsed) ≠ .table fields) →
    Reads t cwd layer (.error (.notTable layer.file))
  /-- The names of the layer lead to a table. -/
  | fields {s parsed fields} : t.read cwd layer.file.toText = .ok (Utf8.encode s) →
    Toml.parse s = .ok parsed → follow layer.table (.table parsed) = .table fields →
    Reads t cwd layer (.ok fields)

section
variable {t : FileTree} {cwd : List Text} {layer : Layer}

theorem fieldsIn_encode (s : Text) :
    layer.fieldsIn (Utf8.encode s) =
      match Toml.parse s with
      | .error .malformed => .error (.unreadable layer.file)
      | .error .tooManyDigits => .error .tooManyDigits
      | .ok parsed =>
        match follow layer.table (.table parsed) with
        | .table fields => .ok fields
        | _ => .error (.notTable layer.file) := by
  unfold fieldsIn
  exact Utf8.decode_encode s ▸ rfl

/-- The bytes of a file are those of a text, or they cannot be decoded. -/
theorem text_or_refused (bytes : List UInt8) :
    (∃ s, bytes = Utf8.encode s) ∨
      (∀ s, Utf8.encode s ≠ bytes) ∧ ∃ r, Utf8.decode bytes = .error r := by
  cases h : Utf8.decode bytes with
  | ok s => exact .inl ⟨s, (Utf8.decode_eq_ok_iff.mp h).symm⟩
  | error r =>
    refine .inr ⟨fun s hs => ?_, r, rfl⟩
    rw [Utf8.decode_eq_ok_iff.mpr hs] at h
    cases h

variable (hfile : t.isFile cwd layer.file.toText = .ok true)
include hfile

theorem load_eq_error_closed {r : FileTree.Refusal}
    (h : t.read cwd layer.file.toText = .error r) :
    layer.load t cwd = .error (.closed layer.file r) := by
  rw [load, hfile]
  simp only [h]

theorem load_eq_fieldsIn {bytes : List UInt8} (h : t.read cwd layer.file.toText = .ok bytes) :
    layer.load t cwd = layer.fieldsIn bytes := by
  rw [load, hfile]
  simp only [h]

theorem reads_load : Reads t cwd layer (layer.load t cwd) := by
  cases hread : t.read cwd layer.file.toText with
  | error r =>
    rw [load_eq_error_closed hfile hread]
    exact .closed hread
  | ok bytes =>
    rw [load_eq_fieldsIn hfile hread]
    rcases text_or_refused bytes with ⟨s, rfl⟩ | ⟨hnone, r, hdecode⟩
    · rw [fieldsIn_encode]
      cases hparse : Toml.parse s with
      | error e =>
        cases e with
        | malformed => exact .malformed hread hparse
        | tooManyDigits =>
          exact .tooManyDigits hread hparse (Toml.hasLongNumeral_of_parse hparse)
      | ok parsed =>
        simp only
        split
        · next fields hfollow => exact .fields hread hparse hfollow
        · next hnot => exact .notTable hread hparse hnot
    · rw [fieldsIn, hdecode]
      exact .bytes hread hnone hdecode

theorem Reads.load_eq {x : Except Refusal Fields} (h : Reads t cwd layer x) :
    layer.load t cwd = x := by
  cases h with
  | closed hread => exact load_eq_error_closed hfile hread
  | bytes hread _ hdecode => rw [load_eq_fieldsIn hfile hread, fieldsIn, hdecode]
  | malformed hread hparse => rw [load_eq_fieldsIn hfile hread, fieldsIn_encode, hparse]
  | tooManyDigits hread hparse => rw [load_eq_fieldsIn hfile hread, fieldsIn_encode, hparse]
  | notTable hread hparse hnot =>
    rw [load_eq_fieldsIn hfile hread, fieldsIn_encode, hparse]
    simp only
  | fields hread hparse hfollow =>
    rw [load_eq_fieldsIn hfile hread, fieldsIn_encode, hparse]
    simp only [hfollow]

theorem load_eq_iff {x : Except Refusal Fields} : layer.load t cwd = x ↔ Reads t cwd layer x :=
  ⟨fun h => h ▸ reads_load hfile, Reads.load_eq hfile⟩

end

end Layer

section
variable {t : FileTree} {cwd : Path} {front back : List Layer} {layer : Layer} {r : Refusal}

/-- Layers stand for nothing if one of them cannot be loaded; the first such layer says why. -/
theorem ofLayers_of_refused (hfront : ∀ l ∈ front, ∃ fields, l.load t cwd.names = .ok fields)
    (hlayer : layer.load t cwd.names = .error r) :
    ofLayers t cwd (front ++ layer :: back) = .error r := by
  have hloaded : (front ++ layer :: back).mapM (loaded t cwd) = .error r := by
    induction front with
    | nil =>
      rw [List.nil_append, List.mapM_cons, loaded, hlayer]
      rfl
    | cons l rest ih =>
      obtain ⟨⟨fields, hl⟩, hrest⟩ := List.forall_mem_cons.mp hfront
      rw [List.cons_append, List.mapM_cons, loaded, hl, ih hrest]
      rfl
  rw [ofLayers_eq_bind, hloaded]
  rfl

end

end Settings

namespace CommandLine

/-! ## Commands with settings files -/

section
variable {h : Host} {terminal : Bool} {words : List Text} {a : Annotate}
  {front back : List Settings.Layer} {layer : Settings.Layer} {r : Settings.Refusal}

theorem settings_of_refused (hlayers : layersOf h a = .ok (front ++ layer :: back))
    (hfront : ∀ l ∈ front, ∃ fields, l.load h.tree h.cwd.names = .ok fields)
    (hlayer : layer.load h.tree h.cwd.names = .error r) : settings h a = .error r := by
  rw [layersOf] at hlayers
  rw [settings, Settings.above, hlayers]
  simp only [Settings.ofLayers_of_refused hfront hlayer]
  rfl

theorem annotate_of_blamed {file : Path} (hsettings : settings h a = .error r)
    (hr : r.Blames file) :
    annotate h terminal a = .ok ⟨1, some ((messenger a).emit terminal .fail r.message), []⟩ := by
  rw [annotate, hsettings]
  cases hr with
  | closed r => rfl
  | unreadable => rfl
  | notTable => rfl

theorem annotate_of_bytes {r : Utf8.Refusal} (hsettings : settings h a = .error (.bytes r)) :
    annotate h terminal a = .error (.bytes r) := by
  rw [annotate, hsettings]

theorem annotate_of_tooManyDigits (hsettings : settings h a = .error .tooManyDigits) :
    annotate h terminal a = .error (.settings .tooManyDigits) := by
  rw [annotate, hsettings]

end

/-! ## The main statement -/

/-- The file of a layer that is there gives a table or is refused as `Reads` says.  If its bytes are
those of a text without numerals of too many digits, then a refusal names the file; but bytes of no
text, and any number of ones beyond the limit, are refused otherwise.  A command ends with status
one and the message of the first refusal if that is about its file, and without a status if not.

As for `Toml.parse`, there is no limit to how deep values are nested: of a reader that gives up on
some 500 open brackets this holds only for files that are nested less deep. -/
theorem settings_file_refusals {t : FileTree} {cwd : Path} {layer : Settings.Layer}
    (hfile : t.isFile cwd.names layer.file.toText = .ok true) :
    (∀ x, layer.load t cwd.names = x ↔ layer.Reads t cwd.names x) ∧
    ((∀ bytes, t.read cwd.names layer.file.toText = .ok bytes →
        ∃ s, bytes = Utf8.encode s ∧ ¬ Toml.HasLongNumeral s) →
      (∃ fields, layer.load t cwd.names = .ok fields) ∨
        ∃ r, layer.load t cwd.names = .error r ∧ r.Blames layer.file ∧
          layer.file.toText <:+: r.message) ∧
    (∀ bytes, t.read cwd.names layer.file.toText = .ok bytes → (∀ s, Utf8.encode s ≠ bytes) →
      ∃ r, layer.load t cwd.names = .error (.bytes r)) ∧
    (∀ n, Text.digitLimit < n →
      t.read cwd.names layer.file.toText = .ok (Utf8.encode ('a' :: '=' :: Toml.ones n)) →
      layer.load t cwd.names = .error .tooManyDigits) ∧
    ∀ r, layer.load t cwd.names = .error r → ∀ level? h words a front back terminal,
      h.tree = t → h.cwd = cwd → annotate? level? h words = some (.annotate a) →
      layersOf h a = .ok (front ++ layer :: back) →
      (∀ l ∈ front, ∃ fields, l.load t cwd.names = .ok fields) →
      (r.Blames layer.file → execute h terminal ("annotate".toList :: words) level?
        = .ok ⟨1, some ((messenger a).emit terminal .fail r.message), []⟩) ∧
      (¬ r.Blames layer.file →
        ∃ fault, execute h terminal ("annotate".toList :: words) level? = .error fault) := by
  have hreads (x : Except Settings.Refusal Fields) :
      layer.load t cwd.names = x ↔ layer.Reads t cwd.names x := Settings.Layer.load_eq_iff hfile
  refine ⟨hreads, fun htext => ?_, fun bytes hread hnone => ?_, fun n hn hread => ?_, ?_⟩
  · have blamed {r : Settings.Refusal} (hload : layer.load t cwd.names = .error r)
        (hr : r.Blames layer.file) : ∃ r, layer.load t cwd.names = .error r ∧
          r.Blames layer.file ∧ layer.file.toText <:+: r.message :=
      ⟨r, hload, hr, hr.infix_message⟩
    generalize hload : layer.load t cwd.names = x at blamed ⊢
    cases (hreads x).mp hload with
    | fields => exact .inl ⟨_, rfl⟩
    | closed => exact .inr (blamed rfl (.closed _))
    | malformed => exact .inr (blamed rfl .unreadable)
    | notTable => exact .inr (blamed rfl .notTable)
    | bytes hread hnone =>
      obtain ⟨s, hs, -⟩ := htext _ hread
      exact absurd hs.symm (hnone s)
    | tooManyDigits hread _ hlong =>
      obtain ⟨s, hs, hshort⟩ := htext _ hread
      have hsame := (Utf8.decode_encode _).symm.trans (hs ▸ Utf8.decode_encode s)
      exact absurd (Except.ok.inj hsame ▸ hlong) hshort
  · cases hdecode : Utf8.decode bytes with
    | ok s => exact absurd (Utf8.decode_eq_ok_iff.mp hdecode) (hnone s)
    | error r => exact ⟨r, (hreads _).mpr (.bytes hread hnone hdecode)⟩
  · have hparse := Toml.parse_ones hn
    exact (hreads _).mpr (.tooManyDigits hread hparse (Toml.hasLongNumeral_of_parse hparse))
  · rintro r hload level? h words a front back terminal rfl rfl hcommand hlayers hfront
    have hsettings := settings_of_refused hlayers hfront hload
    rw [execute_eq hcommand]
    refine ⟨annotate_of_blamed hsettings, fun hr => ?_⟩
    cases (hreads _).mp hload with
    | closed => exact absurd (.closed _) hr
    | malformed => exact absurd .unreadable hr
    | notTable => exact absurd .notTable hr
    | bytes => exact ⟨_, annotate_of_bytes hsettings⟩
    | tooManyDigits => exact ⟨_, annotate_of_tooManyDigits hsettings⟩

/-- A host with an empty source file and a settings file beside it. -/
def hostWithSettings (bytes : List UInt8) : Host :=
  ⟨⟨[([['w']], .directory), ([['w'], "a.go".toList], .file ⟨[], .plain, none⟩),
      ([['w'], Settings.ownFile], .file ⟨bytes, .plain, none⟩)]⟩, ⟨.top, [['w']]⟩, []⟩

/-- The layer of the settings file beside the source file. -/
def besideLayer : Settings.Layer :=
  ⟨⟨.top, [['w'], Settings.ownFile]⟩, []⟩

theorem settings_file_refusals_of_loneName :
    let h := hostWithSettings (Utf8.encode ['x'])
    h.tree.isFile h.cwd.names besideLayer.file.toText = .ok true ∧
      execute h false (["annotate", "a.go"].map String.toList) detail?
        = .ok ⟨1, some "❌ Unable to read configuration at /w/.goescape.toml\n".toList, []⟩ := by
  intro h
  have hfile : h.tree.isFile h.cwd.names besideLayer.file.toText = .ok true := by decide +kernel
  obtain ⟨hreads, -, -, -, hends⟩ := settings_file_refusals hfile
  have hread : h.tree.read h.cwd.names besideLayer.file.toText = .ok (Utf8.encode ['x']) := rfl
  have hload := (hreads _).mpr (.malformed hread rfl)
  have hcommand : annotate? detail? h ["a.go".toList]
      = some (.annotate (plainCommand "a.go".toList)) := by decide +kernel
  have hlayers : layersOf h (plainCommand "a.go".toList) = .ok ([] ++ besideLayer :: []) :=
    eq_ok_of_toOption (by decide +kernel)
  obtain ⟨hstatus, -⟩ := hends _ hload _ h _ _ [] [] false rfl rfl hcommand hlayers nofun
  have hprinted : (messenger (plainCommand "a.go".toList)).emit false .fail
      (Settings.Refusal.unreadable besideLayer.file).message
        = "❌ Unable to read configuration at /w/.goescape.toml\n".toList := by decide +kernel
  rw [hprinted] at hstatus
  exact ⟨hfile, hstatus .unreadable⟩

/-- A settings file of one byte that starts no character: nothing is loaded, the refusal does not
name the file, and the command does not end with a status. -/
theorem malformed_settings_have_no_status :
    let h := hostWithSettings [0xFF]
    let r : Utf8.Refusal := ⟨0, 1, 0xFF, .invalidStart⟩
    h.tree.isFile h.cwd.names besideLayer.file.toText = .ok true ∧
      besideLayer.load h.tree h.cwd.names = .error (.bytes r) ∧
      (¬ ∃ fields, besideLayer.load h.tree h.cwd.names = .ok fields) ∧
      (¬ ∃ e, besideLayer.load h.tree h.cwd.names = .error e ∧ e.Blames besideLayer.file) ∧
      execute h false (["annotate", "a.go"].map String.toList) detail? = .error (.bytes r) := by
  intro h r
  have hfile : h.tree.isFile h.cwd.names besideLayer.file.toText = .ok true := by decide +kernel
  have hdecode : Utf8.decode [0xFF] = .error r := by decide +kernel
  have hread : h.tree.read h.cwd.names besideLayer.file.toText = .ok [0xFF] := rfl
  have hload : besideLayer.load h.tree h.cwd.names = .error (.bytes r) := by
    rw [Settings.Layer.load_eq_fieldsIn hfile hread, Settings.Layer.fieldsIn, hdecode]
  have hcommand : annotate? detail? h ["a.go".toList]
      = some (.annotate (plainCommand "a.go".toList)) := by decide +kernel
  have hlayers : layersOf h (plainCommand "a.go".toList) = .ok ([] ++ besideLayer :: []) :=
    eq_ok_of_toOption (by decide +kernel)
  refine ⟨hfile, hload, ?_, ?_, ?_⟩
  · rintro ⟨fields, hfields⟩
    cases hload.symm.trans hfields
  · rintro ⟨e, herror, hblames⟩
    cases hload.symm.trans herror
    cases hblames
  · exact (execute_eq hcommand).trans
      (annotate_of_bytes (settings_of_refused hlayers nofun hload))

end CommandLine

end Marginalia
