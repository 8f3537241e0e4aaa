import Marginalia.Proofs.Report.Refused
import Marginalia.Proofs.Text.Fields

/-!
# Diagnostics written as a report

A diagnostic is written on a line as its file, the decimal digits of its line and its column, and
its message.  `Writable` says what it takes for the line to read back: the file name is undivided,
so that no message can make an earlier cut, and file and message stand on one line.

`writing_reads_back` is the main statement.  Writable diagnostics are read back as they are, and
everything that is read from a report is writable, whatever digits and blanks the report has.
-/

namespace Marginalia

namespace Diagnostic

/-! ## Valid diagnostics -/

/-- Some table stands for a diagnostic. -/
def IsValid (x : Diagnostic) : Prop :=
  ∃ fields, ofFields fields = .ok x

/-- The table that stands for a diagnostic. -/
def toFields (x : Diagnostic) : Fields :=
  [("source_file".toList, .text x.sourceFile),
   ("line".toList, .integer x.line.val),
   ("column".toList, .integer x.column.val),
   ("message".toList, .text x.message)]

theorem ofFields_toFields (x : Diagnostic) :
    ofFields x.toFields = .ok { x with message := Text.strip x.message } := by
  have hline : x.toFields.required "line".toList Value.toPositive = .ok x.line :=
    Checked.inside_eq_ok_iff.mpr (Value.toPositive_integer x.line)
  have hcolumn : x.toFields.required "column".toList Value.toPositive = .ok x.column :=
    Checked.inside_eq_ok_iff.mpr (Value.toPositive_integer x.column)
  rw [ofFields, hline, hcolumn]
  rfl

theorem eq_strip_of_messageOf {v : Value} {message : Text} (h : messageOf v = .ok message) :
    ∃ s, message = Text.strip s := by
  unfold messageOf at h
  split at h
  · next s _ =>
    cases h
    exact ⟨s, rfl⟩
  · cases h

theorem strip_message_of_ofFields {fields : Fields} {x : Diagnostic}
    (h : ofFields fields = .ok x) : Text.strip x.message = x.message := by
  obtain ⟨_, message, hcolumn, hmessage, rfl⟩ := Checked.ap_eq_ok_iff.mp h
  obtain ⟨_, column, hline, -, rfl⟩ := Checked.ap_eq_ok_iff.mp hcolumn
  obtain ⟨_, line, hfile, -, rfl⟩ := Checked.ap_eq_ok_iff.mp hline
  obtain ⟨_, file, hmake, -, rfl⟩ := Checked.ap_eq_ok_iff.mp hfile
  cases hmake
  have hvalue := Checked.inside_eq_ok_iff.mp hmessage
  split at hvalue
  · obtain ⟨s, rfl⟩ := eq_strip_of_messageOf hvalue
    exact Text.strip_strip s
  · cases hvalue

/-- A diagnostic is valid exactly if its message has no blanks at its ends. -/
theorem isValid_iff {x : Diagnostic} : x.IsValid ↔ Text.strip x.message = x.message := by
  constructor
  · rintro ⟨fields, h⟩
    exact strip_message_of_ofFields h
  · intro h
    exact ⟨x.toFields, by rw [ofFields_toFields, h]⟩

/-! ## Lines -/

/-- The parts of the line that writes a diagnostic. -/
def toParts (x : Diagnostic) : Parts :=
  ⟨x.sourceFile, Text.ofNat x.line.val, Text.ofNat x.column.val, x.message⟩

/-- The line that writes a diagnostic. -/
def toLine (x : Diagnostic) : Text :=
  x.toParts.toText

theorem isNumber_ofNat (n : Nat) : IsNumber (Text.ofNat n) :=
  ⟨Text.ofNat_ne_nil n, fun _ hc => Text.isDigit_of_mem_ofNat hc⟩

end Diagnostic

namespace Report

/-- The text of the lines that write diagnostics. -/
def textOf (xs : List Diagnostic) : Text :=
  Text.join ['\n'] (xs.map Diagnostic.toLine)

/-- A diagnostic about a document can be written on a line and read back. -/
structure Writable (cwd document : Path) (wanted : List Text) (x : Diagnostic) : Prop where
  /-- The diagnostic is valid. -/
  valid : x.IsValid
  /-- The file is the document. -/
  isAlias : IsAlias cwd document x.sourceFile
  /-- The file is a source file. -/
  file : Diagnostic.IsFile x.sourceFile
  /-- Nothing inside the file name is a file name with a place. -/
  undivided : Diagnostic.IsUndivided x.sourceFile
  /-- The file name stands on one line. -/
  file_whole : Text.IsWhole x.sourceFile
  /-- The message stands on one line. -/
  message_whole : Text.IsWhole x.message
  /-- The message is wanted. -/
  message : ∃ piece ∈ wanted, piece <:+: x.message
  /-- The line number does not have too many digits. -/
  line : (Text.ofNat x.line.val).length ≤ Text.digitLimit
  /-- The column number does not have too many digits. -/
  column : (Text.ofNat x.column.val).length ≤ Text.digitLimit

section
variable {cwd document : Path} {wanted : List Text} {x : Diagnostic}

/-! ## Writing and reading back -/

theorem Writable.plain (h : Writable cwd document wanted x) : x.toParts.Plain where
  file := h.file
  undivided := h.undivided
  line := Diagnostic.isNumber_ofNat _
  column := Diagnostic.isNumber_ofNat _
  file_whole := h.file_whole
  message_whole := h.message_whole

theorem Writable.speaksOf (h : Writable cwd document wanted x) :
    SpeaksOf cwd document wanted x.toLine x.toParts where
  shortest := h.plain.shortest
  file := h.isAlias
  message := by
    rw [Diagnostic.toParts, Diagnostic.isValid_iff.mp h.valid]
    exact h.message

theorem Writable.readable (h : Writable cwd document wanted x) :
    Readable cwd document wanted x.toLine := by
  intro p hp
  rw [hp.unique h.speaksOf]
  exact ⟨h.line, h.column⟩

theorem Writable.contributes (h : Writable cwd document wanted x) :
    Contributes cwd document wanted x.toLine x := by
  have hline : Text.digitsValue (Text.ofNat x.line.val) = x.line.val := Text.digitsValue_ofNat _
  have hcolumn : Text.digitsValue (Text.ofNat x.column.val) = x.column.val :=
    Text.digitsValue_ofNat _
  refine ⟨x.toParts, h.speaksOf, ?_, ?_, rfl, hline.symm, hcolumn.symm, ?_⟩
  · exact hline ▸ x.line.property
  · exact hcolumn ▸ x.column.property
  · exact (Diagnostic.isValid_iff.mp h.valid).symm

theorem collected_map_toLine {xs : List Diagnostic}
    (h : ∀ x ∈ xs, Writable cwd document wanted x) :
    Collected cwd document wanted (xs.map Diagnostic.toLine) xs := by
  induction xs with
  | nil => exact .nil
  | cons x xs ih =>
    exact .keep (h x List.mem_cons_self).contributes
      (ih fun y hy => h y (List.mem_cons_of_mem _ hy))

theorem parse_textOf {xs : List Diagnostic} (h : ∀ x ∈ xs, Writable cwd document wanted x) :
    parse (aliases cwd document) wanted (Text.splitLines (textOf xs)) = .ok xs := by
  have hwhole : ∀ line ∈ xs.map Diagnostic.toLine, Text.IsWhole line := by
    intro line hline
    obtain ⟨x, hx, rfl⟩ := List.mem_map.mp hline
    exact (h x hx).plain.isWhole
  have hread : ∀ line ∈ xs.map Diagnostic.toLine, Readable cwd document wanted line := by
    intro line hline
    obtain ⟨x, hx, rfl⟩ := List.mem_map.mp hline
    exact (h x hx).readable
  rw [textOf, parse_splitLines_join hwhole, parse_eq_ok_iff]
  exact ⟨hread, collected_map_toLine h⟩

/-! ## What is read can be written -/

/-- What a line contributes that is whole and can be read is writable. -/
theorem Contributes.writable {line : Text} (hx : Contributes cwd document wanted line x)
    (hwhole : Text.IsWhole line) (hread : Readable cwd document wanted line) :
    Writable cwd document wanted x := by
  obtain ⟨p, hspeaks, -, -, hfile, hline, hcolumn, hmessage⟩ := hx
  have hplain : p.Plain := by
    refine hspeaks.shortest.plain ?_
    rw [Text.dropLineEnd_of_isWhole hwhole]
    exact hwhole
  obtain ⟨hlimit, hlimit'⟩ := hread p hspeaks
  refine ⟨?_, ?_, ?_, ?_, ?_, ?_, ?_, ?_, ?_⟩
  · rw [Diagnostic.isValid_iff, hmessage, Text.strip_strip]
  · rw [hfile]; exact hspeaks.file
  · rw [hfile]; exact hplain.file
  · rw [hfile]; exact hplain.undivided
  · rw [hfile]; exact hplain.file_whole
  · rw [hmessage]; exact hplain.message_whole.infix (Text.strip_infix _)
  · rw [hmessage]; exact hspeaks.message
  · rw [hline]
    exact Nat.le_trans (Text.length_ofNat_digitsValue hplain.line.nonempty) hlimit
  · rw [hcolumn]
    exact Nat.le_trans (Text.length_ofNat_digitsValue hplain.column.nonempty) hlimit'

theorem writable_of_parse {s : Text} {xs : List Diagnostic}
    (h : parse (aliases cwd document) wanted (Text.splitLines s) = .ok xs) :
    ∀ x ∈ xs, Writable cwd document wanted x := by
  obtain ⟨hread, hcollected⟩ := parse_eq_ok_iff.mp h
  intro x hx
  obtain ⟨line, hline, hcontributes⟩ := hcollected.mem_iff.mp hx
  exact hcontributes.writable (Text.isWhole_of_mem_splitLines hline) (hread line hline)

/-- Diagnostics that are writable read back from the text of their lines as they are, in order.  All
that is read from a text is writable, so writing and reading it once more changes nothing. -/
theorem writing_reads_back (cwd document : Path) (wanted : List Text) :
    (∀ xs : List Diagnostic, (∀ x ∈ xs, Writable cwd document wanted x) →
      parse (aliases cwd document) wanted (Output.text (textOf xs)).toLines = .ok xs) ∧
    ∀ (s : Text) (xs : List Diagnostic),
      parse (aliases cwd document) wanted (Output.text s).toLines = .ok xs →
      (∀ x ∈ xs, Writable cwd document wanted x) ∧
        parse (aliases cwd document) wanted (Output.text (textOf xs)).toLines = .ok xs := by
  refine ⟨fun xs h => parse_textOf h, fun s xs h => ?_⟩
  have hwritable := writable_of_parse h
  exact ⟨hwritable, parse_textOf hwritable⟩

end

theorem writing_reads_back_of_quotedPlace :
    let x : Diagnostic :=
      ⟨"./a.go".toList, ⟨12, by decide⟩, ⟨3, by decide⟩, "b.go:1:2: x escapes".toList⟩
    let cwd := Path.ofText "/w".toList
    let document := Path.ofText "a.go".toList
    let written := "./a.go:12:3: b.go:1:2: x escapes\n./a.go:12:3: b.go:1:2: x escapes".toList
    Writable cwd document ["escapes".toList] x ∧ textOf [x, x] = written ∧
      parse (aliases cwd document) ["escapes".toList] (Output.text written).toLines
        = .ok [x, x] := by
  intro x cwd document written
  have hx : Writable cwd document ["escapes".toList] x :=
    { valid := Diagnostic.isValid_iff.mpr (by decide)
      isAlias := .inl rfl
      file := ⟨"./a".toList, by decide, rfl⟩
      undivided := Diagnostic.isUndivided_of_notMem (by decide)
      file_whole := by decide
      message_whole := by decide
      message := ⟨_, List.mem_singleton.mpr rfl, Text.occursIn_iff.mp (by decide)⟩
      line := by decide
      column := by decide }
  have hwritten : textOf [x, x] = written := by decide
  have hall : ∀ y ∈ [x, x], Writable cwd document ["escapes".toList] y := by
    intro y hy
    simp only [List.mem_cons, List.not_mem_nil, or_false, or_self] at hy
    exact hy ▸ hx
  obtain ⟨hwrite, hread⟩ := writing_reads_back cwd document ["escapes".toList]
  have hagain := (hread (textOf [x, x]) [x, x] (hwrite [x, x] hall)).2
  exact ⟨hx, hwritten, hwritten ▸ hagain⟩

end Report

end Marginalia
