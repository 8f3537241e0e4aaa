import Marginalia.Proofs.Document.Marker
import Marginalia.Proofs.Document.Opened
import Marginalia.Proofs.Files.Reach

/-!
# Saved documents

A file is read with each CR LF and each CR as a newline, but what is written is the text as it is.
So the two do not undo each other: a file that is opened and saved loses its carriage returns, and a
text that is saved and opened again loses them as well.  Nothing else is lost (`saved_and_opened`).

What carries the proof is that a file that is written stays where it is: a walk only passes
directories, so the file is on the way to no other place (`walk_set`).
-/

namespace Marginalia

/-! ## Written files -/

namespace FileTree

/-- Changing what is no directory does not change where a path leads. -/
theorem walk_set {t : FileTree} {place : List Text} (hne : place ≠ [])
    (hplace : t.node? place ≠ some .directory) (node : Node) {start other names : List Text}
    (h : t.walk start names = .ok other) : (t.set place node).walk start names = .ok other := by
  induction names generalizing start with
  | nil => exact h
  | cons name rest ih =>
    rw [walk] at h ⊢
    split at h
    · cases h
    · cases h
    · next hstart =>
      have hother : start ≠ place := by
        rintro rfl
        exact hplace hstart
      rw [node?_set t place start node hne, if_neg hother, hstart]
      simp only
      split at h
      · cases h
      · next hshort =>
        rw [if_neg hshort]
        exact ih h

section
variable {t : FileTree} {cwd : List Text} {path : Text}

theorem placeOf_set {place other : List Text} (hne : place ≠ [])
    (hplace : t.node? place ≠ some .directory) (node : Node) (h : t.placeOf cwd path = .ok other) :
    (t.set place node).placeOf cwd path = .ok other := by
  unfold placeOf at h ⊢
  split at h
  · cases h
  · next hends =>
    rw [if_neg hends]
    split at h
    · cases h
    · next hempty =>
      rw [if_neg hempty]
      split at h
      · cases h
      · next hlong =>
        rw [if_neg hlong]
        exact walk_set hne hplace node h

/-- What is read is what a file holds that may be read. -/
theorem read_eq_ok_iff {bytes : List UInt8} :
    t.read cwd path = .ok bytes ↔
      ∃ place f, t.locate cwd path = .ok (place, .file f) ∧ f.mode.readable = true ∧
        f.content = bytes := by
  rw [read]
  cases t.locate cwd path with
  | error cause =>
    refine ⟨fun h => ?_, ?_⟩
    · cases h
    · rintro ⟨_, _, h, -⟩
      cases h
  | ok found =>
    obtain ⟨place, _ | f⟩ := found
    · refine ⟨fun h => ?_, ?_⟩
      · cases h
      · rintro ⟨_, _, h, -⟩
        cases h
    · constructor
      · intro h
        simp only at h
        split at h
        · next hreadable =>
          cases h
          exact ⟨place, f, rfl, hreadable, rfl⟩
        · cases h
      · rintro ⟨_, _, hfound, hreadable, rfl⟩
        cases hfound
        exact if_pos hreadable

variable {place : List Text} {f : File} (hfile : t.locate cwd path = .ok (place, .file f))
include hfile

theorem place_ne_nil : place ≠ [] := by
  rintro rfl
  cases (locate_eq_ok_iff.mp hfile).2

/-- The tree with other bytes in a file. -/
theorem write_file (bytes : List UInt8) :
    t.write cwd path bytes =
      if f.mode.writable then .ok (t.set place (.file ⟨bytes, f.mode, none⟩))
      else .error ⟨.denied, path⟩ := by
  obtain ⟨hplace, hnode⟩ := locate_eq_ok_iff.mp hfile
  rw [write, writeAs, hplace]
  simp only [hnode]

/-- A file is found where it was after something has been written to it. -/
theorem locate_set (g : File) : (t.set place (.file g)).locate cwd path = .ok (place, .file g) := by
  obtain ⟨hplace, hnode⟩ := locate_eq_ok_iff.mp hfile
  have hne := place_ne_nil hfile
  have hother : t.node? place ≠ some .directory := by
    rw [hnode]
    exact nofun
  rw [locate_eq_ok_iff, node?_set t place place _ hne, if_pos rfl]
  exact ⟨placeOf_set hne hother _ hplace, rfl⟩

end

end FileTree

/-! ## Carriage returns -/

theorem Text.foldNewlines_eq_self_iff {s : Text} : foldNewlines s = s ↔ '\r' ∉ s := by
  constructor
  · intro h
    rw [← h]
    exact foldNewlines_noReturn s
  · intro h
    induction s with
    | nil => rfl
    | cons c s ih =>
      obtain ⟨hc, hs⟩ := List.ne_and_not_mem_of_not_mem_cons h
      rw [foldNewlines_cons fun heq => absurd heq.symm hc, if_neg (Ne.symm hc), ih hs]

theorem Edit.eq_insert_of_effect {e : Edit} {length n : Nat} {s : Text}
    (h : e.effect length = .insertion n s) : ∃ offset, e = .insert offset s := by
  cases e with
  | insert offset text =>
    simp only [effect] at h
    split at h
    · split at h
      · cases h
        exact ⟨offset, rfl⟩
      · cases h
    · cases h
  | delete start stop =>
    simp only [effect] at h
    split at h
    · split at h <;> cases h
    · cases h

theorem Utf8.encode_inj {s s' : Text} : encode s = encode s' ↔ s = s' := by
  refine ⟨fun h => ?_, congrArg encode⟩
  have hdecode := decode_encode s
  rw [h, decode_encode] at hdecode
  exact (Except.ok.inj hdecode).symm

namespace Document

open Text (foldNewlines foldNewlines_eq_self_iff)

/-! ## Edits -/

theorem file_edit (d : Document) (e : Edit) : (d.edit e).file = d.file := by
  rcases d.edit_cases e with ⟨-, h⟩ | ⟨n, s, -, h⟩ | ⟨i, j, landing, -, -, h⟩
  · rw [h]
  · rw [h]
    rfl
  · rw [h]
    rfl

theorem file_edits (edits : List Edit) (d : Document) : (edits.foldl edit d).file = d.file := by
  induction edits generalizing d with
  | nil => rfl
  | cons e rest ih => rw [List.foldl_cons, ih, file_edit]

/-- What is in the text after an edit was there before or has been inserted. -/
theorem mem_text_edit {d : Document} {e : Edit} {c : Char} (h : c ∈ (d.edit e).text) :
    c ∈ d.text ∨ ∃ offset s, e = .insert offset s ∧ c ∈ s := by
  rcases d.edit_cases e with ⟨-, he⟩ | ⟨n, s, heffect, he⟩ | ⟨i, j, landing, -, -, he⟩
  · rw [he] at h
    exact .inl h
  · rw [he] at h
    have hmem : c ∈ d.text.take n ++ s ++ d.text.drop n := h
    rw [List.mem_append, List.mem_append] at hmem
    rcases hmem with (hmem | hmem) | hmem
    · exact .inl (List.mem_of_mem_take hmem)
    · obtain ⟨offset, rfl⟩ := Edit.eq_insert_of_effect heffect
      exact .inr ⟨offset, s, rfl, hmem⟩
    · exact .inl (List.mem_of_mem_drop hmem)
  · rw [he] at h
    have hmem : c ∈ d.text.take i ++ d.text.drop j := h
    rcases List.mem_append.mp hmem with hmem | hmem
    · exact .inl (List.mem_of_mem_take hmem)
    · exact .inl (List.mem_of_mem_drop hmem)

theorem mem_text_edits {edits : List Edit} {d : Document} {c : Char}
    (h : c ∈ (edits.foldl edit d).text) :
    c ∈ d.text ∨ ∃ offset s, Edit.insert offset s ∈ edits ∧ c ∈ s := by
  induction edits generalizing d with
  | nil => exact .inl h
  | cons e rest ih =>
    rcases ih h with hfirst | ⟨offset, s, hs, hmem⟩
    · rcases mem_text_edit hfirst with hmem | ⟨offset, s, rfl, hmem⟩
      · exact .inl hmem
      · exact .inr ⟨offset, s, List.mem_cons_self, hmem⟩
    · exact .inr ⟨offset, s, List.mem_cons_of_mem _ hs, hmem⟩

/-! ## Saving -/

section
variable {t : FileTree} {cwd path : Path} {d : Document} {place : List Text} {f : File}

theorem write_of_file (hpath : d.file = some path)
    (hfile : t.locate cwd.names path.toText = .ok (place, .file f)) :
    d.write t cwd =
      if f.mode.writable then .ok (t.set place (.file ⟨Utf8.encode d.text, f.mode, none⟩))
      else .error ⟨.denied, path.toText⟩ := by
  rw [write, hpath]
  exact FileTree.write_file hfile _

end

/-- A document that is opened from a file can be saved, after whatever edits, exactly if the file
may be written.  The file then holds the text, and nothing else has changed.  Saved as it was
opened, it holds the bytes it held exactly if there was no carriage return among them.  Opened
again, it has the text that was saved exactly if no carriage return is in it, which takes an edit
that inserts one. -/
theorem saved_and_opened {t : FileTree} {cwd path : Path} {bytes : List UInt8} {s : Text}
    (hread : t.read cwd.names path.toText = .ok bytes) (hdecode : Utf8.decode bytes = .ok s) :
    ∃ d place f, ofFile t cwd path = .ok d ∧
      t.locate cwd.names path.toText = .ok (place, .file f) ∧
      -- no edit
      (∀ t', d.write t cwd = .ok t' →
        t'.read cwd.names path.toText = .ok (Utf8.encode (foldNewlines s)) ∧
        (t'.read cwd.names path.toText = .ok bytes ↔ '\r' ∉ s)) ∧
      -- any edits
      ∀ edits : List Edit, let saved := edits.foldl edit d
        ((∃ t', saved.write t cwd = .ok t') ↔ f.mode.writable = true) ∧
        ∀ t', saved.write t cwd = .ok t' →
          t'.read cwd.names path.toText = .ok (Utf8.encode saved.text) ∧
          (∀ other, other ≠ place → t'.node? other = t.node? other) ∧
          ∃ d', ofFile t' cwd path = .ok d' ∧ d'.text = foldNewlines saved.text ∧
            (d'.text = saved.text ↔ '\r' ∉ saved.text) ∧
            ((∀ offset inserted, Edit.insert offset inserted ∈ edits → '\r' ∉ inserted) →
              d'.text = saved.text) := by
  obtain ⟨place, f, hfile, hreadable, -⟩ := FileTree.read_eq_ok_iff.mp hread
  have hopen := ofFile_eq hread hdecode
  generalize hd : ofText (nameOf cwd [] (some path) 0) (some path) (foldNewlines s) = d at hopen
  have htext : d.text = foldNewlines s := hd ▸ rfl
  have hpath : ∀ edits : List Edit, (edits.foldl edit d).file = some path :=
    fun edits => (file_edits edits d).trans (hd ▸ rfl)
  have hsaved : ∀ (edits : List Edit) t', (edits.foldl edit d).write t cwd = .ok t' →
      t'.read cwd.names path.toText = .ok (Utf8.encode (edits.foldl edit d).text) ∧
        ∀ other, other ≠ place → t'.node? other = t.node? other := by
    intro edits t' hwrite
    rw [write_of_file (hpath edits) hfile] at hwrite
    split at hwrite
    · cases hwrite
      refine ⟨FileTree.read_eq_ok_iff.mpr
        ⟨place, _, FileTree.locate_set hfile _, hreadable, rfl⟩, fun other hother => ?_⟩
      rw [FileTree.node?_set _ _ _ _ (FileTree.place_ne_nil hfile), if_neg hother]
    · cases hwrite
  refine ⟨d, place, f, hopen, hfile, fun t' hwrite => ?_, fun edits => ⟨?_, fun t' hwrite => ?_⟩⟩
  · obtain ⟨hback, -⟩ := hsaved [] t' hwrite
    rw [List.foldl_nil, htext] at hback
    refine ⟨hback, ?_⟩
    rw [hback, Except.ok.injEq, ← Utf8.decode_eq_ok_iff.mp hdecode, Utf8.encode_inj]
    exact foldNewlines_eq_self_iff
  · rw [write_of_file (hpath edits) hfile]
    split
    · next hwritable => exact iff_of_true ⟨_, rfl⟩ hwritable
    · next hwritable => exact iff_of_false nofun hwritable
  · obtain ⟨hback, hothers⟩ := hsaved edits t' hwrite
    refine ⟨hback, hothers, _, ofFile_eq hback (Utf8.decode_encode _), rfl,
      foldNewlines_eq_self_iff, fun hinserted => foldNewlines_eq_self_iff.mpr fun hmem => ?_⟩
    rcases mem_text_edits hmem with hmem | ⟨offset, inserted, hedit, hmem⟩
    · rw [htext] at hmem
      exact Text.foldNewlines_noReturn s hmem
    · exact hinserted offset inserted hedit hmem

/-- A tree with one file, at `/w/a`. -/
def oneFile (s : Text) : FileTree :=
  ⟨[([['w']], .directory), ([['w'], ['a']], .file ⟨Utf8.encode s, .plain, none⟩)]⟩

theorem saved_and_opened_of_insertedReturn :
    let cwd : Path := ⟨.top, [['w']]⟩
    let path : Path := ⟨.here, [['a']]⟩
    ∃ d, ofFile (oneFile "a\nb\n".toList) cwd path = .ok d ∧
      (∃ t', d.write (oneFile "a\nb\n".toList) cwd = .ok t' ∧
        t'.read cwd.names path.toText = .ok (Utf8.encode "a\nb\n".toList)) ∧
      ∃ t' d', (d.edit (.insert (.whole 1) ['\r'])).write (oneFile "a\nb\n".toList) cwd = .ok t' ∧
        ofFile t' cwd path = .ok d' ∧
        t'.read cwd.names path.toText = .ok (Utf8.encode "a\r\nb\n".toList) ∧
        d'.text = "a\nb\n".toList := by
  intro cwd path
  have hread : (oneFile "a\nb\n".toList).read cwd.names path.toText
      = .ok (Utf8.encode "a\nb\n".toList) := rfl
  obtain ⟨d, place, f, hopen, hfile, hsame, hedits⟩ := saved_and_opened hread (Utf8.decode_encode _)
  cases hfile
  obtain ⟨t', hwrite⟩ := (hedits []).1.mpr rfl
  obtain ⟨t'', hwrite'⟩ := (hedits [.insert (.whole 1) ['\r']]).1.mpr rfl
  obtain ⟨hback, -, d', hopen', htext, -⟩ := (hedits [.insert (.whole 1) ['\r']]).2 t'' hwrite'
  have hd := ofFile_eq hread (Utf8.decode_encode _)
  rw [hd] at hopen
  cases hopen
  refine ⟨_, hd, ⟨t', hwrite, (hsame t' hwrite).2.mpr (by decide)⟩, t'', d', hwrite', hopen',
    ?_, ?_⟩
  · rw [hback]
    rfl
  · rw [htext]
    decide

/-- A file whose lines end with CR LF is rewritten when it is opened and saved. -/
theorem returns_are_lost :
    let cwd : Path := ⟨.top, [['w']]⟩
    let path : Path := ⟨.here, [['a']]⟩
    let t := oneFile "package a\r\nvar x = 1\r\n".toList
    ∃ d t', ofFile t cwd path = .ok d ∧ d.write t cwd = .ok t' ∧
      t.read cwd.names path.toText = .ok (Utf8.encode "package a\r\nvar x = 1\r\n".toList) ∧
      t'.read cwd.names path.toText = .ok (Utf8.encode "package a\nvar x = 1\n".toList) ∧
      t'.read cwd.names path.toText ≠ t.read cwd.names path.toText := by
  intro cwd path t
  have hread : t.read cwd.names path.toText
      = .ok (Utf8.encode "package a\r\nvar x = 1\r\n".toList) := rfl
  have hopen := ofFile_eq hread (Utf8.decode_encode _)
  let t' := t.set [['w'], ['a']]
    (.file ⟨Utf8.encode "package a\nvar x = 1\n".toList, .plain, none⟩)
  have hback : t'.read cwd.names path.toText
      = .ok (Utf8.encode "package a\nvar x = 1\n".toList) := rfl
  refine ⟨_, t', hopen, rfl, hread, hback, fun hsame => ?_⟩
  rw [hback, hread, Except.ok.injEq, Utf8.encode_inj] at hsame
  exact absurd hsame (by decide)

end Document

end Marginalia
