import Marginalia.Proofs.Document.Marker
import Marginalia.Proofs.Store.Rows

/-!
# Notes at the ends of lines that move

A note is shown in the row of a line because its anchor is the end of that line.  Both change when
the text is edited: the anchor is moved by arithmetic, and the line gets another number when
newlines are inserted or deleted in front of it.  `Carried` says which number a line gets by an edit
that leaves its end alone, and `Document.HasAtEnd.carried` that a decoration at its end goes with
it.

The case to look at is a last line without a newline: what stands in front of its end may be deleted
up to a newline, and then the line is gone.

`notes_go_with_lines` puts edits after each other, as a host asks for them in a session, and reads
the rows in the end.
-/

namespace Marginalia

/-! ## Edits within a text -/

theorem Anchor.isAt_iff {anchor : Anchor} {m : Nat} (h : anchor.count? = some m) (n : Nat) :
    anchor.isAt n = true ↔ m = n := by
  cases anchor with
  | whole k =>
    cases h
    exact beq_iff_eq
  | truth b =>
    cases h
    exact beq_iff_eq
  | real r => cases h

theorem Edit.le_length_of_insertion {e : Edit} {length offset : Nat} {text : Text}
    (h : e.effect length = .insertion offset text) : offset ≤ length := by
  cases e with
  | insert p s =>
    simp only [effect] at h
    split at h
    · split at h
      · cases h
        omega
      · cases h
    · cases h
  | delete p q =>
    simp only [effect] at h
    split at h
    · split at h <;> cases h
    · cases h

theorem Edit.le_length_of_deletion {e : Edit} {length start stop : Nat}
    (h : e.effect length = .deletion start stop) : stop ≤ length := by
  cases e with
  | insert p s =>
    simp only [effect] at h
    split at h
    · split at h <;> cases h
    · cases h
  | delete p q =>
    simp only [effect] at h
    split at h
    · split at h
      · cases h
        omega
      · cases h
    · cases h

/-! ## Edits around the end of a line -/

namespace Document

/-- If there are more lines than newlines, the end of the text is the end of a line. -/
theorem endsLine_of_count_lt {text : Text} (h : text.count '\n' < countLines text) :
    EndsLine text [] := by
  have hsome := (@lineEnd?_isSome_iff text (text.count '\n' + 1 : Nat)).mpr (by omega)
  obtain ⟨stop, hstop⟩ := Option.isSome_iff_exists.mp hsome
  obtain ⟨-, hends, hcount⟩ := endsLine_lineEnd hstop
  have hboth := List.take_append_drop stop text
  cases hback : text.drop stop with
  | nil =>
    rw [hback, List.append_nil] at hboth
    rwa [hback, hboth] at hends
  | cons c rest =>
    -- the newline behind the end would be one more than there are
    have hc : c = '\n' := by
      rw [hback] at hends
      simpa [EndsLine] using hends
    have hmore := congrArg (List.count '\n') hboth
    rw [List.count_append, hcount, hback, hc, List.count_cons_self] at hmore
    omega

theorem EndsLine.of_front {a a' b back : Text} (h : EndsLine (a ++ b) back) (hb : b ≠ []) :
    EndsLine (a' ++ b) back := by
  refine h.imp_right fun ⟨hback, _, hend⟩ => ⟨hback, by simp [hb], ?_⟩
  rwa [List.getLast?_append_of_ne_nil _ hb] at hend ⊢

/-- What follows the newline behind the end of a line is of no account. -/
theorem EndsLine.of_back {front back : Text} (h : EndsLine front back) (hback : back ≠ [])
    {n : Nat} (hn : 0 < n) (more : Text) : EndsLine front (back.take n ++ more) := by
  obtain ⟨c, rest, rfl⟩ := List.exists_cons_of_ne_nil hback
  obtain ⟨k, rfl⟩ : ∃ k, n = k + 1 := ⟨n - 1, by omega⟩
  have hc : c = '\n' := by simpa [EndsLine] using h
  exact .inl (congrArg some hc)

end Document

namespace Marker

open Document (EndsLine countLines endsLine_of_count_lt)

variable {m : Marker} {offset start stop : Nat}

/-- More text in front of the end of a line. -/
theorem endsLine_insert_front (h : EndsLine m.front m.back) (ho : offset < m.front.length)
    (s : Text) :
    EndsLine (m.insert offset s).front (m.insert offset s).back ∧
      (m.insert offset s).front.count '\n' = m.front.count '\n' + s.count '\n' := by
  have hfront := List.take_append_drop offset m.front
  rw [insert, if_pos ho]
  constructor
  · rw [← hfront] at h
    exact h.of_front (by simpa using ho)
  · have hcount := congrArg (List.count '\n') hfront
    simp only [List.count_append] at hcount ⊢
    omega

/-- More text behind the end of a line. -/
theorem endsLine_insert_back (h : EndsLine m.front m.back) (ho : m.front.length < offset)
    (hle : offset ≤ m.text.length) (s : Text) :
    EndsLine (m.insert offset s).front (m.insert offset s).back ∧
      (m.insert offset s).front = m.front := by
  have hback : m.back ≠ [] := by
    intro hnil
    rw [text, hnil, List.append_nil] at hle
    omega
  rw [insert, if_neg (by omega)]
  refine ⟨?_, rfl⟩
  simp only [List.append_assoc]
  exact h.of_back hback (by omega) _

theorem count_delete_front (hle : start ≤ stop) :
    (m.delete start stop).front.count '\n' + ((m.front.take stop).drop start).count '\n'
      = m.front.count '\n' := by
  have hcut := congrArg (List.count '\n') (List.take_append_drop stop m.front)
  have hfirst := congrArg (List.count '\n') (List.take_append_drop start (m.front.take stop))
  rw [List.take_take, Nat.min_eq_left hle] at hfirst
  simp only [delete, List.count_append] at hcut hfirst ⊢
  omega

/-- Less text in front of the end of a line, which is gone if there are no more lines than newlines
in front. -/
theorem endsLine_delete_front (h : EndsLine m.front m.back) (hle : start ≤ stop)
    (hs : stop ≤ m.front.length)
    (hline : (m.delete start stop).front.count '\n' < countLines (m.delete start stop).text) :
    EndsLine (m.delete start stop).front (m.delete start stop).back := by
  have hback : (m.delete start stop).back = m.back := by
    rw [delete, Nat.sub_eq_zero_of_le hs, Nat.sub_eq_zero_of_le (Nat.le_trans hle hs)]
    rfl
  rcases h with hnewline | ⟨hnil, -, -⟩
  · exact .inl (hback ▸ hnewline)
  · rw [text, hback, hnil, List.append_nil] at hline
    rw [hback, hnil]
    exact endsLine_of_count_lt hline

/-- Less text behind the end of a line. -/
theorem endsLine_delete_back (h : EndsLine m.front m.back) (hs : m.front.length < start)
    (hle : start ≤ stop) (hstop : stop ≤ m.text.length) :
    EndsLine (m.delete start stop).front (m.delete start stop).back ∧
      (m.delete start stop).front = m.front := by
  have hback : m.back ≠ [] := by
    intro hnil
    rw [text, hnil, List.append_nil] at hstop
    omega
  refine ⟨?_, ?_⟩
  · rw [delete, List.take_of_length_le (by omega), List.drop_of_length_le (by omega),
      List.append_nil]
    exact h.of_back hback (by omega) _
  · rw [delete, List.take_of_length_le (by omega), List.drop_of_length_le (by omega),
      List.append_nil]

end Marker

/-! ## Lines that edits carry -/

namespace Document

/-- The number that a line of a document has after an edit that leaves the end of it alone. -/
inductive Carried (d : Document) (line : Nat) (e : Edit) : Nat → Prop where
  /-- A refused edit changes nothing. -/
  | refused : e.effect d.text.length = .nothing → Carried d line e line
  /-- Newlines that are inserted in front of the end come in front of the line. -/
  | insertFront {stop offset : Nat} {text : Text} : d.lineEnd (.whole line) = .ok stop →
    e.effect d.text.length = .insertion offset text → offset < stop →
    Carried d line e (line + text.count '\n')
  /-- What is inserted behind the end comes behind the line. -/
  | insertBehind {stop offset : Nat} {text : Text} : d.lineEnd (.whole line) = .ok stop →
    e.effect d.text.length = .insertion offset text → stop < offset → Carried d line e line
  /-- Newlines that are deleted in front of the end have been in front of the line, if it is still
  there. -/
  | deleteFront {stop first last : Nat} : d.lineEnd (.whole line) = .ok stop →
    e.effect d.text.length = .deletion first last → last ≤ stop →
    line - ((d.text.take last).drop first).count '\n' ≤ (d.edit e).lineCount →
    Carried d line e (line - ((d.text.take last).drop first).count '\n')
  /-- What is deleted behind the end has been behind the line. -/
  | deleteBehind {stop first last : Nat} : d.lineEnd (.whole line) = .ok stop →
    e.effect d.text.length = .deletion first last → stop < first → Carried d line e line

/-- A decoration of a document that is `x` but for its place stands at the end of a line. -/
def HasAtEnd (d : Document) (number : Nat) (x : Decoration) (line : Nat) : Prop :=
  ∃ (anchor : Anchor) (stop : Nat), (number, { x with offset := anchor }) ∈ d.attached ∧
    anchor.count? = some stop ∧ d.lineEnd (.whole line) = .ok stop

variable {d : Document} {number line line' : Nat} {x : Decoration} {e : Edit}

/-- A marker that stands at the end of a line stands at the end of the line that this has become. -/
theorem Carried.endsLine {m : Marker} (hc : Carried d line e line') (htext : m.text = d.text)
    (hedited : (m.edit e).text = (d.edit e).text) (hends : EndsLine m.front m.back)
    (hline : m.front.count '\n' + 1 = line) :
    EndsLine (m.edit e).front (m.edit e).back ∧ (m.edit e).front.count '\n' + 1 = line' := by
  have hend : ∀ {stop}, d.lineEnd (.whole line) = .ok stop → m.front.length = stop := by
    intro stop hstop
    have hstands := lineEnd?_of_endsLine hends
    rw [hline, show m.front ++ m.back = d.text from htext] at hstands
    exact Option.some.inj (hstands.symm.trans (lineEnd_eq_ok_iff.mp hstop))
  rw [Marker.edit, htext] at hedited ⊢
  cases hc with
  | refused he =>
    rw [he]
    exact ⟨hends, hline⟩
  | insertFront hstop he ho =>
    obtain ⟨hends', hcount⟩ := Marker.endsLine_insert_front hends (hend hstop ▸ ho) _
    rw [he]
    exact ⟨hends', by rw [hcount, ← hline, Nat.add_right_comm]⟩
  | insertBehind hstop he ho =>
    have hle := Edit.le_length_of_insertion he
    obtain ⟨hends', hsame⟩ :=
      Marker.endsLine_insert_back hends (hend hstop ▸ ho) (htext ▸ hle) _
    rw [he]
    exact ⟨hends', hsame ▸ hline⟩
  | @deleteFront stop first last hstop he hle hthere =>
    have hlast : last ≤ m.front.length := hend hstop ▸ hle
    have hcount := Marker.count_delete_front (m := m) (Edit.le_of_effect he)
    have hcut : d.text.take last = m.front.take last := by
      rw [← htext, Marker.text, List.take_append_of_le_length hlast]
    rw [he] at hedited ⊢
    have hedited : (m.delete first last).text = (d.edit e).text := hedited
    rw [lineCount, ← hedited, hcut] at hthere
    rw [hcut]
    refine ⟨Marker.endsLine_delete_front hends (Edit.le_of_effect he) hlast ?_, ?_⟩
    · show _ < countLines (m.delete first last).text
      omega
    · show (m.delete first last).front.count '\n' + 1 = _
      omega
  | deleteBehind hstop he hs =>
    have hle := Edit.le_of_effect he
    have hlength := Edit.le_length_of_deletion he
    obtain ⟨hends', hsame⟩ :=
      Marker.endsLine_delete_back hends (hend hstop ▸ hs) hle (htext ▸ hlength)
    rw [he]
    exact ⟨hends', hsame ▸ hline⟩

/-- A decoration at the end of a line goes where the line goes. -/
theorem HasAtEnd.carried (h : d.HasAtEnd number x line) (hc : Carried d line e line') :
    (d.edit e).HasAtEnd number x line' := by
  obtain ⟨anchor, stop, hmem, hanchor, hend⟩ := h
  have hstop := lineEnd_eq_ok_iff.mp hend
  have hone := (lineEnd?_isSome_iff.mp (Option.isSome_of_eq_some hstop)).1
  obtain ⟨i, rfl⟩ : ∃ i, line = i + 1 := ⟨line - 1, by omega⟩
  obtain ⟨hle, hends, hcount⟩ := endsLine_lineEnd hstop
  obtain ⟨move, hattached, hstands⟩ := d.stands_edit e
  have hbehind : (Marker.behind stop d.text).StandsAt d.text anchor :=
    ⟨Marker.text_behind stop d.text, by rw [hanchor, Marker.length_front_behind hle]⟩
  have hmoved := hstands _ _ hbehind
  obtain ⟨hends', hcount'⟩ := hc.endsLine hbehind.text_eq hmoved.text_eq hends
    (congrArg (· + 1) hcount)
  have hend' := lineEnd?_of_endsLine hends'
  rw [hcount', show _ ++ _ = (d.edit e).text from hmoved.text_eq] at hend'
  refine ⟨move anchor, _, ?_, hmoved.count_eq, lineEnd_eq_ok_iff.mpr hend'⟩
  rw [hattached]
  exact List.mem_map.mpr ⟨_, hmem, rfl⟩

/-- The number that a line of a document has after edits, each of which leaves the end of it
alone. -/
inductive Carries : Document → Nat → List Edit → Nat → Prop where
  | nil {d : Document} {line : Nat} : Carries d line [] line
  | cons {d : Document} {line line' line'' : Nat} {e : Edit} {edits : List Edit} :
    Carried d line e line' → Carries (d.edit e) line' edits line'' →
    Carries d line (e :: edits) line''

theorem HasAtEnd.carries {edits : List Edit} (hc : Carries d line edits line')
    (h : d.HasAtEnd number x line) : (edits.foldl edit d).HasAtEnd number x line' := by
  induction hc with
  | nil => exact h
  | cons hstep _ ih => exact ih (h.carried hstep)

/-! ## Rows -/

/-- A decoration at the end of a line is read in the row of the line and in no other. -/
theorem HasAtEnd.shown (h : d.HasAtEnd number x line) :
    ∃ (anchor : Anchor) (rows : List (Text × List Text)),
      (number, { x with offset := anchor }) ∈ d.attached ∧
      d.annotated d.lines = .ok rows ∧ rows.length = d.lineCount ∧
      1 ≤ line ∧ line ≤ d.lineCount ∧
      ∀ i, i < d.lineCount → ∃ content stop,
        d.lines[i]? = some content ∧ d.lineEnd (.whole (i + 1 : Nat)) = .ok stop ∧
        rows[i]? = some (content, (d.attached.filter fun entry =>
          entry.2.offset.isAt stop).map fun entry => entry.2.text) ∧
        (anchor.isAt stop = true ↔ i + 1 = line) := by
  obtain ⟨anchor, stop, hmem, hanchor, hend⟩ := h
  have hthere := lineEnd?_isSome_iff.mp (Option.isSome_of_eq_some (lineEnd_eq_ok_iff.mp hend))
  have hcount : d.lineCount = countLines d.text := rfl
  refine ⟨anchor, d.rows, hmem, d.annotated_lines, d.length_rows, by omega, by omega,
    fun i hi => ?_⟩
  obtain ⟨content, stop', hcontent, hstop', hrow⟩ := getElem?_rows hi
  have hend' := lineEnd_eq_ok_iff.mpr hstop'
  refine ⟨content, stop', hcontent, hend', hrow, ?_⟩
  rw [Anchor.isAt_iff hanchor]
  constructor
  · rintro rfl
    rcases Nat.lt_trichotomy (i + 1) line with hlt | heq | hgt
    · have := lineEnd_lt_lineEnd hend' hend (by omega)
      omega
    · exact heq
    · have := lineEnd_lt_lineEnd hend hend' (by omega)
      omega
  · intro heq
    subst heq
    exact Except.ok.inj (hend.symm.trans hend')

theorem edit_of_tryEdit {d' : Document} (h : d.tryEdit e = .ok d') : d.edit e = d' := by
  rw [edit, h]

end Document

/-! ## Edits in a session -/

namespace Session

open Document (Carried Carries HasAtEnd edit_of_tryEdit lineEnd_eq_ok_iff endsLine_lineEnd)

theorem documents_afterAll_edits (edits : List Edit) {w : World} {n : Nat} {d : Document}
    (hd : (w.documents : List Document)[n]? = some d) :
    ((w.afterAll (edits.map (Edit.step n))).documents : List Document)[n]?
      = some (edits.foldl Document.edit d) := by
  induction edits generalizing w d with
  | nil => exact hd
  | cons e rest ih =>
    apply ih
    rw [(advance_edit hd e).2, List.getElem?_set_self (List.getElem?_eq_some_iff.mp hd).1]

/-- A decoration at the end of a line goes with the line: to the line with a number that is larger
by the newlines inserted in front, smaller by the newlines deleted in front, and the same if the
text is edited behind.  After any edits of these kinds, and refused ones among them, it is read in
the row of the line and in no other. -/
theorem notes_go_with_lines {w : World} {n : Nat} {d : Document} {number line stop : Nat}
    {x : Decoration} (hd : (w.documents : List Document)[n]? = some d)
    (hx : d.HasAtEnd number x line) (hstop : d.lineEnd (.whole line) = .ok stop) :
    -- more text in front of the end, and behind it
    (∀ (offset : Nat) (text : Text), offset < stop →
      ∃ d', d.insert (.whole offset) text = .ok d' ∧
        d'.HasAtEnd number x (line + text.count '\n')) ∧
    (∀ (offset : Nat) (text : Text), stop < offset → offset ≤ d.text.length →
      ∃ d', d.insert (.whole offset) text = .ok d' ∧ d'.HasAtEnd number x line) ∧
    -- less text in front of the end, and behind it
    (∀ first last : Nat, first ≤ last → last ≤ stop →
      ∃ d', d.delete (.whole first) (.whole last) = .ok d' ∧
        let gone := ((d.text.take last).drop first).count '\n'
        (line - gone ≤ d'.lineCount → d'.HasAtEnd number x (line - gone))) ∧
    (∀ first last : Nat, stop < first → first ≤ last → last ≤ d.text.length →
      ∃ d', d.delete (.whole first) (.whole last) = .ok d' ∧ d'.HasAtEnd number x line) ∧
    -- one edit after the other
    ∀ edits line', Carries d line edits line' →
      ∃ (d' : Document) (anchor : Anchor) (rows : List (Text × List Text)),
        ((w.afterAll (edits.map (Edit.step n))).documents : List Document)[n]? = some d' ∧
        (number, { x with offset := anchor }) ∈ d'.attached ∧
        d'.annotated d'.lines = .ok rows ∧ rows.length = d'.lineCount ∧
        1 ≤ line' ∧ line' ≤ d'.lineCount ∧
        ∀ i, i < d'.lineCount → ∃ content stop',
          d'.lines[i]? = some content ∧ d'.lineEnd (.whole (i + 1 : Nat)) = .ok stop' ∧
          rows[i]? = some (content, (d'.attached.filter fun entry =>
            entry.2.offset.isAt stop').map fun entry => entry.2.text) ∧
          (anchor.isAt stop' = true ↔ i + 1 = line') := by
  have hone := (Document.lineEnd?_isSome_iff.mp
    (Option.isSome_of_eq_some (lineEnd_eq_ok_iff.mp hstop))).1
  obtain ⟨k, rfl⟩ : ∃ k, line = k + 1 := ⟨line - 1, by omega⟩
  have hrange := (endsLine_lineEnd (lineEnd_eq_ok_iff.mp hstop)).1
  have hinsert : ∀ (offset : Nat) (text : Text), offset ≤ d.text.length →
      ∃ d', d.insert (.whole offset) text = .ok d' ∧
        d.edit (.insert (.whole offset) text) = d' ∧
        (Edit.insert (.whole offset) text).effect d.text.length = .insertion offset text := by
    intro offset text hle
    have hd' := (d.insert_whole offset text).trans (if_pos (by omega))
    exact ⟨_, hd', edit_of_tryEdit hd', by simp [Edit.effect, Position.count?, hle]⟩
  have hdelete : ∀ first last : Nat, first ≤ last → last ≤ d.text.length →
      ∃ d', d.delete (.whole first) (.whole last) = .ok d' ∧
        d.edit (.delete (.whole first) (.whole last)) = d' ∧
        (Edit.delete (.whole first) (.whole last)).effect d.text.length
          = .deletion first last := by
    intro first last hle hlast
    have hd' := (d.delete_whole first last).trans (if_pos (by omega))
    exact ⟨_, hd', edit_of_tryEdit hd', by simp [Edit.effect, Position.count?, hle, hlast]⟩
  refine ⟨?_, ?_, ?_, ?_, ?_⟩
  · intro offset text ho
    obtain ⟨d', hd', hedit, he⟩ := hinsert offset text (by omega)
    exact ⟨d', hd', hedit ▸ hx.carried (.insertFront hstop he ho)⟩
  · intro offset text ho hle
    obtain ⟨d', hd', hedit, he⟩ := hinsert offset text hle
    exact ⟨d', hd', hedit ▸ hx.carried (.insertBehind hstop he ho)⟩
  · intro first last hle hlast
    obtain ⟨d', hd', hedit, he⟩ := hdelete first last hle (by omega)
    exact ⟨d', hd', fun hthere =>
      hedit ▸ hx.carried (.deleteFront hstop he hlast (hedit.symm ▸ hthere))⟩
  · intro first last hs hle hlast
    obtain ⟨d', hd', hedit, he⟩ := hdelete first last hle hlast
    exact ⟨d', hd', hedit ▸ hx.carried (.deleteBehind hstop he hs)⟩
  · intro edits line' hc
    obtain ⟨anchor, rows, hshown⟩ := (hx.carries hc).shown
    exact ⟨_, anchor, rows, documents_afterAll_edits edits hd, hshown⟩

/-- A document of three lines with a decoration at the end of the second. -/
def betweenLines : Document :=
  (Document.ofText ['d'] none "a\nb\nc".toList).attachAll [⟨.whole 3, ['n'], [], true⟩]

theorem notes_go_with_lines_of_betweenLines :
    let w := World.start ⟨.empty, Path.ofText ['/'], []⟩ false [betweenLines] []
    -- a line is inserted in front, an edit is refused, and the first and the last line are deleted
    let edits : List Edit :=
      [.insert (.whole 0) "x\n".toList, .delete (.whole 1) (.whole 9),
        .delete (.whole 0) (.whole 4), .delete (.whole 2) (.whole 3)]
    ∃ (d' : Document) (rows : List (Text × List Text)),
      ((w.afterAll (edits.map (Edit.step 0))).documents : List Document)[0]? = some d' ∧
      d'.annotated d'.lines = .ok rows ∧ rows[0]? = some (['b'], [['n']]) := by
  intro w edits
  have hx : betweenLines.HasAtEnd 0 ⟨.whole 3, ['n'], [], true⟩ 2 :=
    ⟨.whole 3, 3, List.mem_cons_self, rfl, rfl⟩
  have hc : Carries betweenLines 2 edits 1 :=
    .cons (@Carried.insertFront _ _ _ 3 0 "x\n".toList rfl rfl (by decide)) <|
      .cons (.refused rfl) <|
        .cons (@Carried.deleteFront _ _ _ 5 0 4 rfl rfl (by decide) (by decide)) <|
          .cons (@Carried.deleteBehind _ _ _ 1 2 3 rfl rfl (by decide)) .nil
  obtain ⟨-, -, -, -, hrun⟩ := notes_go_with_lines (w := w) (n := 0) rfl hx rfl
  obtain ⟨d', anchor, rows, hd', -, hrows, -, -, -, -⟩ := hrun edits 1 hc
  have hdocument : ((w.afterAll (edits.map (Edit.step 0))).documents : List Document)[0]?
      = some (edits.foldl Document.edit betweenLines) := documents_afterAll_edits edits rfl
  cases hdocument.symm.trans hd'
  have hread : (edits.foldl Document.edit betweenLines).annotated
      (edits.foldl Document.edit betweenLines).lines = .ok [(['b'], [['n']])] := rfl
  cases hread.symm.trans hrows
  exact ⟨_, _, hd', hrows, rfl⟩

end Session

end Marginalia
