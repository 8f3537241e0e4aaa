import Marginalia.Document.Index
import Marginalia.Proofs.Store.Rows

/-!
# An index that is never stale

An index is `Sound` if its starts are those of the copy in which they were found.  This speaks of
that copy alone and not of the text the document has by now, so that edits and assignments, which
hold another copy and leave the index as it is, have nothing to repair.  The starts are used only
while that very copy is held, and then they are those of the text.

`Gives` says what comes of a request to a document with a sound index: an answer or a refusal, a
document, and a sound index again.  Each request gives what the document by itself would say, and a
run of requests does so by induction (`makeAll_eq`).  The main statement is `index_never_stale`.
-/

namespace Marginalia

open Annotation (isPlaced isPlaced_iff note)
open Document (Refusal)

/-! ## Ends by starts -/

namespace Document

theorem countFrom_lineStarts (d : Document) : countFrom (lineStarts d.text) d.text = d.lineCount :=
  rfl

theorem lineEnd?_text (d : Document) (n : Int) :
    lineEnd? d.text n =
      if n < 1 ∨ (d.lineCount : Int) < n then none
      else some (((lineStarts d.text)[n.toNat]?.map (· - 1)).getD (lastEnd d.text)) := by
  rw [lineEnd?, ← countFrom_lineStarts, countFrom]
  cases d.text.isEmpty with
  | true =>
    simp
    omega
  | false =>
    simp only [Bool.false_or, Bool.or_eq_true, decide_eq_true_eq, Bool.false_eq_true, if_false]
    split
    · rfl
    · cases (lineStarts d.text)[n.toNat]? with
      | none => rfl
      | some next => rfl

theorem lineEnd?_lineCount {d : Document} (h : d.lineCount ≠ 0) :
    lineEnd? d.text d.lineCount = some (lastEnd d.text) := by
  have hcount : d.lineCount = (lineStarts d.text).length := by
    rw [← countFrom_lineStarts, countFrom] at h ⊢
    split at h
    · exact absurd rfl h
    · next hne => rw [if_neg hne]
  rw [lineEnd?_text, if_neg (by omega), Int.toNat_natCast, hcount, List.getElem?_length]
  rfl

/-- By the starts of the lines of a text, its lines end where they do. -/
theorem lineEndFrom_lineStarts (d : Document) (line : Position) :
    lineEndFrom (lineStarts d.text) d.text line = d.lineEnd line := by
  unfold lineEndFrom lineEnd lineEndBy
  rw [countFrom_lineStarts]
  cases hline : line.count? with
  | some n =>
    simp only [Bool.or_eq_true, decide_eq_true_eq, lineEnd?_text]
    by_cases hn : n < 1 ∨ (d.lineCount : Int) < n
    · rw [if_pos hn, if_pos hn]
    · rw [if_neg hn, if_neg hn]
      cases (lineStarts d.text)[n.toNat]? with
      | none => rfl
      | some next => rfl
  | none =>
    cases line with
    | whole n => cases hline
    | truth b => cases hline
    | other written => rfl
    | real x =>
      by_cases hzero : d.lineCount = 0
      · simp [hzero]
      · simp [lineEnd?_lineCount hzero]

/-- The annotations of diagnostics that are shown in the document of number `n`, and the document.
A style that cannot be said in words does no harm as long as nothing is shown in it. -/
def rendered (d : Document) (n : Nat) (style : Style) (xs : List Diagnostic) :
    Except Refusal (List Annotation) × Document :=
  match style.toText? with
  | some look =>
    let (d, annotations) := Annotation.render n look xs d
    (.ok annotations, d)
  | none => (if xs.any (isPlaced d) then .error .unfit else .ok [], d)

section
variable (d : Document) (n : Nat) (style : Style) {x : Diagnostic} {rest : List Diagnostic}

/-- A diagnostic of a line that is not there is passed over. -/
theorem rendered_of_absent (h : d.lineCount < x.line.val) :
    d.rendered n style (x :: rest) = d.rendered n style rest := by
  have hend : lineEnd? d.text x.line.val = none := by
    rw [lineEnd?_text, if_pos (.inr (by omega))]
  have hplaced : isPlaced d x = false := by
    simpa [isPlaced] using h
  unfold rendered
  simp only [ Annotation.render, hend, List.any_cons, hplaced, Bool.false_or]

/-- A diagnostic of a line that is there is shown at its end, and then the others are. -/
theorem rendered_of_present {offset : Nat} (h : lineEnd? d.text x.line.val = some offset) :
    d.rendered n style (x :: rest) = match style.toText? with
      | none => (.error .unfit, d)
      | some look =>
        let next := (d.attach (.whole offset) (note x) look).1.rendered n style rest
        (next.1.map (⟨x, ⟨n, d.count⟩⟩ :: ·), next.2) := by
  have hplaced : isPlaced d x = true := (isPlaced_iff d x).mpr ⟨offset, h⟩
  unfold rendered
  cases style.toText? with
  | none => simp [hplaced]
  | some look =>
    simp only [ Annotation.render, h]
    rfl

end

theorem lt_lineCount_of_lineEnd {d : Document} {i stop : Nat}
    (h : d.lineEnd (.whole (i + 1 : Nat)) = .ok stop) : i < d.lineCount := by
  have hsome := lineEnd?_isSome_iff.mp (Option.isSome_of_eq_some (lineEnd_eq_ok_iff.mp h))
  have hcount : d.lineCount = countLines d.text := rfl
  omega

/-- A row is the line and what is shown at its end, and the first line that is not there is
refused. -/
theorem annotatedAt_drop {d : Document} {i : Nat} (hi : i ≤ d.lineCount) (line : Text)
    (rest : List Text) :
    d.annotatedAt ((lineEnds 0 d.lines).drop i) (line :: rest) =
      match d.lineEnd (.whole (i + 1 : Nat)) with
      | .ok stop => (d.annotatedAt ((lineEnds 0 d.lines).drop (i + 1)) rest).map
          ((line, d.notesAt stop) :: ·)
      | .error r => .error r := by
  have hlength : (lineEnds 0 d.lines).length = d.lineCount := by
    rw [length_lineEnds, lineCount_eq]
  have hend : lineEnd? d.text (i + 1 : Nat) = (lineEnds 0 d.lines)[i]? := lineEnd?_succ d.text i
  rw [lineEnd_whole, hend]
  by_cases hlt : i < (lineEnds 0 d.lines).length
  · rw [List.getElem?_eq_getElem hlt, List.drop_eq_getElem_cons hlt, annotatedAt]
    cases d.annotatedAt ((lineEnds 0 d.lines).drop (i + 1)) rest with
    | error r => rfl
    | ok rows => rfl
  · have hge := Nat.not_lt.mp hlt
    obtain rfl : i = d.lineCount := by omega
    rw [List.getElem?_eq_none hge, List.drop_eq_nil_of_le hge, annotatedAt]
    rfl

end Document

namespace Indexed

variable {κ : Type} [Copies κ] {α β : Type} {d : Indexed κ}

/-! ## Requests -/

/-- The starts in the index are those of the copy in which they were found. -/
def Sound (d : Indexed κ) : Prop :=
  ∀ copy starts, d.index = some (copy, starts) → starts = Document.lineStarts (Copies.text copy)

theorem sound_ofCopy (id : Text) (file : Option Path) (copy : κ) : (ofCopy id file copy).Sound :=
  fun _ _ hindex => nomatch hindex

theorem sound_ofDocument (d : Document) : (ofDocument d).Sound :=
  fun _ _ hindex => nomatch hindex

/-- What comes of a request to a document: an answer or a refusal, a document, and an index that is
sound. -/
structure Gives (d : Indexed κ) (request : Asked κ α) (answer : Except Refusal α)
    (document : Document) : Prop where
  /-- The answer or the refusal. -/
  answer : (request.run d).1 = answer
  /-- What the document is like afterwards. -/
  document : (request.run d).2.document = document
  /-- The index can still be relied on. -/
  sound : (request.run d).2.Sound

theorem run_bind (request : Asked κ α) (next : α → Asked κ β) (d : Indexed κ) :
    (request >>= next).run d =
      match request.run d with
      | (.ok a, d') => (next a).run d'
      | (.error r, d') => (.error r, d') := by
  have hbind : (request >>= next).run d
      = ExceptT.bindCont next (request.run d).1 (request.run d).2 := rfl
  rw [hbind]
  cases request.run d with
  | mk answer d' =>
    cases answer with
    | ok a => rfl
    | error r => rfl

theorem run_map (request : Asked κ α) (f : α → β) (d : Indexed κ) :
    ((request >>= fun a => pure (f a)).run d).2 = (request.run d).2 := by
  rw [run_bind]
  cases request.run d with
  | mk answer d' =>
    cases answer with
    | ok a => rfl
    | error r => rfl

theorem gives_pure (h : d.Sound) (a : α) : Gives d (pure a) (.ok a) d.document :=
  ⟨rfl, rfl, h⟩

theorem gives_throw (h : d.Sound) (r : Refusal) :
    Gives d (throw r : Asked κ α) (.error r) d.document :=
  ⟨rfl, rfl, h⟩

theorem gives_orRefuse (h : d.Sound) (x : Except Refusal α) :
    Gives d (orRefuse x) x d.document :=
  ⟨rfl, rfl, h⟩

section
variable {request : Asked κ α} {next : α → Asked κ β} {document document' : Document}

theorem Gives.bind {a : α} {answer : Except Refusal β} (h : Gives d request (.ok a) document)
    (hnext : ∀ d' : Indexed κ, d'.document = document → d'.Sound →
      Gives d' (next a) answer document') :
    Gives d (request >>= next) answer document' := by
  have hrun : (request >>= next).run d = (next a).run (request.run d).2 := by
    have hanswer := h.answer
    rw [run_bind]
    cases hstep : request.run d with
    | mk found d' =>
      rw [hstep] at hanswer
      cases hanswer
      rfl
  obtain ⟨hanswer, hdocument, hsound⟩ := hnext _ h.document h.sound
  rw [← hrun] at hanswer hdocument hsound
  exact ⟨hanswer, hdocument, hsound⟩

theorem Gives.bind_error {r : Refusal} (h : Gives d request (.error r) document) :
    Gives d (request >>= next) (.error r) document := by
  have hrun : (request >>= next).run d = (.error r, (request.run d).2) := by
    have hanswer := h.answer
    rw [run_bind]
    cases hstep : request.run d with
    | mk found d' =>
      rw [hstep] at hanswer
      cases hanswer
      rfl
  exact ⟨by rw [hrun], by rw [hrun]; exact h.document, by rw [hrun]; exact h.sound⟩

/-- What is made of an answer is made of what is given. -/
theorem Gives.map {x : Except Refusal α} (h : Gives d request x document) (f : α → β) :
    Gives d (request >>= fun a => pure (f a)) (x.map f) document := by
  cases x with
  | error r => exact h.bind_error
  | ok a =>
    refine h.bind fun d' hd' hsound => ?_
    rw [← hd']
    exact gives_pure hsound (f a)

/-- A request may look at the document first. -/
theorem gives_get {next : Indexed κ → Asked κ β} {answer : Except Refusal β}
    (h : Gives d (next d) answer document) : Gives d (get >>= next) answer document :=
  ⟨h.answer, h.document, h.sound⟩

end

/-! ## Edits -/

/-- What comes of an edit of a document by itself.  A refusal leaves it as it is. -/
def afterEdit (d : Document) (x : Except Refusal Document) : Except Refusal Reply × Document :=
  (x.map fun _ => .done, x.toOption.getD d)

/-- An edit leaves the index as it is, whether it is refused or not. -/
theorem gives_edit (h : d.Sound) (new : Copier κ) (change : Document → Except Refusal Document) :
    Gives d (edit new change >>= fun _ => pure Reply.done)
      (afterEdit d.document (change d.document)).1
      (afterEdit d.document (change d.document)).2 := by
  cases hchange : change d.document with
  | error r =>
    have hedit : Gives d (edit new change) (.error r) d.document := by
      refine gives_get ?_
      rw [hchange]
      exact (gives_orRefuse h (.error r)).bind_error
    exact hedit.bind_error
  | ok document =>
    have hedit : Gives d (edit new change) (.ok ()) document := by
      refine gives_get ?_
      rw [hchange]
      exact ⟨rfl, rfl, h⟩
    exact hedit.map fun _ => Reply.done

theorem gives_assign (h : d.Sound) (copy : κ) :
    Gives d (assign copy) (.ok ()) { d.document with text := Copies.text copy } :=
  ⟨rfl, rfl, h⟩

theorem gives_attach (h : d.Sound) (offset : Anchor) (text style : Text) :
    Gives d (attach offset text style) (.ok d.document.count)
      (d.document.attach offset text style).1 :=
  ⟨rfl, rfl, h⟩

/-! ## Lines -/

theorem gives_lines (h : d.Sound) : Gives d lines (.ok d.document.lines) d.document :=
  ⟨rfl, rfl, h⟩

variable [DecidableEq κ]

/-- What a sound index has for the copy that is held are the starts of the lines. -/
theorem Sound.eq_lineStarts (h : d.Sound) {starts : List Nat}
    (hcurrent : d.current? = some starts) :
    starts = Document.lineStarts d.document.text := by
  unfold current? at hcurrent
  split at hcurrent
  · next copy found hindex =>
    split at hcurrent
    · next hcopy =>
      cases hcurrent
      rw [h copy _ hindex, hcopy, d.text_copy]
    · cases hcurrent
  · cases hcurrent

theorem gives_lineStarts (h : d.Sound) :
    Gives d lineStarts (.ok (Document.lineStarts d.document.text)) d.document := by
  refine gives_get ?_
  cases hcurrent : d.current? with
  | some starts =>
    rw [← h.eq_lineStarts hcurrent]
    exact gives_pure h starts
  | none =>
    -- the index is built anew, from the copy that is held
    refine ⟨rfl, rfl, fun copy starts hindex => ?_⟩
    cases hindex
    rw [d.text_copy]

theorem gives_lineCount (h : d.Sound) :
    Gives d lineCount (.ok d.document.lineCount) d.document := by
  refine gives_get ?_
  rw [← Document.countFrom_lineStarts, Document.countFrom]
  split
  · exact gives_pure h 0
  · exact (gives_lineStarts h).map List.length

theorem gives_lineEnd (h : d.Sound) (line : Position) :
    Gives d (lineEnd line) (d.document.lineEnd line) d.document := by
  refine (gives_lineStarts h).bind fun d' hd' hsound => gives_get ?_
  rw [hd', Document.lineEndFrom_lineStarts, ← hd']
  exact gives_orRefuse hsound _

/-! ## Annotations -/

theorem gives_renderUpTo (h : d.Sound) (n : Nat) (style : Style) (xs : List Diagnostic) :
    Gives d (renderUpTo d.document.lineCount n style xs) (d.document.rendered n style xs).1
      (d.document.rendered n style xs).2 := by
  induction xs generalizing d with
  | nil =>
    have hnil : d.document.rendered n style [] = (.ok [], d.document) := by
      unfold Document.rendered
      cases style.toText? with
      | none => rfl
      | some look => rfl
    rw [hnil]
    exact gives_pure h []
  | cons x rest ih =>
    rw [renderUpTo]
    by_cases habsent : d.document.lineCount < x.line.val
    · rw [if_pos habsent, Document.rendered_of_absent _ _ _ habsent]
      exact ih h
    · rw [if_neg habsent]
      obtain ⟨offset, hoffset⟩ := (isPlaced_iff d.document x).mp
        (decide_eq_true (Nat.not_lt.mp habsent))
      rw [Document.rendered_of_present _ _ _ hoffset]
      have hend := gives_lineEnd h (.whole x.line.val)
      rw [Document.lineEnd_eq_ok_iff.mpr hoffset] at hend
      refine hend.bind fun d' hd' hsound => ?_
      rw [← hd']
      cases style.toText? with
      | none => exact gives_throw hsound .unfit
      | some look =>
        -- what is attached does not change the text, so the bound stays the number of lines
        refine (gives_attach hsound (.whole offset) (note x) look).bind
          fun d'' hd'' hsound' => ?_
        have hcount : d'.document.lineCount = d''.document.lineCount := by rw [hd'']; rfl
        simp only [← hd'', hcount]
        exact (ih hsound').map _

theorem gives_render (h : d.Sound) (n : Nat) (style : Style) (xs : List Diagnostic) :
    Gives d (render n style xs) (d.document.rendered n style xs).1
      (d.document.rendered n style xs).2 := by
  refine (gives_lineCount h).bind fun d' hd' hsound => ?_
  rw [← hd']
  exact gives_renderUpTo hsound n style xs

/-- Lines are looked up by their numbers, and the first one that is not there is refused. -/
theorem gives_annotatedFrom (h : d.Sound) {i : Nat} (hi : i ≤ d.document.lineCount)
    (lines : List Text) :
    Gives d (annotatedFrom (i + 1) lines)
      (d.document.annotatedAt ((Document.lineEnds 0 d.document.lines).drop i) lines)
      d.document := by
  induction lines generalizing d i with
  | nil =>
    rw [annotatedFrom, Document.annotatedAt]
    exact gives_pure h []
  | cons line rest ih =>
    rw [annotatedFrom, Document.annotatedAt_drop hi]
    have hgives := gives_lineEnd h (.whole (i + 1 : Nat))
    cases hend : d.document.lineEnd (.whole (i + 1 : Nat)) with
    | error r =>
      rw [hend] at hgives
      exact hgives.bind_error
    | ok stop =>
      rw [hend] at hgives
      refine hgives.bind fun d' hd' hsound => gives_get ?_
      rw [← hd'] at hend ⊢
      exact (ih hsound (Document.lt_lineCount_of_lineEnd hend)).map _

theorem gives_annotated (h : d.Sound) (lines : List Text) :
    Gives d (annotated lines) (d.document.annotated lines) d.document :=
  gives_annotatedFrom h (Nat.zero_le _) lines

/-- The number of lines and the rows are those of the document. -/
theorem gives_numbered (h : d.Sound) :
    Gives d numbered (.ok (d.document.lineCount, d.document.rows)) d.document := by
  refine (gives_lineCount h).bind fun d₁ hd₁ hsound₁ => ?_
  refine (gives_lines hsound₁).bind fun d₂ hd₂ hsound₂ => ?_
  have hrows := gives_annotated hsound₂ d₁.document.lines
  rw [hd₂, Document.annotated_lines, hd₁] at hrows
  rw [hd₁]
  exact hrows.map (Prod.mk d.document.lineCount)

/-! ## Use -/

/-- The answer of a document by itself to a question about its lines. -/
def LineQuery.plain (d : Document) : LineQuery → Except Refusal Reply
  | .count => .ok (.number d.lineCount)
  | .stop line => (d.lineEnd line).map .number
  | .all => .ok (.texts d.lines)

/-- What comes of a use of a document by itself. -/
def Use.plain (d : Document) : Use κ → Except Refusal Reply × Document
  | .insert _ offset text => afterEdit d (d.insert offset text)
  | .delete _ start stop => afterEdit d (d.delete start stop)
  | .assign copy => (.ok .done, { d with text := Copies.text copy })
  | .ask q => (q.plain d, d)
  | .render n style xs => ((d.rendered n style xs).1.map .annotations, (d.rendered n style xs).2)
  | .annotated lines => ((d.annotated lines).map .rows, d)

/-- What comes of several uses of a document by itself, one after another. -/
def plainAll : List (Use κ) → Document → List (Except Refusal Reply) × Document
  | [], d => ([], d)
  | use :: rest, d =>
    let (reply, d) := use.plain d
    let (replies, d) := plainAll rest d
    (reply :: replies, d)

theorem gives_query (h : d.Sound) (q : LineQuery) :
    Gives d q.answer (q.plain d.document) d.document := by
  cases q with
  | count => exact (gives_lineCount h).map Reply.number
  | stop line => exact (gives_lineEnd h line).map Reply.number
  | all => exact (gives_lines h).map Reply.texts

/-- Each use gives what the document gives by itself. -/
theorem gives_make (h : d.Sound) (use : Use κ) :
    Gives d use.make (use.plain d.document).1 (use.plain d.document).2 := by
  cases use with
  | insert new offset text => exact gives_edit h new _
  | delete new start stop => exact gives_edit h new _
  | assign copy => exact (gives_assign h copy).map fun _ => Reply.done
  | ask q => exact gives_query h q
  | render n style xs => exact (gives_render h n style xs).map Reply.annotations
  | annotated lines => exact (gives_annotated h lines).map Reply.rows

/-- And so do several uses, one after another. -/
theorem makeAll_eq (h : d.Sound) (uses : List (Use κ)) :
    (makeAll uses d).1 = (plainAll uses d.document).1 ∧
      (makeAll uses d).2.document = (plainAll uses d.document).2 ∧ (makeAll uses d).2.Sound := by
  induction uses generalizing d with
  | nil => exact ⟨rfl, rfl, h⟩
  | cons use rest ih =>
    obtain ⟨hreply, hdocument, hsound⟩ := gives_make h use
    obtain ⟨hreplies, hend, hsound⟩ := ih hsound
    rw [hdocument] at hreplies hend
    exact ⟨congrArg₂ List.cons hreply hreplies, hend, hsound⟩

theorem length_makeAll (uses : List (Use κ)) (d : Indexed κ) :
    (makeAll uses d).1.length = uses.length := by
  induction uses generalizing d with
  | nil => rfl
  | cons use rest ih => exact congrArg (· + 1) (ih _)

theorem makeAll_append (uses more : List (Use κ)) (d : Indexed κ) :
    (makeAll (uses ++ more) d).1
      = (makeAll uses d).1 ++ (makeAll more (makeAll uses d).2).1 := by
  induction uses generalizing d with
  | nil => rfl
  | cons use rest ih => exact congrArg (_ :: ·) (ih _)

/-- Questions about lines are about the text alone. -/
theorem LineQuery.plain_congr {d d' : Document} (h : d.text = d'.text) (q : LineQuery) :
    q.plain d = q.plain d' := by
  have hcount : d.lineCount = d'.lineCount := congrArg Document.countLines h
  have hlines : d.lines = d'.lines := congrArg Document.linesOf h
  cases q with
  | count => rw [plain, plain, hcount]
  | all => rw [plain, plain, hlines]
  | stop line =>
    rw [plain, plain, ← Document.lineEndFrom_lineStarts, ← Document.lineEndFrom_lineStarts, h]

/-- Whatever a document is used for, and in whatever order, its index is never stale: each use comes
to what it comes to without an index, and each question about the lines is answered as it is by a
document that has just been opened with the same text. -/
theorem index_never_stale (id : Text) (file : Option Path) (copy : κ)
    (before after : List (Use κ)) (q : LineQuery) :
    let start := ofCopy id file copy
    let uses := before ++ .ask q :: after
    let d := (makeAll before start).2
    (makeAll uses start).1 = (plainAll uses start.document).1 ∧
      (makeAll uses start).2.document = (plainAll uses start.document).2 ∧
      ∀ id' file' (fresh : κ), Copies.text fresh = d.document.text →
        (makeAll uses start).1[before.length]?
          = some (q.answer.run (ofCopy id' file' fresh)).1 := by
  intro start uses d
  have hstart : start.Sound := sound_ofCopy id file copy
  obtain ⟨hreplies, hdocument, -⟩ := makeAll_eq hstart uses
  refine ⟨hreplies, hdocument, fun id' file' fresh hfresh => ?_⟩
  have hsound : d.Sound := (makeAll_eq hstart before).2.2
  have hreply : (makeAll uses start).1[before.length]? = some (q.answer.run d).1 := by
    rw [makeAll_append, ← length_makeAll before start, List.getElem?_append_right (Nat.le_refl _),
      Nat.sub_self]
    rfl
  rw [hreply, (gives_query hsound q).answer, (gives_query (sound_ofCopy id' file' fresh) q).answer]
  exact congrArg some (q.plain_congr hfresh.symm)

/-- Texts with numbers are copies, told apart by the numbers. -/
instance : Copies (Nat × Text) := ⟨Prod.snd⟩

/-- The end of a line is asked for, another text is assigned, an edit is refused, and then the first
copy is assigned again and edited.  The third line ends where it does in a document opened with that
text. -/
theorem index_never_stale_of_assigned :
    let new : Copier (Nat × Text) := fun text => ⟨(2, text), rfl⟩
    let before : List (Use (Nat × Text)) :=
      [.ask (.stop (.whole 1)), .assign (1, "abcd\n".toList), .ask .count,
        .insert new (.whole 9) ['x'], .assign (0, "a\nb".toList),
        .insert new (.whole 0) "z\n".toList]
    (makeAll (before ++ [.ask (.stop (.whole 3))]) (ofCopy [] none (0, "a\nb".toList))).1[6]?
      = some (.ok (.number 5)) := by
  intro new before
  obtain ⟨-, -, hfresh⟩ :=
    index_never_stale [] none (0, "a\nb".toList) before [] (.stop (.whole 3))
  exact hfresh [] none (7, "z\na\nb".toList) rfl

/-! ## Reuse -/

theorem run_lineStarts (d : Indexed κ) : lineStarts.run d =
    match d.current? with
    | some starts => (.ok starts, d)
    | none => (.ok (Document.lineStarts d.document.text),
        { d with index := some (d.copy, Document.lineStarts d.document.text) }) := by
  have hget : lineStarts.run d = (match d.current? with
    | some starts => pure starts
    | none => do
      set { d with index := some (d.copy, Document.lineStarts d.document.text) }
      pure (Document.lineStarts d.document.text) : Asked κ (List Nat)).run d := rfl
  rw [hget]
  cases d.current? with
  | some starts => rfl
  | none => rfl

/-- Once the starts have been asked for, they are in the index for the copy that is held. -/
theorem exists_current?_lineStarts (d : Indexed κ) :
    ∃ starts, (lineStarts.run d).2.current? = some starts := by
  rw [run_lineStarts]
  cases hcurrent : d.current? with
  | some starts => exact ⟨starts, hcurrent⟩
  | none => exact ⟨_, if_pos rfl⟩

theorem run_lineEnd (d : Indexed κ) (line : Position) :
    ((lineEnd line).run d).2 = (lineStarts.run d).2 := by
  rw [lineEnd, run_bind]
  cases lineStarts.run d with
  | mk answer d' =>
    cases answer with
    | ok starts => rfl
    | error r => rfl

theorem run_query {starts : List Nat} (h : d.current? = some starts) (q : LineQuery) :
    (q.answer.run d).2 = d := by
  have hstarts : lineStarts.run d = (.ok starts, d) := by rw [run_lineStarts, h]
  cases q with
  | all => rfl
  | stop line => rw [LineQuery.answer, run_map, run_lineEnd, hstarts]
  | count =>
    have hcount : lineCount.run d = (if d.document.text.isEmpty then pure 0
      else lineStarts >>= fun starts => pure starts.length : Asked κ Nat).run d := rfl
    rw [LineQuery.answer, run_map, hcount]
    split
    · rfl
    · rw [run_map, hstarts]

/-- Once the end of a line has been asked for, questions about lines find an index and leave it. -/
theorem index_reused (d : Indexed κ) (line : Position) (questions : List LineQuery) :
    let d' := ((lineEnd line).run d).2
    (makeAll (questions.map .ask) d').2 = d' := by
  intro d'
  obtain ⟨starts, hcurrent⟩ : ∃ starts, d'.current? = some starts := by
    show ∃ starts, ((lineEnd line).run d).2.current? = some starts
    rw [run_lineEnd]
    exact exists_current?_lineStarts d
  induction questions with
  | nil => rfl
  | cons q rest ih =>
    have hq : (q.answer.run d').2 = d' := run_query hcurrent q
    rw [List.map_cons]
    have hcons : (makeAll (.ask q :: rest.map .ask) d').2
      = (makeAll (rest.map .ask) (q.answer.run d').2).2 := rfl
    rw [hcons, hq, ih]

end Indexed

end Marginalia
