import Marginalia.Proofs.Report.Written

/-!
# The pieces between newlines

A piece of a report that stands between two newlines may hold other characters that end a line, and
then the reader cuts it further.  That makes no difference if they all stand among the blanks at the
end of the piece, or if neither the piece nor what it is cut into contributes anything
(`ReadsWhole`).  In every other piece that can be read it does (`parse_splitLines_eq_iff`): a
message is cut short, or what stands behind a line end is read as a diagnostic line of its own.
-/

namespace Marginalia.Report

/-- Cutting a piece at its line ends does not change what it says about a document: they stand among
the blanks at its end, or nothing is said. -/
def ReadsWhole (cwd document : Path) (wanted : List Text) (piece : Text) : Prop :=
  Text.IsWhole (Text.dropEndWhile Text.isBlank piece) ∨
    ∀ line ∈ piece :: Text.splitLines piece, PassedOver cwd document wanted line

section
variable {names wanted : List Text} {cwd document : Path}

/-! ## Blanks at the end of a line -/

theorem allBlank_iff {s : Text} : Text.allBlank s = true ↔ ∀ c ∈ s, Text.isBlank c = true :=
  List.all_eq_true

theorem verdict_of_blank {line : Text} (h : ∀ c ∈ line, Text.isBlank c = true) :
    verdict names wanted line = .ok none := by
  have hdrop : Text.allBlank (Text.dropLineEnd line) = true :=
    allBlank_iff.mpr fun c hc => h c (Text.dropEndWhile_prefix.subset hc)
  rw [verdict, parts?_of_allBlank hdrop]

theorem parse_of_blank {lines : List Text} (h : ∀ line ∈ lines, ∀ c ∈ line, Text.isBlank c = true) :
    parse names wanted lines = .ok [] := by
  induction lines with
  | nil => rfl
  | cons line lines ih =>
    rw [parse_cons, verdict_of_blank (h line List.mem_cons_self),
      ih fun l hl => h l (List.mem_cons_of_mem _ hl)]
    rfl

/-- Blanks behind a line end do not change what is read in front of it. -/
theorem verdict_append_blank {line rest : Text} {c : Char} (hline : Text.IsWhole line)
    (hc : Text.endsLine c = true) (hblank : ∀ d ∈ c :: rest, Text.isBlank d = true)
    (hreturn : '\r' ∉ line ++ c :: rest) (hnewline : '\n' ∉ line ++ c :: rest) :
    verdict names wanted (line ++ c :: rest) = verdict names wanted line := by
  rw [verdict, verdict, Text.dropLineEnd_eq_self hreturn hnewline,
    Text.dropLineEnd_of_isWhole hline]
  cases hparts : Diagnostic.parts? line with
  | none =>
    have hnone : Diagnostic.parts? (line ++ c :: rest) = none := by
      rw [Diagnostic.parts?_eq_none_iff]
      intro p hp
      have hspace : c ≠ ' ' := by
        rintro rfl
        exact absurd hc (by decide)
      obtain ⟨q, hq⟩ := hp.of_append_blank hspace hblank
      exact Diagnostic.parts?_eq_none_iff.mp hparts q hq
    rw [hnone]
  | some p =>
    have hmore := (Diagnostic.parts?_eq_some_iff.mp hparts).append
      (fun hmem => hnewline (List.mem_append_right _ hmem))
    rw [Diagnostic.parts?_eq_some_iff.mpr hmore]
    simp only [relevant, diagnostic, Text.strip_append hblank]

/-- If the line ends of a text all stand among the blanks at its end, only blanks stand behind the
first of them. -/
theorem blank_of_isWhole_dropEndWhile {line rest : Text} {c : Char} (hc : Text.endsLine c = true)
    (h : Text.IsWhole (Text.dropEndWhile Text.isBlank (line ++ c :: rest))) :
    ∀ d ∈ c :: rest, Text.isBlank d = true := by
  obtain ⟨tail, htail, hblank⟩ :=
    Text.exists_dropEndWhile_append Text.isBlank (line ++ c :: rest)
  rcases List.append_eq_append_iff.mp htail with ⟨more, hmore, hrest⟩ | ⟨more, -, rfl⟩
  · cases more with
    | nil =>
      rw [List.nil_append] at hrest
      exact hrest ▸ hblank
    | cons d more =>
      obtain ⟨rfl, -⟩ := List.cons.inj hrest
      rw [hmore] at h
      have hmem : c ∈ line ++ c :: more := List.mem_append_right _ List.mem_cons_self
      exact absurd hmem (h.notMem hc)
  · exact fun d hd => hblank d (List.mem_append_right _ hd)

theorem parse_splitLines_of_readsWhole {piece : Text} (hreturn : '\r' ∉ piece)
    (hnewline : '\n' ∉ piece) (h : ReadsWhole cwd document wanted piece) :
    parse (aliases cwd document) wanted (Text.splitLines piece)
      = parse (aliases cwd document) wanted [piece] := by
  rcases h with hends | hsilent
  · rcases Text.isWhole_or_exists_lineEnd piece with hwhole | ⟨line, c, rest, rfl, hline, hc⟩
    · exact parse_splitLines_of_isWhole hwhole
    · have hblank := blank_of_isWhole_dropEndWhile hc hends
      have hrest : ∀ l ∈ rest.splitOnP Text.endsLine, ∀ d ∈ l, Text.isBlank d = true :=
        fun l hl d hd => hblank d
          (List.mem_cons_of_mem _ ((Text.sublist_of_mem_splitOnP hl).subset hd))
      rw [parse_splitLines_append_cons hline hc, parse_cons, parse_of_blank hrest, parse_cons,
        verdict_append_blank hline hc hblank hreturn hnewline, parse_nil]
  · rw [parse_eq_ok_nil_iff.mpr fun l hl => hsilent l (List.mem_cons_of_mem _ hl),
      parse_eq_ok_nil_iff.mpr fun l hl => hsilent l (List.mem_singleton.mp hl ▸ List.mem_cons_self)]

/-- A report is read by its newlines alone if each piece between them is read whole. -/
theorem parse_splitLines_of_pieces {s : Text} (hreturn : '\r' ∉ s)
    (h : ∀ piece ∈ s.splitOn '\n', ReadsWhole cwd document wanted piece) :
    parse (aliases cwd document) wanted (Text.splitLines s)
      = parse (aliases cwd document) wanted (s.splitOn '\n') := by
  have hpiece : ∀ piece ∈ s.splitOn '\n',
      parse (aliases cwd document) wanted (Text.splitLines piece)
        = parse (aliases cwd document) wanted [piece] := fun piece hmem =>
    parse_splitLines_of_readsWhole (Text.notMem_of_mem_splitOnP hreturn hmem)
      (Text.not_mem_of_mem_splitOn hmem) (h piece hmem)
  rw [parse_splitLines, parse_flatMap_congr hpiece, List.flatMap_singleton']

/-! ## Pieces that are not read as one line -/

/-- A line has more to it than the message it contributes. -/
theorem Contributes.inkOf_lt {line : Text} {x : Diagnostic}
    (hx : Contributes cwd document wanted line x) : Text.inkOf x.message < Text.inkOf line := by
  obtain ⟨p, hspeaks, -, -, -, -, -, hmessage⟩ := hx
  have hsublist : (Text.dropLineEnd line).Sublist line := Text.dropEndWhile_prefix.sublist
  have hfile : 0 < Text.inkOf p.file := by
    obtain ⟨stem, -, hstem⟩ := hspeaks.shortest.1.file
    rw [hstem, Text.inkOf_append]
    exact Nat.lt_of_lt_of_le (by decide : 0 < Text.inkOf Diagnostic.sourceSuffix)
      (Nat.le_add_left _ _)
  have hle := Text.inkOf_le hsublist
  rw [hspeaks.shortest.1.line_eq, Diagnostic.Parts.toText, Text.inkOf_append, Text.inkOf_append]
    at hle
  rw [hmessage, Text.inkOf_strip]
  omega

theorem Contributes.message_of_plain {p : Diagnostic.Parts} {x : Diagnostic} (hp : p.Plain)
    (hx : Contributes cwd document wanted p.toText x) : x.message = Text.strip p.message := by
  obtain ⟨q, hq, -, -, -, -, -, hmessage⟩ := hx
  have hparts := Diagnostic.parts?_eq_some_iff.mpr hp.shortest
  rw [Diagnostic.parts?_eq_some_iff.mpr hq.shortest] at hparts
  rw [hmessage, Option.some.inj hparts]

/-- If only blanks stand between a place and a line end, no message is read, since what stands
behind the line end cannot hold a line with all of the message in it. -/
theorem message_eq_nil_of_blank {p : Diagnostic.Parts} {rest : Text} {c : Char} {x : Diagnostic}
    (hp : p.Plain) (hblank : ∀ d ∈ p.message, Text.isBlank d = true) (hc : Text.endsLine c = true)
    (hrest : Text.inkOf rest ≤ Text.inkOf x.message)
    (hparse : parse (aliases cwd document) wanted (Text.splitLines (p.toText ++ c :: rest))
      = .ok [x]) : x.message = [] := by
  rw [parse_splitLines_append_cons hp.isWhole hc] at hparse
  cases (parse_eq_ok_iff.mp hparse).2 with
  | keep hfirst _ => rw [hfirst.message_of_plain hp, Text.strip_of_blank hblank]
  | skip _ hcollected =>
    obtain ⟨line, hmem, hcontributes⟩ := hcollected.mem_iff.mp List.mem_cons_self
    have hlt := hcontributes.inkOf_lt
    have hle := Text.inkOf_le (Text.sublist_of_mem_splitOnP hmem)
    omega

/-- A piece that contributes the same whether it is cut or not has its line ends among the blanks at
its end: what is read from a cut piece is whole, and behind a line end in front of the message there
is nothing to read. -/
theorem isWhole_of_contributes {piece : Text} {x : Diagnostic} (hreturn : '\r' ∉ piece)
    (hnewline : '\n' ∉ piece) (hx : Contributes cwd document wanted piece x)
    (hparse : parse (aliases cwd document) wanted (Text.splitLines piece) = .ok [x]) :
    Text.IsWhole (Text.dropEndWhile Text.isBlank piece) := by
  have hwritable := writable_of_parse hparse x List.mem_cons_self
  obtain ⟨p, hspeaks, -, -, hfile, -, -, hmessage⟩ := hx
  have hshortest := hspeaks.shortest
  rw [Text.dropLineEnd_eq_self hreturn hnewline] at hshortest
  have hplain : ∀ message, Text.IsWhole message →
      Diagnostic.Parts.Plain { p with message := message } := fun message hwhole =>
    ⟨hfile ▸ hwritable.file, hfile ▸ hwritable.undivided, hshortest.1.line, hshortest.1.column,
      hfile ▸ hwritable.file_whole, hwhole⟩
  obtain ⟨front, tail, hsplit, hfront, htail⟩ := Text.exists_strip_append p.message
  have hpiece : piece = p.file ++ Diagnostic.positionText p.line p.column
      ++ (front ++ (x.message ++ tail)) := by
    rw [hmessage, ← hsplit]
    exact hshortest.1.line_eq
  rcases Text.isWhole_or_exists_lineEnd front with hwhole | ⟨before, c, after, rfl, hbefore, hc⟩
  · have hends := (hplain (front ++ x.message)
      (Text.isWhole_append.mpr ⟨hwhole, hwritable.message_whole⟩)).isWhole
    rw [Diagnostic.Parts.toText, ← List.append_assoc] at hends
    rw [hpiece, ← List.append_assoc, ← List.append_assoc, Text.dropEndWhile_append htail]
    exact hends.infix Text.dropEndWhile_prefix.isInfix
  · have hcut : piece = Diagnostic.Parts.toText { p with message := before }
        ++ c :: (after ++ (x.message ++ tail)) := by
      rw [hpiece, Diagnostic.Parts.toText]
      simp only [List.append_assoc, List.cons_append]
    have hafter : ∀ d ∈ after, Text.isBlank d = true :=
      fun d hd => hfront d (List.mem_append_right _ (List.mem_cons_of_mem _ hd))
    have hink : Text.inkOf (after ++ (x.message ++ tail)) ≤ Text.inkOf x.message := by
      rw [Text.inkOf_append, Text.inkOf_append, Text.inkOf_of_blank hafter,
        Text.inkOf_of_blank htail, Nat.zero_add, Nat.add_zero]
    have hempty : x.message = [] :=
      message_eq_nil_of_blank (hplain before hbefore)
        (fun d hd => hfront d (List.mem_append_left _ hd)) hc hink (hcut ▸ hparse)
    have hends := (hplain [] (by decide)).isWhole
    rw [Diagnostic.Parts.toText, List.append_nil] at hends
    rw [hpiece, hempty, List.nil_append, ← List.append_assoc, Text.dropEndWhile_append htail,
      Text.dropEndWhile_append hfront]
    exact hends.infix Text.dropEndWhile_prefix.isInfix

/-- Whether a piece that can be read is cut further makes no difference exactly if it is read
whole. -/
theorem parse_splitLines_eq_iff {piece : Text} (hreturn : '\r' ∉ piece) (hnewline : '\n' ∉ piece)
    (hread : Readable cwd document wanted piece) :
    parse (aliases cwd document) wanted (Text.splitLines piece)
        = parse (aliases cwd document) wanted [piece] ↔
      ReadsWhole cwd document wanted piece := by
  refine ⟨fun h => ?_, parse_splitLines_of_readsWhole hreturn hnewline⟩
  have hreads : ∀ line ∈ [piece], Readable cwd document wanted line :=
    List.forall_mem_singleton.mpr hread
  obtain ⟨xs, hpiece, hcollected⟩ := parse_collected hreads
  rw [hpiece] at h
  cases hcollected with
  | keep hx hrest =>
    cases hrest
    exact .inl (isWhole_of_contributes hreturn hnewline hx h)
  | skip hnone hrest =>
    cases hrest
    refine .inr fun line hline => ?_
    rcases List.mem_cons.mp hline with rfl | hline
    · exact ⟨hread, hnone⟩
    · exact parse_eq_ok_nil_iff.mp h line hline

end

end Marginalia.Report
