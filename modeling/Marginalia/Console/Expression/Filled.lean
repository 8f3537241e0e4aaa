import Marginalia.Console.Expression.Escape

/-!
# Texts that are filled in

A quotation with the letter f in front of it has expressions in curly brackets within it.  What such
an expression evaluates to is written in its place, in a form that may be given behind it: an equals
sign asks for the expression as well, an exclamation mark for one of three ways to write a value,
and a colon for a layout, which may have expressions of its own.  Brackets that are doubled stand
for themselves.

The expression ends at the first of these signs that stands neither within brackets nor within a
quotation, so where it ends is found out before it is read.
-/

namespace Marginalia.Console.Expression

/-! ## The end of an expression -/

/-- Where the search for the end of an expression stands. -/
structure Slot where
  /-- The quotation mark of a quotation that goes on, and whether it stands there three times. -/
  mark : Option (Char × Bool)
  /-- The brackets that are open, the latest one first. -/
  brackets : List Char

/-- The search goes on behind a character within a quotation, where a text goes on, and so many
further characters are passed over. -/
def Slot.quotedStep (slot : Slot) (mark : Char) (thrice : Bool) (c : Char) (s : Text) :
    Nat × Slot :=
  if c ≠ mark then (0, slot)
  else if !thrice then (0, { slot with mark := none })
  else if [mark, mark].isPrefixOf s then (2, { slot with mark := none })
  else (0, slot)

/-- The search goes on behind a bracket that closes. -/
def Slot.close (slot : Slot) (c : Char) : Except Text Slot :=
  match slot.brackets with
  | [] => .error ("f-string: unmatched '".toList ++ [c, '\''])
  | opened :: rest =>
    if closing opened = c then .ok { slot with brackets := rest }
    else
      .error ("f-string: closing parenthesis '".toList ++ c
        :: "' does not match opening parenthesis '".toList ++ [opened, '\''])

/-- The search goes on behind a character, where a text goes on, and so many further characters are
passed over, unless the expression ends in front of the character. -/
def Slot.step (slot : Slot) (c : Char) (s : Text) : Except Text (Option (Nat × Slot)) :=
  if c = '\\' then .error "f-string expression part cannot include a backslash".toList
  else
    match slot.mark with
    | some (mark, thrice) => .ok (some (slot.quotedStep mark thrice c s))
    | none =>
      if c = '\'' || c = '"' then
        if [c, c].isPrefixOf s then .ok (some (2, { slot with mark := some (c, true) }))
        else .ok (some (0, { slot with mark := some (c, false) }))
      else if "([\x7b".toList.contains c then
        if slot.brackets.length < bracketLimit then
          .ok (some (0, { slot with brackets := c :: slot.brackets }))
        else .error "f-string: too many nested parenthesis".toList
      else if c = '#' then .error "f-string expression part cannot include '#'".toList
      else if slot.brackets.isEmpty && "!=<>".toList.contains c && s.head? = some '=' then
        .ok (some (1, slot))
      else if slot.brackets.isEmpty && "!:\x7d=".toList.contains c then .ok none
      else if ")]\x7d".toList.contains c then (slot.close c).map fun slot => some (0, slot)
      else .ok (some (0, slot))

/-- The refusal of a slot that does not end. -/
def unfinished : Text := "f-string: expecting '\x7d'".toList

/-- What a text starts with up to the end of an expression, and what stands behind it. -/
def slotFrom (slot : Slot) : Text → Except Text (Text × Text)
  | [] =>
    match slot.mark, slot.brackets with
    | some _, _ => .error "f-string: unterminated string".toList
    | none, c :: _ => .error ("f-string: unmatched '".toList ++ [c, '\''])
    | none, [] => .error unfinished
  | c :: s => do
    match ← slot.step c s with
    | none => .ok ([], c :: s)
    | some (passed, slot) =>
      let (expression, rest) ← slotFrom slot (s.drop passed)
      .ok (c :: s.take passed ++ expression, rest)
termination_by s => s.length
decreasing_by
  simp only [List.length_drop, List.length_cons]
  omega

/-! ## Text between expressions -/

/-- Where the search for the next expression stands. -/
inductive Between where
  /-- In plain text. -/
  | text
  /-- Behind a backslash that starts an escape. -/
  | escape
  /-- Behind the start of an escape that names a character. -/
  | named
  /-- Within the name of a character. -/
  | name

/-- What a text starts with up to the next expression, what stands behind it, and whether that is
more text because a bracket was doubled.  Within a layout no bracket is doubled, and a closing one
ends it. -/
def plainPart (raw layout : Bool) : Between → Text → Except Text (Text × Text × Bool)
  | _, [] => .ok ([], [], false)
  | place, c :: s =>
    let goOn (place : Between) : Except Text (Text × Text × Bool) := do
      let (part, rest, more) ← plainPart raw layout place s
      .ok (c :: part, rest, more)
    match place with
    | .name => goOn (if c = '}' then .text else .name)
    | .named => goOn (if c = '{' then .name else .text)
    | _ =>
      if c = '{' || c = '}' then
        if layout then .ok ([], c :: s, false)
        else if s.head? = some c then .ok ([c], s.drop 1, true)
        else if c = '}' then .error "f-string: single '\x7d' is not allowed".toList
        else .ok ([], c :: s, false)
      else
        match place with
        | .escape => goOn (if c = 'N' then .named else .text)
        | _ => goOn (if c = '\\' && !raw then .escape else .text)

/-! ## Filling in -/

/-- Whether a character counts for nothing in front of an expression and behind it. -/
def isPadding (c : Char) : Bool :=
  [' ', '\t', '\n', '\x0c', '\r'].contains c

/-- What stands behind the equals sign and the exclamation mark with its letter that an expression
may have behind it. -/
def behindForm (s : Text) : Except Text Text := do
  let s := match s with
    | '=' :: s => s.dropWhile isPadding
    | s => s
  match s with
  | '!' :: c :: s =>
    if c = 's' || c = 'r' || c = 'a' then .ok s
    else
      .error "f-string: invalid conversion character: expected 's', 'r', or 'a'".toList
  | ['!'] => .error unfinished
  | s => .ok s

/-- Why something is refused. -/
structure Refusal where
  /-- The reason in words. -/
  reason : Text
  /-- Whether the reason says already that it was found within a quotation, or need not say so. -/
  settled : Bool
deriving DecidableEq, Repr

/-- A refusal with a reason. -/
def Refusal.of (reason : Text) : Refusal := ⟨reason, false⟩

/-- The refusal of a slot without an expression in front of a text. -/
def emptySlot : Text → Text
  | c :: _ =>
    if "!:=".toList.contains c then
      "f-string: expression required before '".toList ++ [c, '\'']
    else "f-string: empty expression not allowed".toList
  | [] => unfinished

/-- What stands behind a text with expressions, given why an expression is refused.  Layouts stand
within expressions, at most two deep. -/
def filled (refusal? : Text → Option Refusal) (raw : Bool) :
    Nat → Nat → Text → Except Refusal Text
  | 0, _, _ => .error (.of unfinished)
  | n + 1, level, s => do
    let (part, rest, more) ← (plainPart raw (level != 0) .text s).mapError .of
    if let some reason := if raw then none else escapeRefusal? 0 part then
      .error (.of reason)
    else if more then filled refusal? raw n level rest
    else
      match rest with
      | '{' :: rest =>
        if 2 ≤ level then .error (.of "f-string: expressions nested too deeply".toList)
        else
          let (expression, rest) ← (slotFrom ⟨none, []⟩ rest).mapError .of
          if expression.all isPadding then .error (.of (emptySlot rest))
          else
            match refusal? ('(' :: expression ++ [')']) with
            | some refusal => .error refusal
            | none =>
              match ← (behindForm rest).mapError .of with
              | '}' :: rest => filled refusal? raw n level rest
              | ':' :: rest =>
                match ← filled refusal? raw n (level + 1) rest with
                | '}' :: rest => filled refusal? raw n level rest
                | _ => .error (.of unfinished)
              | _ => .error (.of unfinished)
      | rest => if level != 0 && rest.isEmpty then .error (.of unfinished) else .ok rest

/-- Why a text with expressions is refused, given why an expression is. -/
def filledRefusal? (refusal? : Text → Option Refusal) (raw : Bool) (s : Text) : Option Refusal :=
  match filled refusal? raw (2 * s.length + 2) 0 s with
  | .error refusal => some refusal
  | .ok _ => none

namespace Quotation

/-- Why a quotation is refused, given why an expression is. -/
def refusal? (expressionRefusal? : Text → Option Refusal) (q : Quotation) : Option Refusal :=
  if q.isBytes then
    if q.body.any (0x80 ≤ ·.toNat) then
      some (.of "bytes can only contain ASCII literal characters".toList)
    else if q.isRaw then none
    else (byteRefusal? 0 q.body).map .of
  else if q.isFilled then filledRefusal? expressionRefusal? q.isRaw q.body
  else if q.isRaw then none
  else (escapeRefusal? 0 q.body).map .of

end Quotation

/-- Why quotations that stand side by side are refused, given why an expression is: bytes stand
beside bytes only. -/
def quotationsRefusal? (refusal? : Text → Option Refusal) : List Quotation → Option Refusal
  | [] => none
  | q :: rest =>
    (q :: rest).findSome? fun p =>
      match p.refusal? refusal? with
      | some refusal => some refusal
      | none =>
        if p.isBytes == q.isBytes then none
        else some (.of "cannot mix bytes and nonbytes literals".toList)

example : filledRefusal? (fun _ => none) false "a\x7b\x7b \x7bx!r:\x7by\x7d\x7d".toList = none := by
  decide +kernel
example : filledRefusal? (fun _ => none) false "\x7bx".toList = some (.of unfinished) := by
  decide +kernel

end Marginalia.Console.Expression
