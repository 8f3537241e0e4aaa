import Marginalia.Text.Lettered
import Marginalia.Text.Lines
import Marginalia.Text.Numeral
import Marginalia.Text.Quoted

/-!
# Tokens of expressions

An expression is cut up into names, numbers, texts in quotation marks, and signs, which are
operators, brackets and the words that have a meaning of their own.  Blanks and remarks between them
count for nothing.  A line ends the expression unless a bracket is open.

What cannot be cut up is refused, wherever it stands.  A bracket that is never closed and a
backslash within a line are not refused here: they are tokens of their own, `Token.unclosed` and
`Token.backslash`, so that whoever reads the tokens may find something else to refuse before.
Nothing is cut up behind them.
-/

namespace Marginalia.Console.Expression

/-! ## Tokens -/

/-- A text in quotation marks, as it is written. -/
structure Quotation where
  /-- The letters in front of the first mark, as small letters. -/
  lead : Text
  /-- What stands between the marks. -/
  body : Text
deriving DecidableEq, Repr

/-- A token. -/
inductive Token where
  /-- A name. -/
  | name (s : Text)
  /-- A number. -/
  | number
  /-- A text in quotation marks. -/
  | quoted (q : Quotation)
  /-- An operator, a bracket, or a word with a meaning of its own. -/
  | sign (s : Text)
  /-- The end of a line, where no bracket is open. -/
  | lineEnd
  /-- The blanks that a further line starts with, where no bracket is open. -/
  | indent
  /-- The end. -/
  | finish
  /-- The end, where a bracket is open. -/
  | unclosed (bracket : Char)
  /-- A backslash that does not stand at the end of its line. -/
  | backslash
deriving DecidableEq, Repr

/-- The words that have a meaning of their own. -/
def keywords : List Text :=
  ["False", "None", "True", "and", "as", "assert", "async", "await", "break", "class", "continue",
   "def", "del", "elif", "else", "except", "finally", "for", "from", "global", "if", "import", "in",
   "is", "lambda", "nonlocal", "not", "or", "pass", "raise", "return", "try", "while", "with",
   "yield"].map String.toList

/-- The operators of more than one character, the longest ones first. -/
def operators : List Text :=
  ["**=", "//=", "<<=", ">>=", "...", "!=", "%=", "&=", "**", "*=", "+=", "-=", "->", "//", "/=",
   ":=", "<<", "<=", "<>", "==", ">=", ">>", "@=", "^=", "|="].map String.toList

/-! ## Numbers -/

/-- Whether a character may stand in a name, as far as that is decided before the whole name is
known: every character outside of the ASCII range may. -/
def mayContinueName (c : Char) : Bool :=
  c.isAlphanum || c == '_' || 0x80 ≤ c.toNat

/-- What stands behind the digits that a text goes on with, where an underscore may stand between
each two digits.  An underscore without a digit behind it is refused. -/
def behindDigits (isDigit : Char → Bool) (refusal : Text → Text) : Text → Except Text Text
  | '_' :: c :: s => if isDigit c then behindDigits isDigit refusal s else .error (refusal (c :: s))
  | ['_'] => .error (refusal [])
  | c :: s => if isDigit c then behindDigits isDigit refusal s else .ok (c :: s)
  | [] => .ok []

/-- The refusal of a number of a kind. -/
def invalidNumber (kind : String) : Text :=
  "invalid ".toList ++ kind.toList ++ " literal".toList

/-- The words that may follow a number without a blank. -/
def endsNumber (s : Text) : Bool :=
  ["and", "else", "for", "or", "not"].any (fun word =>
      word.toList.isPrefixOf s && !((s.drop word.length).head?.any mayContinueName))
    || ["if", "in", "is"].any fun word => word.toList.isPrefixOf s

/-- A text behind a number of a kind, unless it goes on like a name. -/
def endNumber (kind : String) (s : Text) : Except Text Text :=
  if endsNumber s || !(s.head?.any fun c => c.isAlphanum || c == '_') then .ok s
  else .error (invalidNumber kind)

/-- The refusal of a digit that is none in the base of a kind of numbers, or of what is no digit. -/
def wrongDigit (kind : String) : Text → Text
  | c :: _ =>
    if Text.isAsciiDigit c then
      "invalid digit '".toList ++ c :: "' in ".toList ++ kind.toList ++ " literal".toList
    else invalidNumber kind
  | [] => invalidNumber kind

/-- What stands behind a number in a base other than ten, where the text starts behind the letter
for the base. -/
def behindBased (kind : String) (isDigit : Char → Bool) (s : Text) : Except Text Text := do
  let first := match s with
    | '_' :: s => s
    | s => s
  if !(first.head?.any isDigit) then .error (wrongDigit kind first)
  else
    let rest ← behindDigits isDigit (wrongDigit kind) first
    if rest.head?.any Text.isAsciiDigit then .error (wrongDigit kind rest) else endNumber kind rest

/-- What stands behind the digits in base ten that a text goes on with. -/
def behindDecimal (s : Text) : Except Text Text :=
  behindDigits Text.isAsciiDigit (fun _ => invalidNumber "decimal") s

/-- What stands behind the end of a number that may have an exponent and the letter for an imaginary
part, where the text starts behind its digits. -/
def behindExponent (s : Text) : Except Text Text := do
  let finish (s : Text) : Except Text Text :=
    match s with
    | 'j' :: s | 'J' :: s => endNumber "imaginary" s
    | s => endNumber "decimal" s
  match s with
  | e :: s =>
    if e != 'e' && e != 'E' then finish (e :: s)
    else
      match s with
      | d :: s =>
        if d == '+' || d == '-' then
          if s.head?.any Text.isAsciiDigit then finish (← behindDecimal s)
          else .error (invalidNumber "decimal")
        else if Text.isAsciiDigit d then finish (← behindDecimal s)
        else endNumber "decimal" (e :: d :: s)
      | [] => endNumber "decimal" [e]
  | [] => .ok []

/-- What stands behind the digits of a fraction, where the text starts behind the point. -/
def behindPoint (s : Text) : Except Text Text := do
  if s.head?.any Text.isAsciiDigit then behindExponent (← behindDecimal s) else behindExponent s

/-- What stands behind a number that starts with zeros, where the text starts behind the first
one. -/
def behindZeros (s : Text) : Except Text Text := do
  let rest ← behindDecimal s
  let digits := s.take (s.length - rest.length)
  match rest with
  | '.' :: rest => behindPoint rest
  | c :: _ =>
    if c == 'e' || c == 'E' || c == 'j' || c == 'J' then behindExponent rest
    else check digits rest
  | [] => check digits rest
where
  check (digits rest : Text) : Except Text Text :=
    if digits.any fun c => c != '0' && c != '_' then
      .error ("leading zeros in decimal integer literals are not permitted; ".toList
        ++ "use an 0o prefix for octal integers".toList)
    else endNumber "decimal" rest

/-- What stands behind a number, where the text starts behind its first character, which is a digit
or a point. -/
def behindNumber (c : Char) (s : Text) : Except Text Text := do
  if c == '.' then behindPoint s
  else if c != '0' then
    match ← behindDecimal s with
    | '.' :: rest => behindPoint rest
    | rest => behindExponent rest
  else
    match s with
    | b :: rest =>
      if b == 'x' || b == 'X' then behindBased "hexadecimal" Text.isHexDigit rest
      else if b == 'o' || b == 'O' then behindBased "octal" (fun c => '0' ≤ c && c ≤ '7') rest
      else if b == 'b' || b == 'B' then behindBased "binary" (fun c => c == '0' || c == '1') rest
      else behindZeros s
    | [] => .ok []

/-! ## Quotations -/

/-- The body of a quotation and what stands behind it, where the text starts behind its first mark,
which is a single one. -/
def quotedOnce? (mark : Char) : Text → Option (Text × Text)
  | '\\' :: c :: s => (quotedOnce? mark s).map fun (body, rest) => ('\\' :: c :: body, rest)
  | c :: s =>
    if c = mark then some ([], s)
    else if c = '\n' then none
    else (quotedOnce? mark s).map fun (body, rest) => (c :: body, rest)
  | [] => none

/-- A quotation takes its body and its last mark, and nothing else. -/
theorem quotedOnce?_length {mark : Char} {s body rest : Text}
    (h : quotedOnce? mark s = some (body, rest)) :
    s.length = body.length + rest.length + 1 := by
  fun_induction quotedOnce? mark s generalizing body with
  | case1 c s ih =>
    simp only [Option.map_eq_some_iff, Prod.exists, Prod.mk.injEq] at h
    obtain ⟨b, r, hb, rfl, rfl⟩ := h
    simp only [List.length_cons, ih hb]
    omega
  | case2 => simp_all
  | case3 => simp_all
  | case4 c s _ _ _ ih =>
    simp only [Option.map_eq_some_iff, Prod.exists, Prod.mk.injEq] at h
    obtain ⟨b, r, hb, rfl, rfl⟩ := h
    simp only [List.length_cons, ih hb]
    omega
  | case5 => simp_all

/-- The body of a quotation and what stands behind it, where the text starts behind its first three
marks. -/
def quotedThrice? (mark : Char) : Text → Option (Text × Text)
  | '\\' :: c :: s => (quotedThrice? mark s).map fun (body, rest) => ('\\' :: c :: body, rest)
  | c :: s =>
    if [mark, mark, mark].isPrefixOf (c :: s) then some ([], s.drop 2)
    else (quotedThrice? mark s).map fun (body, rest) => (c :: body, rest)
  | [] => none

/-- The number of line ends that a quotation without a last mark reaches over. -/
def linesWithin (mark : Char) : Text → Nat
  | '\\' :: c :: s => linesWithin mark s + if c = '\n' then 1 else 0
  | c :: s => if c = '\n' then 0 else linesWithin mark s
  | [] => 0

/-- The body of a quotation and what stands behind it, where the text starts behind the first mark,
which stands on a line of a number. -/
def quotation (line : Nat) (mark : Char) (s : Text) : Except Text (Text × Text) :=
  let unended (kind : String) (line : Nat) : Text :=
    "unterminated ".toList ++ kind.toList ++ " literal (detected at line ".toList
      ++ Text.ofNat line ++ [')']
  if [mark, mark].isPrefixOf s then
    match quotedThrice? mark (s.drop 2) with
    | some found => .ok found
    | none => .error (unended "triple-quoted string" (line + s.count '\n'))
  else
    match quotedOnce? mark s with
    | some found => .ok found
    | none => .error (unended "string" (line + linesWithin mark s))

/-- Whether the letters in front of a quotation mark belong to the quotation. -/
def leadsQuotation (word : Text) : Bool :=
  (["b", "u", "r", "f", "br", "rb", "fr", "rf"].map String.toList).contains
    (word.map Char.toLower)

/-! ## Cutting up -/

/-- Where the cutting up stands. -/
structure Place where
  /-- The number of the line. -/
  line : Nat
  /-- Whether nothing but blanks has been read of the line. -/
  fresh : Bool
  /-- The brackets that are open, the latest one first, with their lines. -/
  brackets : List (Char × Nat)

/-- Whether a character is a blank between tokens. -/
def isGap (c : Char) : Bool :=
  c == ' ' || c == '\t' || c == '\x0c'

/-- The refusal of a character. -/
def strange (c : Char) : Text :=
  let code := Text.hexDigits 4 c.toNat |>.map Char.toUpper
  if Text.isVisible c then "invalid character '".toList ++ c :: "' (U+".toList ++ code ++ [')']
  else "invalid non-printable character U+".toList ++ code

/-- The character of a word that keeps it from being a name. -/
def misfit? : Text → Option Char
  | [] => none
  | c :: s => if Text.startsName c then s.find? (!Text.continuesName ·) else some c

/-- The token that a word stands for. -/
def ofWord (word : Text) : Except Text Token :=
  match misfit? word with
  | some c => .error (strange c)
  | none => .ok (if keywords.contains word then .sign word else .name word)

/-- The bracket that closes what a bracket opens. -/
def closing (c : Char) : Char :=
  if c = '(' then ')' else if c = '[' then ']' else '}'

/-- The most brackets that may be open. -/
def bracketLimit : Nat := 200

/-- The place behind a bracket. -/
def Place.bracket (p : Place) (c : Char) : Except Text Place :=
  if c == '(' || c == '[' || c == '{' then
    if p.brackets.length < bracketLimit then
      .ok { p with fresh := false, brackets := (c, p.line) :: p.brackets }
    else .error "too many nested parentheses".toList
  else
    match p.brackets with
    | [] => .error ("unmatched '".toList ++ [c, '\''])
    | (opened, line) :: rest =>
      if closing opened = c then .ok { p with fresh := false, brackets := rest }
      else
        .error ("closing parenthesis '".toList ++ c
          :: "' does not match opening parenthesis '".toList ++ [opened, '\'']
          ++ if line = p.line then [] else " on line ".toList ++ Text.ofNat line)

/-- The token that starts with a character which is neither a blank nor the end of a line, where a
text goes on behind it, and what stands behind the token. -/
def tokenAt (line : Nat) (c : Char) (s : Text) : Except Text (Token × Text) := do
  if c.isAlpha || c == '_' || 0x80 ≤ c.toNat then
    let word := c :: s.takeWhile mayContinueName
    match s.dropWhile mayContinueName with
    | mark :: rest =>
      if (mark == '\'' || mark == '"') && leadsQuotation word then
        let (body, rest) ← quotation line mark rest
        .ok (.quoted ⟨word.map Char.toLower, body⟩, rest)
      else .ok (← ofWord word, mark :: rest)
    | [] => .ok (← ofWord word, [])
  else if c.isDigit || (c == '.' && s.head?.any Text.isAsciiDigit) then
    .ok (.number, ← behindNumber c s)
  else if c == '\'' || c == '"' then
    let (body, rest) ← quotation line c s
    .ok (.quoted ⟨[], body⟩, rest)
  else
    match operators.find? (·.isPrefixOf (c :: s)) with
    | some operator => .ok (.sign operator, s.drop (operator.length - 1))
    | none => if Text.isVisible c then .ok (.sign [c], s) else .error (strange c)

/-- Whether blanks in front of a text move it away from the start of its line. -/
def indents (gap rest : Text) : Bool :=
  !(gap.reverse.takeWhile (· != '\x0c')).isEmpty
    && rest.head?.any fun c => c != '\n' && c != '#'

/-- The tokens that a character starts, where a text goes on behind it, with the number of the
characters behind it that belong to them, and the place behind them. -/
def tokensAt (p : Place) (c : Char) (s : Text) : Except Text (List Token × Nat × Place) := do
  let outside := p.brackets.isEmpty
  if isGap c then
    let gap := s.takeWhile isGap
    let moved := p.fresh && outside && indents (c :: gap) (s.drop gap.length)
    .ok (if moved then [.indent] else [], gap.length, { p with fresh := p.fresh && !moved })
  else if c = '#' then .ok ([], (s.takeWhile (· != '\n')).length, p)
  else if c = '\n' then
    .ok (if outside && !p.fresh then [.lineEnd] else [], 0,
      { p with line := p.line + 1, fresh := outside })
  else if c = '\\' then
    if s.head? = some '\n' then .ok ([], 1, { p with line := p.line + 1 })
    else .ok ([.backslash], s.length, p)
  else if "()[]\x7b\x7d".toList.contains c then .ok ([.sign [c]], 0, ← p.bracket c)
  else
    let (token, rest) ← tokenAt p.line c s
    let taken := s.length - rest.length
    .ok ([token], taken,
      { p with line := p.line + (s.take taken).count '\n', fresh := false })

/-- The tokens of a text from a place on. -/
def tokensFrom (p : Place) : Text → Except Text (List Token)
  | [] => .ok [match p.brackets with
      | [] => .finish
      | (bracket, _) :: _ => .unclosed bracket]
  | c :: s => do
    let (found, taken, p) ← tokensAt p c s
    .ok (found ++ (← tokensFrom p (s.drop taken)))
termination_by s => s.length
decreasing_by
  simp only [List.length_drop, List.length_cons]
  omega

/-- The tokens of a text. -/
def tokens (s : Text) : Except Text (List Token) :=
  if s.contains '\x00' then .error "source code string cannot contain null bytes".toList
  else tokensFrom ⟨1, true, []⟩ (Text.foldNewlines s)

end Marginalia.Console.Expression
