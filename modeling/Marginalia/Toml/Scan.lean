import Marginalia.Text.Lines
import Marginalia.Text.Numeral

/-!
# Lexical elements of settings files

The elements out of which statements are built: blanks, comments, strings and keys, in the grammar
of TOML 1.0.  A reader takes the text from where the element starts and returns what it read and
the text behind it.

`basicBody` is bounded by a number that its caller takes from the length of the text.  Each of its
steps takes at least one character, so the bound is never reached.
-/

namespace Marginalia.Toml

open Text (isHexDigit valueIn)

/-- Why a settings file cannot be read. -/
inductive Refusal where
  /-- The text breaks a rule of the format. -/
  | malformed
  /-- A number has too many digits. -/
  | tooManyDigits
deriving DecidableEq, Repr

/-- The answer to a text that breaks a rule. -/
def fail {α : Type} : Except Refusal α := .error .malformed

/-! ## Characters -/

/-- Whether a character may stand in a key that has no quotes. -/
def isBareKey (c : Char) : Bool :=
  c.isAlphanum || c = '-' || c = '_'

/-- Whether a character may stand in a comment or in a string of one line. -/
def isPlain (c : Char) : Bool :=
  c = '\t' || (0x20 ≤ c.toNat && c.toNat ≠ 0x7F)

/-- Whether a character separates the elements of a line. -/
def isInlineBlank (c : Char) : Bool :=
  c = ' ' || c = '\t'

/-- The text behind the blanks at its start. -/
def skipBlanks (s : Text) : Text :=
  s.dropWhile isInlineBlank

/-- The text behind the blanks and newlines at its start. -/
def skipSpace (s : Text) : Text :=
  s.dropWhile fun c => isInlineBlank c || c = '\n'

/-! ## Comments -/

/-- The text behind a comment, which runs to the end of its line. -/
def skipComment (s : Text) : Except Refusal Text :=
  match s with
  | '#' :: rest =>
    let comment := rest.takeWhile (· ≠ '\n')
    if comment.all isPlain then .ok (rest.drop comment.length) else fail
  | s => .ok s

/-- The text behind blanks, newlines and comments. -/
def skipFiller : Nat → Text → Except Refusal Text
  | 0, s => .ok s
  | fuel + 1, s => do
    let rest ← skipComment (skipSpace s)
    if rest.length = s.length then .ok rest else skipFiller fuel rest

/-! ## Strings -/

/-- The characters up to the apostrophe that ends a literal string. -/
def literalBody : Text → Except Refusal (Text × Text)
  | [] => fail
  | '\'' :: s => .ok ([], s)
  | c :: s =>
    if isPlain c then do
      let (body, rest) ← literalBody s
      .ok (c :: body, rest)
    else fail

/-- The characters up to the three apostrophes that end a literal string of several lines. -/
def literalLines : Text → Except Refusal (Text × Text)
  | [] => fail
  | '\'' :: '\'' :: '\'' :: s => .ok ([], s)
  | c :: s =>
    if isPlain c || c = '\n' then do
      let (body, rest) ← literalLines s
      .ok (c :: body, rest)
    else fail

/-- The character with the code point that `count` digits in base sixteen write. -/
def codePoint (count : Nat) (s : Text) : Except Refusal (Text × Text) :=
  let digits := s.take count
  if digits.length = count && digits.all isHexDigit then
    let n := valueIn 16 digits
    if n < 0xD800 || (0xE000 ≤ n && n < 0x110000) then .ok ([Char.ofNat n], s.drop count) else fail
  else fail

/-- What an escape stands for, read from behind its backslash.  In a string of several lines a
backslash at the end of a line takes with it all space up to the next visible character. -/
def escape (lines : Bool) (s : Text) : Except Refusal (Text × Text) :=
  match s with
  | [] => fail
  | c :: rest =>
    if lines && c = '\n' then .ok ([], skipSpace rest)
    else if lines && isInlineBlank c then
      match skipBlanks rest with
      | [] => .ok ([], [])
      | '\n' :: rest => .ok ([], skipSpace rest)
      | _ => fail
    else
      match c with
      | 'b' => .ok (['\u0008'], rest)
      | 't' => .ok (['\t'], rest)
      | 'n' => .ok (['\n'], rest)
      | 'f' => .ok (['\u000C'], rest)
      | 'r' => .ok (['\r'], rest)
      | '"' => .ok (['"'], rest)
      | '\\' => .ok (['\\'], rest)
      | 'u' => codePoint 4 rest
      | 'U' => codePoint 8 rest
      | _ => fail

/-- The characters up to the quote, or the three quotes, that end a basic string. -/
def basicBody (lines : Bool) : Nat → Text → Except Refusal (Text × Text)
  | 0, _ => fail
  | _, [] => fail
  | fuel + 1, '"' :: s =>
    if !lines then .ok ([], s)
    else
      match s with
      | '"' :: '"' :: rest => .ok ([], rest)
      | _ => do
        let (body, rest) ← basicBody lines fuel s
        .ok ('"' :: body, rest)
  | fuel + 1, '\\' :: s => do
    let (piece, s) ← escape lines s
    let (body, rest) ← basicBody lines fuel s
    .ok (piece ++ body, rest)
  | fuel + 1, c :: s =>
    if isPlain c || (lines && c = '\n') then do
      let (body, rest) ← basicBody lines fuel s
      .ok (c :: body, rest)
    else fail

/-- A string of several lines may end in one or two of its quotes in front of the three that close
it. -/
def trailingQuotes (mark : Char) (body s : Text) : Text × Text :=
  let extra := (s.take 2).takeWhile (· = mark)
  (body ++ extra, s.drop extra.length)

/-- The text without the newline at its start. -/
def skipNewline : Text → Text
  | '\n' :: s => s
  | s => s

/-- The string at the start of a text that starts with a quote. -/
def string (s : Text) : Except Refusal (Text × Text) :=
  match s with
  | '"' :: '"' :: '"' :: s => do
    let (body, rest) ← basicBody true (s.length + 1) (skipNewline s)
    .ok (trailingQuotes '"' body rest)
  | '\'' :: '\'' :: '\'' :: s => do
    let (body, rest) ← literalLines (skipNewline s)
    .ok (trailingQuotes '\'' body rest)
  | '"' :: s => basicBody false (s.length + 1) s
  | '\'' :: s => literalBody s
  | _ => fail

/-! ## Keys -/

/-- One part of a key: bare characters, or a string of one line. -/
def keyPart (s : Text) : Except Refusal (Text × Text) :=
  match s with
  | '"' :: s => basicBody false (s.length + 1) s
  | '\'' :: s => literalBody s
  | s =>
    let bare := s.takeWhile isBareKey
    if bare.isEmpty then fail else .ok (bare, s.drop bare.length)

/-- The parts of a key, between which stand dots. -/
def keyParts : Nat → Text → Except Refusal (List Text × Text)
  | 0, _ => fail
  | fuel + 1, s => do
    let (part, s) ← keyPart s
    match skipBlanks s with
    | '.' :: s => do
      let (parts, s) ← keyParts fuel (skipBlanks s)
      .ok (part :: parts, s)
    | s => .ok ([part], s)

/-- A key, and the text behind the blanks that follow it. -/
def key (s : Text) : Except Refusal (List Text × Text) :=
  keyParts (s.length + 1) s

end Marginalia.Toml
