import Marginalia.Toml.Scalar

/-!
# Settings files

A settings file is a list of statements, one a line: `key = value`, a table header `[key]` or the
header `[[key]]` of a further table of a list.  Reading it yields one table.

A table may be written in several places, within limits that two sets of key paths keep:

* `opened`: a header or a dotted key has already written the table.  No header may name it again,
  and no dotted key of another table may pass through it.
* `closed`: the value was written in one piece.  Nothing at or below the path may change.

Dotted keys are opened only when the next header comes (`pending`), since within one table they may
follow each other.  The header of a further table of a list forgets all that was known below it.
-/

namespace Marginalia.Toml

/-- A key, from the outermost table to the innermost. -/
abbrev KeyPath := List Text

/-! ## Changing a table inside a table -/

/-- The value after the table that it is, or whose list it is, has been changed.  A list stands for
its last table if `intoLists` holds. -/
def inTable (intoLists : Bool) (change : Fields → Except Refusal Fields) :
    Value → Except Refusal Value
  | .table fields => (change fields).map .table
  | .list items =>
    match items.getLast?, intoLists with
    | some (.table fields), true =>
      (change fields).map fun fields => .list (items.dropLast ++ [.table fields])
    | _, _ => fail
  | _ => fail

/-- The fields after the table at the end of a key path has been changed.  Tables that are missing
on the way are made. -/
def changeAt (intoLists : Bool) (change : Fields → Except Refusal Fields) :
    KeyPath → Fields → Except Refusal Fields
  | [], fields => change fields
  | name :: path, fields => do
    let value ← inTable intoLists (changeAt intoLists change path)
      ((fields.get? name).getD (.table []))
    .ok (fields.set name value)

/-- The fields with a new name added. -/
def addNew (name : Text) (value : Value) (fields : Fields) : Except Refusal Fields :=
  if (fields.get? name).isSome then fail else .ok (fields.set name value)

/-- The fields with an empty table added to the list of a name. -/
def addTable (name : Text) (fields : Fields) : Except Refusal Fields :=
  match fields.get? name with
  | none => .ok (fields.set name (.list [.table []]))
  | some (.list items) => .ok (fields.set name (.list (items ++ [.table []])))
  | some _ => fail

/-- Whether a value is written in one piece that has parts. -/
def isClosedValue : Value → Bool
  | .list _ => true
  | .table _ => true
  | _ => false

/-- Whether one of `paths` leads to or above a key path. -/
def covers (paths : List KeyPath) (path : KeyPath) : Bool :=
  paths.any fun p => p.isPrefixOf path

/-! ## Values -/

mutual

/-- The value at the start of a text. -/
def value : Nat → Text → Except Refusal (Value × Text)
  | 0, _ => fail
  | fuel + 1, s =>
    match s with
    | '[' :: s => do
      let s ← skipFiller s.length s
      match s with
      | ']' :: s => .ok (.list [], s)
      | s => do
        let (items, s) ← items fuel s
        .ok (.list items, s)
    | '{' :: s =>
      match skipBlanks s with
      | '}' :: s => .ok (.table [], s)
      | s => do
        let (fields, s) ← fields fuel [] [] s
        .ok (.table fields, s)
    | '"' :: _ | '\'' :: _ => do
      let (body, s) ← string s
      .ok (.text body, s)
    | s => scalar s

/-- The items of a list, up to the bracket that closes it. -/
def items : Nat → Text → Except Refusal (List Value × Text)
  | 0, _ => fail
  | fuel + 1, s => do
    let (item, s) ← value fuel s
    let s ← skipFiller s.length s
    match s with
    | ']' :: s => .ok ([item], s)
    | ',' :: s => do
      let s ← skipFiller s.length s
      match s with
      | ']' :: s => .ok ([item], s)
      | s => do
        let (rest, s) ← items fuel s
        .ok (item :: rest, s)
    | _ => fail

/-- The fields of an inline table, up to the brace that closes it.  `closed` are the key paths of
the fields so far that have parts. -/
def fields : Nat → List KeyPath → Fields → Text → Except Refusal (Fields × Text)
  | 0, _, _, _ => fail
  | fuel + 1, closed, done, s => do
    let (path, s) ← key s
    match s with
    | '=' :: s => do
      let (v, s) ← value fuel (skipBlanks s)
      if covers closed path then fail
      let done ← changeAt false (addNew (path.getLastD []) v) path.dropLast done
      match skipBlanks s with
      | '}' :: s => .ok (done, s)
      | ',' :: s =>
        fields fuel (if isClosedValue v then path :: closed else closed) done (skipBlanks s)
      | _ => fail
    | _ => fail

end

/-! ## Statements -/

/-- What is known after some statements. -/
structure Progress where
  /-- The table read so far. -/
  data : Fields := []
  /-- The key path of the last header. -/
  header : KeyPath := []
  /-- The tables that may not be opened again. -/
  opened : List KeyPath := []
  /-- The values that may not change. -/
  closed : List KeyPath := []
  /-- The tables that the next header opens. -/
  pending : List KeyPath := []

/-- The key paths of the tables that a dotted key passes through. -/
def inner (header path : KeyPath) : List KeyPath :=
  (List.range (path.length - 1)).map fun k => header ++ path.take (k + 1)

/-- After the statement `path = v`. -/
def Progress.assign (p : Progress) (path : KeyPath) (v : Value) : Except Refusal Progress := do
  let through := inner p.header path
  let table := p.header ++ path.dropLast
  if through.any p.opened.contains || covers p.closed table then fail
  let data ← changeAt true (addNew (path.getLastD []) v) table p.data
  .ok { p with
    data
    pending := through ++ p.pending
    closed := if isClosedValue v then (p.header ++ path) :: p.closed else p.closed }

/-- After a header has been announced. -/
def Progress.settle (p : Progress) : Progress :=
  { p with opened := p.pending ++ p.opened, pending := [] }

/-- After the header of a table. -/
def Progress.openTable (p : Progress) (path : KeyPath) : Except Refusal Progress := do
  if p.opened.contains path || covers p.closed path then fail
  let data ← changeAt true .ok path p.data
  .ok { p with data, header := path, opened := path :: p.opened }

/-- After the header of a further table of a list. -/
def Progress.openItem (p : Progress) (path : KeyPath) : Except Refusal Progress := do
  if covers p.closed path then fail
  let data ← changeAt true (addTable (path.getLastD [])) path.dropLast p.data
  let outside := fun other : KeyPath => !path.isPrefixOf other
  .ok { p with
    data
    header := path
    opened := path :: p.opened.filter outside
    closed := p.closed.filter outside }

/-- The statement at the start of a text that is neither blank nor a comment. -/
def statement (p : Progress) (s : Text) : Except Refusal (Progress × Text) :=
  match s with
  | '[' :: '[' :: s => do
    let (path, s) ← key (skipBlanks s)
    let p ← p.settle.openItem path
    match s with
    | ']' :: ']' :: s => .ok (p, s)
    | _ => fail
  | '[' :: s => do
    let (path, s) ← key (skipBlanks s)
    let p ← p.settle.openTable path
    match s with
    | ']' :: s => .ok (p, s)
    | _ => fail
  | s => do
    let (path, s) ← key s
    match s with
    | '=' :: s => do
      let (v, s) ← value (2 * s.length + 2) (skipBlanks s)
      let p ← p.assign path v
      .ok (p, s)
    | _ => fail

/-- The lines of a text from `s` on. -/
def statements : Nat → Progress → Text → Except Refusal Progress
  | 0, _, _ => fail
  | fuel + 1, p, s =>
    match skipBlanks s with
    | [] => .ok p
    | '\n' :: s => statements fuel p s
    | s => do
      let (p, s) ← if s.head? = some '#' then .ok (p, s) else statement p s
      match ← skipComment (skipBlanks s) with
      | [] => .ok p
      | '\n' :: s => statements fuel p s
      | _ => fail

/-- The text with each CR LF written as LF. -/
def foldLineEnds : Text → Text
  | [] => []
  | '\r' :: '\n' :: s => '\n' :: foldLineEnds s
  | c :: s => c :: foldLineEnds s

/-- The table that a text writes.  Lists and inline tables may be nested to any depth here, whereas
a reader whose recursion is limited gives up on some 500 open brackets, with a fault that is neither
of the refusals. -/
def parse (s : Text) : Except Refusal Fields := do
  let s := foldLineEnds s
  let p ← statements (s.length + 1) {} s
  .ok p.data

end Marginalia.Toml
