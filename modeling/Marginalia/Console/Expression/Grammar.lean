import Marginalia.Console.Expression.Reading

/-!
# The grammar of expressions

Expressions are read twice.  The first reading only finds out whether the tokens are an expression.
If they are not, the second one goes over them from the left, and refuses the first thing that it
has an explanation for: a comma that is missing, an assignment where a question was meant, and the
like.  What it cannot explain it does not find either.

A rule reads one kind of phrase.  The rules call each other, so `phrase` is given how deep they may
do so: `depthFor` is deep enough for the length of a text, since no rule calls itself on the same
tokens and there are less than a dozen of them.
-/

namespace Marginalia.Console.Expression

open Reading

/-- How phrases are read. -/
structure Manner where
  /-- Whether it is looked for explanations. -/
  explaining : Bool
  /-- Whether a bracket is open. -/
  enclosed : Bool

/-- Tokens are refused for good if it is looked for explanations; else nothing is found. -/
def Manner.refuse {α : Type} (m : Manner) (message : String) : Reading α :=
  if m.explaining then Reading.refuse message.toList else failure

/-- The kinds of phrases that are read. -/
inductive Rule where
  /-- Any phrase without an assignment. -/
  | expression
  /-- A phrase without an assignment whose conditions have been read before. -/
  | echo
  /-- Conditions joined by words. -/
  | disjunction
  /-- A condition. -/
  | condition
  /-- A comparison. -/
  | comparison
  /-- Terms joined by operators. -/
  | sum
  /-- A term with signs in front, and powers. -/
  | factor
  /-- A simple phrase with its parts, and calls of it. -/
  | primary
  /-- A simple phrase. -/
  | simple
  /-- A phrase that may be given a name. -/
  | named

/-- How the rules read. -/
abbrev Rules := Rule → Reading Phrase

/-! ## Operators -/

/-- Phrases that are joined by signs. -/
def joined (item : Reading Phrase) (signs : List String) : Reading Phrase := do
  let first ← item
  let more ← many do
    oneOf signs
    item
  pure (if more.isEmpty then first else .operation)

/-- The sign of a comparison, and whether it asks for membership. -/
def comparisonSign : Reading Bool := do
  match ← optional (oneOf ["==", "!=", "<", "<=", ">", ">="]) with
  | some () => pure false
  | none =>
    match ← optional (sign "in") with
    | some () => pure true
    | none =>
      (do sign "not"; sign "in"; pure false)
        <|> (do sign "is"; let _ ← optional (sign "not"); pure false)

/-- A comparison of phrases. -/
def comparison (rules : Rules) : Reading Phrase := do
  let first ← rules .sum
  let signs ← many do
    let membership ← comparisonSign
    let _ ← rules .sum
    pure membership
  match signs with
  | [] => pure first
  | true :: _ => pure (.membership first)
  | false :: _ => pure .comparison

/-- A condition, which may be denied. -/
def condition (rules : Rules) : Reading Phrase :=
  (do sign "not"; let _ ← rules .condition; pure .operation) <|> rules .comparison

/-- A power. -/
def power (rules : Rules) : Reading Phrase := do
  let base ← (do sign "await"; let _ ← rules .primary; pure (.other "await expression".toList))
    <|> rules .primary
  (do sign "**"; let _ ← rules .factor; pure .operation) <|> pure base

/-- A term with signs in front. -/
def factor (rules : Rules) : Reading Phrase :=
  (do oneOf ["+", "-", "~"]; let _ ← rules .factor; pure .operation) <|> power rules

/-! ## Items and loops -/

/-- The items of something else. -/
def itemsOf (rules : Rules) : Reading Phrase := do
  sign "*"
  .items <$> rules .sum

/-- A phrase or the items of something else, between commas. -/
def row (rules : Rules) : Reading Phrase := do
  let item := itemsOf rules <|> rules .expression
  let first ← item
  let comma ← isNext ","
  let more ← afterCommas item
  pure (if comma then .row (first :: more) else first)

/-- The items of something else as they are written in a call. -/
def spread (rules : Rules) : Reading Unit := do
  sign "*"
  match ← optional (rules .expression) with
  | some _ => pure ()
  | none => refuse "Invalid star expression".toList

/-- The targets of a loop and the word behind them. -/
def targets (rules : Rules) : Reading Unit := do
  let item := itemsOf rules <|> rules .sum
  let first ← item
  let more ← afterCommas item
  require ((first :: more).all Phrase.isTarget)
  sign "in"

/-- The head of a loop with its conditions. -/
def loop (m : Manner) (rules : Rules) : Reading Unit := do
  let _ ← optional (sign "async")
  sign "for"
  if ← finds (targets rules) then
    targets rules
    let _ ← rules .disjunction
    let _ ← many do
      sign "if"
      rules .disjunction
  else
    require m.explaining
    match (← row rules).obstacle? with
    | some kind => refuse ("cannot assign to ".toList ++ kind)
    | none => failure

/-- The heads of loops. -/
def loops (m : Manner) (rules : Rules) : Reading Unit := do
  loop m rules
  let _ ← many (loop m rules)

/-- Whether the head of a loop is next. -/
def isLoopNext : Reading Bool :=
  return (← isNext "for") || (← isNext "async")

/-! ## Expressions -/

/-- What has been read of the parameters of a function without a name. -/
structure Parameters where
  /-- Whether nothing has been read. -/
  isEmpty : Bool
  /-- Whether a slash has been read. -/
  slash : Bool
  /-- Whether a star has been read. -/
  star : Bool
  /-- Whether the parameters in front of the star have values of their own. -/
  filled : Bool

/-- The end of a parameter, which is a comma unless it is the last one. -/
def parameterEnd : Reading Unit := do
  if !(← isNext ":") then sign ","

/-- The parameter for the named arguments that are left, which is the last one. -/
def lastParameter (m : Manner) : Reading Unit := do
  sign "**"
  let _ ← name
  if ← isNext "=" then m.refuse "var-keyword argument cannot have default value"
  parameterEnd
  match ← next with
  | .name _ => m.refuse "arguments cannot follow var-keyword argument"
  | .sign s =>
    if (["*", "**", "/"].map String.toList).contains s then
      m.refuse "arguments cannot follow var-keyword argument"
  | _ => pure ()

/-- The star of the parameters, and the name behind it. -/
def starParameter (m : Manner) (seen : Parameters) : Reading Unit := do
  sign "*"
  if seen.star then m.refuse "* argument may appear only once"
  match ← optional name with
  | some _ =>
    if ← isNext "=" then m.refuse "var-positional argument cannot have default value"
    parameterEnd
  | none =>
    if ← isNext ":" then m.refuse "named arguments must follow bare *"
    sign ","
    if (← isNext ":") || (← isNext "**") then m.refuse "named arguments must follow bare *"

/-- The slash of the parameters. -/
def slashParameter (m : Manner) (seen : Parameters) : Reading Unit := do
  sign "/"
  if seen.isEmpty then
    sign ","
    m.refuse "at least one argument must precede /"
  if seen.slash then m.refuse "/ may appear only once"
  if seen.star then m.refuse "/ must be ahead of *"
  if ← isNext "*" then m.refuse "expected comma between / and *"
  parameterEnd

/-- The parameters of a function without a name, behind those that have been read. -/
def parameters (m : Manner) (rules : Rules) : Nat → Parameters → Reading Unit
  | 0, _ => failure
  | n + 1, seen => do
    if ← isNext ":" then pure ()
    else if ← isNext "**" then lastParameter m
    else if ← isNext "*" then
      starParameter m seen
      parameters m rules n { seen with isEmpty := false, star := true, filled := false }
    else if ← isNext "/" then
      slashParameter m seen
      parameters m rules n { seen with slash := true }
    else if ← isNext "(" then
      require m.explaining
      sign "("
      let _ ← name
      let _ ← afterCommas name
      sign ")"
      m.refuse "Lambda expression parameters cannot be parenthesized"
    else
      let _ ← name
      let filled ← isNext "="
      if filled then
        sign "="
        let _ ← rules .expression
      parameterEnd
      if seen.filled && !filled then m.refuse "non-default argument follows default argument"
      parameters m rules n
        { seen with isEmpty := false, filled := filled && !seen.star }

/-- A function without a name. -/
def function (m : Manner) (rules : Rules) : Reading Phrase := do
  sign "lambda"
  parameters m rules ((← get).length + 1) ⟨true, false, false, false⟩
  sign ":"
  let _ ← rules .expression
  pure (.other "lambda".toList)

/-- The names of the commands that once stood in front of what they print or run. -/
def commands : List Text :=
  ["print", "exec"].map String.toList

/-- Whether tokens start in a way that leaves it open what is missing between two phrases: with a
name that may be meant to belong to a quotation, or with the start of a word that begins a
command. -/
def startsOpen : List Token → Bool
  | .name _ :: .quoted _ :: _ => true
  | .name s :: _ => ["_", "case", "match"].any fun word => s.isPrefixOf word.toList
  | _ => false

/-- It is explained what is wrong behind a phrase that is read at the front of tokens. -/
def explainBehind (m : Manner) (rules plain : Rules) (start : List Token) (p : Phrase) :
    Reading Unit := do
  let isCommand := match p with
    | .name s => commands.contains s
    | _ => false
  let opens := startsOpen start
  let joins ← if opens then pure false else finds (plain .expression)
  if joins && m.enclosed && !isCommand then
    refuse "invalid syntax. Perhaps you forgot a comma?".toList
  if !joins then
    let half ← finds do
      sign "if"
      let _ ← rules .disjunction
      require (!(← isNext "else") && !(← isNext ":"))
    if half then refuse "expected 'else' after 'if' expression".toList
  match start with
  | .name s :: more =>
    let behind ← get
    set more
    let again : Rules
      | .expression => rules .echo
      | rule => plain rule
    if !(← isNext "(") then
      if ← finds (row (if opens then rules else again)) then
        if commands.contains s then
          refuse ("Missing parentheses in call to '".toList ++ s ++ "'. Did you mean ".toList
            ++ s ++ "(...)?".toList)
    set behind
  | _ => pure ()

/-- Any phrase without an assignment. -/
def expression (m : Manner) (rules plain : Rules) : Reading Phrase := do
  let start ← get
  match ← optional (rules .disjunction) with
  | none => function m rules
  | some p =>
    if m.explaining then explainBehind m rules plain start p
    let whole : Reading Phrase := do
      sign "if"
      let _ ← rules .disjunction
      sign "else"
      let _ ← rules .expression
      pure (.other "conditional expression".toList)
    whole <|> pure p

/-- Whether tokens start with a name that is given to what stands behind it. -/
def startsNaming : List Token → Bool
  | .name _ :: .sign s :: _ => s == ":=".toList
  | _ => false

/-- A phrase with a name that is given to it. -/
def naming (rules : Rules) : Reading Phrase := do
  let _ ← name
  sign ":="
  let _ ← rules .expression
  pure (.other "named expression".toList)

/-- It is explained why nothing may be assigned to a phrase that is read at the front of tokens. -/
def explainAssignment (rules plain : Rules) (start : List Token) (p : Phrase) :
    Reading Unit := do
  let assigned : Reading Unit := do
    sign "="
    let _ ← rules .sum
    require (!(← isNext "=") && !(← isNext ":="))
  let behind ← get
  let isName := match start with
    | .name _ :: rest => rest == behind
    | _ => false
  let isFixed := match start with
    | .sign s :: _ => (["True", "None", "False"].map String.toList).contains s
    | _ => false
  let isRow := match p with
    | .row _ => true
    | .other kind => kind == "generator expression".toList
    | _ => false
  if ← isNext "=" then
    set start
    let found ← optional (plain .sum)
    let isSum := found.isSome && (← get) == behind
    set behind
    if isSum && (isName || !(isFixed || isRow)) then
      if ← finds assigned then
        refuse (if isName then
            "invalid syntax. Maybe you meant '==' or ':=' instead of '='?".toList
          else
            "cannot assign to ".toList ++ p.kind
              ++ " here. Maybe you meant '==' instead of '='?".toList)

/-- A phrase that has been read at the front of tokens, unless a name is given behind it. -/
def notNamed (m : Manner) (rules plain : Rules) (start : List Token) (p : Phrase) :
    Reading Phrase := do
  if m.explaining then
    let given ← finds do
      sign ":="
      rules .expression
    if given then refuse ("cannot use assignment expressions with ".toList ++ p.kind)
    explainAssignment rules plain start p
  require (!(← isNext ":="))
  pure p

/-- A phrase that may be given a name. -/
def named (m : Manner) (rules plain : Rules) : Reading Phrase := do
  let start ← get
  if startsNaming start then naming rules
  else notNamed m rules plain start (← rules .expression)

/-! ## Brackets -/

/-- What stands between round brackets in front of a star, behind the first bracket. -/
def starred (m : Manner) (rules : Rules) : Reading Phrase :=
  (do
    let first ← itemsOf rules
    require (← isNext ",")
    let more ← afterCommas (itemsOf rules <|> rules .named)
    sign ")"
    pure (.row (first :: more)))
  <|> (do
    require m.explaining
    spread rules
    sign ")"
    refuse "cannot use starred expression here".toList)
  <|> (do
    require m.explaining
    spread rules
    loops m rules
    refuse "iterable unpacking cannot be used in comprehension".toList)

/-- A phrase in round brackets. -/
def parenthesized (m : Manner) (rules : Rules) : Reading Phrase := do
  sign "("
  if ← isNext ")" then
    sign ")"
    pure (.row [])
  else if ← isNext "yield" then
    sign "yield"
    let _ ← optional ((do sign "from"; rules .expression) <|> row rules)
    sign ")"
    pure (.other "yield expression".toList)
  else if ← isNext "*" then starred m rules
  else if ← isNext "**" then
    require m.explaining
    sign "**"
    let _ ← rules .expression
    sign ")"
    refuse "cannot use double starred expression here".toList
  else
    let first ← rules .named
    if ← isNext "," then
      let more ← afterCommas (itemsOf rules <|> rules .named)
      sign ")"
      pure (.row (first :: more))
    else if ← isLoopNext then
      loops m rules
      sign ")"
      pure (.other "generator expression".toList)
    else
      sign ")"
      pure first

/-- It is explained what is wrong behind the colon of an entry, if no value is. -/
def explainValue (rules : Rules) : Reading Unit := do
  let star ← finds do
    sign "*"
    rules .sum
  if star then refuse "cannot use a starred expression in a dictionary value".toList
  if (← isNext "\x7d") || (← isNext ",") then
    refuse "expression expected after dictionary key and ':'".toList

/-- The value of an entry of a table with its colon. -/
def value (rules : Rules) : Reading Phrase := do
  sign ":"
  match ← optional (rules .expression) with
  | some p => pure p
  | none =>
    explainValue rules
    failure

/-- An entry of a table, or the entries of another one. -/
def entry (rules : Rules) : Reading Phrase :=
  (do sign "**"; let _ ← rules .sum; pure .entries)
  <|> (do
    let key ← rules .expression
    sign ":"
    .entry key <$> rules .expression)

/-- The end of a table behind its first entry. -/
def restOfTable (rules : Rules) (first : Phrase) : Reading Phrase := do
  let more ← many do
    sign ","
    entry rules
  if ← isNext "," then
    sign ","
    if !(← isNext "\x7d") then
      let key ← optional (rules .expression)
      if key.isSome then
        if ← isNext ":" then
          sign ":"
          explainValue rules
        else refuse "':' expected after dictionary key".toList
  sign "\x7d"
  pure (.table (first :: more))

/-- The end of a set or of a loop that makes one, behind the first item. -/
def restOfSet (m : Manner) (rules : Rules) (first : Phrase) : Reading Phrase := do
  let comma ← isNext ","
  let more ← afterCommas (itemsOf rules <|> rules .named)
  if ← isLoopNext then
    let isSingle := match first with
      | .items _ => false
      | _ => !comma
    require (m.explaining || isSingle)
    loops m rules
    if !isSingle then
      refuse (if comma then
          "did you forget parentheses around the comprehension target?".toList
        else "iterable unpacking cannot be used in comprehension".toList)
    sign "\x7d"
    pure (.other "set comprehension".toList)
  else
    sign "\x7d"
    pure (.set (first :: more))

/-- A set or a table in curly brackets. -/
def braced (m : Manner) (rules plain : Rules) : Reading Phrase := do
  sign "\x7b"
  if ← isNext "\x7d" then
    sign "\x7d"
    pure (.table [])
  else if ← isNext "**" then
    sign "**"
    let _ ← rules .sum
    if m.explaining && (← isLoopNext) then
      loops m rules
      sign "\x7d"
      refuse "dict unpacking cannot be used in dict comprehension".toList
    restOfTable rules .entries
  else if ← isNext "*" then
    (do restOfSet m rules (← itemsOf rules))
    <|> (do
      require m.explaining
      spread rules
      loops m rules
      refuse "iterable unpacking cannot be used in comprehension".toList)
  else
    let start ← get
    if startsNaming start then restOfSet m rules (← naming rules)
    else
      let first ← rules .expression
      if ← isNext ":" then
        let first := Phrase.entry first (← value rules)
        if ← isLoopNext then
          loops m rules
          sign "\x7d"
          pure (.other "dict comprehension".toList)
        else restOfTable rules first
      else restOfSet m rules (← notNamed m rules plain start first)

/-! ## Calls -/

/-- What has been read of a call. -/
structure Arguments where
  /-- The number of arguments without a name. -/
  plain : Nat
  /-- Whether an argument with a name has been read. -/
  named : Bool
  /-- Whether the arguments of a table have been read. -/
  spread : Bool

/-- The start of a call. -/
def Arguments.none : Arguments := ⟨0, false, false⟩

/-- An argument that has its name in front of it. -/
def namedArgument (m : Manner) (rules : Rules) : Reading Unit := do
  let _ ← name
  sign "="
  let _ ← rules .expression
  if m.explaining && (← isLoopNext) then
    if ← finds (loops m rules) then
      refuse "invalid syntax. Maybe you meant '==' or ':=' instead of '='?".toList

/-- An argument without a name, which something is assigned to by mistake. -/
def plainArgument (m : Manner) (rules : Rules) : Reading Unit := do
  let start ← get
  let _ ← if startsNaming start then naming rules else rules .expression
  require (!(← isNext ":="))
  if ← isNext "=" then
    require m.explaining
    match start with
    | .sign s :: .sign ['='] :: _ =>
      if (["True", "None", "False"].map String.toList).contains s then
        refuse ("cannot assign to ".toList ++ s)
    | _ => pure ()
    refuse "expression cannot contain assignment, perhaps you meant \"==\"?".toList

/-- Whether an argument with its name in front of it is next. -/
def startsNamed : List Token → Bool
  | .name _ :: .sign s :: _ => s == ['=']
  | _ => false

/-- An argument that may stand behind others: those with a name stand behind those without one, and
behind the arguments of a table there are no items of something else. -/
def argument (m : Manner) (rules : Rules) (seen : Arguments) : Reading Arguments := do
  if ← isNext "*" then
    require (!seen.spread)
    spread rules
    pure { seen with plain := seen.plain + 1 }
  else if ← isNext "**" then
    sign "**"
    let _ ← rules .expression
    pure { seen with spread := true }
  else if startsNamed (← get) then
    namedArgument m rules
    pure { seen with named := true }
  else
    require (m.explaining || !(seen.named || seen.spread))
    plainArgument m rules
    require (!(seen.named || seen.spread))
    pure { seen with plain := seen.plain + 1 }

/-- As many arguments as may stand behind others, each behind a comma. -/
def moreArguments (m : Manner) (rules : Rules) : Nat → Arguments → Reading Arguments
  | 0, seen => pure seen
  | n + 1, seen => do
    match ← optional (do sign ","; argument m rules seen) with
    | some seen => moreArguments m rules n seen
    | Option.none => pure seen

/-- It is explained why a call does not end behind its arguments. -/
def explainCall (m : Manner) (rules : Rules) (seen : Arguments) : Reading Unit := do
  let ungrouped := "Generator expression must be parenthesized".toList
  if ← isLoopNext then
    loops m rules
    if 1 < seen.plain then refuse ungrouped
  else
    sign ","
    let loose ← finds do
      let item : Reading Unit := do
        spread rules
        require (!(← isNext "="))
      item
      many do
        sign ","
        item
    if loose then
      refuse "iterable argument unpacking follows keyword argument unpacking".toList
    let next ← argument m rules .none
    if next.plain = 1 && (← isLoopNext) then
      loops m rules
      refuse ungrouped
    let _ ← moreArguments m rules (← get).length next
    refuse ("positional argument follows keyword argument".toList
      ++ if seen.spread then " unpacking".toList else [])

/-- The arguments of a call up to its last bracket. -/
def arguments (m : Manner) (rules : Rules) : Reading Unit := do
  let spreads ← isNext "*"
  let first ← argument m rules .none
  if first.plain = 1 && !spreads && (← isLoopNext) then
    loops m rules
    if m.explaining && (← isNext ",") then
      refuse "Generator expression must be parenthesized".toList
    sign ")"
  else
    let seen ← moreArguments m rules (← get).length first
    if ← finds (do let _ ← optional (sign ","); sign ")") then
      let _ ← optional (sign ",")
      sign ")"
    else
      if m.explaining then explainCall m rules seen
      failure

/-- A loop between brackets is refused that goes over the items of something else, or over several
phrases without a bracket of their own. -/
def looseLoop {α : Type} (m : Manner) (rules : Rules) : Reading α := do
  require m.explaining
  let round ← isNext "("
  oneOf ["(", "\x7b"]
  if ← isNext "*" then
    if ← finds (do spread rules; loops m rules) then
      refuse "iterable unpacking cannot be used in comprehension".toList
  require (!round)
  let item := itemsOf rules <|> rules .named
  let _ ← item
  require (← isNext ",")
  let _ ← afterCommas item
  loops m rules
  refuse "did you forget parentheses around the comprehension target?".toList

/-- A part of a phrase or a call of it. -/
def trailer (m : Manner) (rules : Rules) : Reading Phrase :=
  (do sign "."; let _ ← name; pure .part)
  <|> looseLoop m rules
  <|> (do
    sign "("
    let empty ← isNext ")"
    if empty then
      sign ")"
      pure .emptySet
    else
      arguments m rules
      pure .call)

/-- A simple phrase with its parts, and calls of it.  The call of a set without arguments is a set,
every other call is none. -/
def primary (m : Manner) (rules within : Rules) : Reading Phrase := do
  let base ← rules .simple
  let trailers ← many (trailer m within)
  match trailers.getLast? with
  | none => pure base
  | some .emptySet =>
    match base, trailers with
    | .name s, [_] => pure (if s = "set".toList then .emptySet else .call)
    | _, _ => pure .call
  | some last => pure last

/-- A quotation. -/
def quotedText : Reading Quotation := do
  match ← next with
  | .quoted q => modify List.tail; pure q
  | _ => failure

/-- Quotations that stand side by side, given why an expression within them is refused. -/
def quotedTexts (refusal? : Text → Option Refusal) : Reading Phrase := do
  let first ← quotedText
  let more ← many quotedText
  match quotationsRefusal? refusal? (first :: more) with
  | some refusal => refuseWith refusal
  | none =>
    pure (if (first :: more).any Quotation.isFilled then .other "f-string expression".toList
      else .literal)

/-- A simple phrase, given why an expression within a quotation is refused. -/
def simple (m : Manner) (refusal? : Text → Option Refusal) (within plain : Rules) :
    Reading Phrase := do
  match ← next with
  | .name s => modify List.tail; pure (.name s)
  | .number => modify List.tail; pure .literal
  | .quoted _ => quotedTexts refusal?
  | .sign s =>
    if (["None", "True", "False"].map String.toList).contains s then
      modify List.tail
      pure (.constant s)
    else if s = "...".toList then
      modify List.tail
      pure (.constant "ellipsis".toList)
    else parenthesized m within <|> braced m within plain
  | _ => failure

/-! ## The rules -/

/-- An expression up to the end of the tokens, given the rules for a manner. -/
def whole (rulesFor : Manner → Rules) (explaining : Bool) : Reading Phrase := do
  let rules := rulesFor ⟨explaining, false⟩
  let first ← rules .expression
  let comma ← isNext ","
  let more ← afterCommas (rules .expression)
  let ends ← many do
    require ((← next) == .lineEnd)
    modify List.tail
  if explaining && !ends.isEmpty && (← next) == .indent then refuse "unexpected indent".toList
  require ((← next) == .finish)
  pure (if comma then .row (first :: more) else first)

/-- The phrase that tokens are, or why they are none, given the rules for a manner. -/
def phraseOf (rulesFor : Manner → Rules) (tokens : List Token) : Except Refusal Phrase := do
  match ← (whole rulesFor false).run tokens with
  | some (p, _) => .ok p
  | none =>
    match ← (whole rulesFor true).run tokens with
    | some (p, _) => .ok p
    | none => .error (.of "invalid syntax".toList)

/-- Why an expression within a quotation is refused, given the rules for a manner.  Only what cannot
be read says that it stands there, not what cannot be cut up. -/
def fillingRefusal? (rulesFor : Manner → Rules) (s : Text) : Option Refusal :=
  match tokens s with
  | .error reason => some ⟨reason, true⟩
  | .ok tokens =>
    match phraseOf rulesFor tokens with
    | .error ⟨reason, true⟩ => some ⟨reason, true⟩
    | .error ⟨reason, false⟩ => some ⟨"f-string: ".toList ++ reason, true⟩
    | .ok _ => none

/-- The rules, which may call each other to a depth. -/
def phrase : Nat → Manner → Rules
  | 0, _, _ => failure
  | n + 1, m, rule =>
    let rules := phrase n m
    let plain := phrase n { m with explaining := false }
    let within := phrase n { m with enclosed := true }
    match rule with
    | .expression => expression m rules plain
    | .echo =>
      let again : Rules
        | .disjunction => plain .disjunction
        | rule => rules rule
      expression m again plain
    | .disjunction => joined (rules .condition) ["and", "or"]
    | .condition => condition rules
    | .comparison => comparison rules
    | .sum =>
      joined (rules .factor) ["|", "^", "&", "<<", ">>", "+", "-", "*", "/", "//", "%", "@"]
    | .factor => factor rules
    | .primary => primary m rules within
    | .simple => simple m (fillingRefusal? (phrase n)) within plain
    | .named => named m rules plain

/-- A depth to which rules may call each other that is enough for a text of a length. -/
def depthFor (length : Nat) : Nat :=
  12 * (length + 3)

/-- The phrase that a text is, or why it is none. -/
def read (s : Text) : Except Text Phrase := do
  (phraseOf (phrase (depthFor s.length)) (← tokens s)).mapError Refusal.reason

end Marginalia.Console.Expression
