import Marginalia.Text.Basic

/-!
# Phrases

What an expression is made of, as far as it matters for two questions: whether something may be
assigned to it, and whether it has a value.

* Something may be assigned to names and attributes, and to rows of them.  `Phrase.obstacle?` is the
  kind of the first part of a phrase to which nothing may be assigned.
* Sets and the keys of tables take no sets and no tables, and no rows that hold one.
  `Phrase.complaint?` is what is wrong with the value of a phrase that is made of literals.
-/

namespace Marginalia.Console.Expression

/-- A phrase. -/
inductive Phrase where
  /-- A name. -/
  | name (s : Text)
  /-- A number or a text. -/
  | literal
  /-- A value with a name of its own. -/
  | constant (s : Text)
  /-- A part of something that has a name. -/
  | part
  /-- A row. -/
  | row (items : List Phrase)
  /-- A set. -/
  | set (items : List Phrase)
  /-- The set without items, which is written as a call. -/
  | emptySet
  /-- A table. -/
  | table (entries : List Phrase)
  /-- An entry of a table. -/
  | entry (key value : Phrase)
  /-- The entries of another table. -/
  | entries
  /-- The items of something else. -/
  | items (p : Phrase)
  /-- The question whether a phrase is an item of something. -/
  | membership (item : Phrase)
  /-- Another question that compares phrases. -/
  | comparison
  /-- A phrase of another kind. -/
  | other (kind : Text)

namespace Phrase

/-- A phrase with operators. -/
def operation : Phrase := .other "expression".toList

/-- A call. -/
def call : Phrase := .other "function call".toList

/-- What a phrase is called. -/
def kind : Phrase → Text
  | name _ => "name".toList
  | literal => "literal".toList
  | constant s => s
  | part => "attribute".toList
  | row _ => "tuple".toList
  | set _ => "set display".toList
  | emptySet => "function call".toList
  | table _ | entry _ _ | entries => "dict literal".toList
  | items _ => "starred".toList
  | membership _ | comparison => "comparison".toList
  | other kind => kind

/-- Whether something may be assigned to a phrase. -/
def isTarget : Phrase → Bool
  | name _ | part => true
  | row ps => areTargets ps
  | items p => isTarget p
  | _ => false
where
  /-- Whether something may be assigned to each of some phrases. -/
  areTargets : List Phrase → Bool
    | [] => true
    | p :: ps => isTarget p && areTargets ps

/-- The kind of the first part of a phrase to which nothing may be assigned.  Of a membership that
is the item, since the phrase may be meant as the head of a loop. -/
def obstacle? : Phrase → Option Text
  | name _ | part | comparison => none
  | row ps => obstacleIn? ps
  | items p | membership p => obstacle? p
  | p => some p.kind
where
  /-- The kind of the first part of some phrases to which nothing may be assigned. -/
  obstacleIn? : List Phrase → Option Text
    | [] => none
    | p :: ps => (obstacle? p).or (obstacleIn? ps)

/-- The kind of the value of a phrase that no set takes. -/
def unhashable? : Phrase → Option Text
  | set _ | emptySet => some "set".toList
  | table _ => some "dict".toList
  | row ps => unhashableIn? ps
  | _ => none
where
  /-- The kind of the first value of some phrases that no set takes. -/
  unhashableIn? : List Phrase → Option Text
    | [] => none
    | p :: ps => (unhashable? p).or (unhashableIn? ps)

/-- What is wrong with a phrase as an item of a set. -/
def unfit? (p : Phrase) : Option Text :=
  p.unhashable?.map fun kind => "unhashable type: '".toList ++ kind ++ ['\'']

/-- What is wrong with the value of a phrase. -/
def complaint? : Phrase → Option Text
  | row ps => complaintIn? ps
  | set ps => complaintAmong? ps
  | table ps => complaintIn? ps
  | entry key value => ((complaint? key).or (complaint? value)).or key.unfit?
  | entries => some "malformed node or string: None".toList
  | _ => none
where
  /-- What is wrong with the value of the first of some phrases that has none. -/
  complaintIn? : List Phrase → Option Text
    | [] => none
    | p :: ps => (complaint? p).or (complaintIn? ps)
  /-- What is wrong with the first of some phrases that is no item of a set. -/
  complaintAmong? : List Phrase → Option Text
    | [] => none
    | p :: ps => ((complaint? p).or p.unfit?).or (complaintAmong? ps)

/-- Something may be assigned to a phrase only if no part of it is an obstacle. -/
theorem obstacle?_eq_none (p : Phrase) (h : p.isTarget = true) : p.obstacle? = none := by
  match p with
  | name _ | part => rfl
  | items p => exact obstacle?_eq_none p h
  | row ps => exact obstacleIn?_eq_none ps h
where
  /-- The same for each of some phrases. -/
  obstacleIn?_eq_none (ps : List Phrase) (h : isTarget.areTargets ps = true) :
      obstacle?.obstacleIn? ps = none := by
    match ps with
    | [] => rfl
    | p :: ps =>
      simp only [isTarget.areTargets, Bool.and_eq_true] at h
      simp only [obstacle?.obstacleIn?, obstacle?_eq_none p h.1, obstacleIn?_eq_none ps h.2,
        Option.or_none]

end Phrase

end Marginalia.Console.Expression
