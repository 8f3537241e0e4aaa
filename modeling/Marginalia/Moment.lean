import Marginalia.Text.Basic

/-!
# Moments

Dates, times of day and both together, as a settings file may hold them.  A moment is written in
the extended format of the calendar standard; a fraction of a second is written with six digits,
and not at all if it is zero.

`Date.isValid` holds of the days of the proleptic calendar from the year one on.
-/

namespace Marginalia

/-- A day of the calendar. -/
structure Date where
  /-- The year. -/
  year : Nat
  /-- The month, from one. -/
  month : Nat
  /-- The day of the month, from one. -/
  day : Nat
deriving DecidableEq, Repr

/-- A time of day. -/
structure Clock where
  /-- The hour. -/
  hour : Nat
  /-- The minute. -/
  minute : Nat
  /-- The second. -/
  second : Nat
  /-- The millionths of a second. -/
  micro : Nat
deriving DecidableEq, Repr

/-- A date, a time of day, or both, perhaps with the distance from universal time in minutes. -/
inductive Moment where
  /-- A date. -/
  | date (d : Date)
  /-- A time of day. -/
  | clock (c : Clock)
  /-- Both. -/
  | dateTime (d : Date) (c : Clock) (offset : Option Int)
deriving DecidableEq, Repr

/-- Whether a year has a leap day. -/
def isLeapYear (year : Nat) : Bool :=
  year % 4 == 0 && (year % 100 != 0 || year % 400 == 0)

/-- The number of days of a month. -/
def daysOfMonth (year month : Nat) : Nat :=
  if month = 2 then (if isLeapYear year then 29 else 28)
  else if month = 4 || month = 6 || month = 9 || month = 11 then 30
  else 31

/-- Whether there is such a day. -/
def Date.isValid (d : Date) : Bool :=
  1 ≤ d.year && 1 ≤ d.month && d.month ≤ 12 && 1 ≤ d.day && d.day ≤ daysOfMonth d.year d.month

namespace Moment

/-- The text of a date. -/
def ofDate (d : Date) : Text :=
  Text.ofNatPadded 4 d.year ++ ['-'] ++ Text.ofNatPadded 2 d.month ++ ['-']
    ++ Text.ofNatPadded 2 d.day

/-- The text of a time of day. -/
def ofClock (c : Clock) : Text :=
  Text.ofNatPadded 2 c.hour ++ [':'] ++ Text.ofNatPadded 2 c.minute ++ [':']
    ++ Text.ofNatPadded 2 c.second
    ++ (if c.micro = 0 then [] else '.' :: Text.ofNatPadded 6 c.micro)

/-- The text of a distance from universal time. -/
def ofOffset (minutes : Int) : Text :=
  let n := minutes.natAbs
  (if minutes < 0 then '-' else '+') :: Text.ofNatPadded 2 (n / 60) ++ [':']
    ++ Text.ofNatPadded 2 (n % 60)

/-- The text of a moment. -/
def toText : Moment → Text
  | .date d => ofDate d
  | .clock c => ofClock c
  | .dateTime d c none => ofDate d ++ ['T'] ++ ofClock c
  | .dateTime d c (some offset) => ofDate d ++ ['T'] ++ ofClock c ++ ofOffset offset

example : toText (.dateTime ⟨1979, 5, 27⟩ ⟨7, 32, 0, 0⟩ (some 0))
    = "1979-05-27T07:32:00+00:00".toList := by decide
example : toText (.clock ⟨0, 0, 1, 500⟩) = "00:00:01.000500".toList := by decide
example : (Date.mk 2023 2 29).isValid = false := by decide

end Moment

end Marginalia
