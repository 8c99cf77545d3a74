/-!
# Calendar dates

Dates of the proleptic Gregorian calendar within the supported range of years.
-/

set_option autoImplicit false

namespace BlockMail.Time

/-- Every fourth year, except centuries that four does not divide. -/
def isLeapYear (year : Int) : Bool :=
  year % 4 == 0 && (year % 100 != 0 || year % 400 == 0)

/-- The length of a month; zero for a number that is no month. -/
def daysInMonth (year : Int) (month : Nat) : Nat :=
  match month with
  | 1 | 3 | 5 | 7 | 8 | 10 | 12 => 31
  | 4 | 6 | 9 | 11 => 30
  | 2 => if isLeapYear year then 29 else 28
  | _ => 0

/-- What makes a year, a month and a day a supported date. -/
def ValidDate (year : Int) (month day : Nat) : Prop :=
  -262143 ≤ year ∧ year ≤ 262142 ∧ 1 ≤ month ∧ month ≤ 12 ∧ 1 ≤ day ∧
    day ≤ daysInMonth year month

instance (year : Int) (month day : Nat) : Decidable (ValidDate year month day) :=
  inferInstanceAs (Decidable (_ ∧ _))

structure Date where
  year : Int
  month : Nat
  day : Nat
  valid : ValidDate year month day
deriving DecidableEq

namespace Date

/-- The date with these parts, if there is one. -/
def of? (year : Int) (month day : Nat) : Option Date :=
  if valid : ValidDate year month day then some ⟨year, month, day, valid⟩
  else none

/-- The day after, unless the range of years ends. -/
def next? (date : Date) : Option Date :=
  if date.day < daysInMonth date.year date.month then
    of? date.year date.month (date.day + 1)
  else if date.month < 12 then of? date.year (date.month + 1) 1
  else of? (date.year + 1) 1 1

/-- The day before, unless the range of years ends. -/
def previous? (date : Date) : Option Date :=
  if 1 < date.day then of? date.year date.month (date.day - 1)
  else if 1 < date.month then
    of? date.year (date.month - 1) (daysInMonth date.year (date.month - 1))
  else of? (date.year - 1) 12 31

end Date

end BlockMail.Time
