import BlockMail.Time.Calendar

/-!
# Instants

A point in universal time, by its calendar date and its time of day. A leap
second is the last second of a minute going on past its end: its nanoseconds run
from one to two thousand million. Kept by its parts, the order of instants is
the order of their parts from the year down to the nanosecond.
-/

set_option autoImplicit false

namespace BlockMail.Time

/-- What makes a minute of the day, a second and nanoseconds a time of day. -/
def ValidTime (minute second nanos : Nat) : Prop :=
  minute < 1440 ∧ second < 60 ∧ nanos < 2000000000 ∧
    (nanos < 1000000000 ∨ second = 59)

instance (minute second nanos : Nat) : Decidable (ValidTime minute second nanos) :=
  inferInstanceAs (Decidable (_ ∧ _))

/-- A point in universal time. -/
structure Instant where
  date : Date
  /-- Minutes since midnight. -/
  minute : Nat
  second : Nat
  nanos : Nat
  valid : ValidTime minute second nanos
deriving DecidableEq

namespace Instant

/-- The instant with these parts, if there is one. -/
def of? (date : Date) (minute second nanos : Nat) : Option Instant :=
  if valid : ValidTime minute second nanos then
    some ⟨date, minute, second, nanos, valid⟩
  else none

/-- The same moment by a clock that runs `minutes` behind: what a local time at
an offset of that many minutes is in universal time. Offsets span less than a
day, so the date moves by one day at most. -/
def behind? (instant : Instant) (minutes : Int) : Option Instant :=
  let minute := (instant.minute : Int) - minutes
  if minute < 0 then do
    let date ← instant.date.previous?
    of? date (minute + 1440).toNat instant.second instant.nanos
  else if 1440 ≤ minute then do
    let date ← instant.date.next?
    of? date (minute - 1440).toNat instant.second instant.nanos
  else of? instant.date minute.toNat instant.second instant.nanos

/-- The parts that decide the order, most significant first. -/
def parts (instant : Instant) : List Int :=
  [instant.date.year, instant.date.month, instant.date.day, instant.minute,
    instant.second, instant.nanos]

/-- Whether one instant is not before another. -/
def notBefore (later earlier : Instant) : Bool :=
  !later.parts.lex earlier.parts fun first second => decide (first < second)

/-- The instant without what lies below a microsecond. -/
def truncateMicros (instant : Instant) : Instant :=
  { instant with
    nanos := instant.nanos / 1000 * 1000
    valid := by
      obtain ⟨minute, second, nanos, leap⟩ := instant.valid
      refine ⟨minute, second, ?_, ?_⟩ <;> omega }

end Instant

end BlockMail.Time
