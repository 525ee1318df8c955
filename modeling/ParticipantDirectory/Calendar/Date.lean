import ParticipantDirectory.Decimal.Digits

/-!
# Dates

The days of the Gregorian calendar from year 1 to year 9999, extended backwards before its
introduction, and their number counted from the first of January 1970.
-/

namespace ParticipantDirectory.Calendar

/-- Whether the year has a 29th of February. -/
def isLeap (year : Nat) : Bool :=
  year % 4 = 0 && (year % 100 ≠ 0 || year % 400 = 0)

/-- The number of days of a month; none for what is not a month. -/
def daysIn (year month : Nat) : Nat :=
  match month with
  | 1 | 3 | 5 | 7 | 8 | 10 | 12 => 31
  | 4 | 6 | 9 | 11 => 30
  | 2 => if isLeap year then 29 else 28
  | _ => 0

/-- Whether year, month and day are those of a date. -/
def IsDate (year month day : Nat) : Prop :=
  1 ≤ year ∧ year ≤ 9999 ∧ 1 ≤ day ∧ day ≤ daysIn year month

instance (year month day : Nat) : Decidable (IsDate year month day) :=
  inferInstanceAs (Decidable (_ ∧ _))

/-- A day of the calendar. -/
structure Date where
  year : Nat
  month : Nat
  day : Nat
  isDate : IsDate year month day
  deriving DecidableEq

namespace Date

/-- The date of a year, a month and a day. -/
def ofParts? (year month day : Nat) : Option Date :=
  if h : IsDate year month day then some ⟨year, month, day, h⟩ else none

/-- Year, month and day of the day that stands `days` days after the first of January 1970, in a calendar without
a first or a last year. The years are counted from the first of March, so that the leap day is the last of its
year, in cycles of 400 years. -/
def partsOfDays (days : Int) : Int × Nat × Nat :=
  let shifted := days + 719468
  let cycle := Int.fdiv shifted 146097
  let dayOfCycle := (Int.fmod shifted 146097).toNat
  let yearOfCycle := (dayOfCycle - dayOfCycle / 1460 + dayOfCycle / 36524 - dayOfCycle / 146096) / 365
  let dayOfYear := dayOfCycle - (365 * yearOfCycle + yearOfCycle / 4 - yearOfCycle / 100)
  let fromMarch := (5 * dayOfYear + 2) / 153
  let day := dayOfYear - (153 * fromMarch + 2) / 5 + 1
  let month := if fromMarch < 10 then fromMarch + 3 else fromMarch - 9
  ((yearOfCycle : Int) + cycle * 400 + (if month ≤ 2 then 1 else 0), month, day)

/-- The date that stands `days` days after the first of January 1970. -/
def ofDays? (days : Int) : Option Date :=
  let (year, month, day) := partsOfDays days
  if year < 0 then none else ofParts? year.toNat month day

/-- The date as year, month and day, with hyphens between them. -/
def render (d : Date) : String :=
  Decimal.padded 4 d.year ++ "-" ++ Decimal.padded 2 d.month ++ "-" ++ Decimal.padded 2 d.day

example : (ofDays? 18292).map render = some "2020-01-31" := by decide +kernel
example : (ofDays? (-1)).map render = some "1969-12-31" := by decide +kernel
example : (ofDays? 2932896).map render = some "9999-12-31" := by decide +kernel

end Date

end ParticipantDirectory.Calendar
