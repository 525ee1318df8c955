import ParticipantDirectory.Calendar.Date

/-!
# Moments

A date with a time of day, and with an offset from universal time unless that is unknown. A moment is made of
its parts or of the seconds since the beginning of 1970.
-/

namespace ParticipantDirectory.Calendar

/-- A moment to the microsecond. The offset is in minutes. -/
structure Moment where
  year : Nat
  month : Nat
  day : Nat
  hour : Nat
  minute : Nat
  second : Nat
  microsecond : Nat
  offset : Option Int
  deriving DecidableEq, Repr

namespace Moment

/-- An offset as a sign, hours and minutes. -/
def offsetText (minutes : Int) : String :=
  (if minutes < 0 then "-" else "+") ++ Decimal.padded 2 (minutes.natAbs / 60) ++ ":" ++
    Decimal.padded 2 (minutes.natAbs % 60)

/-- The moment as a text: date and time with a `T` between them, six decimals of the second unless it is
whole, and the offset if it is known. -/
def render (m : Moment) : String :=
  Decimal.padded 4 m.year ++ "-" ++ Decimal.padded 2 m.month ++ "-" ++ Decimal.padded 2 m.day ++ "T" ++
    Decimal.padded 2 m.hour ++ ":" ++ Decimal.padded 2 m.minute ++ ":" ++ Decimal.padded 2 m.second ++
    (if m.microsecond = 0 then "" else "." ++ Decimal.padded 6 m.microsecond) ++
    (match m.offset with
      | none => ""
      | some minutes => offsetText minutes)

end Moment

/-- Why there is no moment of given parts or of a number of seconds. -/
inductive MomentFault where
  | year (value : Int)
  | month
  | day
  | hour
  | minute
  | second
  | microsecond
  | offset (minutes : Int)
  | countTooLarge
  | yearTooLarge
  | notNumber
  deriving DecidableEq, Repr

/-- An offset that is not within a day, as days and what is left of one. -/
def MomentFault.offsetText (minutes : Int) : String :=
  let days := Int.fdiv minutes 1440
  let seconds := 60 * (Int.fmod minutes 1440)
  let parts := (if days = 0 then [] else ["days=" ++ Int.repr days]) ++
    (if seconds = 0 then [] else ["seconds=" ++ Int.repr seconds])
  ", ".intercalate parts

/-- The wording of a fault. -/
def MomentFault.message : MomentFault → String
  | year value => "year " ++ Int.repr value ++ " is out of range"
  | month => "month must be in 1..12"
  | day => "day is out of range for month"
  | hour => "hour must be in 0..23"
  | minute => "minute must be in 0..59"
  | second => "second must be in 0..59"
  | microsecond => "microsecond must be in 0..999999"
  | offset minutes =>
    "offset must be a timedelta strictly between -timedelta(hours=24) and timedelta(hours=24), not datetime.timedelta(" ++
      offsetText minutes ++ ")."
  | countTooLarge => "timestamp out of range for platform time_t"
  | yearTooLarge => "[Errno 75] Value too large for defined data type"
  | notNumber => "Invalid value NaN (not a number)"

namespace Moment

/-- A part of a time of day, which has to be less than `limit`. -/
def part (fault : MomentFault) (limit : Nat) (value : Int) : Except MomentFault Nat :=
  if 0 ≤ value ∧ value < limit then .ok value.toNat else .error fault

/-- The moment of its parts. -/
def ofParts (year month day hour minute second microsecond : Int) (offset : Option Int) :
    Except MomentFault Moment := do
  if let some minutes := offset then
    if 1440 ≤ minutes.natAbs then .error (.offset minutes)
  if year < 1 ∨ 9999 < year then .error (.year year)
  if month < 1 ∨ 12 < month then .error .month
  if day < 1 ∨ daysIn year.toNat month.toNat < day then .error .day
  return ⟨year.toNat, month.toNat, day.toNat, ← part .hour 24 hour, ← part .minute 60 minute,
    ← part .second 60 second, ← part .microsecond 1000000 microsecond, offset⟩

/-- The moment that lies a number of seconds and microseconds after the beginning of 1970, in universal time. The
number of seconds has to fit into 64 bits, and the number of years since 1900 into 32. -/
def ofCount (seconds : Int) (micros : Nat) : Except MomentFault Moment :=
  if seconds < -Int.pow 2 63 ∨ Int.pow 2 63 ≤ seconds then .error .countTooLarge
  else
    let (year, month, day) := Date.partsOfDays (Int.fdiv seconds 86400)
    let ofDay := (Int.fmod seconds 86400).toNat
    if year - 1900 < -Int.pow 2 31 ∨ Int.pow 2 31 ≤ year - 1900 then .error .yearTooLarge
    else if year < 1 ∨ 9999 < year then .error (.year (Int.bmod year (Nat.pow 2 32)))
    else .ok ⟨year.toNat, month, day, ofDay / 3600, ofDay / 60 % 60, ofDay % 60, micros, some 0⟩

/-- The nearest whole number, of two the even one. -/
def roundEven (x : Float) : Float :=
  let below := x.floor
  let rest := x - below
  if rest < 0.5 then below
  else if 0.5 < rest then below + 1
  else if (below / 2).floor * 2 == below then below else below + 1

/-- The moment of a number of seconds since the beginning of 1970, to the nearest microsecond. -/
def ofSeconds (x : Float) : Except MomentFault Moment :=
  if x.isNaN then .error .notNumber
  else
    let whole := if x < 0 then x.ceil else x.floor
    let micros := (roundEven ((x - whole) * 1000000)).toInt64.toInt
    let seconds := whole.toInt64.toInt + Int.fdiv micros 1000000
    if whole < -9223372036854775808.0 ∨ 9223372036854775808.0 ≤ whole then .error .countTooLarge
    else ofCount seconds (Int.fmod micros 1000000).toNat

/-- The beginning of 1970. -/
def epoch : Moment := ⟨1970, 1, 1, 0, 0, 0, 0, some 0⟩

example : (ofCount 0 0).toOption = some epoch := by decide +kernel
example : (ofCount 253402300800 0).toOption = none := by decide +kernel

end Moment

end ParticipantDirectory.Calendar
