import ParticipantDirectory.Calendar.Date

/-!
# Reading dates

A date is read from a text `YYYY-MM-DD`, from a text with a time of day that must be midnight, or from a
number of seconds or milliseconds since the beginning of 1970, written as a number or as a text. A text
is scanned from left to right, and the first thing wrong with it is reported.
-/

namespace ParticipantDirectory.Calendar

/-- What can be wrong with a text or a number that should be a date with or without a time. -/
inductive DateFault where
  | tooShort
  | yearChar
  | monthChar
  | dayChar
  | dateSeparator
  | monthRange
  | dayRange
  | timeMark
  | timeSeparator
  | hourChar
  | minuteChar
  | secondChar
  | hourRange
  | minuteRange
  | secondRange
  | fractionMissing
  | zoneSign
  | zoneHour
  | zoneMinute
  | zoneMinuteRange
  | zoneRange
  | trailing
  | beforeEpochRange
  | afterEpochRange
  | clockRange
  | notNumber
  deriving DecidableEq, Repr

/-- The wording of a fault. -/
def DateFault.message : DateFault → String
  | tooShort => "input is too short"
  | yearChar => "invalid character in year"
  | monthChar => "invalid character in month"
  | dayChar => "invalid character in day"
  | dateSeparator => "invalid date separator, expected \x60-\x60"
  | monthRange => "month value is outside expected range of 1-12"
  | dayRange => "day value is outside expected range"
  | timeMark => "invalid datetime separator, expected \x60T\x60, \x60t\x60, \x60_\x60 or space"
  | timeSeparator => "invalid time separator, expected \x60:\x60"
  | hourChar => "invalid character in hour"
  | minuteChar => "invalid character in minute"
  | secondChar => "invalid character in second"
  | hourRange => "hour value is outside expected range of 0-23"
  | minuteRange => "minute value is outside expected range of 0-59"
  | secondRange => "second value is outside expected range of 0-59"
  | fractionMissing => "second fraction digits missing after \x60.\x60"
  | zoneSign => "invalid timezone sign"
  | zoneHour => "invalid timezone hour"
  | zoneMinute => "invalid timezone minute"
  | zoneMinuteRange => "timezone minute value is outside expected range of 0-59"
  | zoneRange => "timezone offset must be less than 24 hours"
  | trailing => "unexpected extra characters at the end of the input"
  | beforeEpochRange => "dates before 0000 are not supported as unix timestamps"
  | afterEpochRange => "dates after 9999 are not supported as unix timestamps"
  | clockRange => "numeric times may not exceed 86,399 seconds"
  | notNumber => "NaN values not permitted"

/-- Why a text or a number is not a date. -/
inductive DateProblem where
  | unreadable (fault : DateFault)
  | yearZero
  | inexact
  deriving DecidableEq, Repr

/-- The value of a decimal digit; anything else is the given fault. -/
def digitOr (fault : DateFault) (c : Char) : Except DateFault Nat :=
  if c.isDigit then .ok (c.toNat - '0'.toNat) else .error fault

/-- The value of two digits at the front of a text and the text after them. -/
def takeTwo (fault : DateFault) : List Char → Except DateFault (Nat × List Char)
  | a :: b :: rest => do
    let x ← digitOr fault a
    let y ← digitOr fault b
    return (10 * x + y, rest)
  | [a] => do
    let _ ← digitOr fault a
    .error fault
  | [] => .error fault

/-- The text after the given character; anything else is the given fault. -/
def takeMark (fault : DateFault) (mark : Char) : List Char → Except DateFault (List Char)
  | c :: rest => if c = mark then .ok rest else .error fault
  | [] => .error fault

/-- Year, month and day at the front of a text of at least ten characters, and the text after them. The
year may be zero. -/
def takeDay (s : List Char) : Except DateFault ((Nat × Nat × Nat) × List Char) := do
  if s.length < 10 then .error .tooShort
  let (century, s) ← takeTwo .yearChar s
  let (year, s) ← takeTwo .yearChar s
  let s ← takeMark .dateSeparator '-' s
  let (month, s) ← takeTwo .monthChar s
  let s ← takeMark .dateSeparator '-' s
  let (day, s) ← takeTwo .dayChar s
  let year := 100 * century + year
  if daysIn year month = 0 then .error .monthRange
  if day = 0 ∨ daysIn year month < day then .error .dayRange
  return ((year, month, day), s)

/-- Seconds and their fraction, if a colon is next; the first component says whether they are zero. -/
def takeSeconds : List Char → Except DateFault (Bool × List Char)
  | ':' :: s => do
    let (second, s) ← takeTwo .secondChar s
    if 59 < second then .error .secondRange
    match s with
    | c :: rest =>
      if c = '.' ∨ c = ',' then
        let digits := rest.takeWhile Char.isDigit
        if digits.isEmpty then .error .fractionMissing
        return (second = 0 && (digits.take 6).all (· == '0'), rest.dropWhile Char.isDigit)
      else return (second = 0, s)
    | [] => return (second = 0, s)
  | s => .ok (true, s)

/-- The hours and minutes of an offset from universal time. -/
def takeZoneOffset (s : List Char) : Except DateFault (List Char) := do
  let (hour, s) ← takeTwo .zoneHour s
  let s := match s with
    | ':' :: r => r
    | _ => s
  let (minute, s) ← takeTwo .zoneMinute s
  if 60 ≤ minute then .error .zoneMinuteRange
  if 24 ≤ hour then .error .zoneRange
  return s

/-- An offset from universal time, if there is one. The minus sign U+2212 may stand for the hyphen; it is
met here as its three bytes. -/
def takeZone : List Char → Except DateFault (List Char)
  | [] => .ok []
  | c :: s =>
    if c = 'Z' ∨ c = 'z' then .ok s
    else if c = '+' ∨ c = '-' then takeZoneOffset s
    else if c.toNat = 0xE2 then
      match s with
      | d :: e :: s => if d.toNat = 0x88 ∧ e.toNat = 0x92 then takeZoneOffset s else .error .zoneSign
      | _ => .error .zoneSign
    else .error .zoneSign

/-- A time of day up to the end of the text; the answer says whether it is midnight. -/
def readTime (s : List Char) : Except DateFault Bool := do
  if s.length < 5 then .error .tooShort
  let (hour, s) ← takeTwo .hourChar s
  let s ← takeMark .timeSeparator ':' s
  let (minute, s) ← takeTwo .minuteChar s
  if 23 < hour then .error .hourRange
  if 59 < minute then .error .minuteRange
  let (still, s) ← takeSeconds s
  let s ← takeZone s
  if !s.isEmpty then .error .trailing
  return hour = 0 && minute = 0 && still

/-- Whether the character may stand between a date and a time. -/
def isTimeMark (c : Char) : Bool :=
  c == 'T' || c == 't' || c == '_' || c == ' '

/-- Year, month and day of a text, and whether its time of day is midnight. -/
def readDayAndTime (s : List Char) : Except DateFault ((Nat × Nat × Nat) × Bool) := do
  let (day, s) ← takeDay s
  match s with
  | [] => return (day, true)
  | c :: s =>
    if !isTimeMark c then .error .timeMark
    return (day, ← readTime s)

namespace Date

/-- The greatest number that is taken as seconds; a greater one is taken as milliseconds. -/
def secondsLimit : Nat := 20000000000

/-- The whole seconds of a count and the microseconds beyond them. -/
def splitCount (count : Int) : Int × Nat :=
  if count.natAbs ≤ secondsLimit then (count, 0)
  else (Int.fdiv count 1000, (Int.fmod count 1000).toNat * 1000)

/-- The number of days from the beginning of year 0 to the beginning of 1970. -/
def daysBeforeEpoch : Nat := 719528

/-- The number of days from the beginning of 1970 to the end of year 9999. -/
def daysAfterEpoch : Nat := 2932897

/-- The date that begins a number of seconds and microseconds after the beginning of 1970. Year 0 is within
the range of moments, though no date has it. -/
def ofSeconds (seconds : Int) (micros : Nat) : Except DateProblem Date :=
  let seconds := seconds + (micros / 1000000 : Nat)
  if seconds < -(86400 * daysBeforeEpoch : Nat) then .error (.unreadable .beforeEpochRange)
  else if (86400 * daysAfterEpoch : Nat) ≤ seconds then .error (.unreadable .afterEpochRange)
  else if Int.fmod seconds 86400 ≠ 0 ∨ micros % 1000000 ≠ 0 then .error .inexact
  else
    match ofDays? (Int.fdiv seconds 86400) with
    | some d => .ok d
    | none => .error .yearZero

/-- The date of a moment counted from the beginning of 1970 in seconds, or in milliseconds, and in further
microseconds, of which a word of 32 bits has to hold all. -/
def ofMoment (count : Int) (micros : Nat) : Except DateProblem Date :=
  let (seconds, extra) := splitCount count
  if count = -Int.pow 2 63 then .error (.unreadable .beforeEpochRange)
  else if Nat.pow 2 32 ≤ micros + extra then .error (.unreadable .clockRange)
  else ofSeconds seconds (micros + extra)

/-- The date of a moment given by a whole number, which counts as the nearest of those that 64 bits hold; there
is none for a number beyond all floating-point numbers. -/
def ofWhole? (n : Int) : Option (Except DateProblem Date) :=
  if n.natAbs < Nat.pow 2 1024 - Nat.pow 2 970 then
    some (ofMoment (max (-Int.pow 2 63) (min n (Int.pow 2 63 - 1))) 0)
  else none

/-- The whole part of a number, rounded down and held within 64 bits, and what is beyond it in millionths. -/
def splitReal (x : Float) : Int × Nat :=
  let whole := x.floor.toInt64
  (whole.toInt, ((x - x.floor) * 1000000).round.toUInt32.toNat)

/-- The date of a moment given by a number that need not be whole. -/
def ofReal (x : Float) : Except DateProblem Date :=
  if x.isNaN then .error (.unreadable .notNumber)
  else
    let (count, micros) := splitReal x
    ofMoment count micros

/-- The date of a moment given by a text with a decimal point or with more digits than 64 bits hold. What is
beyond the limit of seconds is divided by a thousand first, and its whole part is a count again. -/
def ofDecimal (x : Float) : Except DateProblem Date :=
  let x := if x.abs > secondsLimit.toFloat then x / 1000 else x
  let whole := x.floor.toInt64
  ofMoment whole.toInt ((x - whole.toFloat) * 1000000).round.toUInt32.toNat

/-- The date of a number with a sign or without and with a fraction or without, in digits alone. -/
def momentOf? (s : List Char) : Option (Except DateProblem Date) :=
  let (negative, body) : Bool × List Char :=
    match s with
    | '-' :: r => (true, r)
    | '+' :: r => (false, r)
    | _ => (false, s)
  let digits := body.takeWhile Char.isDigit
  let places := (body.dropWhile Char.isDigit).drop 1
  let isNumber := !(digits.isEmpty && places.isEmpty) && places.all Char.isDigit
    && ((body.dropWhile Char.isDigit).head?.all (· == '.'))
  if !isNumber then none
  else
    let n := Decimal.ofDigits digits
    if digits.length = body.length && n < Nat.pow 2 63 then
      some (ofMoment (if negative then -(n : Int) else n) 0)
    else
      let x := Float.ofScientific (Decimal.ofDigits (digits ++ places)) true places.length
      some (ofDecimal (if negative then -x else x))

/-- The date of a text: a date, a date at midnight, or a moment written as a number. The characters are
the bytes of the text. -/
def ofText (s : List Char) : Except DateProblem Date :=
  match readDayAndTime s with
  | .ok ((year, month, day), midnight) =>
    if !midnight then .error .inexact
    else
      match ofParts? year month day with
      | some d => .ok d
      | none => .error .yearZero
  | .error fault => (momentOf? s).getD (.error (.unreadable fault))

/-- The date of a string. -/
def ofString (s : String) : Except DateProblem Date :=
  ofText (s.toUTF8.data.toList.map fun b => Char.ofNat b.toNat)

end Date

end ParticipantDirectory.Calendar
