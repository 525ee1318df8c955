import ParticipantDirectory.Text.Blank
import ParticipantDirectory.Text.Digit
import ParticipantDirectory.Text.Printable

/-!
# Words and numerals

What names are made of, and the whole numbers that are written in texts.
-/

namespace ParticipantDirectory.Text

/-- Whether the character can be part of a word: a letter, a digit or an underscore. Beyond ASCII every printable
character that is no blank counts as a letter. -/
def isWord (c : Char) : Bool :=
  if c.toNat < 0x80 then c.isAlphanum || c == '_' else isPrintable c && !isBlank c

/-- Whether decimal digits of any script follow, between which single underscores may stand; `after` says that a
digit was before. -/
def isDigitRow (after : Bool) : List Char → Bool
  | [] => after
  | c :: rest => if c = '_' then after && isDigitRow false rest else isDecimal c && isDigitRow true rest

/-- The blanks that may stand around a numeral; in a text that is ASCII throughout the information separators are
none of them. -/
def isMarginOf (s : List Char) (c : Char) : Bool :=
  isBlank c && !(s.all (·.toNat < 0x80) && 0x1C ≤ c.toNat && c.toNat ≤ 0x1F)

/-- The digits that a numeral can have. -/
def numeralLimit : Nat := 4300

/-- The whole number of a numeral with a sign or without and with blanks around it. -/
def wholeNumber? (s : List Char) : Option Int :=
  let t := stripWhere (isMarginOf s) s
  let (negative, digits) : Bool × List Char :=
    match t with
    | '-' :: r => (true, r)
    | '+' :: r => (false, r)
    | _ => (false, t)
  let plain := digits.filter (· ≠ '_')
  if isDigitRow false digits && plain.length ≤ numeralLimit then
    some (if negative then -(decimalNumber plain : Int) else decimalNumber plain)
  else none

example : wholeNumber? " -1_0 ".toList = some (-10) := by decide +kernel
example : wholeNumber? "1__0".toList = none := by decide +kernel

end ParticipantDirectory.Text
