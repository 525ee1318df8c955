import ParticipantDirectory.Text.Blank
import ParticipantDirectory.Text.Digit
import ParticipantDirectory.Text.Hex
import ParticipantDirectory.Text.Quoted

/-!
# Universally unique ids as text

An id of 128 bits is written in lower case as 32 digits in five groups. When one is read, its case, its
hyphens, braces around it and the marks of a resource name do not count, and the 32 characters left are read as a
numeral: decimal digits may be those of any script, and blanks around them are let pass.
-/

namespace ParticipantDirectory.Text.Uuid

/-- The text without the occurrences of a non-empty word, found from left to right; `fuel` is at least the
length of the text. -/
def removeAll (word : List Char) : Nat → List Char → List Char
  | 0, s => s
  | fuel + 1, s =>
    if word.isPrefixOf s then removeAll word fuel (s.drop word.length)
    else
      match s with
      | [] => []
      | c :: rest => c :: removeAll word fuel rest

/-- The text without the occurrences of a word. -/
def without (word : String) (s : List Char) : List Char :=
  removeAll word.toList s.length s

/-- The digits of an id. -/
def digitsOf (s : List Char) : List Char :=
  (stripWhere (fun c => c == '\x7b' || c == '\x7d') (without "uuid:" (without "urn:" s))).filter (· ≠ '-')

/-- The value of hexadecimal digits between which single underscores may stand; the last character before
them was one of them if `after` holds. -/
def groupedValue? (n : Nat) (after : Bool) : List Char → Option Nat
  | [] => if after then some n else none
  | c :: rest =>
    if c = '_' then
      if after then groupedValue? n false rest else none
    else
      match Hex.digitValue? c with
      | some d => groupedValue? (16 * n + d) true rest
      | none => none

/-- A numeral in ASCII: blanks of other scripts are spaces, and decimal digits those of ASCII. A text that is ASCII
throughout is left alone. -/
def toAsciiNumeral (s : List Char) : List Char :=
  if s.all (·.toNat < 0x80) then s
  else s.map fun c =>
    if isBlank c then ' '
    else
      match decimalValue? c with
      | some d => Hex.digit d
      | none => c

/-- The value of a hexadecimal numeral with blanks around it, a plus sign and a base mark. -/
def valueOf? (s : List Char) : Option Nat :=
  let s := match stripWhere Hex.isGap (toAsciiNumeral s) with
    | '+' :: r => r
    | r => r
  match s with
  | '0' :: 'x' :: '_' :: r | '0' :: 'X' :: '_' :: r => groupedValue? 0 false r
  | '0' :: 'x' :: r | '0' :: 'X' :: r => groupedValue? 0 false r
  | _ => groupedValue? 0 false s

/-- The number of characters of a refused numeral that are shown. -/
def shownLength : Nat := 200

/-- The 32 digits of a value in five groups. -/
def render (n : Nat) : String :=
  let ds := Hex.fixed 32 n
  String.ofList (ds.take 8 ++ '-' :: (ds.drop 8).take 4 ++ '-' :: (ds.drop 12).take 4 ++ '-' :: (ds.drop 16).take 4 ++
    '-' :: ds.drop 20)

/-- The id of a text in its written form, or the reason why the text is none. -/
def canonical (s : String) : Except String String :=
  let ds := digitsOf s.toList
  if ds.length ≠ 32 then .error "badly formed hexadecimal UUID string"
  else
    match valueOf? ds with
    | some n => .ok (render n)
    | none =>
      .error ("invalid literal for int() with base 16: " ++
        String.ofList ((quoted (String.ofList ds)).toList.take shownLength))

example : (canonical "\x7b00000000-0000-0000-0000-0000000000AB\x7d").toOption =
    some "00000000-0000-0000-0000-0000000000ab" := by decide +kernel

end ParticipantDirectory.Text.Uuid
