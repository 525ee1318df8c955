import ParticipantDirectory.Decimal.Digits
import ParticipantDirectory.Decimal.Shortest
import ParticipantDirectory.Json.Basic
import ParticipantDirectory.Text.Encoding
import ParticipantDirectory.Text.Hex

/-!
# Tokens of JSON text

`tokens` cuts a text into marks, strings and plain values, each with the offset of its first character.
A place where no token can be read becomes a last token of its own, which carries the offset to report
if a token is wanted there, and so does a whole number with more digits than are read.
-/

namespace ParticipantDirectory.Json

/-- A token of a JSON text. -/
inductive Token where
  | openList
  | closeList
  | openObject
  | closeObject
  | comma
  | colon
  | text (t : Text.Loose)
  | plain (v : Json)
  | broken (offset : Nat)
  | longNumber

/-- A token with the offset of its first character. -/
structure Placed where
  token : Token
  start : Nat

/-- The white space between tokens. -/
def isSpace (c : Char) : Bool :=
  c == ' ' || c == '\t' || c == '\n' || c == '\r'

/-- The character that a one-letter escape stands for. -/
def shortEscape? : Char → Option Char
  | '"' => some '"'
  | '\\' => some '\\'
  | '/' => some '/'
  | 'b' => some '\x08'
  | 'f' => some '\x0c'
  | 'n' => some '\n'
  | 'r' => some '\r'
  | 't' => some '\t'
  | _ => none

/-- A string read up to its closing quote, or the offset to report. -/
inductive StringScan where
  | closed (units : List Nat) (rest : List Char) (next : Nat)
  | failed (offset : Nat)
  deriving DecidableEq

/-- One code unit put before what was read. -/
def StringScan.cons (u : Nat) : StringScan → StringScan
  | closed units rest next => closed (u :: units) rest next
  | failed offset => failed offset

/-- What the reader of a string is in the middle of: nothing, an escape whose backslash has the given offset, a
code escape with the offset of its letter and the number and the value of its digits so far, or the
moment after one. -/
inductive StringState where
  | plain
  | escape (backslash : Nat)
  | code (letter digits value : Nat)
  | coded (letter : Nat)

/-- The offset to report if the text ends inside a string that began at `start`. -/
def StringState.atEnd (start : Nat) : StringState → Nat
  | plain => start
  | escape _ => start
  | code letter _ _ => letter
  | coded letter => letter

/-- Reads a string after its opening quote, which stands at `start`; `pos` is the offset of the next
character. An open end is reported at the quote, a control character at its place, a bad escape at
its backslash, and a bad code escape at its letter. -/
def scanString (start : Nat) : StringState → List Char → Nat → StringScan
  | state, [], _ => .failed (state.atEnd start)
  | .escape backslash, c :: rest, pos =>
    if c = 'u' then scanString start (.code pos 0 0) rest (pos + 1)
    else
      match shortEscape? c with
      | some d => (scanString start .plain rest (pos + 1)).cons d.toNat
      | none => .failed backslash
  | .code letter digits value, c :: rest, pos =>
    match Text.Hex.digitValue? c with
    | none => .failed letter
    | some d =>
      if digits = 3 then (scanString start (.coded letter) rest (pos + 1)).cons (16 * value + d)
      else scanString start (.code letter (digits + 1) (16 * value + d)) rest (pos + 1)
  | _, c :: rest, pos =>
    if c = '"' then .closed [] rest (pos + 1)
    else if c = '\\' then scanString start (.escape pos) rest (pos + 1)
    else if c.toNat < 0x20 then .failed pos
    else (scanString start .plain rest (pos + 1)).cons c.toNat

/-- The decimal digits at the front of a text and what follows them. -/
def takeDigits (s : List Char) : List Char × List Char :=
  (s.takeWhile Char.isDigit, s.dropWhile Char.isDigit)

/-- A fraction, if a point and at least one digit are next. -/
def takeFraction (s : List Char) : List Char × List Char :=
  match s with
  | '.' :: rest =>
    match takeDigits rest with
    | ([], _) => ([], s)
    | (ds, rest) => (ds, rest)
  | _ => ([], s)

/-- An exponent, if its mark and at least one digit are next. -/
def takeExponent (s : List Char) : Option Int × List Char :=
  match s with
  | c :: rest =>
    if c = 'e' ∨ c = 'E' then
      let (negative, body) : Bool × List Char :=
        match rest with
        | '-' :: r => (true, r)
        | '+' :: r => (false, r)
        | _ => (false, rest)
      match takeDigits body with
      | ([], _) => (none, s)
      | (ds, rest) => (some (if negative then -(Decimal.ofDigits ds : Int) else Decimal.ofDigits ds), rest)
    else (none, s)
  | [] => (none, s)

/-- The digits of a whole number: a zero alone, or a run that does not begin with one. -/
def takeWhole (s : List Char) : List Char × List Char :=
  match s with
  | '0' :: rest => (['0'], rest)
  | _ => takeDigits s

/-- The greatest number of digits of a whole number. -/
def digitLimit : Nat := 4300

/-- A number at the front of a text. -/
def takeNumber? (s : List Char) : Option (Token × List Char) :=
  let (negative, body) : Bool × List Char :=
    match s with
    | '-' :: r => (true, r)
    | _ => (false, s)
  match takeWhole body with
  | ([], _) => none
  | (whole, rest) =>
    let (fraction, rest) := takeFraction rest
    let (exponent, rest) := takeExponent rest
    if !(fraction.isEmpty && exponent.isNone) then
      let places := exponent.getD 0 - fraction.length
      some (.plain (.real (Decimal.toFloat negative (Decimal.ofDigits (whole ++ fraction)) places)), rest)
    else if digitLimit < whole.length then some (.longNumber, rest)
    else some (.plain (.int (if negative then -(Decimal.ofDigits whole : Int) else Decimal.ofDigits whole)), rest)

/-- The values that are written by a name. -/
def names : List (String × Json) :=
  [("null", .null), ("true", .bool true), ("false", .bool false), ("NaN", .real (0.0 / 0.0)),
    ("Infinity", .real (1.0 / 0.0)), ("-Infinity", .real (-1.0 / 0.0))]

/-- A value written by a name at the front of a text. -/
def takeName? (s : List Char) : Option (Json × List Char) :=
  (names.find? fun n => n.1.toList.isPrefixOf s).map fun n => (n.2, s.drop n.1.length)

/-- A plain value at the front of a text. -/
def takePlain? (s : List Char) : Option (Token × List Char) :=
  match takeName? s with
  | some (v, rest) => some (.plain v, rest)
  | none => takeNumber? s

/-- The marks. -/
def mark? : Char → Option Token
  | '[' => some .openList
  | ']' => some .closeList
  | '{' => some .openObject
  | '}' => some .closeObject
  | ',' => some .comma
  | ':' => some .colon
  | _ => none

/-- The tokens of a text whose first character has the offset `pos`. Each step takes a character at least, so a
`fuel` of the length of the text is enough. -/
def tokensFrom : Nat → List Char → Nat → List Placed
  | 0, _, _ => []
  | _ + 1, [], _ => []
  | fuel + 1, c :: rest, pos =>
    if isSpace c then tokensFrom fuel rest (pos + 1)
    else
      match mark? c with
      | some t => ⟨t, pos⟩ :: tokensFrom fuel rest (pos + 1)
      | none =>
        if c = '"' then
          match scanString pos .plain rest (pos + 1) with
          | .closed units more next => ⟨.text (.ofPoints (Text.Encoding.ofUnits units)), pos⟩ :: tokensFrom fuel more next
          | .failed offset => [⟨.broken offset, pos⟩]
        else
          match takePlain? (c :: rest) with
          | some (t, more) => ⟨t, pos⟩ :: tokensFrom fuel more (pos + ((c :: rest).length - more.length))
          | none => [⟨.broken pos, pos⟩]

/-- The tokens of a text. -/
def tokens (s : List Char) : List Placed :=
  tokensFrom s.length s 0

end ParticipantDirectory.Json
