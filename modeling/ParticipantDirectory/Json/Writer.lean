import ParticipantDirectory.Decimal.Shortest
import ParticipantDirectory.Json.Basic
import ParticipantDirectory.Text.Hex

/-!
# JSON text

A value is written on one line, with a blank after each comma and colon. Only the quote, the backslash,
the control characters and lone surrogates are escaped, so the text of a value never holds a line break. What is sent
is written without escapes for surrogates, so a value is sent only if all its texts are whole.
-/

namespace ParticipantDirectory.Json

/-- One character inside a JSON string. -/
def escapeChar (c : Char) : List Char :=
  if c = '"' then ['\\', '"']
  else if c = '\\' then ['\\', '\\']
  else if c.toNat < 0x20 then
    if c = '\n' then ['\\', 'n']
    else if c = '\r' then ['\\', 'r']
    else if c = '\t' then ['\\', 't']
    else if c = '\x08' then ['\\', 'b']
    else if c = '\x0c' then ['\\', 'f']
    else '\\' :: 'u' :: Text.Hex.fixed 4 c.toNat
  else [c]

/-- A string between quotes. -/
def writeString (s : List Char) : List Char :=
  '"' :: s.flatMap escapeChar ++ ['"']

/-- One place inside a JSON string. -/
def escapePoint : Text.Point → List Char
  | .char c => escapeChar c
  | .lone s => Text.Broken.escape s

/-- A broken text between quotes. -/
def writeBroken (b : Text.Broken) : List Char :=
  '"' :: b.points.flatMap escapePoint ++ ['"']

/-- A number that is not whole; infinities and the undefined value are written by their names. -/
def writeReal (x : Float) : List Char :=
  (Decimal.floatText "NaN" "Infinity" x).toList

mutual

/-- The text of a value. -/
def write : Json → List Char
  | null => ['n', 'u', 'l', 'l']
  | bool true => ['t', 'r', 'u', 'e']
  | bool false => ['f', 'a', 'l', 's', 'e']
  | int n => (Int.repr n).toList
  | real x => writeReal x
  | str s => writeString s.toList
  | broken b => writeBroken b
  | arr items => '[' :: writeItems items ++ [']']
  | obj members => '{' :: writeMembers members ++ ['}']

/-- The items of a list, separated by commas. -/
def writeItems : List Json → List Char
  | [] => []
  | v :: rest => write v ++ writeMoreItems rest

/-- The items after the first, each after a comma. -/
def writeMoreItems : List Json → List Char
  | [] => []
  | v :: rest => ',' :: ' ' :: write v ++ writeMoreItems rest

/-- The members of an object, separated by commas. -/
def writeMembers : List (String × Json) → List Char
  | [] => []
  | (k, v) :: rest => writeString k.toList ++ ':' :: ' ' :: write v ++ writeMoreMembers rest

/-- The members after the first, each after a comma. -/
def writeMoreMembers : List (String × Json) → List Char
  | [] => []
  | (k, v) :: rest => ',' :: ' ' :: writeString k.toList ++ ':' :: ' ' :: write v ++ writeMoreMembers rest

end

/-- The text of a value as a string. -/
def render (v : Json) : String :=
  String.ofList (write v)

mutual

/-- Whether all texts of a value are whole. -/
def isWhole : Json → Bool
  | broken _ => false
  | arr items => areWhole items
  | obj members => haveWhole members
  | null | bool _ | int _ | real _ | str _ => true

/-- Whether all texts of the items of a list are whole. -/
def areWhole : List Json → Bool
  | [] => true
  | v :: rest => isWhole v && areWhole rest

/-- Whether all texts of the members of an object are whole. -/
def haveWhole : List (String × Json) → Bool
  | [] => true
  | (_, v) :: rest => isWhole v && haveWhole rest

end

/-- The text by which a value is sent; none if a text of the value has no bytes. -/
def sent? (v : Json) : Option String :=
  if v.isWhole then some v.render else none

end ParticipantDirectory.Json
