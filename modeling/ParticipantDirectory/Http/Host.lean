import ParticipantDirectory.Decimal.Digits
import ParticipantDirectory.Text.Hex

/-!
# Hosts of addresses

The authority of an address without user information: a name, or a numeric address in brackets, and a port
that may be left out. Names are made of the characters that an address leaves to them, bytes may be escaped,
and a numeric address has the six or more groups of version 6 or the open form of later versions.
-/

namespace ParticipantDirectory.Http.Host

/-- The ASCII characters that stand for themselves in every part of an address. -/
def isUnreserved (c : Char) : Bool :=
  c.isAlphanum || c == '-' || c == '.' || c == '_' || c == '~'

/-- The ASCII characters that may separate what a part of an address is made of. -/
def isDelimiter (c : Char) : Bool :=
  ['!', '$', '&', '\'', '(', ')', '*', '+', ',', ';', '='].contains c

/-- Whether a text can be a name or its end. -/
def isName : List Char → Bool
  | [] => true
  | '%' :: a :: b :: rest => (Text.Hex.digitValue? a).isSome && (Text.Hex.digitValue? b).isSome && isName rest
  | c :: rest => (isUnreserved c || isDelimiter c) && isName rest

/-- The parts of a text between the occurrences of a character. -/
def split (mark : Char) : List Char → List (List Char)
  | [] => [[]]
  | c :: rest =>
    if c = mark then [] :: split mark rest
    else
      match split mark rest with
      | part :: parts => (c :: part) :: parts
      | [] => [[c]]

/-- A number from 0 to 255 without zeros in front. -/
def isOctet (s : List Char) : Bool :=
  !s.isEmpty && s.length ≤ 3 && s.all Char.isDigit && (s.length = 1 || s.head? ≠ some '0') &&
    Decimal.ofDigits s ≤ 255

/-- Four octets between points. -/
def isVersion4 (s : List Char) : Bool :=
  let octets := split '.' s
  octets.length = 4 && octets.all isOctet

/-- A group of one to four hexadecimal digits. -/
def isGroup (s : List Char) : Bool :=
  !s.isEmpty && s.length ≤ 4 && s.all fun c => (Text.Hex.digitValue? c).isSome

/-- The number of groups of 16 bits that parts between colons stand for, the last of which may be an address of
version 4; none if one of them is no group. -/
def groupCount? : List (List Char) → Option Nat
  | [] => some 0
  | [last] => if isGroup last then some 1 else if isVersion4 last then some 2 else none
  | part :: parts => if isGroup part then (groupCount? parts).map (· + 1) else none

/-- The text before the first and the text after the first double colon. -/
def aroundGap? : List Char → Option (List Char × List Char)
  | ':' :: ':' :: rest => some ([], rest)
  | c :: rest => (aroundGap? rest).map fun p => (c :: p.1, p.2)
  | [] => none

/-- The number of groups of a text on one side of a gap, which may be empty. -/
def sideCount? (s : List Char) : Option Nat :=
  if s.isEmpty then some 0 else groupCount? (split ':' s)

/-- Eight groups between colons; one double colon may stand for the zeros of one group or more. -/
def isVersion6 (s : List Char) : Bool :=
  match aroundGap? s with
  | none => groupCount? (split ':' s) = some 8
  | some (before, after) =>
    let plain := before.all (· ≠ '.')
    match sideCount? before, sideCount? after with
    | some m, some n => plain && m + n ≤ 7
    | _, _ => false

/-- An address of a later version: its number after a letter, a point and the address. -/
def isLaterVersion : List Char → Bool
  | 'v' :: rest =>
    let number := rest.takeWhile (· ≠ '.')
    let body := (rest.dropWhile (· ≠ '.')).drop 1
    !number.isEmpty && number.all (fun c => (Text.Hex.digitValue? c).isSome) && !body.isEmpty &&
      body.all fun c => isUnreserved c || isDelimiter c || c == ':'
  | _ => false

/-- What may follow the host: nothing, or a colon and a number that fits into 16 bits. -/
def isPort : List Char → Bool
  | [] => true
  | ':' :: digits => !digits.isEmpty && digits.all Char.isDigit && Decimal.ofDigits digits ≤ 65535
  | _ => false

/-- Whether a text is a host with or without a port. -/
def isValid (s : String) : Bool :=
  match s.toList with
  | '[' :: rest =>
    let inner := rest.takeWhile (· ≠ ']')
    let outer := rest.dropWhile (· ≠ ']')
    !outer.isEmpty && (isVersion6 inner || isLaterVersion inner) && isPort (outer.drop 1)
  | s =>
    let name := s.takeWhile (· ≠ ':')
    !name.isEmpty && isName name && isPort (s.dropWhile (· ≠ ':'))

example : ["[::1]:80", "x:00080", "[::ffff:1.2.3.4]", "[v1.a:b]", "%41", "a,b;c=d"].all isValid = true := by
  decide +kernel
example : ["", "a b", "x:", "[zz]", "x:65536", "::1", "[::1", "[::1]x", "[1::2::3]", "%4"].any isValid = false := by
  decide +kernel

end ParticipantDirectory.Http.Host
