/-!
# Hexadecimal text

Digits of either case are read; lower-case digits are written. `encode` and `decode` turn bytes into
pairs of digits and back; `decode` lets white space stand before, between and after the pairs, but
not inside one.
-/

namespace ParticipantDirectory.Text.Hex

/-- The value of a hexadecimal digit of either case. -/
def digitValue? (c : Char) : Option Nat :=
  if '0' ≤ c ∧ c ≤ '9' then some (c.toNat - '0'.toNat)
  else if 'a' ≤ c ∧ c ≤ 'f' then some (c.toNat - 'a'.toNat + 10)
  else if 'A' ≤ c ∧ c ≤ 'F' then some (c.toNat - 'A'.toNat + 10)
  else none

/-- The lower-case digit of a value below sixteen. -/
def digit (n : Nat) : Char :=
  if n < 10 then Char.ofNat ('0'.toNat + n) else Char.ofNat ('a'.toNat + (n - 10))

/-- The lower-case digits of `n`, padded on the left with zeros to `width`; higher digits are dropped. -/
def fixed : Nat → Nat → List Char
  | 0, _ => []
  | width + 1, n => fixed width (n / 16) ++ [digit (n % 16)]

/-- The two digits of a byte. -/
def encodeByte (b : UInt8) : List Char :=
  [digit (b.toNat / 16), digit (b.toNat % 16)]

/-- The digits of a sequence of bytes. -/
def encode (bs : List UInt8) : List Char :=
  bs.flatMap encodeByte

/-- The ASCII white space that may separate pairs of digits. -/
def isGap (c : Char) : Bool :=
  c == ' ' || (0x09 ≤ c.toNat && c.toNat ≤ 0x0D)

/-- The bytes of a text of digit pairs; `none` for an odd digit, a gap inside a pair or any other character. -/
def decode : List Char → Option (List UInt8)
  | [] => some []
  | [c] => if isGap c then some [] else none
  | c :: d :: rest =>
    if isGap c then decode (d :: rest)
    else
      match digitValue? c, digitValue? d with
      | some h, some l => (decode rest).map (UInt8.ofNat (16 * h + l) :: ·)
      | _, _ => none

example : encode [0, 255, 26] = "00ff1a".toList := by decide
example : decode " 0A\tfF ".toList = some [10, 255] := by decide
example : decode "0 a".toList = none := by decide

end ParticipantDirectory.Text.Hex
