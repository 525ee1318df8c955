/-!
# Base 64 text, leniently read

Characters outside the alphabet are passed over. A quantum of four digits gives three bytes; a quantum
that ends in padding ends the text, and what follows it is ignored. A text that ends inside a quantum
is refused.
-/

namespace ParticipantDirectory.Text.Base64

/-- The value of a digit of the alphabet. -/
def digitValue? (c : Char) : Option Nat :=
  if 'A' ≤ c ∧ c ≤ 'Z' then some (c.toNat - 'A'.toNat)
  else if 'a' ≤ c ∧ c ≤ 'z' then some (c.toNat - 'a'.toNat + 26)
  else if '0' ≤ c ∧ c ≤ '9' then some (c.toNat - '0'.toNat + 52)
  else if c = '+' then some 62
  else if c = '/' then some 63
  else none

/-- What the reader holds between two characters: the digits of the open quantum, last first, and the
number of padding characters that stand at its end. -/
structure Quantum where
  digits : List Nat
  pads : Nat

/-- The bytes of a quantum whose digits are given last first; a shorter quantum gives fewer bytes. -/
def Quantum.bytes : List Nat → List UInt8
  | [d, c, b, a] =>
    [UInt8.ofNat (a * 4 + b / 16), UInt8.ofNat (b % 16 * 16 + c / 4), UInt8.ofNat (c % 4 * 64 + d)]
  | [c, b, a] => [UInt8.ofNat (a * 4 + b / 16), UInt8.ofNat (b % 16 * 16 + c / 4)]
  | [b, a] => [UInt8.ofNat (a * 4 + b / 16)]
  | _ => []

/-- The bytes of the characters that follow the open quantum `q`. Padding counts only after two digits,
and the quantum is complete once digits and padding are four; a digit after padding takes the
padding back. -/
def decodeFrom (q : Quantum) : List Char → Option (List UInt8)
  | [] => if q.digits.isEmpty then some [] else none
  | c :: rest =>
    if c = '=' then
      if 2 ≤ q.digits.length then
        if 4 ≤ q.digits.length + q.pads + 1 then some (Quantum.bytes q.digits)
        else decodeFrom ⟨q.digits, q.pads + 1⟩ rest
      else decodeFrom q rest
    else
      match digitValue? c with
      | none => decodeFrom q rest
      | some d =>
        if q.digits.length = 3 then (decodeFrom ⟨[], 0⟩ rest).map (Quantum.bytes (d :: q.digits) ++ ·)
        else decodeFrom ⟨d :: q.digits, 0⟩ rest

/-- The bytes of a base 64 text; `none` if it ends inside a quantum. -/
def decode (s : List Char) : Option (List UInt8) :=
  decodeFrom ⟨[], 0⟩ s

/-- The digit of a value below sixty-four. -/
def digit (n : Nat) : Char :=
  if n < 26 then Char.ofNat ('A'.toNat + n)
  else if n < 52 then Char.ofNat ('a'.toNat + (n - 26))
  else if n < 62 then Char.ofNat ('0'.toNat + (n - 52))
  else if n = 62 then '+' else '/'

/-- The base 64 text of a sequence of bytes, with padding. -/
def encode : List UInt8 → List Char
  | [] => []
  | [a] => [digit (a.toNat / 4), digit (a.toNat % 4 * 16), '=', '=']
  | [a, b] => [digit (a.toNat / 4), digit (a.toNat % 4 * 16 + b.toNat / 16), digit (b.toNat % 16 * 4), '=']
  | a :: b :: c :: rest =>
    digit (a.toNat / 4) :: digit (a.toNat % 4 * 16 + b.toNat / 16) ::
      digit (b.toNat % 16 * 4 + c.toNat / 64) :: digit (c.toNat % 64) :: encode rest

example : decode "Zm9v!YmE=x".toList = some [102, 111, 111, 98, 97] := by decide
example : decode (encode [0, 255, 16, 7]) = some [0, 255, 16, 7] := by decide
example : decode "Zm9".toList = none := by decide

end ParticipantDirectory.Text.Base64
