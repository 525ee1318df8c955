import ParticipantDirectory.Decimal.Digits
import ParticipantDirectory.Decimal.Shortest

/-!
# Rounded decimal text

A number is written with a given number of decimals, or with a given number of significant digits and an
exponent, or in whichever of the two forms suits its size. A half goes to the even neighbour. The text has no
sign.
-/

namespace ParticipantDirectory.Decimal

/-- The nearest whole number, of two the even one. -/
def Ratio.round (r : Ratio) : Nat :=
  let n := r.num / r.den
  let rest := 2 * (r.num % r.den)
  if rest < r.den then n else if r.den < rest then n + 1 else n + n % 2

/-- The ratio times a power of ten. -/
def Ratio.shift (r : Ratio) (places : Int) : Ratio :=
  if 0 ≤ places then ⟨r.num * Nat.pow 10 places.toNat, r.den⟩ else ⟨r.num, r.den * Nat.pow 10 (-places).toNat⟩

/-- The magnitude of a finite number. -/
def Ratio.ofFloat (x : Float) : Ratio :=
  let b := Binary.ofFloat x
  Ratio.scale b.mantissa 2 b.exponent

/-- A whole part and decimals, with a point between them; `point` keeps it where there are no decimals. -/
def pointed (point : Bool) (whole decimals : List Char) : List Char :=
  whole ++ (if decimals.isEmpty && !point then [] else '.' :: decimals)

/-- A number with a given number of decimals. -/
def fixedText (places : Nat) (point : Bool) (r : Ratio) : List Char :=
  let digits := padLeft '0' (places + 1) (Nat.repr (r.shift places).round).toList
  pointed point (digits.take (digits.length - places)) (digits.drop (digits.length - places))

/-- The significant digits of a number, and the exponent of the first. -/
structure Significant where
  digits : List Char
  exponent : Int
  deriving DecidableEq

namespace Significant

/-- A number rounded to `count` digits. -/
def ofRatio (count : Nat) (r : Ratio) : Significant :=
  if r.num = 0 then ⟨List.replicate count '0', 0⟩
  else
    let low := r.leading
    let lead := if (Ratio.scale 1 10 (low + 1)).le r then low + 1 else low
    let n := (r.shift ((count : Int) - 1 - lead)).round
    if Nat.pow 10 count ≤ n then ⟨(Nat.repr (n / 10)).toList, lead + 1⟩ else ⟨(Nat.repr n).toList, lead⟩

/-- An exponent with its mark, its sign and at least two digits. -/
def exponentText (e : Int) : List Char :=
  'e' :: (if e < 0 then '-' else '+') :: padLeft '0' 2 (Nat.repr e.natAbs).toList

/-- The digits with a point after the first, and the exponent. -/
def scientific (point : Bool) (s : Significant) : List Char :=
  pointed point (s.digits.take 1) (s.digits.drop 1) ++ exponentText s.exponent

/-- A row of digits without the zeros at its end. -/
def dropEndZeros (ds : List Char) : List Char :=
  (ds.reverse.dropWhile (· == '0')).reverse

/-- The digits around a point, if their number lets the point stand near them, else with an exponent. Zeros at
the end of the decimals are left out, unless `point` keeps them. -/
def general (point : Bool) (s : Significant) : List Char :=
  let trim := fun ds => if point then ds else dropEndZeros ds
  if s.exponent < -4 ∨ (s.digits.length : Int) ≤ s.exponent then
    pointed point (s.digits.take 1) (trim (s.digits.drop 1)) ++ exponentText s.exponent
  else if s.exponent < 0 then
    pointed point ['0'] (trim (List.replicate (-s.exponent - 1).toNat '0' ++ s.digits))
  else
    pointed point (s.digits.take (s.exponent.toNat + 1)) (trim (s.digits.drop (s.exponent.toNat + 1)))

example : (ofRatio 3 ⟨99951, 10⟩).scientific false = "1.00e+04".toList := by decide +kernel
example : (ofRatio 6 ⟨1, 8⟩).general false = "0.125".toList := by decide +kernel

end Significant

end ParticipantDirectory.Decimal
