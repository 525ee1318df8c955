/-!
# Shortest decimal text of a binary fraction

A finite binary64 value is `m · 2^q`. Of all decimals that are read back as that value, the ones with
the fewest digits are sought, and of those the nearest. For each number of digits it is enough to look
at the value's two neighbours on the decimal grid of that size, in exact arithmetic.

`Shortest.ofFloat` finds the digits and `Shortest.text` writes them: positionally while the decimal
point stands within sixteen digits, else with an exponent of at least two digits.
-/

namespace ParticipantDirectory.Decimal

/-- A finite binary64 value without its sign, `mantissa · 2^exponent`. `tight` says that the gap below
the value is half the gap above it. -/
structure Binary where
  mantissa : Nat
  exponent : Int
  tight : Bool

/-- The parts of a finite binary64 value. -/
def Binary.ofFloat (x : Float) : Binary :=
  let bits : Nat := x.toBits.toNat
  let fraction : Nat := bits % Nat.pow 2 52
  let field : Nat := bits / Nat.pow 2 52 % Nat.pow 2 11
  if field = 0 then ⟨fraction, -1074, false⟩
  else ⟨Nat.pow 2 52 + fraction, (field : Int) - 1075, fraction = 0 ∧ 1 < field⟩

/-- A decimal `digits · 10^exponent`. -/
structure Shortest where
  digits : Nat
  exponent : Int

/-- A positive rational number. -/
structure Ratio where
  num : Nat
  den : Nat

/-- `n · b^e` over one denominator. -/
def Ratio.scale (n b : Nat) (e : Int) : Ratio :=
  if 0 ≤ e then ⟨n * Nat.pow b e.toNat, 1⟩ else ⟨n, Nat.pow b (-e).toNat⟩

/-- Comparison by cross multiplication. -/
def Ratio.le (a b : Ratio) : Bool :=
  a.num * b.den ≤ b.num * a.den

/-- Strict comparison by cross multiplication. -/
def Ratio.lt (a b : Ratio) : Bool :=
  a.num * b.den < b.num * a.den

/-- The exponent of the leading decimal digit. -/
def Ratio.leading (r : Ratio) : Int :=
  if r.den ≤ r.num then ((Nat.repr (r.num / r.den)).length : Int) - 1
  else -((Nat.repr (r.den / r.num)).length : Int)

/-- Of the two neighbours of the value on the grid `10^e`, the nearer one that lies between the ends, and the
even one if both are as near; both ends are included when `closed`. -/
def onGrid? (value low high : Ratio) (closed : Bool) (e : Int) : Option Nat :=
  let up := Ratio.scale 1 10 (-e)
  let n := value.num * up.num / (value.den * up.den)
  let inside (k : Nat) : Bool :=
    let point := Ratio.scale k 10 e
    if closed then low.le point && point.le high else low.lt point && point.lt high
  let rest := value.num * up.num - n * (value.den * up.den)
  let lowerFirst := 2 * rest < value.den * up.den || (2 * rest == value.den * up.den && n % 2 == 0)
  match inside n, inside (n + 1) with
  | true, true => some (if lowerFirst then n else n + 1)
  | true, false => some n
  | false, true => some (n + 1)
  | false, false => none

/-- The number without its trailing zeros, and how many there were; `fuel` bounds their number. -/
def dropZeros : Nat → Nat → Int → Shortest
  | 0, n, e => ⟨n, e⟩
  | fuel + 1, n, e => if n % 10 = 0 ∧ n ≠ 0 then dropZeros fuel (n / 10) (e + 1) else ⟨n, e⟩

/-- The decimal with the fewest digits that is read back as the given positive value. -/
def Shortest.ofBinary (b : Binary) : Shortest :=
  let q := b.exponent - 2
  let value := Ratio.scale (4 * b.mantissa) 2 q
  let low := Ratio.scale (4 * b.mantissa - (if b.tight then 1 else 2)) 2 q
  let high := Ratio.scale (4 * b.mantissa + 2) 2 q
  let closed := b.mantissa % 2 = 0
  let lead := value.leading
  let grids := (List.range 17).map fun (k : Nat) => lead - (k : Int)
  match grids.findSome? fun e => (onGrid? value low high closed e).map fun n => (n, e) with
  | some (n, e) => dropZeros 20 n e
  | none => ⟨0, 0⟩

/-- The text of a decimal given by its digits and the place of the point before or after them. -/
def Shortest.text (s : Shortest) : String :=
  let ds := Nat.repr s.digits
  let len := ds.length
  let point : Int := (len : Int) + s.exponent
  if s.digits = 0 then "0.0"
  else if -4 < point ∧ point ≤ 16 then
    if point ≤ 0 then "0." ++ String.ofList (List.replicate (-point).toNat '0') ++ ds
    else if (len : Int) ≤ point then ds ++ String.ofList (List.replicate (point - len).toNat '0') ++ ".0"
    else String.ofList (ds.toList.take point.toNat) ++ "." ++ String.ofList (ds.toList.drop point.toNat)
  else
    let e := point - 1
    let mantissa :=
      if len = 1 then ds else String.ofList (ds.toList.take 1) ++ "." ++ String.ofList (ds.toList.drop 1)
    let places := Nat.repr e.natAbs
    mantissa ++ "e" ++ (if e < 0 then "-" else "+") ++ (if places.length < 2 then "0" ++ places else places)

/-- The shortest text that is read back as the value, with the texts of the values that are not finite
left to the caller. -/
def floatText (nan infinity : String) (x : Float) : String :=
  if x.isNaN then nan
  else
    let sign := if x.toBits.toNat / Nat.pow 2 63 = 1 then "-" else ""
    if x.isInf then sign ++ infinity
    else sign ++ (Shortest.ofBinary (Binary.ofFloat x)).text

/-- A decimal literal as a binary64 value. Exponents far outside the range of the type are decided
without forming the power. -/
def toFloat (negative : Bool) (digits : Nat) (exponent : Int) : Float :=
  let places := ((Nat.repr digits).length : Int) + exponent
  let x :=
    if digits = 0 || places < -400 then 0.0
    else if 400 < places then (1.0 / 0.0 : Float)
    else if 0 ≤ exponent then Float.ofScientific digits false exponent.toNat
    else Float.ofScientific digits true (-exponent).toNat
  if negative then -x else x

end ParticipantDirectory.Decimal
