/-!
# Decimal digits

Numbers written with a least number of digits, as dates, times and padded columns need them, and the value
of a row of digits.
-/

namespace ParticipantDirectory.Decimal

/-- A text filled on the left with `fill` up to `width` characters. -/
def padLeft (fill : Char) (width : Nat) (s : List Char) : List Char :=
  List.replicate (width - s.length) fill ++ s

/-- The digits of `n`, with zeros in front up to `width` digits. -/
def padded (width n : Nat) : String :=
  String.ofList (padLeft '0' width (Nat.repr n).toList)

/-- The value of a row of decimal digits; that of no digit is zero. -/
def ofDigits (digits : List Char) : Nat :=
  digits.foldl (fun n d => 10 * n + (d.toNat - '0'.toNat)) 0

example : ofDigits ['0', '4', '2'] = 42 := by decide
example : ofDigits [] = 0 := rfl

end ParticipantDirectory.Decimal
