import ParticipantDirectory.Text.Loose

/-!
# Encodings of text

Text without a mark of its encoding is known by the zero bytes at its front, if it begins with ASCII
characters. Words of 16 and 32 bits may stand with either end first. `ofUnits` reads code units one by one and keeps
a surrogate that has no partner; bytes in which one stands are not taken for a text here.
-/

namespace ParticipantDirectory.Text

/-- How text is written as bytes; the words of the wider forms may begin with their high byte. -/
inductive Encoding where
  | utf8
  | utf16 (highFirst : Bool)
  | utf32 (highFirst : Bool)
  deriving DecidableEq, Repr

namespace Encoding

/-- The encoding of a text that begins with two ASCII characters, or with one that is all of it. -/
def ofFront : List UInt8 → Encoding
  | [a, b] => if a = 0 then .utf16 true else if b = 0 then .utf16 false else .utf8
  | a :: b :: c :: d :: _ =>
    if a = 0 then (if b = 0 then .utf32 true else .utf16 true)
    else if b = 0 then (if c = 0 ∧ d = 0 then .utf32 false else .utf16 false)
    else .utf8
  | _ => .utf8

/-- The words of 16 bits of a sequence of bytes; none if a byte is left over. -/
def words16? (highFirst : Bool) : List UInt8 → Option (List Nat)
  | [] => some []
  | [_] => none
  | a :: b :: rest =>
    let w := if highFirst then 256 * a.toNat + b.toNat else 256 * b.toNat + a.toNat
    (words16? highFirst rest).map (w :: ·)

/-- The words of 32 bits of a sequence of bytes; none if bytes are left over. -/
def words32? (highFirst : Bool) (bytes : List UInt8) : Option (List Nat) :=
  pair? <$> words16? highFirst bytes |>.join
where
  /-- Words made of two halves each. -/
  pair? : List Nat → Option (List Nat)
    | [] => some []
    | [_] => none
    | a :: b :: rest =>
      let w := if highFirst then 65536 * a + b else 65536 * b + a
      (pair? rest).map (w :: ·)

/-- The places of a sequence of code units, in which a pair of surrogates is one character. -/
def ofUnits : List Nat → List Point
  | [] => []
  | [u] => [Point.ofCode u]
  | u :: v :: rest =>
    if 0xD800 ≤ u ∧ u < 0xDC00 ∧ 0xDC00 ≤ v ∧ v < 0xE000 then
      .char (Char.ofNat (0x10000 + (u - 0xD800) * 0x400 + (v - 0xDC00))) :: ofUnits rest
    else Point.ofCode u :: ofUnits (v :: rest)

/-- The text of a sequence of bytes; none if there is none. -/
def decode? (bytes : List UInt8) : Encoding → Option (List Char)
  | utf8 => (String.fromUTF8? ⟨bytes.toArray⟩).map String.toList
  | utf16 highFirst => (words16? highFirst bytes).bind fun ws => (ofUnits ws).mapM Point.char?
  | utf32 highFirst =>
    match words32? highFirst bytes with
    | some ws => if ws.all (· < 0x110000) then (ws.map Point.ofCode).mapM Point.char? else none
    | none => none

example : ofFront [0x31, 0] = utf16 false := rfl
example : decode? [0, 0x31, 0x32, 0x33] (utf16 true) = some ['1', '㈳'] := by decide
example : decode? [0x31, 0, 0] (utf16 false) = none := by decide
example : ofUnits [0xD83D, 0xDE00, 0xDE00] = [.char '😀', .lone 0x600] := by decide

end Encoding

end ParticipantDirectory.Text
