import ParticipantDirectory.Text.Hex

/-!
# Escaped bytes

In an address a byte can be written as a percent sign and two hexadecimal digits. `encode` escapes the bytes of
every character that does not stand for itself, and `decode` puts bytes in the place of escapes; a percent sign
that begins no escape stands for itself.
-/

namespace ParticipantDirectory.Text.Percent

/-- A byte as an escape. -/
def escape (b : UInt8) : List Char :=
  '%' :: (Hex.encodeByte b).map Char.toUpper

/-- A text in which the bytes of all characters but those of the class `plain` are escaped; only ASCII characters
are of the class. -/
def encode (plain : Char → Bool) (s : String) : String :=
  String.ofList (s.toUTF8.data.toList.flatMap fun b =>
    let c := Char.ofNat b.toNat
    if b.toNat < 0x80 && plain c then [c] else escape b)

/-- The byte of two hexadecimal digits. -/
def byteOf? (high low : UInt8) : Option UInt8 :=
  match Hex.digitValue? (Char.ofNat high.toNat), Hex.digitValue? (Char.ofNat low.toNat) with
  | some h, some l => some (UInt8.ofNat (16 * h + l))
  | _, _ => none

/-- The bytes of a text with bytes in the place of escapes. -/
def decodeBytes : List UInt8 → List UInt8
  | b :: h :: l :: rest =>
    if b = 0x25 then
      match byteOf? h l with
      | some byte => byte :: decodeBytes rest
      | none => b :: decodeBytes (h :: l :: rest)
    else b :: decodeBytes (h :: l :: rest)
  | bytes => bytes

/-- A text with bytes in the place of escapes; where these are no text, characters beyond ASCII are replaced. -/
def decode (s : String) : String :=
  let bytes := decodeBytes s.toUTF8.data.toList
  match String.fromUTF8? ⟨bytes.toArray⟩ with
  | some t => t
  | none => String.ofList (bytes.map fun b => if b.toNat < 0x80 then Char.ofNat b.toNat else '\uFFFD')

example : decode "a%20%zz" = "a %zz" := by decide +kernel

end ParticipantDirectory.Text.Percent
