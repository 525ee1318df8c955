import ParticipantDirectory.Text.Casing.Table

/-!
# Upper and lower case

Full case mapping: a character may have a form of several characters, and the capital sigma has two
lower-case forms, chosen by its neighbours. The ASCII letters are decided before the tables are
searched.
-/

namespace ParticipantDirectory.Text

/-- The image of a code point under the first run or expansion that has it; itself if none has. -/
def caseImages (runs : List CaseRun) (expansions : List CaseExpansion) (n : Nat) : List Nat :=
  match runs.find? (·.covers n) with
  | some r => [r.image n]
  | none =>
    match expansions.find? (·.point == n) with
    | some e => e.images
    | none => [n]

/-- The lower-case form of a character that is not the capital sigma. -/
def lowerForms (c : Char) : List Char :=
  if c.toNat < 0x80 then [c.toLower] else (caseImages lowerRuns lowerExpansions c.toNat).map Char.ofNat

/-- The upper-case form of a character. -/
def upperForms (c : Char) : List Char :=
  if c.toNat < 0x80 then [c.toUpper] else (caseImages upperRuns upperExpansions c.toNat).map Char.ofNat

/-- Whether the first character that is not passed over has case. -/
def meetsCased : List Char → Bool
  | [] => false
  | c :: rest => if Span.anyContains caseIgnorable c.toNat then meetsCased rest else Span.anyContains cased c.toNat

/-- The lower-case form of a capital sigma between `before`, nearest character first, and `after`:
final if a cased character comes before it and none after it. -/
def lowerSigma (before after : List Char) : Char :=
  if meetsCased before && !meetsCased after then 'ς' else 'σ'

/-- The lower-case form of a text that follows `before`, whose nearest character comes first. -/
def lowerAfter (before : List Char) : List Char → List Char
  | [] => []
  | c :: rest =>
    if c = 'Σ' then lowerSigma before rest :: lowerAfter (c :: before) rest
    else lowerForms c ++ lowerAfter (c :: before) rest

/-- The lower-case form of a text. -/
def lower (s : List Char) : List Char :=
  lowerAfter [] s

/-- The upper-case form of a text. -/
def upper (s : List Char) : List Char :=
  s.flatMap upperForms

/-- The lower-case form of a string. -/
def toLower (s : String) : String :=
  String.ofList (lower s.toList)

/-- The upper-case form of a string. -/
def toUpper (s : String) : String :=
  String.ofList (upper s.toList)

example : lower "AÉİ".toList = "aéi̇".toList := by decide +kernel
example : lower "ΟΔΟΣ Σ".toList = "οδος σ".toList := by decide +kernel
example : upper "ıſß".toList = "ISSS".toList := by decide +kernel

end ParticipantDirectory.Text
