import ParticipantDirectory.Identifier.Basic
import ParticipantDirectory.Text.Blank
import ParticipantDirectory.Text.Casing

/-!
# Addressing rules

Which identifiers name a participant. The simple rule takes any scheme and value that are not empty.
The PEPPOL rule lower-cases both first, wants the scheme to be three hyphen-joined runs of ASCII
letters and digits within 25 characters, and the value to be 1 to 50 Latin-1 characters without a
blank at either end.
-/

namespace ParticipantDirectory

/-- The rule by which identifiers of participants are normalized and accepted. -/
inductive Addressing where
  | simple
  | peppol
  deriving DecidableEq, Repr, Inhabited

namespace Addressing

/-- The rule's name in the configuration. -/
def name : Addressing → String
  | simple => "simple"
  | peppol => "peppol"

/-- The rule of a name. -/
def ofName? (s : String) : Option Addressing :=
  if s = "simple" then some simple else if s = "peppol" then some peppol else none

/-- The greatest length of a PEPPOL scheme. -/
def schemeLimit : Nat := 25

/-- The greatest length of a PEPPOL value. -/
def valueLimit : Nat := 50

/-- The characters of a run of a PEPPOL scheme. -/
def isRunChar (c : Char) : Bool :=
  ('a' ≤ c && c ≤ 'z') || ('0' ≤ c && c ≤ '9')

/-- The parts of a text between its hyphens. -/
def hyphenParts : List Char → List (List Char)
  | [] => [[]]
  | c :: rest =>
    if c = '-' then [] :: hyphenParts rest
    else
      match hyphenParts rest with
      | part :: parts => (c :: part) :: parts
      | [] => [[c]]

/-- Whether the text is a non-empty run of letters and digits. -/
def isRun (s : List Char) : Bool :=
  !s.isEmpty && s.all isRunChar

/-- A text without one line feed at its end. -/
def dropFinalNewline (s : List Char) : List Char :=
  if s.getLast? = some '\n' then s.dropLast else s

/-- Whether the text is three runs joined by single hyphens; one line feed may follow them. -/
def isSchemeText (s : List Char) : Bool :=
  let parts := hyphenParts (dropFinalNewline s)
  parts.length == 3 && parts.all isRun

/-- Whether a normalized scheme is accepted. -/
def acceptsScheme : Addressing → String → Bool
  | simple, s => s ≠ ""
  | peppol, s => s ≠ "" && s.length ≤ schemeLimit && isSchemeText s.toList

/-- Whether a normalized value is accepted. -/
def acceptsValue : Addressing → String → Bool
  | simple, s => s ≠ ""
  | peppol, s =>
    s ≠ "" && s.length ≤ valueLimit && Text.strip s.toList == s.toList && s.toList.all (·.toNat ≤ 0xFF)

/-- The form in which schemes and values are compared and stored. -/
def normalize : Addressing → String → String
  | simple, s => s
  | peppol, s => Text.toLower s

/-- The identifier with the given scheme and value in normal form, if the rule accepts them. -/
def create? (rule : Addressing) (scheme value : String) : Option Identifier :=
  let p : Identifier := ⟨rule.normalize scheme, rule.normalize value⟩
  if rule.acceptsScheme p.scheme && rule.acceptsValue p.value then some p else none

/-- The participant that a raw text names, if the rule accepts the parts around its first separator. -/
def parse? (rule : Addressing) (raw : String) : Option Identifier :=
  (Identifier.split? raw).bind fun parts => rule.create? parts.1 parts.2

example : peppol.parse? "A-b-3::0088:ÅB" = some ⟨"a-b-3", "0088:åb"⟩ := by decide +kernel
example : peppol.parse? "a--b::x" = none := by decide +kernel
example : simple.parse? "a:::b" = some ⟨"a", ":b"⟩ := by decide +kernel

end Addressing

end ParticipantDirectory
