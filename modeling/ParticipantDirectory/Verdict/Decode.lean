import ParticipantDirectory.Json.Access
import ParticipantDirectory.Verdict.Basic

/-!
# Verdicts on JSON documents

Rules for texts, and readers for the values, lists and objects that a document may hold. Texts are never
made out of other values; fields that no reader asks for are ignored. A text to which a rule is applied must be
whole; one without any rule is taken as it is, lone surrogates and all (`Verdict.anyText`).
-/

namespace ParticipantDirectory

/-- A form that a text must have. -/
inductive TextForm where
  | upperPair
  | lowerPair
  deriving DecidableEq, Repr

/-- The form as a regular expression. -/
def TextForm.pattern : TextForm → String
  | upperPair => "^[A-Z]\x7b2\x7d$"
  | lowerPair => "^[a-z]\x7b2\x7d$"

/-- Whether a character may stand in a text of the form. -/
def TextForm.allows : TextForm → Char → Bool
  | upperPair, c => 'A' ≤ c && c ≤ 'Z'
  | lowerPair, c => 'a' ≤ c && c ≤ 'z'

/-- Whether a text has the form: two letters of the class. -/
def TextForm.matches (f : TextForm) (s : String) : Bool :=
  match s.toList with
  | [a, b] => f.allows a && f.allows b
  | _ => false

/-- Limits of a text: its least and greatest length in characters, and its form. -/
structure TextRule where
  least : Nat
  most : Option Nat
  form : Option TextForm

namespace TextRule

/-- Any whole text. -/
def any : TextRule := ⟨0, none, none⟩

/-- A text of at most `n` characters. -/
def atMost (n : Nat) : TextRule := ⟨0, some n, none⟩

/-- A text of 1 to `n` characters. -/
def filled (n : Nat) : TextRule := ⟨1, some n, none⟩

/-- A text of a form. -/
def ofForm (f : TextForm) : TextRule := ⟨0, none, some f⟩

/-- What is wrong with a text; its length is looked at before its form. -/
def violation? (r : TextRule) (s : String) : Option ViolationKind :=
  if r.most.any (· < s.length) then r.most.map .textTooLong
  else if s.length < r.least then some (.textTooShort r.least)
  else (r.form.filter fun f => !f.matches s).map fun f => .textPattern f.pattern

/-- The verdict on a text. -/
def check (r : TextRule) (s : String) : Verdict String :=
  match r.violation? s with
  | none => .accepted s
  | some k => .refuse k

/-- The verdict on a text that may be absent. -/
def check? (r : TextRule) : Option String → Verdict (Option String)
  | none => .accepted none
  | some s => some <$> r.check s

/-- The text that a JSON value is. -/
def decode (r : TextRule) : Json → Verdict String
  | .str s => r.check s
  | .broken _ => .refuse .brokenText
  | _ => .refuse .notText

/-- The text that a JSON value is, absent if it is null. -/
def decode? (r : TextRule) : Json → Verdict (Option String)
  | .null => .accepted none
  | v => some <$> r.decode v

end TextRule

namespace Verdict

variable {α : Type}

/-- The text that a JSON value is, whatever stands in it. -/
def anyText (v : Json) : Verdict Text.Loose :=
  match v.loose? with
  | some t => accepted t
  | none => refuse .notText

/-- The text that a JSON value is, whatever stands in it; absent if it is null. -/
def anyText? : Json → Verdict (Option Text.Loose)
  | .null => accepted none
  | v => some <$> anyText v

/-- The members of an object, which describes a value of the named model. -/
def members (model : String) : Json → Verdict (List (String × Json))
  | .obj members => accepted members
  | _ => refuse (.notObject model)

/-- The verdict on an object by a reader of its members. -/
def object (model : String) (read : List (String × Json) → Verdict α) : Json → Verdict α
  | .obj members => read members
  | _ => refuse (.notObject model)

/-- A member that must be there. -/
def required (name : String) (read : Json → Verdict α) (members : List (String × Json)) : Verdict α :=
  match Json.findMember? name members with
  | some v => (read v).under (.field name)
  | none => refused [⟨[.field name], .missing⟩]

/-- A member that may be missing and then has a default. -/
def optional (name : String) (default : α) (read : Json → Verdict α) (members : List (String × Json)) :
    Verdict α :=
  match Json.findMember? name members with
  | some v => (read v).under (.field name)
  | none => accepted default

/-- A list whose items are read one by one. -/
def list (read : Json → Verdict α) : Json → Verdict (List α)
  | .arr vs => items read vs
  | _ => refuse .notList

/-- A list that must not be empty. -/
def nonemptyList (read : Json → Verdict α) : Json → Verdict (List α)
  | .arr [] => refuse (.listTooShort 1 0)
  | v => list read v

/-- A date, absent if it is null. -/
def date? : Json → Verdict (Option Calendar.Date)
  | .null => accepted none
  | .str s => ofDate (Calendar.Date.ofString s)
  | .broken _ => refuse .brokenText
  | .int n => (Calendar.Date.ofWhole? n).elim (refuse .notDate) ofDate
  | .real x => ofDate (Calendar.Date.ofReal x)
  | _ => refuse .notDate
where
  /-- The verdict on what was read as a date. -/
  ofDate : Except Calendar.DateProblem Calendar.Date → Verdict (Option Calendar.Date)
    | .ok d => accepted (some d)
    | .error p => refuse (.date p)

end Verdict

end ParticipantDirectory
