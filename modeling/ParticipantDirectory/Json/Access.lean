import ParticipantDirectory.Json.Basic

/-!
# Parts of documents

Looking into a document whose shape is not known: what is absent, or of another kind, counts as null or as
empty.
-/

namespace ParticipantDirectory.Json

/-- The items of a list; none for any other value. -/
def items : Json → List Json
  | arr vs => vs
  | _ => []

/-- The members of an object; none for any other value. -/
def memberList : Json → List (String × Json)
  | obj ms => ms
  | _ => []

/-- The text of a value; none for any other value, and none for a text that holds a lone surrogate. -/
def text? : Json → Option String
  | str s => some s
  | _ => none

/-- The text of a value, lone surrogates and all; none for any other value. -/
def loose? : Json → Option Text.Loose
  | str s => some (.whole s)
  | broken b => some (.broken b)
  | _ => none

@[simp]
theorem loose?_ofLoose (t : Text.Loose) : (ofLoose t).loose? = some t := by
  cases t <;> rfl

/-- The whole number of a value; none for any other value. -/
def whole? : Json → Option Int
  | int n => some n
  | _ => none

/-- The value of a member; null if it is absent. -/
def field (key : String) (v : Json) : Json :=
  (v.get? key).getD .null

/-- The text of a member; none if it is absent or no text. -/
def member? (key : String) (v : Json) : Option String :=
  (v.get? key).bind text?

end ParticipantDirectory.Json
