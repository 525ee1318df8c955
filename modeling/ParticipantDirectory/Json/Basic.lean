import ParticipantDirectory.Text.Loose

/-!
# JSON values

A document of the JSON format. Whole numbers are kept apart from numbers with a fraction or an
exponent, a text that holds a lone surrogate apart from other texts, and the members of an object keep the order in
which they were first written.
-/

namespace ParticipantDirectory

/-- A JSON value. -/
inductive Json where
  | null
  | bool (b : Bool)
  | int (n : Int)
  | real (x : Float)
  | str (s : String)
  | broken (b : Text.Broken)
  | arr (items : List Json)
  | obj (members : List (String × Json))
  deriving Inhabited

/-- A text as a value. -/
instance : Coe String Json where
  coe := Json.str

namespace Json

/-- A text of any kind as a value. -/
def ofLoose : Text.Loose → Json
  | .whole s => str s
  | .broken b => broken b

/-- The members after `key` is given a value: a present key keeps its place, a new one comes last. -/
def setMember (key : String) (value : Json) : List (String × Json) → List (String × Json)
  | [] => [(key, value)]
  | m :: rest => if m.1 = key then (key, value) :: rest else m :: setMember key value rest

/-- The value of a key among the members of an object. -/
def findMember? (key : String) (members : List (String × Json)) : Option Json :=
  (members.find? (·.1 == key)).map (·.2)

/-- The value of a member of an object; `none` for an absent one and for other values. -/
def get? (key : String) : Json → Option Json
  | obj members => findMember? key members
  | _ => none

/-- Whether the value is `null`. -/
def isNull : Json → Bool
  | null => true
  | _ => false

/-- An optional text, absent as `null`. -/
def ofString? : Option String → Json
  | none => null
  | some s => str s

/-- An optional text of any kind, absent as `null`. -/
def ofLoose? : Option Text.Loose → Json
  | none => null
  | some t => ofLoose t

/-- An object whose members are those with a value. -/
def ofPresent (members : List (String × Option Json)) : Json :=
  obj (members.filterMap fun m => m.2.map fun v => (m.1, v))

end Json

end ParticipantDirectory
