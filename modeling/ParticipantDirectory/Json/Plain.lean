import ParticipantDirectory.Decimal.Shortest
import ParticipantDirectory.Json.Basic
import ParticipantDirectory.Text.Quoted

/-!
# Values inside messages

A message shows a value as a literal: texts are quoted, and null and the truth values are written as
words. A text that is shown by itself is not quoted. A lone surrogate is shown as an escape everywhere.
-/

namespace ParticipantDirectory.Json

mutual

/-- The literal of a value. -/
def literal : Json → String
  | null => "None"
  | bool true => "True"
  | bool false => "False"
  | int n => Int.repr n
  | real x => Decimal.floatText "nan" "inf" x
  | str s => Text.quoted s
  | broken b => Text.quotedBroken b
  | arr items => "[" ++ literalItems items ++ "]"
  | obj members => "\x7b" ++ literalMembers members ++ "\x7d"

/-- The literals of the items of a list, separated by commas. -/
def literalItems : List Json → String
  | [] => ""
  | [v] => literal v
  | v :: rest => literal v ++ ", " ++ literalItems rest

/-- The literals of the members of an object, separated by commas. -/
def literalMembers : List (String × Json) → String
  | [] => ""
  | [(k, v)] => Text.quoted k ++ ": " ++ literal v
  | (k, v) :: rest => Text.quoted k ++ ": " ++ literal v ++ ", " ++ literalMembers rest

end

/-- The text of a value shown by itself. -/
def shown : Json → String
  | str s => s
  | broken b => b.shown
  | v => literal v

/-- The kind of a value, as messages about unsuitable values name it. -/
def kindName : Json → String
  | null => "NoneType"
  | bool _ => "bool"
  | int _ => "int"
  | real _ => "float"
  | str _ | broken _ => "str"
  | arr _ => "list"
  | obj _ => "dict"

end ParticipantDirectory.Json
