import ParticipantDirectory.Verdict.Basic

/-!
# The wording of violations

Each kind of violation has a code and a message. What is not an object is worded in two ways: as a
document that should be an instance of a model, or as the body of a request from which fields are
taken.
-/

namespace ParticipantDirectory

/-- Where a document comes from. -/
inductive Origin where
  | document
  | body
  deriving DecidableEq, Repr

namespace ViolationKind

/-- The choices, quoted, with `or` before the last. -/
def alternatives (choices : List String) : String :=
  match choices.reverse with
  | [] => ""
  | [c] => "'" ++ c ++ "'"
  | last :: rest =>
    ", ".intercalate (rest.reverse.map fun c => "'" ++ c ++ "'") ++ " or '" ++ last ++ "'"

/-- The code of a violation. -/
def code (origin : Origin) : ViolationKind → String
  | missing => "missing"
  | notText => "string_type"
  | brokenText => "string_unicode"
  | textTooShort _ => "string_too_short"
  | textTooLong _ => "string_too_long"
  | textPattern _ => "string_pattern_mismatch"
  | notList => "list_type"
  | listTooShort .. => "too_short"
  | notObject _ =>
    match origin with
    | .document => "model_type"
    | .body => "model_attributes_type"
  | blankName => "value_error"
  | notDate => "date_type"
  | date (.unreadable _) => "date_from_datetime_parsing"
  | date .yearZero => "date_parsing"
  | date .inexact => "date_from_datetime_inexact"
  | wholeUnreadable => "int_parsing"
  | notWhole => "int_type"
  | wholeFraction => "int_from_float"
  | wholeTooLong => "int_parsing_size"
  | notFinite => "finite_number"
  | truthUnreadable => "bool_parsing"
  | notTruth => "bool_type"
  | notChoice _ => "enum"
  | unexpectedField => "extra_forbidden"
  | badJson => "json_invalid"

/-- A number with a noun in singular or plural. -/
def counted (n : Nat) (noun : String) : String :=
  Nat.repr n ++ " " ++ noun ++ (if n = 1 then "" else "s")

/-- The message of a violation. -/
def message (origin : Origin) : ViolationKind → String
  | missing => "Field required"
  | notText => "Input should be a valid string"
  | brokenText => "Input should be a valid string, unable to parse raw data as a unicode string"
  | textTooShort n => "String should have at least " ++ counted n "character"
  | textTooLong n => "String should have at most " ++ counted n "character"
  | textPattern p => "String should match pattern '" ++ p ++ "'"
  | notList => "Input should be a valid list"
  | listTooShort least actual =>
    "List should have at least " ++ counted least "item" ++ " after validation, not " ++ Nat.repr actual
  | notObject model =>
    match origin with
    | .document => "Input should be a valid dictionary or instance of " ++ model
    | .body => "Input should be a valid dictionary or object to extract fields from"
  | blankName => "Value error, name cannot be empty or whitespace"
  | notDate => "Input should be a valid date"
  | date (.unreadable fault) => "Input should be a valid date or datetime, " ++ fault.message
  | date .yearZero => "Input should be a valid date in the format YYYY-MM-DD, year 0 is out of range"
  | date .inexact => "Datetimes provided to dates should have zero time - e.g. be exact dates"
  | wholeUnreadable => "Input should be a valid integer, unable to parse string as an integer"
  | notWhole => "Input should be a valid integer"
  | wholeFraction => "Input should be a valid integer, got a number with a fractional part"
  | wholeTooLong => "Unable to parse input string as an integer, exceeded maximum size"
  | notFinite => "Input should be a finite number"
  | truthUnreadable => "Input should be a valid boolean, unable to interpret input"
  | notTruth => "Input should be a valid boolean"
  | notChoice choices => "Input should be " ++ alternatives choices
  | unexpectedField => "Extra inputs are not permitted"
  | badJson => "JSON decode error"

end ViolationKind

end ParticipantDirectory
