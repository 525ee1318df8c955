import ParticipantDirectory.Fault
import ParticipantDirectory.Http.Request
import ParticipantDirectory.Journal.Record
import ParticipantDirectory.Text.Percent
import ParticipantDirectory.Verdict.Wording

/-!
# Responses

A response has a status, a body and headers. A failure is answered by a document that names its code, and by
a record in the journal.
-/

namespace ParticipantDirectory.Http

/-- A response. -/
structure Response where
  status : Int
  body : Option Json
  headers : List (String × String) := []

/-- A violation in a request: the part of the request, and what is wrong with it. -/
structure Detail where
  field : String
  kind : ViolationKind

/-- The document of a detail. -/
def Detail.encode (d : Detail) : Json :=
  .obj [("field", .str d.field), ("message", .str (d.kind.message .body)), ("type", .str (d.kind.code .body))]

/-- The details of violations in a body. -/
def Detail.ofViolations (vs : List Violation) : List Detail :=
  vs.map fun v => ⟨PathStep.join (.field "body" :: v.path), v.kind⟩

namespace Response

/-- A document that is sent with success. -/
def ok (v : Json) : Response := ⟨200, some v, []⟩

/-- A response with a one-line explanation. -/
def plain (status : Int) (explanation : String) (headers : List (String × String)) : Response :=
  ⟨status, some (.obj [("detail", .str explanation)]), headers⟩

/-- The logger of answered failures. -/
def logger : String := "smp_directory.api.error_handlers"

/-- The document of a failure that is not a fault. -/
def envelope (code message : String) (category : Category) (severity : Severity) (more : List (String × Json)) : Json :=
  .obj [("error", .obj
    ([("code", .str code), ("message", .str message), ("category", .str category.text),
      ("severity", .str severity.text)] ++ more))]

/-- What asks the sender for credentials that the directory checks. -/
def challenge : List (String × String) := [("www-authenticate", "Basic realm=\"SMP\"")]

/-- The response to a fault. -/
def ofFault (now : String) (f : Fault) : Response :=
  ⟨f.cause.status, some (f.envelope now), if f.cause.status = 401 then challenge else []⟩

/-- The record of a fault that is answered. -/
def faultRecord (r : Request) (f : Fault) : Record where
  logger := logger
  level := if 500 ≤ f.cause.status then .error else .warning
  message := f.cause.code.shown ++ " on " ++ r.method ++ " " ++ r.notedPath ++ ": " ++ f.cause.message
  context :=
    { errorCode := f.cause.code, path := .str r.notedPath, operation := f.context.operation,
      serviceGroupId := f.context.serviceGroupId }

/-- The response to violations in a request. -/
def ofDetails (ds : List Detail) : Response :=
  ⟨400, some (envelope "VALIDATION_ERROR" "Invalid request data" .validation .warning
    [("details", .arr (ds.map Detail.encode))]), []⟩

/-- The record of violations that are answered. -/
def detailsRecord (r : Request) (ds : List Detail) : Record where
  logger := logger
  level := .warning
  message := "Invalid request on " ++ r.method ++ " " ++ r.notedPath ++ ": " ++ ", ".intercalate (ds.map (·.field))
  context := { errorCode := .str "VALIDATION_ERROR", path := .str r.notedPath }

/-- The response to a failure that no rule foresees; it tells nothing about it. -/
def unexpected : Response :=
  ⟨500, some (envelope "INTERNAL_ERROR" "An unexpected error occurred" .internal .critical []), []⟩

/-- The part of a text before its first colon with a blank after it. -/
def beforeColon : List Char → List Char
  | ':' :: ' ' :: _ => []
  | c :: rest => c :: beforeColon rest
  | [] => []

/-- The record of a failure that no rule foresees. What the failure says stands after a colon, and is left out. -/
def unexpectedRecord (r : Request) : Record where
  logger := logger
  level := .error
  message := String.ofList (beforeColon ("Unhandled exception on " ++ r.method ++ " " ++ r.notedPath).toList)
  context := { errorCode := .str "INTERNAL_ERROR", path := .str r.notedPath }

/-- The response to credentials that cannot be read. -/
def notAuthenticated : Response := plain 401 "Not authenticated" [("www-authenticate", "Basic")]

/-- The response to a body of which no text or no value can be made. -/
def unreadableBody : Response := plain 400 "There was an error parsing the body" []

/-- The response to a path that names nothing. -/
def notFound : Response := plain 404 "Not Found" []

/-- The response to a method that a resource has not. -/
def methodNotAllowed : Response := plain 405 "Method Not Allowed" [("allow", "GET")]

/-- Whether an ASCII character stands for itself in the address of a redirection. -/
def isPlain (c : Char) : Bool :=
  c.isAlphanum || "_.-~:/%#?=@[]!$&'()*+,;".toList.contains c

/-- An address in which every other character is escaped. -/
def escapeAddress (address : String) : String :=
  Text.Percent.encode isPlain address

/-- The response that refers to another address. -/
def redirect (address : String) : Response := ⟨307, none, [("location", escapeAddress address)]⟩

end Response

end ParticipantDirectory.Http
