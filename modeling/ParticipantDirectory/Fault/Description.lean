import ParticipantDirectory.Fault
import ParticipantDirectory.Json.Access

/-!
# Failures described by documents

A document describes a failure by the name of its kind, its arguments in order (`args`), its arguments by name
(`kwargs`) and its context. Arguments are bound to the parameters of the kind first in order and then by name;
a description that does not fit them describes the accident that this is.
-/

namespace ParticipantDirectory

/-- A parameter of a kind of faults, and whether it has to be given. -/
structure Parameter where
  name : String
  required : Bool
  deriving DecidableEq, Repr

/-- Why arguments do not fit parameters. -/
inductive ArgumentFault where
  | unexpected (name : String)
  | repeated (name : String)
  | tooMany (least most given : Nat)
  | missing (names : List String)
  deriving DecidableEq, Repr

namespace ArgumentFault

/-- Names in a sentence, quoted. -/
def listed (names : List String) : String :=
  match (names.map fun n => "'" ++ n ++ "'").reverse with
  | [] => ""
  | [n] => n
  | [b, a] => a ++ " and " ++ b
  | last :: rest => ", ".intercalate rest.reverse ++ ", and " ++ last

/-- The wording of a fault. -/
def message : ArgumentFault → String
  | unexpected name => "got an unexpected keyword argument '" ++ name ++ "'"
  | repeated name => "got multiple values for argument '" ++ name ++ "'"
  | tooMany least most given =>
    "takes from " ++ Nat.repr least ++ " to " ++ Nat.repr most ++ " positional arguments but " ++ Nat.repr given ++
      " were given"
  | missing names =>
    "missing " ++ Nat.repr names.length ++ " required positional argument" ++
      (if names.length = 1 then "" else "s") ++ ": " ++ listed names

end ArgumentFault

namespace Parameter

/-- The values of the parameters, given in order and by name. -/
def bind (params : List Parameter) (ordered : List Json) (named : List (String × Json)) :
    Except ArgumentFault (List (String × Json)) := do
  let names := params.map (·.name)
  let placed := names.zip ordered
  for (name, _) in named do
    if !names.contains name then .error (.unexpected name)
    if (Json.findMember? name placed).isSome then .error (.repeated name)
  let needed := (params.filter (·.required)).map (·.name)
  if params.length < ordered.length then
    .error (.tooMany (needed.length + 1) (params.length + 1) (ordered.length + 1))
  let given := placed ++ named
  match needed.filter fun name => (Json.findMember? name given).isNone with
  | [] => return given
  | names => .error (.missing names)

/-- Parameters that have to be given, and then others. -/
def list (required others : List String) : List Parameter :=
  required.map (⟨·, true⟩) ++ others.map (⟨·, false⟩)

end Parameter

namespace Cause

/-- The parameters of the kind of faults with a given name. -/
def parameters : String → List Parameter
  | "SMPServerError" => Parameter.list ["message", "code", "category"] ["severity", "context", "http_status"]
  | "BadRequestError" | "NotFoundError" | "UnauthorizedError" => Parameter.list ["message"] ["code", "context"]
  | "InvalidIdentifierError" => Parameter.list ["raw_id"] ["context"]
  | "ParticipantMismatchError" => Parameter.list ["url_identifier", "payload_identifier"] ["context"]
  | "FeatureNotSupportedError" => Parameter.list [] ["context"]
  | "ServiceGroupNotFoundError" | "BusinessCardNotFoundError" | "ServiceGroupExistsError" =>
    Parameter.list ["service_group_id"] ["context"]
  | "AuthorizationError" => Parameter.list ["message", "code", "http_status"] ["context"]
  | "UnknownUserError" => Parameter.list ["user_name"] ["context"]
  | "OwnershipError" => Parameter.list ["user_name", "service_group_id"] ["context"]
  | "StoreFailureError" => Parameter.list ["operation"] ["context"]
  | "DatabaseError" => Parameter.list ["message", "operation"] ["context"]
  | _ => Parameter.list ["message"] ["context"]

/-- The value of a name among `all`; `default` if no name is given. -/
def choice {α : Type} (kind : String) (all : List α) (text : α → String) (default : α) :
    Option Json → Except Accident α
  | none => .ok default
  | some v =>
    match all.find? fun a => v.text? == some (text a) with
    | some a => .ok a
    | none => .error (.told .badValue (v.literal ++ " is not a valid " ++ kind))

/-- The cause of a kind with a given name, given the values of its parameters. -/
def ofValues (kind : String) (category : Category) (severity : Severity) (given : List (String × Json)) : Cause :=
  let value (name : String) (default : Json) : Json := (Json.findMember? name given).getD default
  let message := value "message" .null
  let status := ((value "http_status" .null).whole?).getD 500
  match kind with
  | "SMPServerError" => .general message (value "code" .null) category severity status
  | "BadRequestError" => .badRequest message (value "code" "BAD_REQUEST")
  | "InvalidIdentifierError" => .invalidIdentifier (value "raw_id" .null)
  | "ParticipantMismatchError" =>
    .participantMismatch (value "url_identifier" .null) (value "payload_identifier" .null)
  | "FeatureNotSupportedError" => .featureNotSupported
  | "NotFoundError" => .notFound message (value "code" "NOT_FOUND")
  | "ServiceGroupNotFoundError" => .unknownGroup (value "service_group_id" .null)
  | "BusinessCardNotFoundError" => .unknownCard (value "service_group_id" .null)
  | "AuthorizationError" => .notAuthorized message (value "code" .null) status
  | "UnauthorizedError" => .unauthorized message (value "code" "UNAUTHORIZED")
  | "UnknownUserError" => .unknownUser (value "user_name" .null)
  | "OwnershipError" => .notOwner (value "user_name" .null) (value "service_group_id" .null)
  | "ServiceGroupExistsError" => .groupExists (value "service_group_id" .null)
  | "StoreFailureError" => .storeFailure (value "operation" .null)
  | "DatabaseError" => .databaseFailure message (value "operation" .null)
  | _ => .initialization message

/-- The cause that a document describes. Categories and severities are named; what is given for one in order stays
a text, and has no name that could be shown. -/
def described (v : Json) : Except Accident Cause := do
  let kind := (v.member? "class").getD ""
  let named := (v.field "kwargs").memberList
  let category ← choice "ErrorCategory" Category.all Category.text .internal (Json.findMember? "category" named)
  let severity ← choice "ErrorSeverity" Severity.all Severity.text .error (Json.findMember? "severity" named)
  let context := if (v.field "context").isNull then [] else [("context", Json.null)]
  match Parameter.bind (parameters kind) (v.field "args").items (named ++ context) with
  | .error fault => .error (.told .badKind (kind ++ ".__init__() " ++ fault.message))
  | .ok given =>
    match given.find? fun p => ["category", "severity"].contains p.1 && (Json.findMember? p.1 named).isNone with
    | some p => .error (.told .missingMember ("'" ++ p.2.kindName ++ "' object has no attribute 'value'"))
    | none => .ok (ofValues kind category severity given)

end Cause

/-- The accident of parts that are no moment. -/
def Accident.ofMoment (fault : Calendar.MomentFault) : Accident :=
  .told (match fault with
    | .countTooLarge => .outOfRange
    | .yearTooLarge => .system
    | _ => .badValue) fault.message

/-- The moment of a list of year, month, day, hour, minute, second, microsecond and the minutes of an offset. -/
def Calendar.Moment.described (v : Json) : Except Accident (Option Calendar.Moment) :=
  match v.items.map Json.whole? with
  | [some year, some month, some day, some hour, some minute, some second, some micro, offset] =>
    match Calendar.Moment.ofParts year month day hour minute second micro offset with
    | .ok m => .ok (some m)
    | .error fault => .error (.ofMoment fault)
  | _ => .ok none

/-- The context that a document describes. -/
def FaultContext.described (v : Json) : Except Accident FaultContext := do
  return {
    raisedAt := ← Calendar.Moment.described (v.field "timestamp")
    operation := v.field "operation"
    serviceGroupId := v.field "service_group_id"
    requestUri := v.field "request_uri"
    debugInfo := v.field "debug_info" }

/-- The kinds of accidents that documents describe. -/
def AccidentKind.plain : List AccidentKind := [.missingKey, .badValue, .badKind, .broken]

/-- The failure that a document describes, or the accident of describing none. -/
def Failure.described (v : Json) : Except Accident Failure :=
  match AccidentKind.plain.find? fun kind => v.member? "class" == some kind.name with
  | some kind =>
    if (v.field "kwargs").memberList.isEmpty then .ok (.accident ⟨kind, (v.field "args").items⟩)
    else .error (.told .badKind (kind.name ++ "() takes no keyword arguments"))
  | none =>
    match FaultContext.described (v.field "context"), Cause.described v with
    | .ok context, .ok cause => .ok (.fault ⟨cause, context⟩)
    | .error a, _ | _, .error a => .error a

/-- The failure of an operation that fails as a document describes. -/
def Failure.ofDescription (v : Json) : Failure :=
  match Failure.described v with
  | .ok f => f
  | .error a => .accident a

end ParticipantDirectory
