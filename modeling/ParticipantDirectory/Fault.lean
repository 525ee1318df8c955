import ParticipantDirectory.Calendar.Moment
import ParticipantDirectory.Json.Plain
import ParticipantDirectory.Verdict.Basic

/-!
# Faults

A fault is a cause and the context in which it arose. The cause decides the wording, the code, the
category, the severity and the status of the answer; the context says which operation, which service
group and which request were concerned.
-/

namespace ParticipantDirectory

/-- How grave a fault is. -/
inductive Severity where
  | info
  | warning
  | error
  | critical
  deriving DecidableEq, Repr

/-- What kind of thing went wrong. -/
inductive Category where
  | validation
  | resourceNotFound
  | authorization
  | conflict
  | store
  | database
  | internal
  deriving DecidableEq, Repr

/-- The result of an operation that can be refused without a fault. -/
inductive Outcome where
  | success
  | failure
  deriving DecidableEq, Repr

namespace Severity

/-- The name under which a severity is written. -/
def text : Severity → String
  | info => "info"
  | warning => "warning"
  | error => "error"
  | critical => "critical"

/-- The severities. -/
def all : List Severity := [info, warning, error, critical]

end Severity

namespace Category

/-- The name under which a category is written. -/
def text : Category → String
  | validation => "validation"
  | resourceNotFound => "resource_not_found"
  | authorization => "authorization"
  | conflict => "conflict"
  | store => "store"
  | database => "database"
  | internal => "internal"

/-- The categories. -/
def all : List Category := [validation, resourceNotFound, authorization, conflict, store, database, internal]

end Category

namespace Outcome

/-- The name under which an outcome is written. -/
def text : Outcome → String
  | success => "success"
  | failure => "failure"

/-- The outcomes. -/
def all : List Outcome := [success, failure]

end Outcome

/-- Why a fault arose. What it is about is a text as a rule, but any value is let. -/
inductive Cause where
  | general (message code : Json) (category : Category) (severity : Severity) (status : Int)
  | badRequest (message code : Json)
  | invalidIdentifier (raw : Json)
  | participantMismatch (url payload : Json)
  | featureNotSupported
  | notFound (message code : Json)
  | unknownGroup (id : Json)
  | unknownCard (id : Json)
  | notAuthorized (message code : Json) (status : Int)
  | unauthorized (message code : Json)
  | unknownUser (name : Json)
  | notOwner (user group : Json)
  | groupExists (id : Json)
  | storeFailure (operation : Json)
  | databaseFailure (message operation : Json)
  | initialization (message : Json)

namespace Cause

/-- What a cause says, which is a text unless it was given as something else. -/
def statement : Cause → Json
  | general m _ _ _ _ => m
  | badRequest m _ => m
  | invalidIdentifier raw => .str ("Failed to parse serviceGroup '" ++ raw.shown ++ "'")
  | participantMismatch url payload =>
    .str ("Participant Inconsistency. The URL points to " ++ url.shown ++ " whereas the BusinessCard contains " ++
      payload.shown)
  | featureNotSupported => .str "This SMP server does not support the BusinessCard API"
  | notFound m _ => m
  | unknownGroup id => .str ("Unknown serviceGroup '" ++ id.shown ++ "'")
  | unknownCard id => .str ("No BusinessCard assigned to serviceGroup '" ++ id.shown ++ "'")
  | notAuthorized m _ _ => m
  | unauthorized m _ => m
  | unknownUser name => .str ("No user '" ++ name.shown ++ "' is registered")
  | notOwner user group => .str ("User '" ++ user.shown ++ "' does not own serviceGroup '" ++ group.shown ++ "'")
  | groupExists id => .str ("serviceGroup '" ++ id.shown ++ "' already exists")
  | storeFailure operation => .str ("Failed to store business card (" ++ operation.shown ++ ")")
  | databaseFailure m operation => .str ("Database " ++ operation.shown ++ " failed: " ++ m.shown)
  | initialization m => m

/-- The wording of a cause. -/
def message (c : Cause) : String :=
  c.statement.shown

/-- The code of a cause. -/
def code : Cause → Json
  | general _ c _ _ _ => c
  | badRequest _ c => c
  | invalidIdentifier _ => .str "INVALID_IDENTIFIER"
  | participantMismatch .. => .str "PARTICIPANT_INCONSISTENCY"
  | featureNotSupported => .str "FEATURE_NOT_SUPPORTED"
  | notFound _ c => c
  | unknownGroup _ => .str "UNKNOWN_SERVICE_GROUP"
  | unknownCard _ => .str "BUSINESS_CARD_NOT_FOUND"
  | notAuthorized _ c _ => c
  | unauthorized _ c => c
  | unknownUser _ => .str "UNKNOWN_USER"
  | notOwner .. => .str "NOT_OWNER"
  | groupExists _ => .str "SERVICE_GROUP_EXISTS"
  | storeFailure _ => .str "STORE_FAILURE"
  | databaseFailure .. => .str "DATABASE_ERROR"
  | initialization _ => .str "INITIALIZATION_ERROR"

/-- The category of a cause. -/
def category : Cause → Category
  | general _ _ c _ _ => c
  | badRequest .. | invalidIdentifier _ | participantMismatch .. | featureNotSupported => .validation
  | notFound .. | unknownGroup _ | unknownCard _ => .resourceNotFound
  | notAuthorized .. | unauthorized .. | unknownUser _ | notOwner .. => .authorization
  | groupExists _ => .conflict
  | storeFailure _ => .store
  | databaseFailure .. => .database
  | initialization _ => .internal

/-- The severity of a cause. -/
def severity : Cause → Severity
  | general _ _ _ s _ => s
  | storeFailure _ => .error
  | databaseFailure .. | initialization _ => .critical
  | _ => .warning

/-- The status of an answer that reports the cause. -/
def status : Cause → Int
  | general _ _ _ _ s => s
  | badRequest .. | invalidIdentifier _ | participantMismatch .. | featureNotSupported => 400
  | notFound .. | unknownGroup _ | unknownCard _ => 404
  | notAuthorized _ _ s => s
  | unauthorized .. | unknownUser _ => 401
  | notOwner .. => 403
  | groupExists _ => 409
  | storeFailure _ => 500
  | databaseFailure .. => 503
  | initialization _ => 500

/-- The name of a cause, followed by the names of the more general causes that it belongs to. -/
def lineage : Cause → List String
  | general .. => ["SMPServerError"]
  | badRequest .. => ["BadRequestError", "SMPServerError"]
  | invalidIdentifier _ => ["InvalidIdentifierError", "BadRequestError", "SMPServerError"]
  | participantMismatch .. => ["ParticipantMismatchError", "BadRequestError", "SMPServerError"]
  | featureNotSupported => ["FeatureNotSupportedError", "BadRequestError", "SMPServerError"]
  | notFound .. => ["NotFoundError", "SMPServerError"]
  | unknownGroup _ => ["ServiceGroupNotFoundError", "NotFoundError", "SMPServerError"]
  | unknownCard _ => ["BusinessCardNotFoundError", "NotFoundError", "SMPServerError"]
  | notAuthorized .. => ["AuthorizationError", "SMPServerError"]
  | unauthorized .. => ["UnauthorizedError", "AuthorizationError", "SMPServerError"]
  | unknownUser _ => ["UnknownUserError", "UnauthorizedError", "AuthorizationError", "SMPServerError"]
  | notOwner .. => ["OwnershipError", "AuthorizationError", "SMPServerError"]
  | groupExists _ => ["ServiceGroupExistsError", "SMPServerError"]
  | storeFailure _ => ["StoreFailureError", "SMPServerError"]
  | databaseFailure .. => ["DatabaseError", "SMPServerError"]
  | initialization _ => ["InitializationError", "SMPServerError"]

/-- What a cause records besides its wording. -/
def attributes : Cause → List (String × Json)
  | invalidIdentifier raw => [("raw_id", raw)]
  | participantMismatch url payload => [("url_identifier", url), ("payload_identifier", payload)]
  | unknownGroup id | unknownCard id | groupExists id => [("service_group_id", id)]
  | unknownUser name => [("user_name", name)]
  | notOwner user group => [("user_name", user), ("service_group_id", group)]
  | storeFailure operation => [("operation", operation)]
  | databaseFailure _ operation => [("operation", operation)]
  | _ => []

end Cause

/-- The request in which a fault arose; null means absent. A fault without a moment arose at the time of the run. -/
structure FaultContext where
  raisedAt : Option Calendar.Moment := none
  operation : Json := .null
  serviceGroupId : Json := .null
  requestUri : Json := .null
  debugInfo : Json := .null

/-- The context as it is shown in answers. -/
def FaultContext.encode (c : FaultContext) : Json :=
  .obj [("operation", c.operation), ("service_group_id", c.serviceGroupId), ("request_uri", c.requestUri)]

/-- A cause with its context. -/
structure Fault where
  cause : Cause
  context : FaultContext := {}

/-- The document that reports a fault; `now` stands for the moment of a fault that has none. -/
def Fault.envelope (now : String) (f : Fault) : Json :=
  .obj [("error", .obj
    [("code", f.cause.code), ("message", f.cause.statement), ("category", .str f.cause.category.text),
      ("severity", .str f.cause.severity.text),
      ("timestamp", .str ((f.context.raisedAt.map Calendar.Moment.render).getD now)),
      ("context", f.context.encode)])]

/-- The kinds of things that no rule of the directory foresees. -/
inductive AccidentKind where
  | missingKey
  | badValue
  | badKind
  | broken
  | missingMember
  | badAddress
  | unfitDriver
  | unknownDialect
  | outOfRange
  | system
  | noMemory
  | missingDriver
  | unencodable
  deriving DecidableEq, Repr

/-- The name of a kind of accident. -/
def AccidentKind.name : AccidentKind → String
  | missingKey => "KeyError"
  | badValue => "ValueError"
  | badKind => "TypeError"
  | broken => "RuntimeError"
  | missingMember => "AttributeError"
  | badAddress => "ArgumentError"
  | unfitDriver => "InvalidRequestError"
  | unknownDialect => "NoSuchModuleError"
  | outOfRange => "OverflowError"
  | system => "OSError"
  | noMemory => "MemoryError"
  | missingDriver => "ModuleNotFoundError"
  | unencodable => "UnicodeEncodeError"

/-- Something that no rule of the directory foresees, and what there is to say about it. -/
structure Accident where
  kind : AccidentKind
  details : List Json

namespace Accident

/-- An accident told by a text. -/
def told (kind : AccidentKind) (text : String) : Accident :=
  ⟨kind, [.str text]⟩

/-- A text without bytes is to be written. -/
def ofBroken (b : Text.Broken) : Accident :=
  .told .unencodable b.refusal

/-- The name of an accident. -/
def name (a : Accident) : String :=
  a.kind.name

/-- The text of an accident: its detail, or all of them in parentheses; a key is shown as a literal. -/
def message (a : Accident) : String :=
  match a.details with
  | [] => ""
  | [d] => if a.kind = .missingKey then d.literal else d.shown
  | ds => "(" ++ Json.literalItems ds ++ ")"

end Accident

/-- Why an operation gave no answer. -/
inductive Failure where
  | fault (f : Fault)
  | invalid (violations : List Violation)
  | accident (a : Accident)

/-- The fault of a cause without a context. -/
def Failure.of (c : Cause) : Failure :=
  .fault { cause := c }

/-- The text of a failure as the journal reports it with a record. -/
def Fault.report (f : Fault) : String :=
  "smp_directory.core.errors." ++ f.cause.lineage.headD "" ++
    (if f.cause.message = "" then "" else ": " ++ f.cause.message)

/-- The text of an accident as the journal reports it with a record. -/
def Accident.report (a : Accident) : String :=
  a.name ++ (if a.message = "" then "" else ": " ++ a.message)

end ParticipantDirectory
