import ParticipantDirectory.Http.Response
import ParticipantDirectory.Http.Target
import ParticipantDirectory.Journal.Setup
import ParticipantDirectory.Service.Cards
import ParticipantDirectory.Service.Directory
import ParticipantDirectory.Service.Groups
import ParticipantDirectory.Settings
import ParticipantDirectory.Store.Engine

/-!
# The server

A server is started from settings and then answers requests one after the other. Its state is a directory
over a database, unless the directory was taken away, and the state of its connection to the database.
-/

namespace ParticipantDirectory

open Http (Request Response Target Detail)

/-- What readiness finds out about the connection to the database. -/
inductive Connection where
  | open
  | missing
  | broken
  deriving DecidableEq, Repr

/-- A running server. -/
structure Server where
  settings : Settings
  logging : Logging
  directory : Option Directory
  connection : Connection
  world : World Database

namespace Server

/-- The logger of startup and shutdown. -/
def logger : String := "smp_directory.main"

/-- The counters that every server has. -/
def counterNames : List String :=
  [CardService.callCounter, CardService.errorCounter, CardService.successCounter, GroupService.callCounter,
    GroupService.successCounter]

/-! ## Startup and shutdown -/

/-- Connects to the database, creates its tables if that is wanted, builds the directory, and creates the first
user. -/
def prepare (s : Settings) (rounds : Nat) : Action Database Directory := do
  let _ ← EnginePlan.connect s.databaseUrl ⟨s.poolSize, s.maxOverflow⟩
  if s.createSchema then createSchema
  let directory ← Directory.build true s.addressing.name s.cardsEnabled rounds
  Directory.ensureBootstrapUser rounds s.bootstrapName s.bootstrapPassword
  Action.note { logger, level := .info, message := "SMP Directory API started (" ++ s.smpId ++ ")" }
  return directory

/-- Starts a server on a world. -/
def start (s : Settings) (rounds : Nat) (w : World Database) : Except Failure Server :=
  match Logging.initial.setup s.logLevel s.logFormat (some s.smpId) with
  | (some (.unknown text), _) => .error (.accident (.told .badValue (LevelFault.message (.unknown text))))
  | (some (.notLevel text), _) => .error (.accident (.told .badKind (LevelFault.message (.notLevel text))))
  | (none, logging) =>
    match (prepare s rounds).runOn w with
    | (.ok directory, w) => .ok ⟨s, logging, some directory, .open, w⟩
    | (.error f, _) => .error f

/-- Notes the end of a server. -/
def stop {σ : Type} : Action σ Unit := do
  Action.note { logger, level := .info, message := "SMP Directory API shutting down" }
  Action.note { logger := databaseLogger, level := .info, message := "Database engine disposed" }

/-! ## Resources without ids -/

/-- Whether the server is alive. -/
def liveness (s : Server) : Response :=
  .ok (.obj [("status", .str "alive"), ("service", .str "smp-directory"), ("version", .str "1.0.0"),
    ("smp_id", .str s.settings.smpId)])

/-- The state of the connection to the database. -/
def databaseCheck : Connection → Action Database String
  | .missing => return "not_initialized"
  | .open => return "ok"
  | .broken => do
    let w ← get
    Action.note (databaseRecord "OperationalError" "execute" (w.explain "OperationalError" .probe))
    Action.note
      { logger := databaseLogger, level := .error,
        message := "DB health check failed: " ++
          (Cause.databaseFailure "Connection or operational error" "execute").message }
    return "unavailable"

/-- Whether the server can work. -/
def readiness (s : Server) (r : Request) : Action Database Response := do
  let database ← databaseCheck s.connection
  let managers := if s.directory.isSome then "ok" else "not_initialized"
  let checks : Json := .obj [("database", .str database), ("managers", .str managers)]
  if database = "ok" ∧ managers = "ok" then
    return .ok (.obj [("status", .str "ready"), ("checks", checks)])
  else
    Action.note
      { logger := "smp_directory.api.routes.health", level := .warning,
        message := "Readiness check failed: " ++ checks.literal, context := { path := .str r.notedPath } }
    return ⟨503, some (.obj [("status", .str "not_ready"), ("checks", checks)]), []⟩

/-- The directory of the server, which must be there. -/
def requireDirectory (s : Server) : Action Database Directory :=
  Action.orFail (.initialization "SMP managers are not initialized") s.directory

/-- The settings of the directory and the number of its objects. -/
def status (s : Server) : Action Database Response := do
  let d ← s.requireDirectory
  let cards ← if d.cardsEnabled then some <$> Cards.count else pure none
  let users ← Users.count
  let groups ← Groups.count
  return .ok (.obj
    [("smp_id", .str s.settings.smpId), ("identifier_type", .str d.addressing.name),
      ("directory_integration_enabled", .bool d.cardsEnabled), ("user_count", .int users),
      ("service_group_count", .int groups),
      ("business_card_count", match cards with
        | some n => .int n
        | none => .null)])

/-- Counts by key as a document. -/
def countsJson (entries : List (String × Int)) : Json :=
  .obj (entries.map fun e => (e.1, .int e.2))

/-- All counters. -/
def statistics : Action Database Response := do
  let w ← get
  return .ok (.obj [("counters", .obj (w.tally.all.map fun c => (c.1, countsJson c.2)))])

/-- The counters of operations on cards. -/
def cardStatistics : Action Database Response := do
  let w ← get
  return .ok (.obj
    [("invocations", countsJson (w.tally.snapshot CardService.callCounter)),
      ("successes", countsJson (w.tally.snapshot CardService.successCounter)),
      ("errors", countsJson (w.tally.snapshot CardService.errorCounter))])

/-! ## Service groups and cards -/

/-- Why a request to a resource is not carried out: the response is settled, the request has violations, or the
operation failed. -/
inductive Refusal where
  | settled (response : Response)
  | violations (details : List Detail)
  | failed (f : Failure)

/-- A step of answering a request. -/
abbrev Step (α : Type) : Type :=
  ExceptT Refusal (StateM (World Database)) α

/-- An operation as a step. -/
def Step.ofAction {α : Type} (a : Action Database α) : Step α :=
  ExceptT.adapt .failed a

/-- The document of the body, null if there is none. A body of another kind is no object. -/
def readContent (r : Request) : Step (Option Json) :=
  match r.content with
  | .absent => return some .null
  | .document v => return some v
  | .malformed offset => throw (.violations [⟨"body." ++ Nat.repr offset, .badJson⟩])
  | .unread => return none
  | .unusable => throw (.settled .unreadableBody)

/-- The credentials of a request that may change something. -/
def readCredentials (r : Request) : Step (Option Credentials) :=
  match r.presented with
  | .nothing => return none
  | .unusable => throw (.settled .notAuthenticated)
  | .credentials c => return some c

/-- The value that a body describes. -/
def accept {α : Type} : Verdict α → Step α
  | .accepted a => return a
  | .refused vs => throw (.violations (Detail.ofViolations vs))

/-- The payload of the body of a request to store a card. -/
def cardPayload : Option Json → Step CardPayload
  | some .null => throw (.violations [⟨"body", .missing⟩])
  | some v => accept (CardPayload.decode v)
  | none => accept (.refuse (.notObject "BusinessCardPayload"))

/-- The extension in the body of a request to register a participant. -/
def groupExtension : Option Json → Step (Option String)
  | some .null => return none
  | some v => return (← accept (GroupRequest.decode v)).extension
  | none => accept (.refuse (.notObject "ServiceGroupCreate"))

/-- The document of a service group. -/
def groupDocument (g : ServiceGroup) : Action Database Json :=
  match GroupPayload.ofGroup g with
  | .ok p => return p.encode
  | .error vs => throw (.invalid vs)

/-- The document of an outcome. -/
def outcomeDocument (o : Outcome) : Json :=
  (StatusPayload.mk o.text).encode

/-- The collaborators for a request. -/
def collaborators (s : Server) (r : Request) : Action Database (Collaborators Database) := do
  return (← s.requireDirectory).collaborators (some r.address)

/-- Answers a request for a service group. -/
def getGroup (s : Server) (r : Request) (id : String) : Step Response := do
  Step.ofAction do
    let c ← s.collaborators r
    return .ok (← groupDocument (← GroupService.get c id))

/-- Answers a request to register a participant. -/
def putGroup (s : Server) (r : Request) (id : String) : Step Response := do
  let content ← readContent r
  let credentials ← readCredentials r
  let c ← Step.ofAction (s.collaborators r)
  let extension ← groupExtension content
  Step.ofAction do
    return ⟨201, some (← groupDocument (← GroupService.create c id credentials extension)), []⟩

/-- Answers a request to delete a registration. -/
def deleteGroup (s : Server) (r : Request) (id : String) : Step Response := do
  let credentials ← readCredentials r
  Step.ofAction do
    let c ← s.collaborators r
    return .ok (outcomeDocument (← GroupService.delete c id credentials))

/-- The response with the document of a payload, which is sent if its texts have bytes. What there is to say of a text
that has none is told nobody, and is left out. -/
def cardResponse (p : CardPayload) : Action Database Response :=
  if p.encode.isWhole then return .ok p.encode else throw (.accident ⟨.unencodable, []⟩)

/-- Answers a request for a card. -/
def getCard (s : Server) (r : Request) (id : String) : Step Response := do
  Step.ofAction do
    let c ← s.collaborators r
    cardResponse (← CardService.get c id)

/-- Answers a request to store a card. -/
def putCard (s : Server) (r : Request) (id : String) : Step Response := do
  let content ← readContent r
  let credentials ← readCredentials r
  let c ← Step.ofAction (s.collaborators r)
  let payload ← cardPayload content
  Step.ofAction do
    match ← CardService.create c id payload credentials with
    | .success => return .ok (outcomeDocument .success)
    | .failure =>
      throw (.fault
        { cause := .storeFailure CardOperation.create.name
          context := { operation := CardOperation.create.name, serviceGroupId := id } })

/-- Answers a request to delete a card. -/
def deleteCard (s : Server) (r : Request) (id : String) : Step Response := do
  let credentials ← readCredentials r
  Step.ofAction do
    let c ← s.collaborators r
    return .ok (outcomeDocument (← CardService.delete c id credentials))

/-! ## Answering requests -/

/-- The step of a method on a resource; none for a method that the resource has not. -/
def step? (s : Server) (r : Request) : Target → Option (Step Response)
  | .liveness => if r.method = "GET" then some (return s.liveness) else none
  | .readiness => if r.method = "GET" then some (Step.ofAction (s.readiness r)) else none
  | .status => if r.method = "GET" then some (Step.ofAction s.status) else none
  | .statistics => if r.method = "GET" then some (Step.ofAction statistics) else none
  | .cardStatistics => if r.method = "GET" then some (Step.ofAction cardStatistics) else none
  | .group id =>
    if r.method = "GET" then some (s.getGroup r id)
    else if r.method = "PUT" then some (s.putGroup r id)
    else if r.method = "DELETE" then some (s.deleteGroup r id)
    else none
  | .card id =>
    if r.method = "GET" then some (s.getCard r id)
    else if r.method = "PUT" then some (s.putCard r id)
    else if r.method = "DELETE" then some (s.deleteCard r id)
    else none

/-- Adds a record to the journal of a world. -/
def noted (record : Record) : StateM (World Database) Unit :=
  modify fun w => { w with journal := w.journal ++ [record] }

/-- The response to a refusal, which is noted. -/
def refuse (now : String) (r : Request) : Refusal → StateM (World Database) Response
  | .settled response => return response
  | .violations details => do
    noted (Response.detailsRecord r details)
    return .ofDetails details
  | .failed (.fault f) => do
    noted (Response.faultRecord r f)
    return .ofFault now f
  | .failed _ => do
    noted (Response.unexpectedRecord r)
    return .unexpected

/-- The response to a request; `now` stands for the moment of a fault. -/
def respond (s : Server) (now : String) (r : Request) : StateM (World Database) Response :=
  match Target.ofPath? r.path with
  | some target =>
    match s.step? r target with
    | none => return .methodNotAllowed
    | some step => do
      match ← ExceptT.run step with
      | .ok response => return response
      | .error refusal => refuse now r refusal
  | none =>
    match Target.nearby? r.path with
    | some other => return .redirect (r.addressOf other)
    | none => return .notFound

/-- Answers a request. -/
def handle (s : Server) (now : String) (r : Request) : Response × Server :=
  let (response, w) := (s.respond now r).run s.world
  (response, { s with world := w })

/-- Runs an operation on the world of a server. -/
def perform {α : Type} (s : Server) (a : Action Database α) : Except Failure α × Server :=
  let (answer, w) := a.runOn s.world
  (answer, { s with world := w })

end Server

end ParticipantDirectory
