import ParticipantDirectory.Service.Collaborators
import ParticipantDirectory.Service.Guard

/-!
# Operations on service groups

Reading, creating and deleting the registration of a participant. Each operation counts its call first, makes
its checks in a fixed order inside a reported block, and counts its success at the end.
-/

namespace ParticipantDirectory

/-- An operation on service groups. -/
inductive GroupOperation where
  | get
  | create
  | delete
  deriving DecidableEq, Repr

/-- The name under which an operation is noted and counted. -/
def GroupOperation.name : GroupOperation → String
  | get => "getServiceGroup"
  | create => "createServiceGroup"
  | delete => "deleteServiceGroup"

namespace GroupService

/-- The logger of the operations. -/
def logger : String := "smp_directory.services.service_group_api"

/-- What stands before every message. -/
def mark : String := "[ServiceGroup REST API] "

/-- The counters of calls and successes. -/
def callCounter : String := "ServiceGroupServerAPI$call"

@[inherit_doc callCounter]
def successCounter : String := "ServiceGroupServerAPI$success"

variable {σ : Type}

/-- The reported block of an operation. -/
def block (c : Collaborators σ) (operation : GroupOperation) (id : String) : Block :=
  ⟨mark, operation.name, id, c.requestUri⟩

/-- Notes and counts the call of an operation. -/
def begin (operation : GroupOperation) (request : String) : Action σ Unit := do
  Action.note { logger, level := .info, message := mark ++ request }
  Action.count callCounter operation.name

/-- Counts the success of an operation. -/
def succeed (operation : GroupOperation) : Action σ Unit :=
  Action.count successCounter operation.name

/-- The service group of the participant that an id names. -/
def get (c : Collaborators σ) (id : String) : Action σ ServiceGroup := do
  begin .get ("GET /servicegroup/" ++ id)
  let group ← (block c .get id).run do
    let p ← c.parse id
    c.requireGroup id p
  succeed .get
  return group

/-- Registers the participant that an id names. -/
def create (c : Collaborators σ) (id : String) (credentials : Option Credentials) (extension : Option String) :
    Action σ ServiceGroup := do
  begin .create ("PUT /servicegroup/" ++ id)
  let group ← (block c .create id).run do
    let p ← c.parse id
    let user ← c.authenticate credentials
    c.createGroup p user extension
  succeed .create
  return group

/-- Deletes the registration of the participant that an id names. -/
def delete (c : Collaborators σ) (id : String) (credentials : Option Credentials) : Action σ Outcome := do
  begin .delete ("DELETE /servicegroup/" ++ id)
  (block c .delete id).run do
    let p ← c.parse id
    let _ ← c.requireOwner p credentials
    if !(← c.deleteGroup p) then Action.fail (.unknownGroup id)
  succeed .delete
  return .success

end GroupService

end ParticipantDirectory
