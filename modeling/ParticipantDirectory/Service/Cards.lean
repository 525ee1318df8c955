import ParticipantDirectory.Card.Payload
import ParticipantDirectory.Service.Collaborators
import ParticipantDirectory.Service.Guard

/-!
# Operations on business cards

Reading, storing and deleting the card of a participant. Each operation counts its call first, makes its
checks in a fixed order inside a reported block, and counts its success or its failure at the end.
-/

namespace ParticipantDirectory

/-- An operation on business cards. -/
inductive CardOperation where
  | get
  | create
  | delete
  deriving DecidableEq, Repr

namespace CardOperation

/-- The name under which an operation is noted and counted. -/
def name : CardOperation → String
  | get => "getBusinessCard"
  | create => "createBusinessCard"
  | delete => "deleteBusinessCard"

/-- The operations. -/
def all : List CardOperation := [get, create, delete]

end CardOperation

namespace CardService

/-- The logger of the operations. -/
def logger : String := "smp_directory.services.business_card_api"

/-- What stands before every message. -/
def mark : String := "[BusinessCard REST API] "

/-- The counters of calls, successes and failures. -/
def callCounter : String := "BusinessCardServerAPI$call"

@[inherit_doc callCounter]
def successCounter : String := "BusinessCardServerAPI$success"

@[inherit_doc callCounter]
def errorCounter : String := "BusinessCardServerAPI$error"

variable {σ : Type}

/-- Notes what an operation does. -/
def note (level : Level) (operation : CardOperation) (id message : String) : Action σ Unit :=
  Action.note
    { logger, level, message := mark ++ message,
      context := { operation := .str operation.name, serviceGroupId := .str id } }

/-- The reported block of an operation. -/
def block (c : Collaborators σ) (operation : CardOperation) (id : String) : Block :=
  ⟨mark, operation.name, id, c.requestUri⟩

/-- Notes and counts the call of an operation. -/
def begin (operation : CardOperation) (id request : String) : Action σ Unit := do
  note .info operation id request
  Action.count callCounter operation.name

/-- Notes and counts the success of an operation. -/
def succeed (operation : CardOperation) (id message : String) : Action σ Unit := do
  note .info operation id message
  Action.count successCounter operation.name

/-- Fails unless a payload is for the participant. A payload identifier that the addressing rule does not
accept is reported as it was written. -/
def requireSameParticipant (c : Collaborators σ) (p : Identifier) (payload : CardPayload) : Action σ Unit := do
  let q := c.addressing.create? payload.participant.scheme payload.participant.value
  if q ≠ some p then
    Action.fail (.participantMismatch p.key (q.getD payload.participant).key)

/-- The card of the participant that an id names. -/
def get (c : Collaborators σ) (id : String) : Action σ CardPayload := do
  begin .get id ("GET /businesscard/" ++ id)
  let card ← (block c .get id).run do
    let p ← c.parse id
    let group ← c.requireGroup id p
    let store ← c.requireCards
    Action.orFail (.unknownCard id) (← store.ofGroup group)
  succeed .get id ("Finished getBusinessCard(" ++ id ++ ")")
  match CardPayload.ofCard card with
  | .ok payload => return payload
  | .error violations => throw (.invalid violations)

/-- Stores the card of the participant that an id names. -/
def create (c : Collaborators σ) (id : String) (payload : CardPayload) (credentials : Option Credentials) :
    Action σ Outcome := do
  begin .create id ("PUT /businesscard/" ++ id ++ " ==> " ++ payload.summary)
  let (group, store) ← (block c .create id).run do
    let p ← c.parse id
    requireSameParticipant c p payload
    let group ← c.requireGroup id p
    let _ ← c.requireOwner p credentials
    let store ← c.requireCards
    return (group, store)
  let entities ← payload.entities.mapM fun content => do
    return (⟨.issued (← Action.issue), content⟩ : StoredEntity)
  let finished := "Finished createBusinessCard(" ++ id ++ "," ++ payload.summary ++ ")"
  match ← store.put group entities with
  | none =>
    note .error .create id (finished ++ " - failure")
    Action.count errorCounter CardOperation.create.name
    return .failure
  | some _ =>
    succeed .create id (finished ++ " - success")
    return .success

/-- Deletes the card of the participant that an id names. The card is looked up under the participant's key, so
every spelling of the id finds it. -/
def delete (c : Collaborators σ) (id : String) (credentials : Option Credentials) : Action σ Outcome := do
  begin .delete id ("DELETE /businesscard/" ++ id)
  (block c .delete id).run do
    let p ← c.parse id
    let _ ← c.requireOwner p credentials
    let store ← c.requireCards
    let card ← Action.orFail (.unknownCard id) (← store.ofId p.key)
    let _ ← store.delete card
  succeed .delete id ("Finished deleteBusinessCard(" ++ id ++ ")")
  return .success

end CardService

end ParticipantDirectory
