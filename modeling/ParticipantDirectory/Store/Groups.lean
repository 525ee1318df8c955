import ParticipantDirectory.Store.Cards

/-!
# Service groups in the database

A service group is stored under the key of its participant, and its card under the same id. Reading a
group that exists reads its card as well, so it fails if the tables of cards or entities are needed and
missing. The id of its owner has to be read as well. Deleting a group deletes its card.
-/

namespace ParticipantDirectory.Groups

/-- The logger of service groups. -/
def logger : String := "smp_directory.services.service_group_manager"

/-- The row of a group; that of its card is read with it. -/
def findRow (id : String) : Transaction (Option GroupRow) := do
  match (← Transaction.groups (.findGroup id)).find? (·.id == id) with
  | none => return none
  | some row =>
    Transaction.readId row.owner
    let _ ← Cards.findRows id
    return some row

/-- The id under which an owner is stored: an id given as a text is brought into its written form. -/
def ownerId : UserId → Transaction UserId
  | .issued n => return .issued n
  | .external text =>
    match Text.Uuid.canonical text with
    | .ok t => return .external t
    | .error reason => throw (.failure (.accident (.told .badValue reason)))

/-- Adds a row, unless it breaks a constraint of the table. -/
def insertRow (row : GroupRow) : Transaction Unit := do
  let rows ← Transaction.groups (.addGroup row)
  Transaction.refuseIf ((← get).constraints.groups.refuse GroupRow.cell rows row) (.addGroup row)
  modify fun db => { db with groups := some (rows ++ [row]) }

/-- Registers a participant for an owner, unless it is registered already. -/
def register (p : Identifier) (owner : User) (extension : Option String) : Transaction GroupRow := do
  if (← findRow p.key).isSome then Transaction.fail (.groupExists p.key)
  let row : GroupRow := ⟨p.key, p.scheme, p.value, ← ownerId owner.id, extension⟩
  insertRow row
  return row

/-- Deletes the row of a group and its card. The answer says whether there was one. -/
def deleteRow (id : String) : Transaction Bool := do
  match ← findRow id with
  | none => return false
  | some _ =>
    let _ ← Cards.deleteRows id
    modify fun db => { db with groups := db.groups.map (·.filter (·.id != id)) }
    return true

/-- The group of a participant. -/
def find? (p : Identifier) : Action Database (Option ServiceGroup) :=
  session (do return (← findRow p.key).map GroupRow.toGroup)

/-- The number of groups. -/
def count : Action Database Nat :=
  session (do return (← Transaction.groups .countGroups).length)

/-- Registers a participant for an owner. -/
def create (p : Identifier) (owner : User) (extension : Option String) : Action Database ServiceGroup := do
  let row ← session (register p owner extension)
  Action.note
    { logger, level := .info, message := "Created service group " ++ p.key ++ " owned by " ++ owner.name,
      context := { serviceGroupId := .str p.key, userName := .str owner.name } }
  return row.toGroup

/-- Deletes the group of a participant. The answer says whether there was one. -/
def delete (p : Identifier) : Action Database Bool := do
  if ← session (deleteRow p.key) then
    Action.note
      { logger, level := .info, message := "Deleted service group " ++ p.key,
        context := { serviceGroupId := .str p.key } }
    return true
  else return false

/-- Fails unless the user owns the group of the participant. -/
def verifyOwner (p : Identifier) (user : User) : Action Database Unit := do
  session do
    match ← findRow p.key with
    | none => Transaction.fail (.unknownGroup p.key)
    | some row => if row.owner ≠ user.id then Transaction.fail (.notOwner user.name p.key)
  Action.note
    { logger := "smp_directory.services.user_manager", level := .debug,
      message := "Verified service group " ++ p.key ++ " is owned by " ++ user.name,
      context := { userName := .str user.name } }

end ParticipantDirectory.Groups
