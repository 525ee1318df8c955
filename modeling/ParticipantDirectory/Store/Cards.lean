import ParticipantDirectory.Store.Transaction

/-!
# Business cards in the database

A card is stored under the id of its service group. Storing replaces all its entities: an entity whose id
the card already had keeps its row under a new content and position, and every other is inserted anew.
-/

namespace ParticipantDirectory.Cards

/-- The logger of cards. -/
def logger : String := "smp_directory.services.business_card_manager"

/-- A row put before the first row of no smaller position. -/
def insertByPosition (r : EntityRow) : List EntityRow → List EntityRow
  | [] => [r]
  | s :: rest => if r.position ≤ s.position then r :: s :: rest else s :: insertByPosition r rest

/-- The rows of a card's entities in the order of their positions. -/
def entitiesOf (cardId : String) (rows : List EntityRow) : List EntityRow :=
  (rows.filter (·.cardId == cardId)).foldr insertByPosition []

/-- The row of a card and the rows of its entities, which are read only if the card exists. -/
def findRows (id : String) : Transaction (Option (CardRow × List EntityRow)) := do
  match (← Transaction.cards (.findCard id)).find? (·.id == id) with
  | none => return none
  | some card => return some (card, entitiesOf id (← Transaction.entities (.findEntities id)))

/-- The card of an id. -/
def findCard (id : String) : Transaction (Option BusinessCard) := do
  return (← findRows id).map fun r => r.1.toCard (r.2.map EntityRow.toStored)

/-- The rows of a card's new entities, with their positions. -/
def newRows (cardId : String) (entities : List StoredEntity) : List EntityRow :=
  entities.mapIdx fun i e => EntityRow.ofStored cardId i e

/-- The rows whose id no later row has. -/
def lastOfEachId : List EntityRow → List EntityRow
  | [] => []
  | r :: rest => if rest.any (·.id == r.id) then lastOfEachId rest else r :: lastOfEachId rest

/-- Adds the row of a card, unless it breaks a constraint of the table. -/
def insertRow (row : CardRow) : Transaction Unit := do
  let rows ← Transaction.cards (.addCard row)
  Transaction.refuseIf ((← get).constraints.cards.refuse CardRow.cell rows row) (.addCard row)
  modify fun db => { db with cards := some (rows ++ [row]) }

/-- Replaces the rows of a card's entities. A row with an id that the card had before stands in the place of the
old one; every other row is inserted. -/
def replaceRows (old new : List EntityRow) : Transaction Unit := do
  if old.isEmpty && new.isEmpty then return ()
  let inserted := new.filter fun r => !old.any (·.id == r.id)
  let rows ← Transaction.entities (.addEntities inserted)
  let others := rows.filter fun r => !old.any (·.id == r.id)
  Transaction.refuseIf (!(← get).constraints.entities.takes EntityRow.cell others inserted) (.addEntities inserted)
  modify fun db => { db with entities := some (others ++ lastOfEachId new) }

/-- Stores the entities of a service group's card, which is created if there is none. The answer says
whether it was created. -/
def putRows (group : ServiceGroup) (entities : List StoredEntity) : Transaction (Bool × BusinessCard) := do
  match ← findRows group.id with
  | some (card, old) =>
    replaceRows old (newRows card.id entities)
    return (false, card.toCard entities)
  | none =>
    let card : CardRow := ⟨group.id, group.participant.scheme, group.participant.value⟩
    insertRow card
    replaceRows [] (newRows card.id entities)
    return (true, card.toCard entities)

/-- Deletes a card and its entities. The answer says whether there was one. -/
def deleteRows (id : String) : Transaction Bool := do
  match ← findRows id with
  | none => return false
  | some (_, old) =>
    modify fun db => { db with cards := db.cards.map (·.filter (·.id != id)) }
    if !old.isEmpty then modify fun db => { db with entities := db.entities.map (·.filter (·.cardId != id)) }
    return true

/-- The card of an id. -/
def find? (id : String) : Action Database (Option BusinessCard) :=
  session (findCard id)

/-- The number of cards. -/
def count : Action Database Nat :=
  session (do return (← Transaction.cards .countCards).length)

/-- Stores the entities of a service group's card. What the database cannot do is noted, and there is no
card then. -/
def put (group : ServiceGroup) (entities : List StoredEntity) : Action Database (Option BusinessCard) := do
  let stored ← tryCatch (some <$> session (putRows group entities)) fun
    | .fault f => do
      Action.note
        { logger
          level := .error
          message := "Failed to store business card of " ++ group.id ++ ": " ++ f.cause.message
          context := { serviceGroupId := .str group.id, errorCode := f.cause.code } }
      return none
    | failure => throw failure
  match stored with
  | none => return none
  | some (created, card) =>
    Action.note
      { logger
        level := .info
        message := (if created then "Created" else "Updated") ++ " business card " ++ card.id ++ " with " ++
          Nat.repr card.entities.length ++ " entities"
        context := { serviceGroupId := .str card.id } }
    return some card

/-- Deletes a card. The answer says whether there was one. -/
def delete (card : BusinessCard) : Action Database Bool := do
  if ← session (deleteRows card.id) then
    Action.note
      { logger, level := .info, message := "Deleted business card " ++ card.id,
        context := { serviceGroupId := .str card.id } }
    return true
  else return false

end ParticipantDirectory.Cards
