import ParticipantDirectory.Group
import ParticipantDirectory.Identifier.Addressing
import ParticipantDirectory.World

/-!
# Collaborators

What the operations of the directory ask of others: to look up, create and delete service groups, to
authenticate users and verify owners, and to keep business cards. A directory without card support has
no store of cards.
-/

namespace ParticipantDirectory

/-- A store of business cards. -/
structure CardStore (σ : Type) where
  /-- The card of a service group. -/
  ofGroup : ServiceGroup → Action σ (Option BusinessCard)
  /-- The card of an id. -/
  ofId : String → Action σ (Option BusinessCard)
  /-- Stores the entities of a group's card; no card if that could not be done. -/
  put : ServiceGroup → List StoredEntity → Action σ (Option BusinessCard)
  /-- Deletes a card. -/
  delete : BusinessCard → Action σ Bool

/-- The collaborators of the operations of a directory. -/
structure Collaborators (σ : Type) where
  /-- The rule by which participants are named. -/
  addressing : Addressing
  /-- The service group of a participant. -/
  findGroup : Identifier → Action σ (Option ServiceGroup)
  /-- Registers a participant. -/
  createGroup : Identifier → User → Option String → Action σ ServiceGroup
  /-- Deletes a registration. -/
  deleteGroup : Identifier → Action σ Bool
  /-- The user who presents credentials. -/
  authenticate : Option Credentials → Action σ User
  /-- Fails unless a user owns the group of a participant. -/
  verifyOwner : Identifier → User → Action σ Unit
  /-- The store of cards. -/
  cards : Option (CardStore σ)
  /-- The address of the request. -/
  requestUri : Option String

namespace Collaborators

variable {σ : Type} (c : Collaborators σ)

/-- The participant that a raw id names. -/
def parse (raw : String) : Action σ Identifier :=
  Action.orFail (.invalidIdentifier raw) (c.addressing.parse? raw)

/-- The service group of a participant, which must exist; `raw` is its id as it was given. -/
def requireGroup (raw : String) (p : Identifier) : Action σ ServiceGroup := do
  Action.orFail (.unknownGroup raw) (← c.findGroup p)

/-- The store of cards, which must be there. -/
def requireCards : Action σ (CardStore σ) :=
  Action.orFail .featureNotSupported c.cards

/-- The user who presents credentials and owns the group of a participant. -/
def requireOwner (p : Identifier) (credentials : Option Credentials) : Action σ User := do
  let user ← c.authenticate credentials
  c.verifyOwner p user
  return user

end Collaborators

end ParticipantDirectory
