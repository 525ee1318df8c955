import ParticipantDirectory.Calendar.Date
import ParticipantDirectory.Identifier.Basic
import ParticipantDirectory.Text.Loose

/-!
# Business entities

What a business card says about each business entity: its names in several languages, its country and
address, its other identifiers, websites and contacts. Websites are the only texts without a rule. A stored entity has
an id besides.
-/

namespace ParticipantDirectory

/-- A name of a business entity, with the code of its language. -/
structure PartyName where
  name : String
  language : Option String
  deriving DecidableEq, Repr

/-- Someone to be contacted at a business entity. -/
structure Contact where
  kind : Option String
  name : Option String
  phoneNumber : Option String
  email : Option String
  deriving DecidableEq, Repr

/-- The description of a business entity. -/
structure BusinessEntity where
  names : List PartyName
  countryCode : String
  geographicalInformation : Option String
  identifiers : List Identifier
  websites : List Text.Loose
  contacts : List Contact
  additionalInformation : Option String
  registrationDate : Option Calendar.Date
  deriving DecidableEq

/-- The id of a stored entity: drawn from a supply of fresh ids, given with the entity, or given as none. -/
inductive EntityId where
  | issued (n : Nat)
  | given (text : String)
  | absent
  deriving DecidableEq, Repr

/-- A business entity with its id. -/
structure StoredEntity where
  id : EntityId
  content : BusinessEntity
  deriving DecidableEq

/-- A business card: the described entities of a participant, under the id of its service group. -/
structure BusinessCard where
  id : String
  participant : Identifier
  entities : List StoredEntity
  deriving DecidableEq

/-- The document by which a business card is sent and received. -/
structure CardPayload where
  participant : Identifier
  entities : List BusinessEntity
  deriving DecidableEq

/-- A short description of a payload for the log. -/
def CardPayload.summary (p : CardPayload) : String :=
  "BusinessCard(" ++ p.participant.key ++ ", " ++ Nat.repr p.entities.length ++ " entities)"

end ParticipantDirectory
