import ParticipantDirectory.Decimal.Digits
import ParticipantDirectory.Fault
import ParticipantDirectory.Group
import ParticipantDirectory.Json.Access
import ParticipantDirectory.Text.Uuid

/-!
# Rows

The rows in which users, service groups, business cards and business entities are stored. The lists of an
entity are kept as JSON documents; `EntityRow.ofStored` and `EntityRow.toStored` turn an entity into its
row and back.
-/

namespace ParticipantDirectory

/-- The row of a user. -/
structure UserRow where
  id : UserId
  loginName : String
  passwordHash : String
  deriving DecidableEq, Repr

/-- The user of a row. -/
def UserRow.toUser (r : UserRow) : User :=
  ⟨r.id, r.loginName⟩

/-- The row of a service group. -/
structure GroupRow where
  id : String
  scheme : String
  value : String
  owner : UserId
  extension : Option String
  deriving DecidableEq, Repr

/-- The digits of an id that has the form of a number, as its mantissa and its exponent. -/
def numericForm? (digits : List Char) : Option (Nat × Nat) :=
  let mantissa := digits.takeWhile Char.isDigit
  if mantissa.isEmpty then none
  else
    match digits.dropWhile Char.isDigit with
    | [] => some (Decimal.ofDigits mantissa, 0)
    | 'e' :: exponent =>
      if !exponent.isEmpty && exponent.all Char.isDigit then
        some (Decimal.ofDigits mantissa, Decimal.ofDigits exponent)
      else none
    | _ => none

/-- Whether `mantissa · 10^exponent` is kept as a whole number of 64 bits. -/
def isStoredWhole (mantissa exponent : Nat) : Bool :=
  mantissa = 0 || (exponent < 20 && mantissa * Nat.pow 10 exponent < Nat.pow 2 63 - (if exponent = 0 then 0 else 512))

/-- What a column of user ids makes of an id: it holds numbers as far as it can, and an id in the form of one is
kept as a whole number or as another, whose kind is named. An id that is drawn is 128 bits by chance, and that these
give a number is left out. -/
def UserId.storedNumber? : UserId → Option String
  | .issued _ => none
  | .external text =>
    (numericForm? (text.toList.filter (· ≠ '-'))).map fun n => if isStoredWhole n.1 n.2 then "int" else "float"

/-- Why the id of a user cannot be read from a row: what is kept as a number is no text, and a text has to be that of an
id, which stands in rows in its written form. -/
def UserId.readFault? (id : UserId) : Option Accident :=
  match id.storedNumber? with
  | some kind => some (.told .missingMember ("'" ++ kind ++ "' object has no attribute 'replace'"))
  | none =>
    match id with
    | .issued _ => none
    | .external text =>
      match Text.Uuid.canonical text with
      | .ok _ => none
      | .error reason => some (.told .badValue reason)

/-- The service group of a row. -/
def GroupRow.toGroup (r : GroupRow) : ServiceGroup :=
  ⟨r.id, ⟨r.scheme, r.value⟩, r.owner, r.extension⟩

/-- The row of a business card. -/
structure CardRow where
  id : String
  scheme : String
  value : String
  deriving DecidableEq, Repr

/-- The card of a row with its entities. -/
def CardRow.toCard (r : CardRow) (entities : List StoredEntity) : BusinessCard :=
  ⟨r.id, ⟨r.scheme, r.value⟩, entities⟩

/-- The row of a business entity: the card that it belongs to, its position there, and its fields. -/
structure EntityRow where
  id : EntityId
  cardId : String
  position : Nat
  names : Json
  countryCode : String
  geographicalInformation : Option String
  identifiers : Json
  websites : Json
  contacts : Json
  additionalInformation : Option String
  registrationDate : Option Calendar.Date

/-- A name as a document. -/
def PartyName.toDocument (n : PartyName) : Json :=
  .obj [("name", .str n.name), ("language_code", .ofString? n.language)]

/-- The name of a document. -/
def PartyName.ofDocument (v : Json) : PartyName :=
  ⟨(v.member? "name").getD "", v.member? "language_code"⟩

/-- The identifier of a document. -/
def Identifier.ofDocument (v : Json) : Identifier :=
  ⟨(v.member? "scheme").getD "", (v.member? "value").getD ""⟩

/-- The contact of a document. -/
def Contact.ofDocument (v : Json) : Contact :=
  ⟨v.member? "type", v.member? "name", v.member? "phone_number", v.member? "email"⟩

namespace EntityRow

/-- The row of an entity at a position of a card. -/
def ofStored (cardId : String) (position : Nat) (e : StoredEntity) : EntityRow where
  id := e.id
  cardId := cardId
  position := position
  names := .arr (e.content.names.map PartyName.toDocument)
  countryCode := e.content.countryCode
  geographicalInformation := e.content.geographicalInformation
  identifiers := .arr (e.content.identifiers.map Identifier.encode)
  websites := .arr (e.content.websites.map .ofLoose)
  contacts := .arr (e.content.contacts.map Contact.encode)
  additionalInformation := e.content.additionalInformation
  registrationDate := e.content.registrationDate

/-- The entity of a row. -/
def toStored (r : EntityRow) : StoredEntity where
  id := r.id
  content :=
    { names := r.names.items.map PartyName.ofDocument
      countryCode := r.countryCode
      geographicalInformation := r.geographicalInformation
      identifiers := r.identifiers.items.map Identifier.ofDocument
      websites := r.websites.items.map fun v => v.loose?.getD ""
      contacts := r.contacts.items.map Contact.ofDocument
      additionalInformation := r.additionalInformation
      registrationDate := r.registrationDate }

end EntityRow

/-- A stored entity as a document with all its fields, without its id. -/
def StoredEntity.encode (e : StoredEntity) : Json :=
  .obj
    [("names", .arr (e.content.names.map PartyName.toDocument)), ("country_code", .str e.content.countryCode),
      ("geographical_information", .ofString? e.content.geographicalInformation),
      ("identifiers", .arr (e.content.identifiers.map Identifier.encode)),
      ("website_uris", .arr (e.content.websites.map .ofLoose)),
      ("contacts", .arr (e.content.contacts.map Contact.encode)),
      ("additional_information", .ofString? e.content.additionalInformation),
      ("registration_date", .ofDate? e.content.registrationDate)]

/-- A card as a document with the number of its entities. -/
def BusinessCard.encode (c : BusinessCard) : Json :=
  .obj
    [("id", .str c.id), ("participant_identifier", c.participant.encode),
      ("entities", .arr (c.entities.map StoredEntity.encode)), ("entity_count", .int c.entities.length)]

end ParticipantDirectory
