import ParticipantDirectory.Card.Entity
import ParticipantDirectory.Text.Blank
import ParticipantDirectory.Verdict.Decode

/-!
# Card payloads

How the documents that describe business cards are read and written. `decode` reports every violation
of a document. `CardPayload.ofCard` builds the document of a stored card part by part, participant
first, then entity by entity, and stops at the first part that breaks a rule; of that part it reports
every violation.
-/

namespace ParticipantDirectory

open Verdict (required optional list nonemptyList)

namespace Identifier

/-- The rule for schemes. -/
def schemeRule : TextRule := .filled 100

/-- The rule for values. -/
def valueRule : TextRule := .filled 500

/-- The identifier of a document. -/
def decode : Json → Verdict Identifier :=
  Verdict.object "IdentifierPayload" fun ms =>
    mk <$> required "scheme" schemeRule.decode ms <*> required "value" valueRule.decode ms

/-- The verdict on an identifier. -/
def check (p : Identifier) : Verdict Identifier :=
  mk <$> (schemeRule.check p.scheme).under (.field "scheme") <*> (valueRule.check p.value).under (.field "value")

/-- The document of an identifier. -/
def encode (p : Identifier) : Json :=
  .obj [("scheme", .str p.scheme), ("value", .str p.value)]

end Identifier

namespace PartyName

/-- The rule for names as they are written. -/
def nameRule : TextRule := .filled 500

/-- The rule for language codes. -/
def languageRule : TextRule := .ofForm .lowerPair

/-- The verdict on a name that keeps its rule: it is trimmed and must not be blank. -/
def trimmed : Verdict String → Verdict String
  | .accepted s => if Text.trim s = "" then .refuse .blankName else .accepted (Text.trim s)
  | .refused vs => .refused vs

/-- The name of a document. -/
def decode : Json → Verdict PartyName :=
  Verdict.object "NamePayload" fun ms =>
    mk <$> required "name" (fun v => trimmed (nameRule.decode v)) ms <*>
      optional "language" none languageRule.decode? ms

/-- The verdict on a name. -/
def check (n : PartyName) : Verdict PartyName :=
  mk <$> (trimmed (nameRule.check n.name)).under (.field "name") <*>
    (languageRule.check? n.language).under (.field "language")

/-- The document of a name. -/
def encode (n : PartyName) : Json :=
  .obj [("name", .str n.name), ("language", .ofString? n.language)]

end PartyName

namespace Contact

/-- The rule for the kind and the phone number of a contact. -/
def shortRule : TextRule := .atMost 100

/-- The rule for the name and the address of a contact. -/
def longRule : TextRule := .atMost 200

/-- The contact of a document. -/
def decode : Json → Verdict Contact :=
  Verdict.object "ContactPayload" fun ms =>
    mk <$> optional "type" none shortRule.decode? ms <*> optional "name" none longRule.decode? ms <*>
      optional "phone_number" none shortRule.decode? ms <*> optional "email" none longRule.decode? ms

/-- The verdict on a contact. -/
def check (c : Contact) : Verdict Contact :=
  mk <$> (shortRule.check? c.kind).under (.field "type") <*> (longRule.check? c.name).under (.field "name") <*>
    (shortRule.check? c.phoneNumber).under (.field "phone_number") <*>
    (longRule.check? c.email).under (.field "email")

/-- The document of a contact. -/
def encode (c : Contact) : Json :=
  .obj [("type", .ofString? c.kind), ("name", .ofString? c.name), ("phone_number", .ofString? c.phoneNumber),
    ("email", .ofString? c.email)]

end Contact

/-- A date as a document, null if absent. -/
def Json.ofDate? : Option Calendar.Date → Json
  | none => .null
  | some d => .str d.render

namespace BusinessEntity

/-- The rule for country codes. -/
def countryRule : TextRule := .ofForm .upperPair

/-- The rule for the two free texts. -/
def informationRule : TextRule := .atMost 5000

/-- The business entity of a document. -/
def decode : Json → Verdict BusinessEntity :=
  Verdict.object "BusinessEntityPayload" fun ms =>
    mk <$> required "names" (nonemptyList PartyName.decode) ms <*>
      required "country_code" countryRule.decode ms <*>
      optional "geographical_information" none informationRule.decode? ms <*>
      optional "identifiers" [] (list Identifier.decode) ms <*>
      optional "websites" [] (list Verdict.anyText) ms <*>
      optional "contacts" [] (list Contact.decode) ms <*>
      optional "additional_information" none informationRule.decode? ms <*>
      optional "registration_date" none Verdict.date? ms

/-- The document of a business entity. -/
def encode (e : BusinessEntity) : Json :=
  .obj
    [("names", .arr (e.names.map PartyName.encode)), ("country_code", .str e.countryCode),
      ("geographical_information", .ofString? e.geographicalInformation),
      ("identifiers", .arr (e.identifiers.map Identifier.encode)), ("websites", .arr (e.websites.map .ofLoose)),
      ("contacts", .arr (e.contacts.map Contact.encode)),
      ("additional_information", .ofString? e.additionalInformation),
      ("registration_date", .ofDate? e.registrationDate)]

/-- The verdict on the own fields of an entity, its names, identifiers and contacts being settled. -/
def checkFields (e : BusinessEntity) : Verdict BusinessEntity :=
  (fun names country geographical additional =>
      { e with names, countryCode := country, geographicalInformation := geographical,
               additionalInformation := additional }) <$>
    (if e.names.isEmpty then .refuse (.listTooShort 1 0) else .accepted e.names : Verdict _).under (.field "names") <*>
    (countryRule.check e.countryCode).under (.field "country_code") <*>
    (informationRule.check? e.geographicalInformation).under (.field "geographical_information") <*>
    (informationRule.check? e.additionalInformation).under (.field "additional_information")

/-- The payload of a stored entity's content, built part by part: names, identifiers, contacts, then the
entity itself. -/
def ofStored (e : BusinessEntity) : Except (List Violation) BusinessEntity := do
  let names ← e.names.mapM fun n => n.check.toExcept
  let identifiers ← e.identifiers.mapM fun i => i.check.toExcept
  let contacts ← e.contacts.mapM fun c => c.check.toExcept
  ({ e with names, identifiers, contacts } : BusinessEntity).checkFields.toExcept

end BusinessEntity

namespace CardPayload

/-- The payload of a document. -/
def decode : Json → Verdict CardPayload :=
  Verdict.object "BusinessCardPayload" fun ms =>
    mk <$> required "participant_identifier" Identifier.decode ms <*>
      optional "business_entities" [] (list BusinessEntity.decode) ms

/-- The document of a payload. -/
def encode (p : CardPayload) : Json :=
  .obj [("participant_identifier", p.participant.encode), ("business_entities", .arr (p.entities.map BusinessEntity.encode))]

/-- The payload of a stored card, or the violations of its first part that breaks a rule. -/
def ofCard (c : BusinessCard) : Except (List Violation) CardPayload := do
  let participant ← c.participant.check.toExcept
  let entities ← c.entities.mapM fun e => e.content.ofStored
  return ⟨participant, entities⟩

end CardPayload

end ParticipantDirectory
