import ParticipantDirectory.Proofs.Card.Encoded
import ParticipantDirectory.Proofs.Store.Entities

/-!
# Entities on their way to the rows and back

An entity comes as a document, is stored as a row, in which its lists are documents again with other names for some
members, and is sent as a document that is built from the row and checked once more. None of these steps loses or
changes anything: an entity is read from its row as it was, whether or not it was ever checked, and what was accepted
once is accepted again as it is, entity by entity (`BusinessEntity.accepted_again`) and as a card under any
identifier that keeps the limits of identifiers (`CardPayload.accepted_again`).
-/

namespace ParticipantDirectory

open Verdict

/-- The identifier keeps the limits of identifiers in documents. -/
structure Identifier.WithinLimits (p : Identifier) : Prop where
  scheme : 1 ≤ p.scheme.length ∧ p.scheme.length ≤ 100
  value : 1 ≤ p.value.length ∧ p.value.length ≤ 500

theorem Identifier.WithinLimits.check {p : Identifier} (h : p.WithinLimits) : p.check = .accepted p :=
  check_accepted (TextRule.filled_accepted h.scheme.1 h.scheme.2) (TextRule.filled_accepted h.value.1 h.value.2)

/-- What was accepted, stored in a row and read from it again is accepted as it is, and so is its own document. -/
theorem BusinessEntity.accepted_again {v : Json} {e : BusinessEntity} (h : decode v = .accepted e) (cardId : String)
    (position : Nat) (id : EntityId) :
    (EntityRow.ofStored cardId position ⟨id, e⟩).toStored.content.ofStored = .ok e ∧
      decode e.encode = .accepted e := by
  have hstored : e.ofStored = .ok e := ofStored_of_decode h
  refine ⟨?_, decode_encode (checked_of_ofStored hstored)⟩
  rw [EntityRow.toStored_ofStored]
  exact hstored

/-- A card with the entities of an accepted payload, whatever ids they have, has this payload under any identifier that
fits. -/
theorem CardPayload.accepted_again {v : Json} {payload : CardPayload} (h : decode v = .accepted payload)
    {p : Identifier} (hp : p.WithinLimits) (cardId : String) {entities : List StoredEntity}
    (he : entities.map (·.content) = payload.entities) :
    ofCard ⟨cardId, p, (Cards.newRows cardId entities).map EntityRow.toStored⟩ = .ok ⟨p, payload.entities⟩ := by
  have hkept : ∀ e ∈ payload.entities, e.ofStored = .ok e := ofStored_of_accepted h
  have hread : Readable ⟨p, payload.entities⟩ := ⟨hp.check, hkept⟩
  rw [Cards.toStored_newRows]
  exact ofCard_of_readable hread rfl he

/-- An entity is read from its row as it was, and the row keeps its place. An accepted entity that is stored with any id
and read again is accepted as it is, and so is its document. The payload of a card that is built from an accepted one,
with any ids, has the same entities in the same order under any identifier that fits. -/
theorem conversions_lose_nothing :
    (∀ (cardId : String) (position : Nat) (e : StoredEntity),
      let row := EntityRow.ofStored cardId position e
      row.toStored = e ∧ row.id = e.id ∧ row.cardId = cardId ∧ row.position = position) ∧
    (∀ (v : Json) (q : BusinessEntity), BusinessEntity.decode v = .accepted q →
      ∀ (cardId : String) (position : Nat) (id : EntityId),
        (EntityRow.ofStored cardId position ⟨id, q⟩).toStored.content.ofStored = .ok q ∧
          BusinessEntity.decode q.encode = .accepted q) ∧
    (∀ (v : Json) (payload : CardPayload), CardPayload.decode v = .accepted payload →
      ∀ (p : Identifier), p.WithinLimits →
        ∀ (cardId : String) (entities : List StoredEntity), entities.map (·.content) = payload.entities →
          CardPayload.ofCard ⟨cardId, p, entities⟩ = .ok ⟨p, payload.entities⟩ ∧
            CardPayload.ofCard ⟨cardId, p, (Cards.newRows cardId entities).map EntityRow.toStored⟩ =
              .ok ⟨p, payload.entities⟩) := by
  refine ⟨fun cardId position e => ⟨EntityRow.toStored_ofStored cardId position e, rfl, rfl, rfl⟩,
    fun v q hq cardId position id => BusinessEntity.accepted_again hq cardId position id,
    fun v payload h p hp cardId entities he => ?_⟩
  have hread := CardPayload.accepted_again h hp cardId he
  exact ⟨Cards.toStored_newRows cardId entities ▸ hread, hread⟩

/-- An entity of which everything is said. -/
def acme : BusinessEntity where
  names := [⟨"Acme", some "en"⟩, ⟨"Acme GmbH", none⟩]
  countryCode := "DE"
  geographicalInformation := some "Berlin"
  identifiers := [⟨"vat", "DE123"⟩, ⟨"duns", "456"⟩]
  websites := ["https://acme.example", ""]
  contacts := [⟨some "support", none, some "+49", none⟩, ⟨none, some "Eve", none, some "eve@acme.example"⟩]
  additionalInformation := some ""
  registrationDate := some ⟨2024, 2, 29, by decide⟩

/-- The document of this entity, with a name that is still to be trimmed. -/
def acmesDocument : Json :=
  .obj
    [("names", .arr [.obj [("name", " Acme "), ("language", "en")], .obj [("name", "Acme GmbH")]]),
      ("country_code", "DE"), ("geographical_information", "Berlin"),
      ("identifiers", .arr (acme.identifiers.map Identifier.encode)), ("websites", .arr (acme.websites.map .ofLoose)),
      ("contacts", .arr [.obj [("type", "support"), ("phone_number", "+49")],
        .obj [("name", "Eve"), ("email", "eve@acme.example")]]),
      ("additional_information", ""), ("registration_date", "2024-02-29")]

theorem conversions_lose_nothing_of_acme :
    let document : Json :=
      .obj [("participant_identifier", .obj [("scheme", "a"), ("value", "b")]), ("business_entities", .arr [acmesDocument])]
    (BusinessEntity.decode acmesDocument = .accepted acme ∧
      (EntityRow.ofStored "c::d" 1 ⟨.absent, acme⟩).toStored.content.ofStored = .ok acme) ∧
    CardPayload.decode document = .accepted ⟨⟨"a", "b"⟩, [acme]⟩ ∧ Identifier.WithinLimits ⟨"c", "d"⟩ ∧
      CardPayload.ofCard ⟨"c::d", ⟨"c", "d"⟩, [⟨.given "u", acme⟩]⟩ = .ok ⟨⟨"c", "d"⟩, [acme]⟩ := by
  intro document
  have hentity : BusinessEntity.decode acmesDocument = .accepted acme := by rfl
  have hcard : CardPayload.decode document = .accepted ⟨⟨"a", "b"⟩, [acme]⟩ := by rfl
  have hfits : Identifier.WithinLimits ⟨"c", "d"⟩ := ⟨by decide, by decide⟩
  exact ⟨⟨hentity, (conversions_lose_nothing.2.1 _ acme hentity "c::d" 1 .absent).1⟩, hcard, hfits,
    (conversions_lose_nothing.2.2 _ _ hcard _ hfits "c::d" [⟨.given "u", acme⟩] rfl).1⟩

end ParticipantDirectory
