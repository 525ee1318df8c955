import ParticipantDirectory.Proofs.Verdict.Plain

/-!
# The grammar of card payloads

Which documents describe a payload, and what is wrong with every other document, place by place. The reader of payloads
obeys the grammar (`CardPayload.decode_obeys`), and so do the readers of the parts of a payload. So a document is
accepted exactly if it is right, and of one that is not every violation is reported, each once and in order
(`every_violation_reported`).
-/

namespace ParticipantDirectory

open Verdict

namespace Grammar

/-- The document of an identifier. -/
def identifier : Grammar :=
  object "IdentifierPayload" [⟨"scheme", true, text 1 100⟩, ⟨"value", true, text 1 500⟩]

/-- The document of a name, with the code of its language. -/
def partyName : Grammar :=
  object "NamePayload" [⟨"name", true, visible 500⟩, ⟨"language", false, nullable (letterPair 'a' 'z' "^[a-z]\x7b2\x7d$")⟩]

/-- The document of a contact. -/
def contact : Grammar :=
  object "ContactPayload"
    [⟨"type", false, nullable (text 0 100)⟩, ⟨"name", false, nullable (text 0 200)⟩,
      ⟨"phone_number", false, nullable (text 0 100)⟩, ⟨"email", false, nullable (text 0 200)⟩]

/-- The document of a business entity. -/
def businessEntity : Grammar :=
  object "BusinessEntityPayload"
    [⟨"names", true, nonemptyListOf partyName⟩, ⟨"country_code", true, letterPair 'A' 'Z' "^[A-Z]\x7b2\x7d$"⟩,
      ⟨"geographical_information", false, nullable (text 0 5000)⟩, ⟨"identifiers", false, listOf identifier⟩,
      ⟨"websites", false, listOf anyText⟩, ⟨"contacts", false, listOf contact⟩,
      ⟨"additional_information", false, nullable (text 0 5000)⟩, ⟨"registration_date", false, nullable date⟩]

/-- The document of a card payload. -/
def cardPayload : Grammar :=
  object "BusinessCardPayload"
    [⟨"participant_identifier", true, identifier⟩, ⟨"business_entities", false, listOf businessEntity⟩]

/-- The fields of payloads in the order of their declaration. No two parts of a payload declare fields that they share
in different orders. -/
def payloadFields : List String :=
  ["participant_identifier", "business_entities", "names", "country_code", "geographical_information", "identifiers",
    "websites", "contacts", "additional_information", "registration_date", "scheme", "value", "type", "name", "language",
    "phone_number", "email"]

end Grammar

open Grammar

/-! ## Readers -/

theorem TextForm.lowerPair_allows_iff (c : Char) : lowerPair.allows c = true ↔ 'a' ≤ c ∧ c ≤ 'z' := by
  rw [allows, Bool.and_eq_true, decide_eq_true_eq, decide_eq_true_eq]

theorem TextForm.upperPair_allows_iff (c : Char) : upperPair.allows c = true ↔ 'A' ≤ c ∧ c ≤ 'Z' := by
  rw [allows, Bool.and_eq_true, decide_eq_true_eq, decide_eq_true_eq]

theorem Identifier.decode_obeys : identifier.Obeys payloadFields decode := by
  have hscheme := accounts_required (obeys_text payloadFields 1 100) "scheme"
  have hvalue := accounts_required (obeys_text payloadFields 1 500) "value"
  exact obeys_object ((hscheme.first mk).next hvalue (by decide)) _

theorem PartyName.decode_obeys : partyName.Obeys payloadFields decode := by
  have hname := accounts_required (obeys_visible payloadFields 500) "name"
  have hlanguage := accounts_optional
    (obeys_decode? (obeys_letterPair payloadFields .lowerPair TextForm.lowerPair_allows_iff)) "language" none
  exact obeys_object ((hname.first mk).next hlanguage (by decide)) _

theorem Contact.decode_obeys : contact.Obeys payloadFields decode := by
  have hshort := obeys_decode? (obeys_text payloadFields 0 100)
  have hlong := obeys_decode? (obeys_text payloadFields 0 200)
  have fields := (accounts_optional hshort "type" none).first mk
    |>.next (accounts_optional hlong "name" none) (by decide)
    |>.next (accounts_optional hshort "phone_number" none) (by decide)
    |>.next (accounts_optional hlong "email" none) (by decide)
  exact obeys_object fields _

theorem BusinessEntity.decode_obeys : businessEntity.Obeys payloadFields decode := by
  have hcountry := obeys_letterPair payloadFields .upperPair TextForm.upperPair_allows_iff
  have hinformation := obeys_decode? (obeys_text payloadFields 0 5000)
  have hdate := obeys_date? payloadFields
  have fields := (accounts_required (obeys_nonemptyList PartyName.decode_obeys) "names").first mk
    |>.next (accounts_required hcountry "country_code") (by decide)
    |>.next (accounts_optional hinformation "geographical_information" none) (by decide)
    |>.next (accounts_optional (obeys_list Identifier.decode_obeys) "identifiers" []) (by decide)
    |>.next (accounts_optional (obeys_list obeys_anyText) "websites" []) (by decide)
    |>.next (accounts_optional (obeys_list Contact.decode_obeys) "contacts" []) (by decide)
    |>.next (accounts_optional hinformation "additional_information" none) (by decide)
    |>.next (accounts_optional hdate "registration_date" none) (by decide)
  exact obeys_object fields _

theorem CardPayload.decode_obeys : cardPayload.Obeys payloadFields decode := by
  have hparticipant := accounts_required Identifier.decode_obeys "participant_identifier"
  have hentities := accounts_optional (obeys_list BusinessEntity.decode_obeys) "business_entities" []
  exact obeys_object ((hparticipant.first mk).next hentities (by decide)) _

/-- A document is accepted as a payload exactly if it is right. Of any other, everything that is wrong with it is
reported and nothing else, each place once and in the order of the document: fields as they are declared, items by their
indices, and parts of a part before what is declared after the part. Nothing is wrong with a document that is right, and
something with every other. -/
theorem every_violation_reported (x : Json) :
    ((∃ payload, CardPayload.decode x = .accepted payload) ↔ cardPayload.right x) ∧
    (∀ w, w ∈ (CardPayload.decode x).violations ↔ cardPayload.wrong x w) ∧
    (CardPayload.decode x).violations.Pairwise (Violation.Before payloadFields) ∧
    ((CardPayload.decode x).violations.map (·.path)).Nodup ∧
    (cardPayload.right x ↔ ∀ w, ¬cardPayload.wrong x w) := by
  have h := CardPayload.decode_obeys x
  exact ⟨h.accepts, h.lists, h.sorted, h.distinct (by decide), h.right_iff⟩

example : (CardPayload.decode (.obj [("business_entities", .arr [.obj [("country_code", "at"), ("names", .arr
    [.obj [("name", " \t")], .obj [("name", ""), ("language", .bool true)]])], .null])])).violations =
      [⟨[.field "participant_identifier"], .missing⟩,
        ⟨[.field "business_entities", .item 0, .field "names", .item 0, .field "name"], .blankName⟩,
        ⟨[.field "business_entities", .item 0, .field "names", .item 1, .field "name"], .textTooShort 1⟩,
        ⟨[.field "business_entities", .item 0, .field "names", .item 1, .field "language"], .notText⟩,
        ⟨[.field "business_entities", .item 0, .field "country_code"], .textPattern "^[A-Z]\x7b2\x7d$"⟩,
        ⟨[.field "business_entities", .item 1], .notObject "BusinessEntityPayload"⟩] := by
  decide +kernel

end ParticipantDirectory
