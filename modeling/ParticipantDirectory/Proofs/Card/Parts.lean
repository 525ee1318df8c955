import ParticipantDirectory.Proofs.Card.Conversions
import ParticipantDirectory.Proofs.Card.Grammar

/-!
# The parts of a card

A card is judged part by part: its participant, and of each entity the names, the other identifiers, the contacts, and
what it says itself. Each kind of part has limits of its own, which are said here in plain words (`CardPart.Fits`), and
the check of the part accounts for them as the grammar of the part's document does: it accepts the part, with a name
trimmed and everything else as it is, or reports all that is wrong with the part (`CardPart.Wrong`) in order.
-/

namespace ParticipantDirectory

open Verdict Grammar

/-- The text is two characters from `first` to `last`. -/
def IsPair (first last : Char) (s : String) : Prop :=
  ∃ a b, s.toList = [a, b] ∧ (first ≤ a ∧ a ≤ last) ∧ first ≤ b ∧ b ≤ last

/-- The name keeps the limits of names as they are written, before they are trimmed. -/
structure PartyName.WithinLimits (n : PartyName) : Prop where
  length : 1 ≤ n.name.length ∧ n.name.length ≤ 500
  visible : ∃ c ∈ n.name.toList, Text.isBlank c = false
  language : ∀ s ∈ n.language, IsPair 'a' 'z' s

/-- The contact keeps the limits of contacts. -/
structure Contact.WithinLimits (c : Contact) : Prop where
  kind : ∀ s ∈ c.kind, s.length ≤ 100
  name : ∀ s ∈ c.name, s.length ≤ 200
  phoneNumber : ∀ s ∈ c.phoneNumber, s.length ≤ 100
  email : ∀ s ∈ c.email, s.length ≤ 200

/-- The entity keeps the limits of its own fields, whatever its names, identifiers and contacts are. -/
structure BusinessEntity.WithinOwnLimits (e : BusinessEntity) : Prop where
  named : e.names ≠ []
  country : IsPair 'A' 'Z' e.countryCode
  geographical : ∀ s ∈ e.geographicalInformation, s.length ≤ 5000
  additional : ∀ s ∈ e.additionalInformation, s.length ≤ 5000

namespace Grammar

/-- Any value. -/
def anything : Grammar where
  right _ := True
  wrong _ _ := False

/-- The document of a business entity as far as the entity's own fields are concerned. -/
def ownFields : Grammar :=
  object "BusinessEntityPayload"
    [⟨"names", true, nonemptyListOf anything⟩, ⟨"country_code", true, letterPair 'A' 'Z' "^[A-Z]\x7b2\x7d$"⟩,
      ⟨"geographical_information", false, nullable (text 0 5000)⟩,
      ⟨"additional_information", false, nullable (text 0 5000)⟩]

end Grammar

/-- A part of a card that is judged on its own. Of an entity, that is what it says itself. -/
inductive CardPart where
  | identifier (p : Identifier)
  | name (n : PartyName)
  | contact (c : Contact)
  | entity (e : BusinessEntity)

namespace CardPart

/-- The part keeps its limits. -/
def Fits : CardPart → Prop
  | identifier p => p.WithinLimits
  | name n => n.WithinLimits
  | contact c => c.WithinLimits
  | entity e => e.WithinOwnLimits

/-- What is wrong with the part, at places in the part's own document. -/
def Wrong : CardPart → Violation → Prop
  | identifier p => Grammar.identifier.wrong p.encode
  | name n => partyName.wrong n.encode
  | contact c => Grammar.contact.wrong c.encode
  | entity e => ownFields.wrong e.encode

end CardPart

/-! ## Limits in words and in grammars -/

namespace Grammar

theorem right_object_iff {model : String} {fields : List Field} {members : List (String × Json)} :
    (object model fields).right (.obj members) ↔ ∀ f ∈ fields, f.Right members := by
  constructor
  · rintro ⟨_, ⟨⟩, hr⟩
    exact hr
  · exact fun hr => ⟨members, rfl, hr⟩

theorem Field.right_iff {name : String} {needed : Bool} {g : Grammar} {members : List (String × Json)} {v : Json}
    (hf : Json.findMember? name members = some v) : Right ⟨name, needed, g⟩ members ↔ g.right v := by
  rw [Right, hf]

theorem right_text_iff {least most : Nat} {s : String} :
    (text least most).right (.str s) ↔ least ≤ s.length ∧ s.length ≤ most := by
  constructor
  · rintro ⟨_, ⟨⟩, hs⟩
    exact hs
  · exact fun hs => ⟨s, rfl, hs⟩

theorem right_visible_iff {most : Nat} {s : String} :
    (visible most).right (.str s) ↔
      (1 ≤ s.length ∧ s.length ≤ most) ∧ ∃ c ∈ s.toList, Text.isBlank c = false := by
  refine and_congr right_text_iff ⟨?_, fun hs => ⟨s, rfl, hs⟩⟩
  rintro ⟨_, ⟨⟩, hs⟩
  exact hs

theorem right_letterPair_iff {first last : Char} {pattern s : String} :
    (letterPair first last pattern).right (.str s) ↔ IsPair first last s := by
  constructor
  · rintro ⟨_, a, b, ⟨⟩, h⟩
    exact ⟨a, b, h⟩
  · exact fun ⟨a, b, h⟩ => ⟨s, a, b, rfl, h⟩

theorem right_ofString?_iff {g : Grammar} {P : String → Prop} (h : ∀ s, g.right (.str s) ↔ P s) (o : Option String) :
    (nullable g).right (.ofString? o) ↔ ∀ s ∈ o, P s := by
  cases o with
  | none => exact iff_of_true (.inl rfl) fun _ hs => by cases hs
  | some s =>
    have hr : (nullable g).right (.str s) ↔ g.right (.str s) := or_iff_right fun he => by cases he
    refine hr.trans ((h s).trans ⟨?_, fun hs => hs s rfl⟩)
    rintro hs _ ⟨⟩
    exact hs

theorem right_short_iff {most : Nat} (o : Option String) :
    (nullable (text 0 most)).right (.ofString? o) ↔ ∀ s ∈ o, s.length ≤ most :=
  right_ofString?_iff (fun _ => right_text_iff.trans (and_iff_right (Nat.zero_le _))) o

end Grammar

theorem Identifier.withinLimits_iff (p : Identifier) : p.WithinLimits ↔ Grammar.identifier.right p.encode := by
  refine .trans ?_ right_object_iff.symm
  simp only [List.forall_mem_cons, List.not_mem_nil, false_imp_iff, implies_true, and_true]
  rw [Field.right_iff rfl, Field.right_iff rfl, right_text_iff, right_text_iff]
  exact ⟨fun h => ⟨h.scheme, h.value⟩, fun h => ⟨h.1, h.2⟩⟩

theorem PartyName.withinLimits_iff (n : PartyName) : n.WithinLimits ↔ partyName.right n.encode := by
  refine .trans ?_ right_object_iff.symm
  simp only [List.forall_mem_cons, List.not_mem_nil, false_imp_iff, implies_true, and_true]
  rw [Field.right_iff rfl, Field.right_iff rfl, right_visible_iff, right_ofString?_iff fun _ => right_letterPair_iff]
  exact ⟨fun h => ⟨⟨h.length, h.visible⟩, h.language⟩, fun h => ⟨h.1.1, h.1.2, h.2⟩⟩

theorem Contact.withinLimits_iff (c : Contact) : c.WithinLimits ↔ Grammar.contact.right c.encode := by
  refine .trans ?_ right_object_iff.symm
  simp only [List.forall_mem_cons, List.not_mem_nil, false_imp_iff, implies_true, and_true]
  rw [Field.right_iff rfl, Field.right_iff rfl, Field.right_iff rfl, Field.right_iff rfl, right_short_iff,
    right_short_iff, right_short_iff, right_short_iff]
  exact ⟨fun h => ⟨h.kind, h.name, h.phoneNumber, h.email⟩, fun h => ⟨h.1, h.2.1, h.2.2.1, h.2.2.2⟩⟩

theorem BusinessEntity.withinOwnLimits_iff (e : BusinessEntity) :
    e.WithinOwnLimits ↔ ownFields.right e.encode := by
  refine .trans ?_ right_object_iff.symm
  have hnames : (nonemptyListOf anything).right (.arr (e.names.map PartyName.encode)) ↔ e.names ≠ [] := by
    constructor
    · rintro ⟨_, ⟨⟩, hne, -⟩ he
      exact hne (congrArg _ he)
    · exact fun hne => ⟨_, rfl, fun he => hne (List.map_eq_nil_iff.1 he), fun _ _ => trivial⟩
  simp only [List.forall_mem_cons, List.not_mem_nil, false_imp_iff, implies_true, and_true]
  rw [Field.right_iff rfl, Field.right_iff rfl, Field.right_iff rfl, Field.right_iff rfl, hnames, right_letterPair_iff,
    right_short_iff, right_short_iff]
  exact ⟨fun h => ⟨h.named, h.country, h.geographical, h.additional⟩, fun h => ⟨h.1, h.2.1, h.2.2.1, h.2.2.2⟩⟩

/-! ## The checks of the parts -/

/-- The name without blanks around it. -/
def PartyName.tidied (n : PartyName) : PartyName :=
  { n with name := Text.trim n.name }

/-- The entity with its names trimmed. -/
def BusinessEntity.tidied (e : BusinessEntity) : BusinessEntity :=
  { e with names := e.names.map PartyName.tidied }

/-- The verdict accepts the part as the given value, or reports what is wrong with it. -/
structure CardPart.Judged {α : Type} (part : CardPart) (x : Verdict α) (a : α) : Prop where
  accounts : x.Accounts payloadFields part.Fits part.Wrong
  value : ∀ b, x = .accepted b → b = a

theorem Identifier.judged_check (p : Identifier) : (CardPart.identifier p).Judged p.check p := by
  refine ⟨(decode_obeys p.encode).congr p.withinLimits_iff fun _ => Iff.rfl, fun b hb => ?_⟩
  obtain ⟨g, value, hg, hv, rfl⟩ := seq_accepted hb
  obtain ⟨scheme, hs, rfl⟩ := map_accepted hg
  rw [(TextRule.check_accepted (under_accepted hs)).1, (TextRule.check_accepted (under_accepted hv)).1]

theorem PartyName.trimmed_accepted {s s' : String} (h : trimmed (nameRule.check s) = .accepted s') :
    s' = Text.trim s := by
  cases hc : nameRule.check s with
  | refused vs => rw [hc] at h; cases h
  | accepted raw =>
    rw [hc, trimmed, (TextRule.check_accepted hc).1] at h
    split at h
    · cases h
    · cases h
      rfl

theorem PartyName.judged_check (n : PartyName) : (CardPart.name n).Judged n.check n.tidied := by
  refine ⟨?_, fun b hb => ?_⟩
  · rw [← n.decode_encode]
    exact (decode_obeys n.encode).congr n.withinLimits_iff fun _ => Iff.rfl
  obtain ⟨g, language, hg, hl, rfl⟩ := seq_accepted hb
  obtain ⟨name, hn, rfl⟩ := map_accepted hg
  rw [trimmed_accepted (under_accepted hn), TextRule.check?_accepted (under_accepted hl)]
  rfl

theorem Contact.judged_check (c : Contact) : (CardPart.contact c).Judged c.check c := by
  refine ⟨?_, fun b hb => ?_⟩
  · rw [← c.decode_encode]
    exact (decode_obeys c.encode).congr c.withinLimits_iff fun _ => Iff.rfl
  obtain ⟨g₁, email, hg, he, e₁⟩ := seq_accepted hb
  obtain ⟨g₂, phoneNumber, hg, hp, e₂⟩ := seq_accepted hg
  obtain ⟨g₃, name, hg, hn, e₃⟩ := seq_accepted hg
  obtain ⟨kind, hk, rfl⟩ := map_accepted hg
  subst e₃ e₂ e₁
  rw [TextRule.check?_accepted (under_accepted hk), TextRule.check?_accepted (under_accepted hn),
    TextRule.check?_accepted (under_accepted hp), TextRule.check?_accepted (under_accepted he)]

namespace BusinessEntity

/-- The verdict on a list that must not be empty, of whose items nothing is asked. -/
theorem accounts_notEmpty {α : Type} {as : List α} {vs : List Json} (h : as.isEmpty = vs.isEmpty) :
    (if as.isEmpty then refuse (.listTooShort 1 0) else accepted as : Verdict (List α)).Accounts payloadFields
      ((nonemptyListOf anything).right (.arr vs)) ((nonemptyListOf anything).wrong (.arr vs)) := by
  rw [h]
  cases vs with
  | nil =>
    refine accounts_refused ?_ fun w => ⟨?_, fun hw => .inl ⟨rfl, hw⟩⟩
    · rintro ⟨_, ⟨⟩, hne, -⟩
      exact hne rfl
    · rintro (⟨-, hw⟩ | ⟨hk⟩ | ⟨hi, -⟩)
      · exact hw
      · exact absurd rfl (hk [])
      · cases hi
  | cons v rest =>
    refine accounts_accepted ⟨_, rfl, List.cons_ne_nil _ _, fun _ _ => trivial⟩ ?_
    rintro w (⟨he, -⟩ | ⟨hk⟩ | ⟨-, hw⟩)
    · cases he
    · exact hk _ rfl
    · exact hw

theorem checkFields_accepted {e b : BusinessEntity} (h : e.checkFields = .accepted b) : b = e := by
  obtain ⟨g₁, additional, hg, ha, e₁⟩ := seq_accepted h
  obtain ⟨g₂, geographical, hg, hgeo, e₂⟩ := seq_accepted hg
  obtain ⟨g₃, country, hg, hc, e₃⟩ := seq_accepted hg
  obtain ⟨names, hn, rfl⟩ := map_accepted hg
  subst e₃ e₂ e₁
  have hnames : names = e.names := by
    have hn := under_accepted hn
    split at hn
    · cases hn
    · exact (accepted.inj hn).symm
  rw [hnames, TextRule.check?_accepted (under_accepted ha), TextRule.check?_accepted (under_accepted hgeo),
    (TextRule.check_accepted (under_accepted hc)).1]

/-- The verdict on the own fields of an entity accounts for them in every document that says the same of them. -/
theorem accounts_ownFields {e : BusinessEntity} {members : List (String × Json)} {vs : List Json}
    (hnames : Json.findMember? "names" members = some (.arr vs)) (hsame : e.names.isEmpty = vs.isEmpty)
    (hcountry : Json.findMember? "country_code" members = some (.str e.countryCode))
    (hgeo : Json.findMember? "geographical_information" members = some (.ofString? e.geographicalInformation))
    (hadd : Json.findMember? "additional_information" members = some (.ofString? e.additionalInformation)) :
    e.checkFields.Accounts payloadFields (ownFields.right (.obj members)) (ownFields.wrong (.obj members)) := by
  have hpair := obeys_letterPair payloadFields .upperPair TextForm.upperPair_allows_iff (.str e.countryCode)
  have hinformation (o : Option String) :=
    informationRule.decode?_ofString? o ▸ obeys_decode? (obeys_text payloadFields 0 5000) (.ofString? o)
  have fields₁ := accounts_first (accounts_field_value true (accounts_notEmpty hsame) hnames)
    fun names country geographical additional =>
      ({ e with names, countryCode := country, geographicalInformation := geographical,
                additionalInformation := additional } : BusinessEntity)
  have fields₂ := accounts_next fields₁ (accounts_field_value true hpair hcountry) (by decide)
  have fields₃ := accounts_next fields₂ (accounts_field_value false (hinformation _) hgeo) (by decide)
  have fields₄ := accounts_next fields₃ (accounts_field_value false (hinformation _) hadd) (by decide)
  exact accounts_object fields₄ _

/-- The own fields of an entity are judged when its parts are settled already. That its names are trimmed by then does
not matter. -/
theorem judged_checkFields (e : BusinessEntity) : (CardPart.entity e).Judged e.tidied.checkFields e.tidied := by
  have hsame : e.tidied.names.isEmpty = (e.names.map PartyName.encode).isEmpty := by
    rw [tidied, List.isEmpty_map, List.isEmpty_map]
  have haccounts : e.tidied.checkFields.Accounts payloadFields (ownFields.right e.encode) (ownFields.wrong e.encode) :=
    accounts_ownFields rfl hsame rfl rfl rfl
  exact ⟨haccounts.congr e.withinOwnLimits_iff fun _ => Iff.rfl, fun _ hb => checkFields_accepted hb⟩

end BusinessEntity

end ParticipantDirectory
