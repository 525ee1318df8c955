import ParticipantDirectory.Proofs.Calendar.Rendered
import ParticipantDirectory.Proofs.Card.Accepted
import ParticipantDirectory.Proofs.Framework.Action
import ParticipantDirectory.Proofs.Json.Written

/-!
# Reading written payloads

The document of a part of a payload is read as its check says (`Identifier.decode_encode` and the like): writing loses
nothing that the rules look at, and what a check accepts it accepts unchanged. An entity that is read back from the
store as it is has only parts of which that is true (`BusinessEntity.Checked`), so the document of a readable payload
is accepted, and it is the payload that is read from it (`CardPayload.decode_encode`). Payloads that were accepted are
readable. The document of a payload can be told from its text (`CardPayload.textual_encode`), if all texts of the
payload are whole; otherwise it has no bytes (`CardPayload.isWhole_encode_iff`).
-/

namespace ParticipantDirectory

open Verdict

namespace Verdict

variable {α : Type} {read : Json → Verdict α} {name : String} {members : List (String × Json)} {v : Json} {a : α}

theorem required_of_find (hf : Json.findMember? name members = some v) (h : read v = .accepted a) :
    required name read members = .accepted a := by
  rw [required, hf]
  dsimp only
  rw [h]
  rfl

theorem optional_of_find {default : α} (hf : Json.findMember? name members = some v) (h : read v = .accepted a) :
    optional name default read members = .accepted a := by
  rw [optional, hf]
  dsimp only
  rw [h]
  rfl

/-- A text is read as it is, lone surrogates and all. -/
theorem anyText_ofLoose (t : Text.Loose) : anyText (.ofLoose t) = .accepted t := by
  rw [anyText, Json.loose?_ofLoose]

/-- The items of a written list are read one by one. -/
theorem list_of_map {write : α → Json} {as : List α} (h : ∀ a ∈ as, read (write a) = .accepted a) :
    list read (.arr (as.map write)) = .accepted as := by
  have hfrom : ∀ i, itemsFrom read i (as.map write) = .accepted as := by
    induction as with
    | nil => exact fun _ => rfl
    | cons a rest ih =>
      intro i
      rw [List.map_cons, itemsFrom, h a (List.mem_cons_self ..), ih fun b hb => h b (List.mem_cons_of_mem _ hb)]
      rfl
  exact hfrom 0

theorem nonemptyList_of_map {write : α → Json} {as : List α} (hne : as ≠ [])
    (h : ∀ a ∈ as, read (write a) = .accepted a) : nonemptyList read (.arr (as.map write)) = .accepted as := by
  cases as with
  | nil => exact absurd rfl hne
  | cons a rest => exact list_of_map h

theorem date?_ofDate? (o : Option Calendar.Date) : date? (.ofDate? o) = .accepted o := by
  cases o with
  | none => rfl
  | some d =>
    show date?.ofDate (Calendar.Date.ofString d.render) = _
    rw [d.ofString_render]
    rfl

end Verdict

/-- A rule accepts an optional text as it is or not at all. -/
theorem TextRule.check?_accepted {r : TextRule} {o o' : Option String} (h : r.check? o = .accepted o') : o' = o := by
  cases o with
  | none => cases h; rfl
  | some s =>
    obtain ⟨s', hs, rfl⟩ := map_accepted h
    exact congrArg some (check_accepted hs).1

/-- An optional text is read as its check says. -/
theorem TextRule.decode?_ofString? (r : TextRule) (o : Option String) : r.decode? (.ofString? o) = r.check? o := by
  cases o <;> rfl

/-! ## The parts of an entity -/

theorem Identifier.decode_encode (p : Identifier) : decode p.encode = p.check := rfl

theorem PartyName.decode_encode (n : PartyName) : decode n.encode = n.check := by
  obtain ⟨name, _ | language⟩ := n <;> rfl

theorem Contact.decode_encode (c : Contact) : decode c.encode = c.check := by
  obtain ⟨_ | kind, _ | name, _ | phoneNumber, _ | email⟩ := c <;> rfl

/-- What is mapped to itself is mapped so element by element. -/
theorem ok_of_mapM_same {ε α : Type} {f : α → Except ε α} {as : List α} (h : as.mapM f = .ok as) :
    ∀ a ∈ as, f a = .ok a := by
  induction as with
  | nil => exact fun _ hm => by cases hm
  | cons a rest ih =>
    rw [List.mapM_cons] at h
    obtain ⟨b, hb, h⟩ := ok_of_bind h
    obtain ⟨bs, hbs, h⟩ := ok_of_bind h
    cases h
    intro c hc
    rcases List.mem_cons.1 hc with rfl | hc
    · exact hb
    · exact ih hbs c hc

theorem accepted_of_toExcept {α : Type} {v : Verdict α} {a : α} (h : v.toExcept = .ok a) : v = .accepted a := by
  cases v with
  | accepted b => cases h; rfl
  | refused vs => cases h

namespace BusinessEntity

/-- Every part of the entity is accepted as it is. -/
structure Checked (e : BusinessEntity) : Prop where
  names : ∀ n ∈ e.names, n.check = .accepted n
  named : e.names ≠ []
  country : countryRule.check e.countryCode = .accepted e.countryCode
  geographical : informationRule.check? e.geographicalInformation = .accepted e.geographicalInformation
  identifiers : ∀ i ∈ e.identifiers, i.check = .accepted i
  contacts : ∀ c ∈ e.contacts, c.check = .accepted c
  additional : informationRule.check? e.additionalInformation = .accepted e.additionalInformation

theorem checked_of_ofStored {e : BusinessEntity} (h : e.ofStored = .ok e) : e.Checked := by
  obtain ⟨names, hn, h⟩ := ok_of_bind h
  obtain ⟨identifiers, hi, h⟩ := ok_of_bind h
  obtain ⟨contacts, hc, h⟩ := ok_of_bind h
  obtain ⟨g₁, additional, hfields, ha, he⟩ := seq_accepted (accepted_of_toExcept h)
  obtain ⟨g₂, geographical, hfields, hg, e₁⟩ := seq_accepted hfields
  obtain ⟨g₃, country, hfields, hco, e₂⟩ := seq_accepted hfields
  obtain ⟨names', hne, rfl⟩ := map_accepted hfields
  subst e₂ e₁
  have hnames : names' = e.names := congrArg BusinessEntity.names he
  obtain rfl : identifiers = e.identifiers := congrArg BusinessEntity.identifiers he
  obtain rfl : contacts = e.contacts := congrArg BusinessEntity.contacts he
  have hgeo := under_accepted hg
  have hadd := under_accepted ha
  have hcountry := TextRule.check_accepted (under_accepted hco)
  have hsame : names ≠ [] ∧ names' = names := by
    cases names with
    | nil => cases hne
    | cons n rest => exact ⟨List.cons_ne_nil _ _, by cases hne; rfl⟩
  obtain rfl : names = e.names := hsame.2.symm.trans hnames
  exact
    { names := fun n hm => accepted_of_toExcept (ok_of_mapM_same hn n hm)
      named := hsame.1
      country := hcountry.2
      geographical := by rw [hgeo, TextRule.check?_accepted hgeo]
      identifiers := fun i hm => accepted_of_toExcept (ok_of_mapM_same hi i hm)
      contacts := fun c hm => accepted_of_toExcept (ok_of_mapM_same hc c hm)
      additional := by rw [hadd, TextRule.check?_accepted hadd] }

theorem decode_encode {e : BusinessEntity} (h : e.Checked) : decode e.encode = .accepted e := by
  have hnames := nonemptyList_of_map h.named fun n hm => n.decode_encode.trans (h.names n hm)
  have hidentifiers := list_of_map fun i hm => (Identifier.decode_encode i).trans (h.identifiers i hm)
  have hwebsites := list_of_map fun t (_ : t ∈ e.websites) => anyText_ofLoose t
  have hcontacts := list_of_map fun c hm => (Contact.decode_encode c).trans (h.contacts c hm)
  rw [decode, encode, object, required_of_find rfl hnames, required_of_find rfl h.country,
    optional_of_find rfl ((informationRule.decode?_ofString? _).trans h.geographical),
    optional_of_find rfl hidentifiers, optional_of_find rfl hwebsites, optional_of_find rfl hcontacts,
    optional_of_find rfl ((informationRule.decode?_ofString? _).trans h.additional),
    optional_of_find rfl (date?_ofDate? e.registrationDate)]
  rfl

end BusinessEntity

namespace CardPayload

/-- The document of a readable payload is accepted, and the payload is what is read from it. -/
theorem decode_encode {payload : CardPayload} (h : payload.Readable) : decode payload.encode = .accepted payload := by
  have hentities := list_of_map fun e hm =>
    BusinessEntity.decode_encode (BusinessEntity.checked_of_ofStored (h.entities e hm))
  rw [decode, encode, object, required_of_find rfl (payload.participant.decode_encode.trans h.participant),
    optional_of_find rfl hentities]
  rfl

/-- An accepted payload is readable. -/
theorem readable_of_decode {v : Json} {payload : CardPayload} (h : decode v = .accepted payload) :
    payload.Readable := by
  refine ⟨?_, ofStored_of_accepted h⟩
  obtain ⟨ms, h⟩ := object_accepted h
  obtain ⟨g, entities, hg, -, rfl⟩ := seq_accepted h
  obtain ⟨participant, hq, rfl⟩ := map_accepted hg
  obtain ⟨_, hq⟩ := required_accepted hq
  exact Identifier.check_of_decode hq

/-- What is accepted, written and read again is accepted as it is. -/
theorem decode_encode_of_accepted {v : Json} {payload : CardPayload} (h : decode v = .accepted payload) :
    decode payload.encode = .accepted payload :=
  decode_encode (readable_of_decode h)

end CardPayload

/-! ## Texts of documents -/

namespace Json

theorem textual_ofString? (n : Nat) (o : Option String) : Textual n (.ofString? o) := by
  cases o with
  | none => exact .null n
  | some s => exact .str n s

theorem textual_ofDate? (n : Nat) (o : Option Calendar.Date) : Textual n (.ofDate? o) := by
  cases o with
  | none => exact .null n
  | some d => exact .str n d.render

theorem textual_items {α : Type} {write : α → Json} {n : Nat} {as : List α} (h : ∀ a ∈ as, Textual n (write a)) :
    Textual (n + 1) (.arr (as.map write)) := by
  refine .arr fun v hv => ?_
  obtain ⟨a, ha, rfl⟩ := List.mem_map.1 hv
  exact h a ha

theorem textual_map {α : Type} {write : α → Json} {n : Nat} (h : ∀ a, Textual n (write a)) (as : List α) :
    Textual (n + 1) (.arr (as.map write)) :=
  textual_items fun a _ => h a

theorem areWhole_iff (items : List Json) : areWhole items = true ↔ ∀ v ∈ items, v.isWhole = true := by
  induction items with
  | nil => simp [areWhole]
  | cons v rest ih => rw [areWhole, Bool.and_eq_true, ih, List.forall_mem_cons]

theorem haveWhole_iff (members : List (String × Json)) :
    haveWhole members = true ↔ ∀ m ∈ members, m.2.isWhole = true := by
  induction members with
  | nil => simp [haveWhole]
  | cons m rest ih => rw [haveWhole, Bool.and_eq_true, ih, List.forall_mem_cons]

/-- A document that can be told from its text is sent. By induction over the document. -/
theorem Textual.isWhole {n : Nat} {v : Json} (h : Textual n v) : v.isWhole = true := by
  induction h with
  | null n | bool n b | str n s => rfl
  | arr _ ih => exact (areWhole_iff _).2 ih
  | obj _ _ ih => exact (haveWhole_iff _).2 ih

end Json

open Json

theorem Identifier.textual_encode (n : Nat) (p : Identifier) : Textual (n + 1) p.encode := by
  refine .obj ?_ (by simp)
  simp only [List.forall_mem_cons]
  exact ⟨.str n _, .str n _, List.forall_mem_nil _⟩

theorem PartyName.textual_encode (n : Nat) (name : PartyName) : Textual (n + 1) name.encode := by
  refine .obj ?_ (by simp)
  simp only [List.forall_mem_cons]
  exact ⟨.str n _, textual_ofString? n _, List.forall_mem_nil _⟩

theorem Contact.textual_encode (n : Nat) (c : Contact) : Textual (n + 1) c.encode := by
  refine .obj ?_ (by simp)
  simp only [List.forall_mem_cons]
  exact ⟨textual_ofString? n _, textual_ofString? n _, textual_ofString? n _, textual_ofString? n _,
    List.forall_mem_nil _⟩

/-- The websites of an entity, to which no rule is applied, are whole texts. -/
def BusinessEntity.Whole (e : BusinessEntity) : Prop :=
  ∀ t ∈ e.websites, ∃ s, t = .whole s

/-- All texts of a payload are whole. -/
def CardPayload.Whole (payload : CardPayload) : Prop :=
  ∀ e ∈ payload.entities, e.Whole

theorem BusinessEntity.textual_encode (n : Nat) {e : BusinessEntity} (h : e.Whole) : Textual (n + 3) e.encode := by
  have hwebsites : Textual (n + 2) (.arr (e.websites.map .ofLoose)) := textual_items fun t ht => by
    obtain ⟨s, rfl⟩ := h t ht
    exact .str (n + 1) s
  refine .obj ?_ (by simp)
  simp only [List.forall_mem_cons]
  exact ⟨textual_map (PartyName.textual_encode n) _, .str _ _, textual_ofString? _ _,
    textual_map (Identifier.textual_encode n) _, hwebsites, textual_map (Contact.textual_encode n) _,
    textual_ofString? _ _, textual_ofDate? _ _, List.forall_mem_nil _⟩

theorem BusinessEntity.whole_of_encode {e : BusinessEntity} (h : e.encode.isWhole = true) : e.Whole := by
  intro t ht
  have hwebsites : (Json.arr (e.websites.map .ofLoose)).isWhole = true :=
    (haveWhole_iff _).1 h ("websites", .arr (e.websites.map .ofLoose)) (by simp)
  have hwhole := (areWhole_iff _).1 hwebsites _ (List.mem_map_of_mem ht)
  cases t with
  | whole s => exact ⟨s, rfl⟩
  | broken b => cases hwhole

namespace CardPayload

theorem textual_encode {payload : CardPayload} (h : payload.Whole) : Textual 5 payload.encode := by
  refine .obj ?_ (by simp)
  simp only [List.forall_mem_cons]
  exact ⟨payload.participant.textual_encode 3, textual_items fun e he => BusinessEntity.textual_encode 0 (h e he),
    List.forall_mem_nil _⟩

/-- The document of a payload has bytes exactly if all texts of the payload are whole. -/
theorem isWhole_encode_iff (payload : CardPayload) : payload.encode.isWhole = true ↔ payload.Whole := by
  refine ⟨fun h e he => ?_, fun h => (textual_encode h).isWhole⟩
  have hentities : (Json.arr (payload.entities.map BusinessEntity.encode)).isWhole = true :=
    (haveWhole_iff _).1 h ("business_entities", .arr (payload.entities.map BusinessEntity.encode)) (by simp)
  exact BusinessEntity.whole_of_encode ((areWhole_iff _).1 hentities _ (List.mem_map_of_mem he))

instance (payload : CardPayload) : Decidable payload.Whole :=
  decidable_of_iff _ payload.isWhole_encode_iff

end CardPayload

end ParticipantDirectory
