import ParticipantDirectory.Card.Payload
import ParticipantDirectory.Identifier.Addressing
import ParticipantDirectory.Proofs.Text.Trimmed
import ParticipantDirectory.Proofs.Verdict.Accepted

/-!
# Accepted payloads

The parts of a payload are checked when it is read, and again when the stored card is read back. Whatever the
first reading accepts, the second accepts unchanged: a name is trimmed already, and an identifier that an
addressing rule has normalized keeps the limits of its parts (`Identifier.check_of_create?`). So the payload of
a stored card is the one that was accepted, under its participant (`CardPayload.ofCard_of_accepted`).
-/

namespace ParticipantDirectory

open Verdict

theorem mapM_ok {ε α β : Type} {f : α → Except ε β} {g : α → β} {as : List α} (h : ∀ a ∈ as, f a = .ok (g a)) :
    as.mapM f = .ok (as.map g) := by
  induction as with
  | nil => rfl
  | cons a rest ih =>
    rw [List.mapM_cons, h a (List.mem_cons_self ..), ih fun b hb => h b (List.mem_cons_of_mem _ hb)]
    rfl

theorem mapM_same {ε α : Type} {f : α → Except ε α} {as : List α} (h : ∀ a ∈ as, f a = .ok a) :
    as.mapM f = .ok as :=
  (mapM_ok h).trans (congrArg Except.ok (List.map_id as))

/-! ## The parts of an entity -/

theorem optional_text_accepted {r : TextRule} {name : String} {ms : List (String × Json)} {o : Option String}
    (h : optional name none r.decode? ms = .accepted o) : r.check? o = .accepted o := by
  rcases optional_accepted h with rfl | ⟨_, h⟩
  · rfl
  · exact TextRule.decode?_accepted h

namespace Identifier

theorem check_accepted {p : Identifier} (hs : schemeRule.check p.scheme = .accepted p.scheme)
    (hv : valueRule.check p.value = .accepted p.value) : p.check = .accepted p := by
  rw [check, hs, hv]
  rfl

theorem parts_of_decode {v : Json} {p : Identifier} (h : decode v = .accepted p) :
    schemeRule.check p.scheme = .accepted p.scheme ∧ valueRule.check p.value = .accepted p.value := by
  obtain ⟨ms, h⟩ := object_accepted h
  obtain ⟨g, value, hg, hv, rfl⟩ := seq_accepted h
  obtain ⟨scheme, hs, rfl⟩ := map_accepted hg
  obtain ⟨_, hs⟩ := required_accepted hs
  obtain ⟨_, hv⟩ := required_accepted hv
  exact ⟨TextRule.decode_accepted hs, TextRule.decode_accepted hv⟩

theorem check_of_decode {v : Json} {p : Identifier} (h : decode v = .accepted p) : p.check = .accepted p :=
  check_accepted (parts_of_decode h).1 (parts_of_decode h).2

theorem length_pos {s : String} (h : s ≠ "") : 1 ≤ s.length :=
  Nat.pos_of_ne_zero fun he => h (String.length_eq_zero_iff.1 he)

/-- The participant of an accepted payload keeps the limits of identifiers after its parts are normalized. -/
theorem check_of_create? {v : Json} {q p : Identifier} {rule : Addressing} (h : decode v = .accepted q)
    (hp : rule.create? q.scheme q.value = some p) : p.check = .accepted p := by
  rw [Addressing.create?] at hp
  split at hp
  · rename_i ha
    cases hp
    obtain ⟨has, hav⟩ := (Bool.and_eq_true _ _).mp ha
    cases rule with
    | simple => exact check_of_decode h
    | peppol =>
      simp only [Addressing.acceptsScheme, Addressing.acceptsValue, Bool.and_eq_true, decide_eq_true_eq] at has hav
      obtain ⟨⟨hs, hsl⟩, -⟩ := has
      obtain ⟨⟨⟨hv, hvl⟩, -⟩, -⟩ := hav
      exact check_accepted (TextRule.filled_accepted (length_pos hs) (Nat.le_trans hsl (by decide)))
        (TextRule.filled_accepted (length_pos hv) (Nat.le_trans hvl (by decide)))
  · cases hp

end Identifier

namespace PartyName

/-- A name that was accepted is trimmed, so it is accepted again. -/
theorem trimmed_again {s : String} {v : Json} (h : trimmed (nameRule.decode v) = .accepted s) :
    trimmed (nameRule.check s) = .accepted s := by
  cases hd : nameRule.decode v with
  | refused vs => rw [hd] at h; cases h
  | accepted raw =>
    rw [hd, trimmed] at h
    split at h
    · cases h
    · rename_i hne
      cases h
      have hl := (TextRule.length_of_filled (TextRule.decode_accepted hd)).2
      have hc : nameRule.check (Text.trim raw) = .accepted (Text.trim raw) :=
        TextRule.filled_accepted (Identifier.length_pos hne) (Nat.le_trans (Text.length_trim_le raw) hl)
      rw [hc, trimmed, Text.trim_trim, if_neg hne]

theorem check_of_decode {v : Json} {n : PartyName} (h : decode v = .accepted n) : n.check = .accepted n := by
  obtain ⟨ms, h⟩ := object_accepted h
  obtain ⟨g, language, hg, hl, rfl⟩ := seq_accepted h
  obtain ⟨name, hn, rfl⟩ := map_accepted hg
  obtain ⟨_, hn⟩ := required_accepted hn
  rw [check, trimmed_again hn, optional_text_accepted hl]
  rfl

end PartyName

theorem Contact.check_of_decode {v : Json} {c : Contact} (h : Contact.decode v = .accepted c) :
    c.check = .accepted c := by
  obtain ⟨ms, h⟩ := object_accepted h
  obtain ⟨g₁, email, hg, he, e₁⟩ := seq_accepted h
  obtain ⟨g₂, phone, hg, hp, e₂⟩ := seq_accepted hg
  obtain ⟨g₃, name, hg, hn, e₃⟩ := seq_accepted hg
  obtain ⟨kind, hk, rfl⟩ := map_accepted hg
  subst e₃ e₂ e₁
  rw [Contact.check, optional_text_accepted hk, optional_text_accepted hn, optional_text_accepted hp,
    optional_text_accepted he]
  rfl

/-! ## Entities and cards -/

namespace BusinessEntity

/-- An entity that was accepted is read back as it is. -/
theorem ofStored_of_decode {v : Json} {e : BusinessEntity} (h : decode v = .accepted e) : e.ofStored = .ok e := by
  obtain ⟨ms, h⟩ := object_accepted h
  obtain ⟨g₁, date, hg, -, e₁⟩ := seq_accepted h
  obtain ⟨g₂, additional, hg, ha, e₂⟩ := seq_accepted hg
  obtain ⟨g₃, contacts, hg, hc, e₃⟩ := seq_accepted hg
  obtain ⟨g₄, websites, hg, -, e₄⟩ := seq_accepted hg
  obtain ⟨g₅, identifiers, hg, hi, e₅⟩ := seq_accepted hg
  obtain ⟨g₆, geographical, hg, hgeo, e₆⟩ := seq_accepted hg
  obtain ⟨g₇, country, hg, hco, e₇⟩ := seq_accepted hg
  obtain ⟨names, hn, rfl⟩ := map_accepted hg
  subst e₇ e₆ e₅ e₄ e₃ e₂ e₁
  obtain ⟨_, hn⟩ := required_accepted hn
  obtain ⟨_, hco⟩ := required_accepted hco
  obtain ⟨hne, hn⟩ := nonemptyList_accepted hn
  have hnames : names.mapM (fun n => n.check.toExcept) = .ok names :=
    mapM_same fun n hm => by
      obtain ⟨_, hd⟩ := hn n hm
      rw [PartyName.check_of_decode hd]
      rfl
  have hidentifiers : identifiers.mapM (fun i => i.check.toExcept) = .ok identifiers :=
    mapM_same fun i hm => by
      rcases optional_accepted hi with rfl | ⟨_, hi⟩
      · cases hm
      · obtain ⟨_, hd⟩ := list_accepted hi i hm
        rw [Identifier.check_of_decode hd]
        rfl
  have hcontacts : contacts.mapM (fun c => c.check.toExcept) = .ok contacts :=
    mapM_same fun c hm => by
      rcases optional_accepted hc with rfl | ⟨_, hc⟩
      · cases hm
      · obtain ⟨_, hd⟩ := list_accepted hc c hm
        rw [Contact.check_of_decode hd]
        rfl
  have hfields : (⟨names, country, geographical, identifiers, websites, contacts, additional, date⟩ :
      BusinessEntity).checkFields =
      .accepted ⟨names, country, geographical, identifiers, websites, contacts, additional, date⟩ := by
    rw [checkFields, TextRule.decode_accepted hco, optional_text_accepted hgeo, optional_text_accepted ha]
    cases names with
    | nil => exact absurd rfl hne
    | cons n rest => rfl
  rw [ofStored, hnames]
  show (identifiers.mapM (fun i => i.check.toExcept) >>= _) = _
  rw [hidentifiers]
  show (contacts.mapM (fun c => c.check.toExcept) >>= _) = _
  rw [hcontacts]
  show (⟨names, country, geographical, identifiers, websites, contacts, additional, date⟩ :
    BusinessEntity).checkFields.toExcept = _
  rw [hfields]
  rfl

end BusinessEntity

namespace CardPayload

/-- The payload of a stored card can be built from its parts as they are. -/
structure Readable (payload : CardPayload) : Prop where
  participant : payload.participant.check = .accepted payload.participant
  entities : ∀ e ∈ payload.entities, e.ofStored = .ok e

/-- The entities of an accepted payload are read back as they are. -/
theorem ofStored_of_accepted {v : Json} {payload : CardPayload} (h : decode v = .accepted payload) :
    ∀ e ∈ payload.entities, e.ofStored = .ok e := by
  intro e hm
  obtain ⟨ms, h⟩ := object_accepted h
  obtain ⟨g, entities, hg, he, rfl⟩ := seq_accepted h
  obtain ⟨participant, -, rfl⟩ := map_accepted hg
  rcases optional_accepted he with rfl | ⟨_, he⟩
  · cases hm
  · obtain ⟨_, hd⟩ := list_accepted he e hm
    exact BusinessEntity.ofStored_of_decode hd

/-- An accepted payload is readable under the participant that an addressing rule makes of its own. -/
theorem readable_of_accepted {v : Json} {payload : CardPayload} {rule : Addressing} {p : Identifier}
    (h : decode v = .accepted payload)
    (hp : rule.create? payload.participant.scheme payload.participant.value = some p) :
    Readable ⟨p, payload.entities⟩ := by
  have he : ∀ e ∈ payload.entities, e.ofStored = .ok e := ofStored_of_accepted h
  refine ⟨?_, he⟩
  obtain ⟨ms, h⟩ := object_accepted h
  obtain ⟨g, entities, hg, -, rfl⟩ := seq_accepted h
  obtain ⟨participant, hq, rfl⟩ := map_accepted hg
  obtain ⟨_, hq⟩ := required_accepted hq
  exact Identifier.check_of_create? hq hp

/-- A stored card is read back as what was stored. -/
theorem ofCard_of_readable {card : BusinessCard} {payload : CardPayload} (h : payload.Readable)
    (hp : card.participant = payload.participant) (he : card.entities.map (·.content) = payload.entities) :
    ofCard card = .ok payload := by
  have hm : card.entities.mapM (fun e => e.content.ofStored) = .ok payload.entities := by
    rw [← he]
    exact mapM_ok fun e hm => h.entities e.content (he ▸ List.mem_map_of_mem hm)
  rw [ofCard, hp, h.participant]
  show (card.entities.mapM (fun e => e.content.ofStored) >>= _) = _
  rw [hm]
  rfl

end CardPayload

end ParticipantDirectory
