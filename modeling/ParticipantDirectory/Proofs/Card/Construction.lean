import ParticipantDirectory.Proofs.Card.Parts
import ParticipantDirectory.Proofs.Service.Calls

/-!
# Building the payload of a card

The payload of a card is built part by part: the participant, then entity by entity the names, the other identifiers,
the contacts, and what the entity says itself (`BusinessCard.parts`). The first part that does not fit ends it, and all
that is wrong with that part is reported and nothing else; if every part fits, the payload is the card with its names
trimmed (`Judges`).

A computation that builds one thing after the other judges the parts of the first and then the parts of the second
(`Judges.bind`), and one that builds things one by one judges the parts of each (`judges_mapM`). So entities judge their
parts, and cards the parts of theirs (`first_unfit_part_reported`).
-/

namespace ParticipantDirectory

open Verdict Grammar

/-- The parts of an entity, in the order in which they are judged. -/
def BusinessEntity.parts (e : BusinessEntity) : List CardPart :=
  e.names.map .name ++ e.identifiers.map .identifier ++ e.contacts.map .contact ++ [.entity e]

/-- The parts of a card, in the order in which they are judged. -/
def BusinessCard.parts (card : BusinessCard) : List CardPart :=
  .identifier card.participant :: card.entities.flatMap fun e => e.content.parts

namespace CardPart

variable {α β : Type}

/-- The violations are all that is wrong with the part, in order. -/
structure Reported (part : CardPart) (vs : List Violation) : Prop where
  some : vs ≠ []
  lists : ∀ w, w ∈ vs ↔ part.Wrong w
  sorted : vs.Pairwise (Violation.Before payloadFields)

/-- What is reported is all at different places. -/
theorem Reported.distinct {part : CardPart} {vs : List Violation} (h : part.Reported vs) :
    (vs.map (·.path)).Nodup := by
  rw [List.Nodup, List.pairwise_map]
  exact h.sorted.imp fun hb => hb.path_ne (by decide)

/-- The computation ends with the value if all parts fit, and otherwise with what is wrong with the first that does
not. -/
def Judges (x : Except (List Violation) α) (a : α) : List CardPart → Prop
  | [] => x = .ok a
  | part :: rest =>
    (part.Fits → Judges x a rest) ∧ (¬part.Fits → ∃ vs, x = .error vs ∧ part.Reported vs)

/-- The verdict on a part judges it. -/
theorem Judged.judges {part : CardPart} {x : Verdict α} {a : α} (h : part.Judged x a) :
    Judges x.toExcept a [part] := by
  refine ⟨fun hfits => ?_, fun hfits => ?_⟩
  · obtain ⟨b, rfl⟩ := h.accounts.accepts.2 hfits
    exact congrArg Except.ok (h.value b rfl)
  · have hrefused : ¬∃ b, x = .accepted b := fun ha => hfits (h.accounts.accepts.1 ha)
    cases x with
    | accepted b => exact absurd ⟨b, rfl⟩ hrefused
    | refused vs => exact ⟨vs, rfl, fun he => hrefused (h.accounts.refuses he), h.accounts.lists, h.accounts.sorted⟩

/-- The parts of what is built first are judged first. -/
theorem Judges.bind {x : Except (List Violation) α} {f : α → Except (List Violation) β} {a : α} {b : β}
    {parts parts' : List CardPart} (hx : Judges x a parts) (hf : Judges (f a) b parts') :
    Judges (x >>= f) b (parts ++ parts') := by
  induction parts with
  | nil =>
    obtain rfl : x = .ok a := hx
    exact hf
  | cons part rest ih =>
    refine ⟨fun hfits => ih (hx.1 hfits), fun hfits => ?_⟩
    obtain ⟨vs, rfl, hvs⟩ := hx.2 hfits
    exact ⟨vs, rfl, hvs⟩

/-- What follows without judging anything. -/
theorem Judges.bind_ok {x : Except (List Violation) α} {f : α → Except (List Violation) β} {a : α} {b : β}
    {parts : List CardPart} (hx : Judges x a parts) (hf : f a = .ok b) : Judges (x >>= f) b parts := by
  have h : Judges (x >>= f) b (parts ++ []) := hx.bind hf
  rwa [List.append_nil] at h

/-- Of a list, the parts of each item are judged, item by item. -/
theorem judges_mapM {f : α → Except (List Violation) β} {g : α → β} {parts : α → List CardPart}
    (h : ∀ a, Judges (f a) (g a) (parts a)) (as : List α) : Judges (as.mapM f) (as.map g) (as.flatMap parts) := by
  induction as with
  | nil => rfl
  | cons a rest ih =>
    rw [List.mapM_cons, List.flatMap_cons]
    exact (h a).bind (ih.bind_ok rfl)

/-- A list of which each item is a part. -/
theorem judges_each {check : α → Verdict β} {g : α → β} {part : α → CardPart}
    (h : ∀ a, (part a).Judged (check a) (g a)) (as : List α) :
    Judges (as.mapM fun a => (check a).toExcept) (as.map g) (as.map part) := by
  have hparts : as.map part = as.flatMap fun a => [part a] := List.map_eq_flatMap
  rw [hparts]
  exact judges_mapM (fun a => (h a).judges) as

/-- The first part that does not fit is reported; if there is none, the value is built. -/
theorem Judges.first {x : Except (List Violation) α} {a : α} {parts : List CardPart} (h : Judges x a parts) :
    ((∀ part ∈ parts, part.Fits) ∧ x = .ok a) ∨
      ∃ before part after vs, parts = before ++ part :: after ∧ (∀ p ∈ before, p.Fits) ∧ ¬part.Fits ∧
        x = .error vs ∧ part.Reported vs := by
  induction parts with
  | nil => exact .inl ⟨List.forall_mem_nil _, h⟩
  | cons part rest ih =>
    by_cases hfits : part.Fits
    · obtain ⟨hrest, hx⟩ | ⟨before, p, after, vs, rfl, hbefore, hp⟩ := ih (h.1 hfits)
      · exact .inl ⟨List.forall_mem_cons.2 ⟨hfits, hrest⟩, hx⟩
      · exact .inr ⟨part :: before, p, after, vs, rfl, List.forall_mem_cons.2 ⟨hfits, hbefore⟩, hp⟩
    · obtain ⟨vs, hx, hvs⟩ := h.2 hfits
      exact .inr ⟨[], part, rest, vs, rfl, List.forall_mem_nil _, hfits, hx, hvs⟩

end CardPart

open CardPart

/-! ## Entities and cards -/

theorem BusinessEntity.judges_ofStored (e : BusinessEntity) : Judges e.ofStored e.tidied e.parts := by
  have hnames := judges_each PartyName.judged_check e.names
  have hidentifiers := judges_each Identifier.judged_check e.identifiers
  have hcontacts := judges_each Contact.judged_check e.contacts
  rw [List.map_id'] at hidentifiers hcontacts
  rw [parts, List.append_assoc, List.append_assoc]
  exact hnames.bind (hidentifiers.bind (hcontacts.bind e.judged_checkFields.judges))

theorem CardPayload.judges_ofCard (card : BusinessCard) :
    Judges (ofCard card) ⟨card.participant, card.entities.map fun e => e.content.tidied⟩ card.parts := by
  have hentities := judges_mapM (fun e : StoredEntity => e.content.judges_ofStored) card.entities
  exact card.participant.judged_check.judges.bind (hentities.bind_ok rfl)

theorem BusinessCard.parts_fit_iff (card : BusinessCard) : (∀ part ∈ card.parts, part.Fits) ↔
    card.participant.WithinLimits ∧ ∀ e ∈ card.entities, ∀ part ∈ e.content.parts, part.Fits := by
  rw [parts, List.forall_mem_cons]
  refine and_congr_right fun _ => ⟨fun h e he part hpart => ?_, fun h part hpart => ?_⟩
  · exact h part (List.mem_flatMap.2 ⟨e, he, hpart⟩)
  · obtain ⟨e, he, hpart⟩ := List.mem_flatMap.1 hpart
    exact h e he part hpart

namespace CardPayload

/-- Entities that are given the next ids that are issued. -/
theorem exists_entities_of_contents (contents : List BusinessEntity) (w : World Database) :
    ∃ entities : List StoredEntity,
      (contents.mapM fun content => do
        return (⟨.issued (← Action.issue), content⟩ : StoredEntity) : Action Database _).runOn w =
          (.ok entities, { w with issued := w.issued + entities.length }) ∧
      entities.map (·.content) = contents ∧
      entities.map (·.id) = (List.range' w.issued entities.length).map .issued := by
  have hlength : (numbered w.issued contents).length = contents.length := by
    rw [← List.length_map (·.content), numbered_contents]
  refine ⟨numbered w.issued contents, ?_, numbered_contents .., ?_⟩
  · rw [runOn_issueAll, hlength]
  · rw [numbered_ids, hlength]

/-- A card, checked before or not, has a payload exactly if its participant and every part of every entity keep their
limits. The entities of the payload, given fresh ids, are those of the card in the same order with their names trimmed.
Otherwise the first part that does not keep its limits is reported: all that is wrong with it, each place once, in order
and as seen from the part, and nothing about any other part. -/
theorem first_unfit_part_reported (card : BusinessCard) :
    ((∃ payload, ofCard card = .ok payload) ↔
      card.participant.WithinLimits ∧ ∀ e ∈ card.entities, ∀ part ∈ e.content.parts, part.Fits) ∧
    (∀ payload, ofCard card = .ok payload →
      payload.participant = card.participant ∧
      ∀ w : World Database, ∃ entities : List StoredEntity,
        (payload.entities.mapM fun content => do
          return (⟨.issued (← Action.issue), content⟩ : StoredEntity) : Action Database _).runOn w =
            (.ok entities, { w with issued := w.issued + entities.length }) ∧
        entities.map (·.content) = card.entities.map (fun e => e.content.tidied) ∧
        entities.map (·.id) = (List.range' w.issued entities.length).map .issued) ∧
    (∀ vs, ofCard card = .error vs →
      vs ≠ [] ∧ vs.Pairwise (Violation.Before payloadFields) ∧ (vs.map (·.path)).Nodup ∧
      ∃ before part after, card.parts = before ++ part :: after ∧ (∀ p ∈ before, p.Fits) ∧ ¬part.Fits ∧
        ∀ w, w ∈ vs ↔ part.Wrong w) := by
  rw [← card.parts_fit_iff]
  obtain ⟨hfits, hok⟩ | ⟨before, part, after, vs, hparts, hbefore, hunfit, herror, hvs⟩ := (judges_ofCard card).first
  · refine ⟨⟨fun _ => hfits, fun _ => ⟨_, hok⟩⟩, fun payload h => ?_, fun vs h => ?_⟩
    · cases hok.symm.trans h
      exact ⟨rfl, fun w => exists_entities_of_contents _ w⟩
    · cases hok.symm.trans h
  · refine ⟨⟨fun ⟨payload, h⟩ => ?_, fun hfits => ?_⟩, fun payload h => ?_, fun vs' h => ?_⟩
    · cases herror.symm.trans h
    · exact absurd (hfits part (hparts ▸ List.mem_append_right _ (List.mem_cons_self ..))) hunfit
    · cases herror.symm.trans h
    · cases herror.symm.trans h
      exact ⟨hvs.some, hvs.sorted, hvs.distinct, before, part, after, hparts, hbefore, hunfit, hvs.lists⟩

/-- Of the second of two entities, the other identifiers are judged after the names and before the country, which is not
reported. The first entity alone makes a payload. -/
theorem first_unfit_part_reported_of_second_entity :
    let first : StoredEntity := ⟨.given "u", { acme with names := [⟨" Acme\t", some "en"⟩] }⟩
    let second : StoredEntity := ⟨.given "v", { acme with identifiers := [⟨"vat", "1"⟩, ⟨"", ""⟩], countryCode := "de" }⟩
    let both : BusinessCard := ⟨"a::b", ⟨"a", "b"⟩, [first, second]⟩
    let one : BusinessCard := ⟨"a::b", ⟨"a", "b"⟩, [first]⟩
    let violations : List Violation := [⟨[.field "scheme"], .textTooShort 1⟩, ⟨[.field "value"], .textTooShort 1⟩]
    (ofCard both = .error violations ∧
      ∃ before part after, both.parts = before ++ part :: after ∧ (∀ p ∈ before, p.Fits) ∧ ¬part.Fits ∧
        ∀ w, w ∈ violations ↔ part.Wrong w) ∧
    ofCard one = .ok ⟨⟨"a", "b"⟩, [{ acme with names := [⟨"Acme", some "en"⟩] }]⟩ ∧
      ∀ e ∈ one.entities, ∀ part ∈ e.content.parts, part.Fits := by
  intro first second both one violations
  have herror : ofCard both = .error violations := by decide +kernel
  have hok : ofCard one = .ok ⟨⟨"a", "b"⟩, [{ acme with names := [⟨"Acme", some "en"⟩] }]⟩ := by decide +kernel
  exact ⟨⟨herror, ((first_unfit_part_reported both).2.2 violations herror).2.2.2⟩, hok,
    ((first_unfit_part_reported one).1.1 ⟨_, hok⟩).2⟩

end CardPayload

end ParticipantDirectory
