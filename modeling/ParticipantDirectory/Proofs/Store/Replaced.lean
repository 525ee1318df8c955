import ParticipantDirectory.Proofs.Store.Writes

/-!
# A card with other entities

Storing a card again replaces its entities: whichever ids the old and the new ones have in common, and in whichever
order, the table then has the rows of the new ones at the positions from 0 on, none of the old ones, and every other
row as before (`Tables.Replaces`, `card_replaced`). What the tables admit for a card they admit again
(`Tables.Admits.again`), and the last list that was stored counts (`Tables.putCard_putCard`).
-/

namespace ParticipantDirectory

open Action

variable {t : Tables} {group : ServiceGroup} {entities : List StoredEntity}

namespace Tables

/-- `t'` has a card with the given entities, and differs in nothing else from `t`, where the card may have had other
entities or may not have existed. -/
structure Replaces (t t' : Tables) (card : CardRow) (entities : List StoredEntity) : Prop where
  users : t'.users = t.users
  groups : t'.groups = t.groups
  /-- A card that exists is left as it is, and one that does not is added. -/
  cards : card ∈ t.cards ∧ t'.cards = t.cards ∨ t.card? card.id = none ∧ t'.cards = t.cards ++ [card]
  entities : t'.entities.filter (·.cardId == card.id) = entities.mapIdx fun i e => EntityRow.ofStored card.id i e
  others : t'.entities.filter (·.cardId != card.id) = t.entities.filter (·.cardId != card.id)

/-- The row of a group's card, whether it exists or is to be added. -/
def rowFor (t : Tables) (group : ServiceGroup) : CardRow :=
  (t.card? group.id).getD (cardRow group)

theorem rowFor_id (t : Tables) (group : ServiceGroup) : (t.rowFor group).id = group.id := by
  rw [rowFor]
  cases hc : t.card? group.id with
  | none => rfl
  | some card => exact (mem_of_card? hc).2

theorem others_putCard (t : Tables) (group : ServiceGroup) (entities : List StoredEntity) :
    (t.putCard group entities).entities.filter (·.cardId != group.id) = t.entities.filter (·.cardId != group.id) := by
  have hnew : (Cards.newRows group.id entities).filter (·.cardId != group.id) = [] :=
    List.filter_eq_nil_iff.2 fun r hr hne => bne_iff_ne.1 hne (Cards.cardId_of_mem_newRows hr)
  rw [putCard, List.filter_append, hnew, List.append_nil, List.filter_filter]
  simp only [Bool.and_self]

theorem rowFor_putCard (t : Tables) (group : ServiceGroup) (entities : List StoredEntity) :
    (t.putCard group entities).rowFor group = t.rowFor group := by
  rw [rowFor, card?_putCard]
  rfl

/-- Putting a card replaces its entities and nothing else. -/
theorem replaces_putCard (t : Tables) (group : ServiceGroup) (entities : List StoredEntity) :
    t.Replaces (t.putCard group entities) (t.rowFor group) entities where
  users := rfl
  groups := rfl
  cards := by
    rw [rowFor_id, rowFor, putCard]
    cases hc : t.card? group.id with
    | none => exact .inr ⟨rfl, rfl⟩
    | some card => exact .inl ⟨(mem_of_card? hc).1, rfl⟩
  entities := by
    rw [rowFor_id]
    exact entities_putCard group entities
  others := by
    rw [rowFor_id]
    exact others_putCard t group entities

/-- Of two lists of entities that are put for a card, the last one counts. -/
theorem putCard_putCard (t : Tables) (group : ServiceGroup) (entities others : List StoredEntity) :
    (t.putCard group others).putCard group entities = t.putCard group entities := by
  have hc : ((t.putCard group others).card? group.id).isSome = true := by rw [card?_putCard]; rfl
  rw [putCard, others_putCard, hc]
  rfl

/-- What the tables admit for a card they admit again after the card was stored with any entities. -/
theorem Admits.again (h : t.Admits group.id entities) (others : List StoredEntity) :
    (t.putCard group others).Admits group.id entities where
  identified := h.identified
  distinct := h.distinct
  unused := fun r hr hne => by
    rcases List.mem_append.1 hr with hr | hr
    · exact h.unused r (List.mem_filter.1 hr).1 hne
    · exact absurd (Cards.cardId_of_mem_newRows hr) hne

end Tables

namespace Cards

/-- Storing the entities that the tables admit for a card. -/
theorem runOn_put {w : World Database} (hk : (t.entities.map (·.id)).Nodup)
    (ho : t.card? group.id = none → ∀ e ∈ t.entities, e.cardId ≠ group.id) (ha : t.Admits group.id entities)
    (hw : w.state = t.database) :
    ∃ w', (put group entities).runOn w = (.ok (some ((t.rowFor group).toCard entities)), w') ∧
      w'.state = (t.putCard group entities).database := by
  obtain ⟨w', e, hs, -, -⟩ := (changes_put group entities).ends w
  rw [hw, stored_admitted hk ho ha] at e hs
  exact ⟨w', e, hs⟩

/-- A card is found with the entities with which it was put. -/
theorem runOn_find?_putCard {w : World Database} (hw : w.state = (t.putCard group entities).database) :
    ((find? group.id).runOn w).1 = .ok (some ((t.rowFor group).toCard entities)) := by
  obtain ⟨w', e, -⟩ := reads_find? group.id w
  rw [e, hw, findCard_answer, Tables.card?_putCard, Tables.entitiesOf_putCard, Option.map_some, toStored_newRows]
  rfl

end Cards

/-- A German entity of which only a name is known. -/
def plainEntity (id name : String) : StoredEntity :=
  ⟨.given id, ⟨[⟨name, none⟩], "DE", none, [], [], [], none, none⟩⟩

/-- The tables in which anna has two participants. -/
def annasGroups : Tables :=
  ⟨[⟨.issued 0, "anna", ""⟩], [⟨"a::b", "a", "b", .issued 0, none⟩, ⟨"c::d", "c", "d", .issued 0, none⟩], [], []⟩

/-- Both have a card, that of the first with three entities. -/
def annasCards : Tables :=
  (annasGroups.putCard ⟨"a::b", ⟨"a", "b"⟩, .issued 0, none⟩
    [plainEntity "u" "Acme", plainEntity "v" "Bolt", plainEntity "w" "Core"]).putCard
      ⟨"c::d", ⟨"c", "d"⟩, .issued 0, none⟩ [plainEntity "x" "Dome"]

theorem linked_annasGroups : annasGroups.Linked where
  groupKeys := by decide +kernel
  groupIds := by decide +kernel
  owners := by decide +kernel
  cardIds := .nil
  cardGroups := fun _ h => by cases h
  entityCards := fun _ h => by cases h
  positions := fun _ h => by cases h

end ParticipantDirectory
