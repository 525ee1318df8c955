import ParticipantDirectory.Proofs.Service.Steps

/-!
# Integrity after every run

From the empty schema every run of deeds, successful or not, ends in four tables whose rows hang together
(`integrity_after`). The invariant (`Kept`) says besides that the entities of every card, read by their positions,
are those that a call for its participant submitted, in the submitted order: `kept_step` is one deed, and
`kept_after` the induction over the run.
-/

namespace ParticipantDirectory

variable {done : List Deed} {key : String} {t t' : Tables} {n : Nat}

/-- The contents of the entities of a card, in the order of their positions. -/
def Tables.contents (t : Tables) (key : String) : List BusinessEntity :=
  (t.entitiesOf key).map fun r => r.toStored.content

/-- One of the deeds was a call to store a card with these contents for the participant of the key. -/
def Submitted (done : List Deed) (key : String) (contents : List BusinessEntity) : Prop :=
  ∃ (d : Directory) (uri : Option String) (id : String) (payload : CardPayload) (credentials : Option Credentials)
    (p : Identifier), .call d uri (.createCard id payload credentials) ∈ done ∧ d.addressing.parse? id = some p ∧
      p.key = key ∧ payload.entities = contents

theorem Submitted.more {contents : List BusinessEntity} (h : Submitted done key contents) (deed : Deed) :
    Submitted (done ++ [deed]) key contents := by
  obtain ⟨d, uri, id, payload, credentials, p, hm, h⟩ := h
  exact ⟨d, uri, id, payload, credentials, p, List.mem_append_left _ hm, h⟩

namespace Tables

theorem contents_of_share (h : t'.share key = t.share key) : t'.contents key = t.contents key := by
  rw [contents, contents, entitiesOf_of_share h]

/-- What is read of a card is what was stored. -/
theorem contents_putCard (group : ServiceGroup) (n : Nat) (contents : List BusinessEntity) :
    (t.putCard group (numbered n contents)).contents group.id = contents := by
  have h := congrArg (List.map StoredEntity.content)
    (Cards.toStored_newRows group.id (numbered n contents))
  rw [List.map_map, numbered_contents] at h
  rw [Tables.contents, entitiesOf_putCard]
  exact h

/-- There are at most as many cards as service groups. -/
theorem Linked.card_count_le (h : t.Linked) : t.cards.length ≤ t.groups.length := by
  have hsub : t.cards.map (·.id) ⊆ t.groups.map (·.id) := by
    intro id hid
    obtain ⟨c, hc, rfl⟩ := List.mem_map.1 hid
    obtain ⟨g, hg, hi, -⟩ := h.cardGroups c hc
    exact hi ▸ List.mem_map_of_mem hg
  have hle := h.cardIds.length_le_of_subset hsub
  rwa [List.length_map, List.length_map] at hle

/-- An entity has its card and its service group. -/
theorem Linked.entity_group (h : t.Linked) {e : EntityRow} (he : e ∈ t.entities) :
    (∃ c ∈ t.cards, c.id = e.cardId) ∧ ∃ g ∈ t.groups, g.id = e.cardId := by
  obtain ⟨c, hc, hi⟩ := h.entityCards e he
  obtain ⟨g, hg, hgi, -⟩ := h.cardGroups c hc
  exact ⟨⟨c, hc, hi⟩, g, hg, hgi.trans hi⟩

end Tables

/-- What is kept by every deed: the tables have integrity, and every card has the contents that were submitted. -/
structure Kept (done : List Deed) (w : World Database) (t : Tables) : Prop where
  state : w.state = t.database
  integrity : t.Integrity
  numbered : t.Numbered w.issued
  submitted : ∀ c ∈ t.cards, Submitted done c.id (t.contents c.id)

/-- Every card after a step has contents that were submitted, by this deed or by one before. -/
theorem Deed.Step.submitted {deed : Deed} {a : Answer} (h : deed.Step n t a t')
    (hs : ∀ c ∈ t.cards, Submitted done c.id (t.contents c.id)) :
    ∀ c ∈ t'.cards, Submitted (done ++ [deed]) c.id (t'.contents c.id) := by
  intro c hc
  cases h with
  | createUser => exact (hs c hc).more _
  | call h =>
    cases h with
    | asks | createGroup => exact (hs c hc).more _
    | deleteGroup =>
      obtain ⟨hc, hk⟩ := List.mem_filter.1 hc
      rw [Tables.contents_of_share (Tables.share_dropGroup_of_ne (bne_iff_ne.1 hk).symm)]
      exact (hs c hc).more _
    | deleteCard =>
      obtain ⟨hc, hk⟩ := List.mem_filter.1 hc
      rw [Tables.contents_of_share (Tables.share_dropCard_of_ne (bne_iff_ne.1 hk).symm)]
      exact (hs c hc).more _
    | @createCard id payload credentials p u g hp hq hu hg ho =>
      by_cases hk : g.toGroup.id = c.id
      · rw [← hk, Tables.contents_putCard]
        exact ⟨_, _, id, payload, credentials, p, List.mem_append_right _ (List.mem_singleton_self _), hp,
          (Tables.mem_of_group? hg).2.symm, rfl⟩
      · rw [Tables.contents_of_share (Tables.share_putCard_of_ne _ hk)]
        rcases Tables.mem_cards_putCard hc with hc | ⟨-, rfl⟩
        · exact (hs c hc).more _
        · exact absurd rfl hk

theorem kept_step {w : World Database} (h : Kept done w t) (deed : Deed) :
    ∃ t', Kept (done ++ [deed]) (deed.perform.runOn w).2 t' := by
  obtain ⟨t', w', e, hw, hn, hs⟩ := deed.run_database h.state h.integrity.toLinked h.numbered
  rw [e]
  refine ⟨t', ?_⟩
  cases hr : (deed.perform.runOn w).1 with
  | error f =>
    rw [hr] at hs
    cases hs
    exact ⟨hw, h.integrity, hn, fun c hc => (h.submitted c hc).more deed⟩
  | ok a =>
    rw [hr] at hs
    exact ⟨hw, hs.integrity h.integrity, hn, hs.submitted h.submitted⟩

/-- By induction over the run. -/
theorem kept_after (deeds : List Deed) (w : World Database) :
    ∃ t, Kept deeds (({ w with state := Database.fresh } : World Database).after deeds) t := by
  have h : Kept [] ({ w with state := Database.fresh } : World Database) .empty :=
    ⟨Tables.database_empty.symm, Tables.integrity_empty, Tables.numbered_empty _, fun _ hc => by cases hc⟩
  exact World.after_invariant (P := fun done w => ∃ t, Kept done w t) deeds ⟨_, h⟩
    fun _ deed _ ⟨_, h⟩ => kept_step h deed

/-- After every run of deeds from the empty schema the four tables have integrity; the entities of every card have
the positions from 0 on, and read by position they are what was submitted, in the submitted order; there are at
most as many cards as service groups, and no entity outlasts its card or its group. -/
theorem integrity_after (deeds : List Deed) (w : World Database) :
    ∃ t : Tables, (({ w with state := Database.fresh } : World Database).after deeds).state = t.database ∧
      t.Integrity ∧
      (∀ c ∈ t.cards, (t.entitiesOf c.id).map (·.position) = List.range (t.entitiesOf c.id).length ∧
        Submitted deeds c.id (t.contents c.id)) ∧
      t.cards.length ≤ t.groups.length ∧
      ∀ e ∈ t.entities, (∃ c ∈ t.cards, c.id = e.cardId) ∧ ∃ g ∈ t.groups, g.id = e.cardId := by
  obtain ⟨t, h⟩ := kept_after deeds w
  have hl := h.integrity.toLinked
  exact ⟨t, h.state, h.integrity, fun c hc => ⟨hl.positions_entitiesOf hc, h.submitted c hc⟩, hl.card_count_le,
    fun _ he => hl.entity_group he⟩

end ParticipantDirectory
