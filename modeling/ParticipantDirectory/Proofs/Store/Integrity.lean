import ParticipantDirectory.Proofs.Store.Tables
import ParticipantDirectory.Store.Groups

/-!
# The integrity of the tables

Nothing in the tables ties a row to the rows that it refers to; the writes of a directory do. `Tables.Linked`
says how the rows of groups, cards and entities hang together, `Tables.Integrity` that login names are distinct
besides, and `Tables.Numbered` that the ids of users can be owners and those of entities come from the numbers issued
so far. Each of the five writes preserves all three.
-/

namespace ParticipantDirectory

/-- An id that a service group has as its owner as it is: a text is in its written form, and it does not have the form
of a number, which the column of owners could not keep. -/
structure UserId.Storable (id : UserId) : Prop where
  written : ∀ text, id = .external text → Text.Uuid.canonical text = .ok text
  kept : id.storedNumber? = none

theorem UserId.storable_issued (k : Nat) : (issued k).Storable where
  written := fun _ h => by cases h
  kept := rfl

/-- An id that can be an owner is read from the row in which it stands. -/
theorem UserId.Storable.readable {id : UserId} (h : id.Storable) : id.readFault? = none := by
  cases id with
  | issued k => rfl
  | external text => simp only [readFault?, h.kept, h.written text rfl]

namespace Tables

/-- How the rows of a directory hang together. -/
structure Linked (t : Tables) : Prop where
  /-- The id of a service group is the key of its participant. -/
  groupKeys : ∀ g ∈ t.groups, g.id = Identifier.join g.scheme g.value
  groupIds : (t.groups.map (·.id)).Nodup
  /-- The owner of a service group is a user. -/
  owners : ∀ g ∈ t.groups, ∃ u ∈ t.users, u.id = g.owner
  cardIds : (t.cards.map (·.id)).Nodup
  /-- A card has the id and the participant of a service group. -/
  cardGroups : ∀ c ∈ t.cards, ∃ g ∈ t.groups, g.id = c.id ∧ g.scheme = c.scheme ∧ g.value = c.value
  /-- An entity belongs to a card. -/
  entityCards : ∀ e ∈ t.entities, ∃ c ∈ t.cards, c.id = e.cardId
  /-- The entities of a card have the positions from 0 on, without a gap or a repetition. -/
  positions : ∀ c ∈ t.cards, ((t.entities.filter (·.cardId == c.id)).map (·.position)).Perm
    (List.range (t.entities.filter (·.cardId == c.id)).length)

/-- The rows of a directory hang together, and login names are distinct. -/
structure Integrity (t : Tables) : Prop extends Linked t where
  loginNames : (t.users.map (·.loginName)).Nodup

/-- The ids of users can be owners, and those of entities are distinct numbers below `n`. -/
structure Numbered (t : Tables) (n : Nat) : Prop where
  users : ∀ u ∈ t.users, u.id.Storable
  entityIds : (t.entities.map (·.id)).Nodup
  entities : ∀ e ∈ t.entities, ∃ k < n, e.id = .issued k

/-- Entities that a card can be given: each has an id, no two have the same one, and no entity of another card has
one of them. The entities that the card has may have some of them. -/
structure Admits (t : Tables) (key : String) (entities : List StoredEntity) : Prop where
  identified : ∀ e ∈ entities, e.id ≠ .absent
  distinct : (entities.map (·.id)).Nodup
  unused : ∀ r ∈ t.entities, r.cardId ≠ key → ∀ e ∈ entities, r.id ≠ e.id

variable {t : Tables} {n m : Nat} {key : String}

theorem integrity_empty : empty.Integrity where
  groupKeys := fun _ h => by cases h
  groupIds := .nil
  owners := fun _ h => by cases h
  cardIds := .nil
  cardGroups := fun _ h => by cases h
  entityCards := fun _ h => by cases h
  positions := fun _ h => by cases h
  loginNames := .nil

theorem numbered_empty (n : Nat) : empty.Numbered n where
  users := fun _ h => by cases h
  entityIds := .nil
  entities := fun _ h => by cases h

/-- The owner of a group is read as it was stored. -/
theorem Linked.owner_storable (h : t.Linked) (hn : t.Numbered n) {g : GroupRow} (hg : g ∈ t.groups) :
    g.owner.Storable := by
  obtain ⟨u, hu, he⟩ := h.owners g hg
  rw [← he]
  exact hn.users u hu

/-- There is no entity of a card that does not exist. -/
theorem Linked.no_entity (h : t.Linked) (hc : t.card? key = none) : ∀ e ∈ t.entities, e.cardId ≠ key := by
  intro e he hk
  obtain ⟨c, hm, hi⟩ := h.entityCards e he
  exact no_card_of_card? hc c hm (hi.trans hk)

/-- There is no card of a group that does not exist. -/
theorem Linked.no_card (h : t.Linked) (hg : t.group? key = none) : t.card? key = none := by
  refine List.find?_eq_none.2 fun c hc he => ?_
  obtain ⟨g, hm, hi, -⟩ := h.cardGroups c hc
  exact no_group_of_group? hg g hm (hi.trans (eq_of_beq he))

/-- The entities of a card, read in order, have the positions from 0 on. -/
theorem Linked.positions_entitiesOf (h : t.Linked) {c : CardRow} (hc : c ∈ t.cards) :
    (t.entitiesOf c.id).map (·.position) = List.range (t.entitiesOf c.id).length := by
  have hp := Cards.perm_entitiesOf c.id t.entities
  have hs : ((t.entitiesOf c.id).map (·.position)).Pairwise (· ≤ ·) :=
    List.pairwise_map.2 (Cards.entitiesOf_sorted c.id t.entities)
  rw [show (t.entitiesOf c.id).length = (t.entities.filter (·.cardId == c.id)).length from hp.length_eq]
  exact List.Perm.eq_of_pairwise (fun _ _ _ _ => Nat.le_antisymm) hs List.pairwise_le_range
    ((hp.map _).trans (h.positions c hc))

/-! ## New rows -/

theorem Linked.addUser (h : t.Linked) (row : UserRow) : (t.addUser row).Linked :=
  { h with
    owners := fun g hg =>
      let ⟨u, hu, he⟩ := h.owners g hg
      ⟨u, List.mem_append_left _ hu, he⟩ }

theorem Integrity.addUser (h : t.Integrity) {row : UserRow} (hn : ∀ u ∈ t.users, u.loginName ≠ row.loginName) :
    (t.addUser row).Integrity :=
  { h.toLinked.addUser row with
    loginNames := by
      rw [Tables.addUser, List.map_append]
      refine List.nodup_append.2 ⟨h.loginNames, List.pairwise_singleton _ _, fun a ha b hb => ?_⟩
      obtain ⟨u, hu, rfl⟩ := List.mem_map.1 ha
      obtain rfl := List.mem_singleton.1 hb
      exact hn u hu }

theorem Numbered.addUser (h : t.Numbered n) {row : UserRow} (hr : row.id.Storable) :
    (t.addUser row).Numbered n :=
  { h with
    users := fun u hu => by
      rcases List.mem_append.1 hu with hu | hu
      · exact h.users u hu
      · obtain rfl := List.mem_singleton.1 hu
        exact hr }

theorem Linked.addGroup (h : t.Linked) {row : GroupRow} (hk : row.id = Identifier.join row.scheme row.value)
    (hn : t.group? row.id = none) (ho : ∃ u ∈ t.users, u.id = row.owner) : (t.addGroup row).Linked :=
  { h with
    groupKeys := fun g hg => by
      rcases List.mem_append.1 hg with hg | hg
      · exact h.groupKeys g hg
      · obtain rfl := List.mem_singleton.1 hg
        exact hk
    groupIds := by
      rw [Tables.addGroup, List.map_append]
      refine List.nodup_append.2 ⟨h.groupIds, List.pairwise_singleton _ _, fun a ha b hb => ?_⟩
      obtain ⟨g, hg, rfl⟩ := List.mem_map.1 ha
      obtain rfl := List.mem_singleton.1 hb
      exact no_group_of_group? hn g hg
    owners := fun g hg => by
      rcases List.mem_append.1 hg with hg | hg
      · exact h.owners g hg
      · obtain rfl := List.mem_singleton.1 hg
        exact ho
    cardGroups := fun c hc =>
      let ⟨g, hg, he⟩ := h.cardGroups c hc
      ⟨g, List.mem_append_left _ hg, he⟩ }

theorem Numbered.addGroup (h : t.Numbered n) (row : GroupRow) : (t.addGroup row).Numbered n :=
  { h with }

/-! ## Dropped rows -/

theorem Linked.dropCard (h : t.Linked) (key : String) : (t.dropCard key).Linked :=
  { h with
    cardIds := h.cardIds.sublist (List.filter_sublist.map _)
    cardGroups := fun c hc => h.cardGroups c (List.mem_filter.1 hc).1
    entityCards := fun e he => by
      obtain ⟨he, hk⟩ := List.mem_filter.1 he
      obtain ⟨c, hc, hi⟩ := h.entityCards e he
      exact ⟨c, List.mem_filter.2 ⟨hc, by rw [hi]; exact hk⟩, hi⟩
    positions := fun c hc => by
      obtain ⟨hc, hk⟩ := List.mem_filter.1 hc
      have he : (t.dropCard key).entities.filter (·.cardId == c.id) = t.entities.filter (·.cardId == c.id) :=
        filter_drop_of_ne (bne_iff_ne.1 hk).symm
      rw [he]
      exact h.positions c hc }

theorem Linked.dropGroup (h : t.Linked) (key : String) : (t.dropGroup key).Linked :=
  { h.dropCard key with
    groupKeys := fun g hg => h.groupKeys g (List.mem_filter.1 hg).1
    groupIds := h.groupIds.sublist (List.filter_sublist.map _)
    owners := fun g hg => h.owners g (List.mem_filter.1 hg).1
    cardGroups := fun c hc => by
      obtain ⟨hc, hk⟩ := List.mem_filter.1 hc
      obtain ⟨g, hg, hi, hp⟩ := h.cardGroups c hc
      exact ⟨g, List.mem_filter.2 ⟨hg, by rw [hi]; exact hk⟩, hi, hp⟩ }

theorem Numbered.dropCard (h : t.Numbered n) (key : String) : (t.dropCard key).Numbered n where
  users := h.users
  entityIds := h.entityIds.sublist (List.filter_sublist.map _)
  entities := fun e he => h.entities e (List.mem_filter.1 he).1

theorem Numbered.dropGroup (h : t.Numbered n) (key : String) : (t.dropGroup key).Numbered n :=
  { h.dropCard key with }

/-- Any card can be given entities with the numbers issued next. -/
theorem Numbered.admits (h : t.Numbered n) (key : String) (contents : List BusinessEntity) :
    t.Admits key (numbered n contents) where
  identified := fun e he => by
    obtain ⟨k, -, -, hi⟩ := id_of_mem_numbered he
    rw [hi]
    exact fun h => by cases h
  distinct := numbered_nodup n contents
  unused := fun r hr _ e he => by
    obtain ⟨k, hk, hi⟩ := h.entities r hr
    obtain ⟨j, hj, -, hi'⟩ := id_of_mem_numbered he
    rw [hi, hi']
    exact fun heq => absurd (EntityId.issued.inj heq) (by omega)

theorem Numbered.mono (h : t.Numbered n) (hm : n ≤ m) : t.Numbered m where
  users := h.users
  entityIds := h.entityIds
  entities := fun e he =>
    let ⟨k, hk, hi⟩ := h.entities e he
    ⟨k, Nat.lt_of_lt_of_le hk hm, hi⟩

/-! ## A card with other entities -/

theorem mem_cards_putCard {group : ServiceGroup} {entities : List StoredEntity} {c : CardRow}
    (hc : c ∈ (t.putCard group entities).cards) : c ∈ t.cards ∨ t.card? group.id = none ∧ c = cardRow group := by
  cases hk : t.card? group.id with
  | none =>
    rw [putCard, hk] at hc
    rcases List.mem_append.1 hc with hc | hc
    · exact .inl hc
    · exact .inr ⟨rfl, List.mem_singleton.1 hc⟩
  | some card =>
    rw [putCard, hk] at hc
    exact .inl hc

theorem cards_putCard_of_mem {group : ServiceGroup} (entities : List StoredEntity) {c : CardRow} (hc : c ∈ t.cards) :
    c ∈ (t.putCard group entities).cards := by
  rw [putCard]
  dsimp only
  split
  · exact hc
  · exact List.mem_append_left _ hc

theorem Linked.putCard (h : t.Linked) {g : GroupRow} (hg : g ∈ t.groups) (entities : List StoredEntity) :
    (t.putCard g.toGroup entities).Linked :=
  { h with
    cardIds := by
      cases hk : t.card? g.id with
      | some card =>
        rw [Tables.putCard, show t.card? g.toGroup.id = some card from hk]
        exact h.cardIds
      | none =>
        rw [Tables.putCard, show t.card? g.toGroup.id = none from hk]
        show ((t.cards ++ [cardRow g.toGroup]).map (·.id)).Nodup
        rw [List.map_append]
        refine List.nodup_append.2 ⟨h.cardIds, List.pairwise_singleton _ _, fun a ha b hb => ?_⟩
        obtain ⟨c, hc, rfl⟩ := List.mem_map.1 ha
        obtain rfl := List.mem_singleton.1 hb
        exact no_card_of_card? hk c hc
    cardGroups := fun c hc => by
      rcases mem_cards_putCard hc with hc | ⟨-, rfl⟩
      · exact h.cardGroups c hc
      · exact ⟨g, hg, rfl, rfl, rfl⟩
    entityCards := fun e he => by
      rcases List.mem_append.1 he with he | he
      · obtain ⟨c, hc, hi⟩ := h.entityCards e (List.mem_filter.1 he).1
        exact ⟨c, cards_putCard_of_mem entities hc, hi⟩
      · obtain ⟨hc, hi⟩ := mem_of_card? (card?_putCard g.toGroup entities)
        exact ⟨_, hc, hi.trans (Cards.cardId_of_mem_newRows he).symm⟩
    positions := fun c hc => by
      by_cases hk : g.id = c.id
      · have he := entities_putCard (t := t) g.toGroup entities
        rw [show g.toGroup.id = c.id from hk] at he
        rw [he, Cards.newRows_positions, Cards.length_newRows]
      · have hs := congrArg Share.entities (share_putCard_of_ne (t := t) entities (show g.toGroup.id ≠ c.id from hk))
        rw [show (t.putCard g.toGroup entities).entities.filter (·.cardId == c.id) =
          t.entities.filter (·.cardId == c.id) from hs]
        rcases mem_cards_putCard hc with hc | ⟨-, rfl⟩
        · exact h.positions c hc
        · exact absurd rfl hk }

/-- With the entities that the tables admit for a card, ids are still distinct. -/
theorem Admits.entityIds {group : ServiceGroup} {entities : List StoredEntity} (h : t.Admits group.id entities)
    (hk : (t.entities.map (·.id)).Nodup) : ((t.putCard group entities).entities.map (·.id)).Nodup := by
  rw [putCard, List.map_append, Cards.newRows_ids]
  refine List.nodup_append.2 ⟨hk.sublist (List.filter_sublist.map _), h.distinct, fun a ha b hb heq => ?_⟩
  obtain ⟨r, hr, rfl⟩ := List.mem_map.1 ha
  obtain ⟨e, he, rfl⟩ := List.mem_map.1 hb
  obtain ⟨hr, hne⟩ := List.mem_filter.1 hr
  exact h.unused r hr (bne_iff_ne.1 hne) e he heq

/-- New entities with new numbers. -/
theorem Numbered.putCard (h : t.Numbered n) (group : ServiceGroup) (contents : List BusinessEntity) :
    (t.putCard group (numbered n contents)).Numbered (n + contents.length) where
  users := h.users
  entityIds := (h.admits group.id contents).entityIds h.entityIds
  entities := fun e he => by
    rcases List.mem_append.1 he with he | he
    · obtain ⟨k, hk, hi⟩ := h.entities e (List.mem_filter.1 he).1
      exact ⟨k, by omega, hi⟩
    · have hm : e.id ∈ (numbered n contents).map (·.id) := by
        rw [← Cards.newRows_ids group.id]
        exact List.mem_map_of_mem he
      obtain ⟨s, hs, hi⟩ := List.mem_map.1 hm
      obtain ⟨k, -, hk, hi'⟩ := id_of_mem_numbered hs
      exact ⟨k, hk, hi.symm.trans hi'⟩

end Tables

end ParticipantDirectory
