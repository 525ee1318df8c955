import ParticipantDirectory.Store.Cards

/-!
# The rows of entities

An entity is what its row says (`EntityRow.toStored_ofStored`). The rows of a card are those of the table that
belong to it (`mem_entitiesOf`), in the order of their positions (`entitiesOf_sorted`); new rows are written with
the positions from 0 on (`newRows_positions`), so they are read as they were written (`entitiesOf_newRows`).
-/

namespace ParticipantDirectory

theorem PartyName.ofDocument_toDocument (n : PartyName) : PartyName.ofDocument n.toDocument = n := by
  obtain ⟨name, _ | language⟩ := n <;> rfl

theorem Identifier.ofDocument_encode (p : Identifier) : Identifier.ofDocument p.encode = p := rfl

theorem Contact.ofDocument_encode (c : Contact) : Contact.ofDocument c.encode = c := by
  obtain ⟨_ | kind, _ | name, _ | phoneNumber, _ | email⟩ := c <;> rfl

/-- The row of an entity has all that there is to know about it. -/
theorem EntityRow.toStored_ofStored (cardId : String) (position : Nat) (e : StoredEntity) :
    (EntityRow.ofStored cardId position e).toStored = e := by
  have names : (e.content.names.map PartyName.toDocument).map PartyName.ofDocument = e.content.names := by
    rw [List.map_map]
    exact (List.map_congr_left fun n _ => PartyName.ofDocument_toDocument n).trans (List.map_id _)
  have identifiers : (e.content.identifiers.map Identifier.encode).map Identifier.ofDocument =
      e.content.identifiers := by
    rw [List.map_map]
    exact (List.map_congr_left fun p _ => Identifier.ofDocument_encode p).trans (List.map_id _)
  have websites : (e.content.websites.map Json.ofLoose).map (fun v => v.loose?.getD "") = e.content.websites := by
    rw [List.map_map]
    exact (List.map_congr_left fun t _ => congrArg (·.getD "") (Json.loose?_ofLoose t)).trans (List.map_id _)
  have contacts : (e.content.contacts.map Contact.encode).map Contact.ofDocument = e.content.contacts := by
    rw [List.map_map]
    exact (List.map_congr_left fun c _ => Contact.ofDocument_encode c).trans (List.map_id _)
  simp only [toStored, ofStored, Json.items, names, identifiers, websites, contacts]

/-! ## Numbered entities -/

/-- Entities with the numbers from `n` on. -/
def numbered (n : Nat) : List BusinessEntity → List StoredEntity
  | [] => []
  | content :: rest => ⟨.issued n, content⟩ :: numbered (n + 1) rest

theorem numbered_contents (n : Nat) (contents : List BusinessEntity) :
    (numbered n contents).map (·.content) = contents := by
  induction contents generalizing n with
  | nil => rfl
  | cons content rest ih => rw [numbered, List.map_cons, ih]

theorem numbered_ids (n : Nat) (contents : List BusinessEntity) :
    (numbered n contents).map (·.id) = (List.range' n contents.length).map .issued := by
  induction contents generalizing n with
  | nil => rfl
  | cons content rest ih => rw [numbered, List.map_cons, ih]; rfl

theorem numbered_nodup (n : Nat) (contents : List BusinessEntity) : ((numbered n contents).map (·.id)).Nodup := by
  rw [numbered_ids]
  exact List.pairwise_map.2 ((List.nodup_range' 1).imp fun h he => h (EntityId.issued.inj he))

theorem id_of_mem_numbered {n : Nat} {contents : List BusinessEntity} {e : StoredEntity}
    (he : e ∈ numbered n contents) : ∃ k, n ≤ k ∧ k < n + contents.length ∧ e.id = .issued k := by
  have h : e.id ∈ (List.range' n contents.length).map EntityId.issued := by
    rw [← numbered_ids]
    exact List.mem_map_of_mem he
  obtain ⟨k, hk, he⟩ := List.mem_map.1 h
  obtain ⟨h₁, h₂⟩ := List.mem_range'_1.1 hk
  exact ⟨k, h₁, h₂, he.symm⟩

namespace Cards

/-! ## New rows -/

theorem length_newRows (id : String) (entities : List StoredEntity) :
    (newRows id entities).length = entities.length :=
  List.length_mapIdx

theorem newRows_isEmpty (id : String) (entities : List StoredEntity) :
    (newRows id entities).isEmpty = entities.isEmpty := by
  rw [Bool.eq_iff_iff, List.isEmpty_iff, List.isEmpty_iff]
  exact List.mapIdx_eq_nil_iff

theorem mem_newRows (id : String) {entities : List StoredEntity} {e : StoredEntity} (he : e ∈ entities) :
    ∃ i, EntityRow.ofStored id i e ∈ newRows id entities := by
  obtain ⟨i, hi, rfl⟩ := List.mem_iff_getElem.1 he
  exact ⟨i, List.mem_mapIdx.2 ⟨i, hi, rfl⟩⟩

theorem cardId_of_mem_newRows {id : String} {entities : List StoredEntity} {r : EntityRow}
    (hr : r ∈ newRows id entities) : r.cardId = id := by
  obtain ⟨i, hi, rfl⟩ := List.mem_mapIdx.1 hr
  rfl

theorem exists_of_mem_newRows {id : String} {entities : List StoredEntity} {r : EntityRow}
    (hr : r ∈ newRows id entities) : ∃ e ∈ entities, r.id = e.id := by
  obtain ⟨i, hi, rfl⟩ := List.mem_mapIdx.1 hr
  exact ⟨entities[i], List.getElem_mem hi, rfl⟩

/-- The new rows, as they are read. -/
theorem toStored_newRows (id : String) (entities : List StoredEntity) :
    (newRows id entities).map EntityRow.toStored = entities := by
  apply List.ext_getElem
  · rw [List.length_map, newRows, List.length_mapIdx]
  · intro i h h'
    rw [List.getElem_map]
    simp only [newRows, List.getElem_mapIdx, EntityRow.toStored_ofStored]

theorem newRows_ids (id : String) (entities : List StoredEntity) :
    (newRows id entities).map (·.id) = entities.map (·.id) := by
  apply List.ext_getElem
  · rw [List.length_map, newRows, List.length_mapIdx, List.length_map]
  · intro i h h'
    rw [List.getElem_map, List.getElem_map]
    simp only [newRows, List.getElem_mapIdx, EntityRow.ofStored]

/-- New rows have the positions from 0 on. -/
theorem newRows_positions (id : String) (entities : List StoredEntity) :
    (newRows id entities).map (·.position) = List.range entities.length := by
  apply List.ext_getElem
  · rw [List.length_map, newRows, List.length_mapIdx, List.length_range]
  · intro i h h'
    rw [List.getElem_map, List.getElem_range]
    simp only [newRows, List.getElem_mapIdx, EntityRow.ofStored]

theorem newRows_sorted (id : String) (entities : List StoredEntity) :
    (newRows id entities).Pairwise fun r s => r.position ≤ s.position := by
  have h : ((newRows id entities).map (·.position)).Pairwise (· ≤ ·) := by
    rw [newRows_positions]
    exact List.pairwise_le_range
  exact List.pairwise_map.1 h

/-- Rows with distinct ids are all kept. -/
theorem lastOfEachId_of_distinct {rows : List EntityRow} (h : (rows.map (·.id)).Nodup) : lastOfEachId rows = rows := by
  induction rows with
  | nil => rfl
  | cons r rest ih =>
    obtain ⟨hr, hrest⟩ := List.nodup_cons.1 h
    have hany : rest.any (·.id == r.id) = false := by
      rw [List.any_eq_false]
      exact fun s hs heq => hr (List.mem_map.2 ⟨s, hs, eq_of_beq heq⟩)
    rw [lastOfEachId, hany, ih hrest]
    rfl

theorem lastOfEachId_subset (rows : List EntityRow) : lastOfEachId rows ⊆ rows := by
  induction rows with
  | nil => exact List.Subset.refl _
  | cons r rest ih =>
    rw [lastOfEachId]
    split
    · exact List.subset_cons_of_subset r ih
    · exact List.cons_subset_cons r ih

/-- Of the rows that are kept no two have the same id. -/
theorem nodup_lastOfEachId (rows : List EntityRow) : ((lastOfEachId rows).map (·.id)).Nodup := by
  induction rows with
  | nil => exact .nil
  | cons r rest ih =>
    rw [lastOfEachId]
    split
    · exact ih
    · rename_i h
      refine List.nodup_cons.2 ⟨fun hm => h ?_, ih⟩
      obtain ⟨s, hs, he⟩ := List.mem_map.1 hm
      exact List.any_eq_true.2 ⟨s, lastOfEachId_subset rest hs, beq_iff_eq.2 he⟩

/-! ## The rows of a card in order -/

theorem perm_insertByPosition (r : EntityRow) (rows : List EntityRow) : (insertByPosition r rows).Perm (r :: rows) := by
  induction rows with
  | nil => exact .refl _
  | cons s rest ih =>
    rw [insertByPosition]
    split
    · exact .refl _
    · exact (ih.cons s).trans (.swap r s rest)

theorem insertByPosition_sorted {r : EntityRow} {rows : List EntityRow}
    (h : rows.Pairwise fun r s => r.position ≤ s.position) :
    (insertByPosition r rows).Pairwise fun r s => r.position ≤ s.position := by
  induction rows with
  | nil => exact List.pairwise_singleton _ _
  | cons s rest ih =>
    obtain ⟨hs, hrest⟩ := List.pairwise_cons.1 h
    rw [insertByPosition]
    split
    · rename_i hle
      refine List.pairwise_cons.2 ⟨fun t ht => ?_, h⟩
      rcases List.mem_cons.1 ht with rfl | ht
      · exact hle
      · exact Nat.le_trans hle (hs t ht)
    · rename_i hgt
      refine List.pairwise_cons.2 ⟨fun t ht => ?_, ih hrest⟩
      rcases List.mem_cons.1 ((perm_insertByPosition r rest).mem_iff.1 ht) with rfl | ht
      · exact Nat.le_of_not_le hgt
      · exact hs t ht

theorem perm_entitiesOf (id : String) (rows : List EntityRow) :
    (entitiesOf id rows).Perm (rows.filter (·.cardId == id)) := by
  rw [entitiesOf]
  induction rows.filter (·.cardId == id) with
  | nil => exact .refl _
  | cons r rest ih => exact (perm_insertByPosition r _).trans (ih.cons r)

theorem entitiesOf_sorted (id : String) (rows : List EntityRow) :
    (entitiesOf id rows).Pairwise fun r s => r.position ≤ s.position := by
  rw [entitiesOf]
  induction rows.filter (·.cardId == id) with
  | nil => exact .nil
  | cons r rest ih => exact insertByPosition_sorted ih

theorem mem_entitiesOf {id : String} {rows : List EntityRow} {r : EntityRow} :
    r ∈ entitiesOf id rows ↔ r ∈ rows ∧ r.cardId = id := by
  rw [(perm_entitiesOf id rows).mem_iff, List.mem_filter, beq_iff_eq]

/-- The order of rows that are in order already does not change. -/
theorem sort_of_sorted {rows : List EntityRow} (h : rows.Pairwise fun r s => r.position ≤ s.position) :
    rows.foldr insertByPosition [] = rows := by
  induction rows with
  | nil => rfl
  | cons r rest ih =>
    obtain ⟨hr, hrest⟩ := List.pairwise_cons.1 h
    rw [List.foldr_cons, ih hrest]
    cases rest with
    | nil => rfl
    | cons s rest => exact if_pos (hr s (List.mem_cons_self ..))

/-- Where no other row belongs to the card, its new rows are read as they were written. -/
theorem entitiesOf_newRows {id : String} {others : List EntityRow} (h : ∀ r ∈ others, r.cardId ≠ id)
    (entities : List StoredEntity) : entitiesOf id (others ++ newRows id entities) = newRows id entities := by
  have ho : others.filter (·.cardId == id) = [] :=
    List.filter_eq_nil_iff.2 fun r hr heq => h r hr (eq_of_beq heq)
  have hn : (newRows id entities).filter (·.cardId == id) = newRows id entities :=
    List.filter_eq_self.2 fun r hr => beq_iff_eq.2 (cardId_of_mem_newRows hr)
  rw [entitiesOf, List.filter_append, ho, hn]
  exact sort_of_sorted (newRows_sorted id entities)

end Cards

end ParticipantDirectory
