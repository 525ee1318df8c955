import ParticipantDirectory.Proofs.Framework.Invariant
import ParticipantDirectory.Proofs.Store.Keys
import ParticipantDirectory.Proofs.Store.Refusals
import ParticipantDirectory.Proofs.Store.Tables

/-!
# Tables whose constraints are met

The four tables of a directory ask that their rows have what they need and that no two of them agree in a key. All that
transactions do to the four tables keeps that (`Database.Whole`), whichever users, groups and entities they are given,
and entities are refused just where it would not be kept (`Cards.replaceRows_refused_iff`).
-/

namespace ParticipantDirectory

open Transaction

/-! ## What the four tables ask -/

section fresh

variable {t : Tables}

/-- Users, service groups and cards have all that they need in any case. -/
theorem lacks_user (row : UserRow) : lacks Database.fresh.constraints.users.required UserRow.cell row = false := rfl

theorem lacks_group (row : GroupRow) : lacks Database.fresh.constraints.groups.required GroupRow.cell row = false := rfl

theorem lacks_card (row : CardRow) : lacks Database.fresh.constraints.cards.required CardRow.cell row = false := rfl

/-- Entities need an id. -/
theorem lacks_entity (row : EntityRow) :
    lacks Database.fresh.constraints.entities.required EntityRow.cell row = decide (row.id = .absent) := by
  have hid : lacks Database.fresh.constraints.entities.required EntityRow.cell row =
      ((row.cell "id").isNone || false) := rfl
  rw [hid, Bool.or_false, EntityRow.cell]
  by_cases h : row.id = .absent <;> simp [h]

/-- Entities that have ids are distinct in them. -/
theorem distinct_entities_iff {rows : List EntityRow} (h : ∀ e ∈ rows, e.id ≠ .absent) :
    Distinct ["id"] EntityRow.cell rows ↔ (rows.map (·.id)).Nodup := by
  simp only [Distinct, List.mem_singleton, forall_eq, List.nodup_iff_pairwise_ne, List.pairwise_map]
  refine List.Pairwise.iff_of_mem fun {e e'} hm hm' => ?_
  simp [EntityRow.cell, h e hm, h e' hm']

theorem met_entities_iff (rows : List EntityRow) : Database.fresh.constraints.entities.Met EntityRow.cell rows ↔
    (rows.map (·.id)).Nodup ∧ ∀ e ∈ rows, e.id ≠ .absent := by
  have hfilled : (∀ e ∈ rows, lacks Database.fresh.constraints.entities.required EntityRow.cell e = false) ↔
      ∀ e ∈ rows, e.id ≠ .absent := by
    simp only [lacks_entity, decide_eq_false_iff_not, ne_eq]
  exact ⟨fun ⟨hf, hd⟩ => ⟨(distinct_entities_iff (hfilled.1 hf)).1 hd, hfilled.1 hf⟩,
    fun ⟨hn, hp⟩ => ⟨hfilled.2 hp, (distinct_entities_iff hp).2 hn⟩⟩

end fresh

namespace Tables

/-- The constraints of the four tables are met. -/
structure Met (t : Tables) : Prop where
  users : Database.fresh.constraints.users.Met UserRow.cell t.users
  groups : Database.fresh.constraints.groups.Met GroupRow.cell t.groups
  cards : Database.fresh.constraints.cards.Met CardRow.cell t.cards
  entities : Database.fresh.constraints.entities.Met EntityRow.cell t.entities

theorem met_empty : empty.Met :=
  ⟨TableConstraints.met_nil, TableConstraints.met_nil, TableConstraints.met_nil, TableConstraints.met_nil⟩

end Tables

/-- A database that has its four tables, the constraints of which are met. -/
def Database.Whole (db : Database) : Prop :=
  ∃ t : Tables, db = t.database ∧ t.Met

/-! ## What the transactions keep -/

theorem Users.keeps_whole (row : UserRow) : (Users.insertRow row).Keeps Database.Whole := by
  rintro db a db' ⟨t, rfl, ht⟩ h
  obtain ⟨rows, hrows, hc, rfl⟩ := insert_fits Database.users (·.constraints.users) UserRow.cell
    (fun db rows => { db with users := some rows }) (insertion row) h
  cases hrows
  exact ⟨t.addUser row, rfl, { ht with users := TableConstraints.met_concat.2 ⟨ht.users, hc⟩ }⟩

namespace Cards

theorem keeps_whole_insertRow (row : CardRow) : (insertRow row).Keeps Database.Whole := by
  rintro db a db' ⟨t, rfl, ht⟩ h
  obtain ⟨rows, hrows, hc, rfl⟩ := insert_fits Database.cards (·.constraints.cards) CardRow.cell
    (fun db rows => { db with cards := some rows }) (.addCard row) h
  cases hrows
  exact ⟨{ t with cards := t.cards ++ [row] }, rfl, { ht with cards := TableConstraints.met_concat.2 ⟨ht.cards, hc⟩ }⟩

variable {rows old new : List EntityRow}

/-- If the table takes what is inserted beside the other rows, then its constraints are met after rows are replaced. -/
theorem met_replaced (hrows : Database.fresh.constraints.entities.Met EntityRow.cell rows) (hold : old ⊆ rows)
    (htakes : Database.fresh.constraints.entities.takes EntityRow.cell
      (rows.filter fun r => !old.any (·.id == r.id)) (new.filter fun r => !old.any (·.id == r.id)) = true) :
    Database.fresh.constraints.entities.Met EntityRow.cell
      ((rows.filter fun r => !old.any (·.id == r.id)) ++ lastOfEachId new) := by
  have hinserted := (TableConstraints.takes_iff (hrows.sublist List.filter_sublist)).1 htakes
  rw [met_entities_iff] at hrows hinserted ⊢
  obtain ⟨hnodup, hpresent⟩ := hinserted
  constructor
  · rw [List.map_append, List.nodup_append]
    refine ⟨hrows.1.sublist (List.filter_sublist.map _), nodup_lastOfEachId new, ?_⟩
    intro a ha b hb hab
    obtain ⟨r, hr, rfl⟩ := List.mem_map.1 ha
    obtain ⟨s, hs, rfl⟩ := List.mem_map.1 hb
    -- A new row with the id of another one is inserted, as no old row has this id, and the table takes no such row.
    have hinsert : s ∈ new.filter fun r => !old.any (·.id == r.id) :=
      List.mem_filter.2 ⟨lastOfEachId_subset new hs, hab ▸ (List.mem_filter.1 hr).2⟩
    rw [List.map_append, List.nodup_append] at hnodup
    exact hnodup.2.2 r.id ha s.id (List.mem_map_of_mem hinsert) hab
  · intro e he
    rcases List.mem_append.1 he with he | he
    · exact hrows.2 e (List.mem_filter.1 he).1
    · have hnew := lastOfEachId_subset new he
      cases hany : old.any (·.id == e.id) with
      | false => exact hpresent e (List.mem_append_right _ (List.mem_filter.2 ⟨hnew, by rw [hany]; rfl⟩))
      | true =>
        obtain ⟨r, hr, hid⟩ := List.any_eq_true.1 hany
        rw [← eq_of_beq hid]
        exact hrows.2 r (hold hr)

theorem keeps_whole_replaceRows {db db' : Database} (hdb : db.Whole) {u : Unit}
    (hold : ∀ rows, db.entities = some rows → old ⊆ rows) (h : (replaceRows old new).run db = .ok (u, db')) :
    db'.Whole := by
  obtain ⟨t, rfl, ht⟩ := hdb
  obtain rfl | ⟨rows, hrows, htakes, rfl⟩ := replaceRows_fits h
  · exact ⟨t, rfl, ht⟩
  · cases hrows
    exact ⟨{ t with entities := (t.entities.filter fun r => !old.any (·.id == r.id)) ++ lastOfEachId new }, rfl,
      { ht with entities := met_replaced ht.entities (hold _ rfl) htakes }⟩

/-- New entities are refused exactly if the constraints of the table would not be met with them. -/
theorem replaceRows_refused_iff {t : Tables} (h : t.Met) (new : List EntityRow) :
    (replaceRows [] new).run t.database = .error (.integrity (.addEntities new)) ↔
      ¬Database.fresh.constraints.entities.Met EntityRow.cell (t.entities ++ new) := by
  have hall : ∀ rows : List EntityRow, (rows.filter fun r => !([] : List EntityRow).any (·.id == r.id)) = rows :=
    fun rows => List.filter_eq_self.2 fun _ _ => rfl
  rw [run_replaceRows, hall, ← TableConstraints.takes_iff h.entities]
  cases new with
  | nil => exact iff_of_false nofun (not_not_intro rfl)
  | cons first rest =>
    dsimp only [Tables.database]
    rw [hall, List.isEmpty_cons, Bool.and_false, if_neg Bool.false_ne_true]
    by_cases ht : Database.fresh.constraints.entities.takes EntityRow.cell t.entities (first :: rest) = true <;> simp [ht]

theorem keeps_whole_putRows (group : ServiceGroup) (entities : List StoredEntity) :
    (putRows group entities).Keeps Database.Whole := by
  intro db a db' hdb h
  rw [putRows, run_bind] at h
  cases hf : (findRows group.id).run db with
  | error e => rw [hf] at h; cases h
  | ok found =>
    obtain ⟨found, db₁⟩ := found
    obtain rfl := readOnly_findRows _ _ _ _ hf
    rw [hf] at h
    cases found with
    | none =>
      refine Keeps.bind (keeps_whole_insertRow _) (fun _ => ?_) _ _ _ hdb h
      refine Keeps.bind (fun db u db' hdb hr => ?_) fun _ => (readOnly_pure _).keeps
      exact keeps_whole_replaceRows hdb (fun rows _ => List.nil_subset _) hr
    | some found =>
      obtain ⟨card, old⟩ := found
      obtain ⟨-, rows, hrows, rfl⟩ := found_rows hf
      dsimp only at h
      rw [run_bind] at h
      cases hr : (replaceRows (entitiesOf group.id rows) (newRows card.id entities)).run db₁ with
      | error e => rw [hr] at h; cases h
      | ok q =>
        rw [hr] at h
        cases h
        refine keeps_whole_replaceRows hdb (fun rows' hrows' => ?_) hr
        obtain rfl := Option.some.inj (hrows.symm.trans hrows')
        exact fun e he => (mem_entitiesOf.1 he).1

theorem keeps_whole_deleteRows (id : String) : (deleteRows id).Keeps Database.Whole := by
  refine (readOnly_findRows id).keeps.bind fun found => ?_
  cases found with
  | none => exact (readOnly_pure _).keeps
  | some found =>
    refine (keeps_modify ?_).bind fun _ => ?_
    · rintro db ⟨t, rfl, ht⟩
      exact ⟨{ t with cards := t.cards.filter (·.id != id) }, rfl,
        { ht with cards := ht.cards.sublist List.filter_sublist }⟩
    · cases found.2.isEmpty with
      | true => exact (readOnly_pure _).keeps
      | false =>
        refine (keeps_modify ?_).bind fun _ => (readOnly_pure _).keeps
        rintro db ⟨t, rfl, ht⟩
        exact ⟨{ t with entities := t.entities.filter (·.cardId != id) }, rfl,
          { ht with entities := ht.entities.sublist List.filter_sublist }⟩

end Cards

namespace Groups

theorem keeps_whole_insertRow (row : GroupRow) : (insertRow row).Keeps Database.Whole := by
  rintro db a db' ⟨t, rfl, ht⟩ h
  obtain ⟨rows, hrows, hc, rfl⟩ := insert_fits Database.groups (·.constraints.groups) GroupRow.cell
    (fun db rows => { db with groups := some rows }) (.addGroup row) h
  cases hrows
  exact ⟨t.addGroup row, rfl, { ht with groups := TableConstraints.met_concat.2 ⟨ht.groups, hc⟩ }⟩

theorem keeps_whole_register (p : Identifier) (owner : User) (extension : Option String) :
    (register p owner extension).Keeps Database.Whole := by
  refine (readOnly_findRow p.key).keeps.bind fun found => ?_
  cases found with
  | some row => exact fun db a db' _ h => by cases h
  | none =>
    refine (readOnly_ownerId owner.id).keeps.bind fun o => ?_
    exact (keeps_whole_insertRow _).bind fun _ => (readOnly_pure _).keeps

theorem keeps_whole_deleteRow (id : String) : (deleteRow id).Keeps Database.Whole := by
  refine (readOnly_findRow id).keeps.bind fun found => ?_
  cases found with
  | none => exact (readOnly_pure _).keeps
  | some row =>
    refine (Cards.keeps_whole_deleteRows id).bind fun _ => (keeps_modify ?_).bind fun _ => (readOnly_pure _).keeps
    rintro db ⟨t, rfl, ht⟩
    exact ⟨{ t with groups := t.groups.filter (·.id != id) }, rfl,
      { ht with groups := ht.groups.sublist List.filter_sublist }⟩

end Groups

end ParticipantDirectory
