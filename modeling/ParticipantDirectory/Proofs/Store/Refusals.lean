import ParticipantDirectory.Proofs.Framework.Invariant
import ParticipantDirectory.Proofs.Store.Entities
import ParticipantDirectory.Proofs.Store.Keys
import ParticipantDirectory.Proofs.Store.Sessions

/-!
# Cards that cannot be stored

Storing a card fails on the side of the database only (`Cards.mechanical_putRows`), and then there is no card and
nothing has changed (`Cards.stored_of_error`). It does fail where the entities cannot be written
(`Cards.stored_of_unwritable`).
-/

namespace ParticipantDirectory.Cards

open Transaction

/-- The entities of a card cannot be written: there is no table for them, or one of them has the id of an entity
of another card. -/
inductive Unwritable (id : String) (entities : List StoredEntity) (db : Database) : Prop
  | missing (ht : db.entities = none) (he : entities ≠ [])
  | collision {rows : List EntityRow} {e : StoredEntity} {r : EntityRow} (ht : db.entities = some rows)
    (hk : "id" ∈ db.constraints.entities.keys) (he : e ∈ entities) (hi : e.id ≠ .absent) (hr : r ∈ rows)
    (hri : r.id = e.id) (hown : ∀ s ∈ rows, s.cardId = id → s.id ≠ e.id)

/-- Whether entities can be written depends on the table of entities and on its constraints. -/
theorem Unwritable.congr {id : String} {entities : List StoredEntity} {db db' : Database}
    (h : Unwritable id entities db) (ht : db'.entities = db.entities) (hk : db'.constraints = db.constraints) :
    Unwritable id entities db' := by
  cases h with
  | missing hm he => exact .missing (ht.trans hm) he
  | collision hr hk' he hi hm hri hown => exact .collision (ht.trans hr) (hk ▸ hk') he hi hm hri hown

theorem mechanical_findRows (id : String) : (findRows id).Mechanical := by
  refine (mechanical_rows _ _).bind fun rows => ?_
  cases rows.find? (·.id == id) with
  | none => exact mechanical_pure _
  | some card => exact (mechanical_rows _ _).bind fun _ => mechanical_pure _

theorem mechanical_insertRow (row : CardRow) : (insertRow row).Mechanical :=
  (mechanical_rows _ _).bind fun _ => mechanical_get.bind fun _ =>
    (mechanical_refuseIf _ _).bind fun _ => mechanical_modify _

theorem mechanical_replaceRows (old new : List EntityRow) : (replaceRows old new).Mechanical := by
  unfold replaceRows
  cases old.isEmpty && new.isEmpty with
  | true => exact mechanical_pure ()
  | false =>
    exact (mechanical_rows _ _).bind fun _ => mechanical_get.bind fun _ =>
      (mechanical_refuseIf _ _).bind fun _ => mechanical_modify _

theorem mechanical_putRows (group : ServiceGroup) (entities : List StoredEntity) :
    (putRows group entities).Mechanical := by
  refine (mechanical_findRows _).bind fun found => ?_
  cases found with
  | none =>
    exact (mechanical_insertRow _).bind fun _ => (mechanical_replaceRows _ _).bind fun _ => mechanical_pure _
  | some found => exact (mechanical_replaceRows _ _).bind fun _ => mechanical_pure _

/-- Whatever stops storing a card, there is no card and nothing has changed. -/
theorem stored_of_error {group : ServiceGroup} {entities : List StoredEntity} {db : Database} {e : Abort}
    (h : (putRows group entities).run db = .error e) : stored group entities db = .ok (none, db) := by
  rw [stored, outcome_of_run h]
  cases e with
  | integrity s | unavailable s => rfl
  | failure f => exact absurd h (mechanical_putRows group entities db f)

/-- Storing a card ends with the card or without one, but never fails. -/
theorem stored_ok (group : ServiceGroup) (entities : List StoredEntity) (db : Database) :
    ∃ q, stored group entities db = .ok q := by
  cases hr : (putRows group entities).run db with
  | error e => exact ⟨_, stored_of_error hr⟩
  | ok p =>
    rw [stored, outcome_of_run hr]
    exact ⟨_, rfl⟩

/-- Storing a card keeps what its transaction keeps, whether or not there is a card then. -/
theorem stored_keeps {P : Database → Prop} {group : ServiceGroup} {entities : List StoredEntity}
    (hput : (putRows group entities).Keeps P) {db db' : Database} {card : Option BusinessCard} (hdb : P db)
    (h : stored group entities db = .ok (card, db')) : P db' := by
  cases hr : (putRows group entities).run db with
  | error e =>
    rw [stored_of_error hr] at h
    cases h
    exact hdb
  | ok q =>
    rw [stored, outcome_of_run hr] at h
    cases h
    exact hput _ _ _ hdb hr

/-- Where there is no card after storing one, nothing has changed. -/
theorem eq_of_stored_none {group : ServiceGroup} {entities : List StoredEntity} {db db' : Database}
    (h : stored group entities db = .ok (none, db')) : db' = db := by
  cases hr : (putRows group entities).run db with
  | error e =>
    rw [stored_of_error hr] at h
    cases h
    rfl
  | ok p =>
    rw [stored, outcome_of_run hr] at h
    cases h

/-! ## Entities that cannot be written -/

/-- What replacing rows does. -/
theorem run_replaceRows (old new : List EntityRow) (db : Database) : (replaceRows old new).run db =
    if old.isEmpty && new.isEmpty then .ok ((), db)
    else
      let inserted := new.filter fun r => !old.any (·.id == r.id)
      match db.entities with
      | none => .error (.unavailable (.addEntities inserted))
      | some rows =>
        let others := rows.filter fun r => !old.any (·.id == r.id)
        if db.constraints.entities.takes EntityRow.cell others inserted then
          .ok ((), { db with entities := some (others ++ lastOfEachId new) })
        else .error (.integrity (.addEntities inserted)) := by
  rw [replaceRows]
  cases old.isEmpty && new.isEmpty with
  | true => rfl
  | false =>
    show (Transaction.rows Database.entities _ >>= _ : Transaction Unit).run db = _
    rw [run_bind, run_rows]
    cases db.entities with
    | none => rfl
    | some rows =>
      show (get >>= _ : Transaction Unit).run db = _
      rw [run_bind, run_get]
      dsimp only
      rw [run_bind, run_refuseIf]
      cases db.constraints.entities.takes EntityRow.cell (rows.filter fun r => !old.any (·.id == r.id))
        (new.filter fun r => !old.any (·.id == r.id)) <;> rfl

/-- Rows are replaced only by rows that the constraints of the table admit. -/
theorem replaceRows_fits {old new : List EntityRow} {db db' : Database} {u : Unit}
    (h : (replaceRows old new).run db = .ok (u, db')) :
    db' = db ∨ ∃ rows, db.entities = some rows ∧
      db.constraints.entities.takes EntityRow.cell (rows.filter fun r => !old.any (·.id == r.id))
        (new.filter fun r => !old.any (·.id == r.id)) = true ∧
      db' = { db with entities := some ((rows.filter fun r => !old.any (·.id == r.id)) ++ lastOfEachId new) } := by
  rw [run_replaceRows] at h
  split at h
  · cases h
    exact .inl rfl
  · cases ht : db.entities with
    | none => rw [ht] at h; cases h
    | some rows =>
      rw [ht] at h
      dsimp only at h
      split at h
      · rename_i hok
        cases h
        exact .inr ⟨rows, rfl, hok, rfl⟩
      · cases h

/-- Rows that came from the card are no obstacle, but those of another card are. -/
theorem replaceRows_unwritable {id : String} {entities : List StoredEntity} {db : Database}
    (h : Unwritable id entities db) (old : List EntityRow)
    (ho : ∀ rows, db.entities = some rows → ∀ r ∈ old, r ∈ rows ∧ r.cardId = id) :
    ∃ e, (replaceRows old (newRows id entities)).run db = .error e := by
  rw [run_replaceRows, newRows_isEmpty]
  cases h with
  | missing ht he =>
    rw [ht, List.isEmpty_eq_false_iff.2 he, Bool.and_false]
    exact ⟨_, rfl⟩
  | @collision rows e r ht hk he hi hr hri hown =>
    rw [ht, List.isEmpty_eq_false_iff.2 (List.ne_nil_of_mem he), Bool.and_false]
    obtain ⟨i, hn⟩ := mem_newRows id he
    have hold : (!old.any (·.id == e.id)) = true := by
      rw [Bool.not_eq_true', List.any_eq_false]
      intro s hs
      obtain ⟨hs, hc⟩ := ho rows ht s hs
      exact fun heq => hown s hs hc (eq_of_beq heq)
    have hc : db.constraints.entities.takes EntityRow.cell (rows.filter fun r => !old.any (·.id == r.id))
        ((newRows id entities).filter fun r => !old.any (·.id == r.id)) = false := by
      refine TableConstraints.not_takes (List.mem_filter.2 ⟨hn, hold⟩) (TableConstraints.refuse_of_conflict
        (conflicts_of_agree hk (List.mem_filter.2 ⟨hr, by rw [hri]; exact hold⟩) ?_ ?_))
      · show (if e.id = .absent then none else some (Cell.entity e.id)).isSome
        rw [if_neg hi]
        rfl
      · show (if r.id = .absent then none else some (Cell.entity r.id)) =
          if e.id = .absent then none else some (Cell.entity e.id)
        rw [hri]
    dsimp only
    rw [hc, if_neg Bool.false_ne_true, if_neg Bool.false_ne_true]
    exact ⟨_, rfl⟩

theorem insertRow_entities {row : CardRow} {db db' : Database} (h : (insertRow row).run db = .ok ((), db')) :
    db'.entities = db.entities ∧ db'.constraints = db.constraints := by
  obtain ⟨rows, -, rfl⟩ := insert_ok Database.cards (·.constraints.cards) CardRow.cell
    (fun db rows => { db with cards := some rows }) (.addCard row) h
  exact ⟨rfl, rfl⟩

/-- What finding the rows of a card does. -/
theorem run_findRows (id : String) (db : Database) : (findRows id).run db =
    match db.cards with
    | none => .error (.unavailable (.findCard id))
    | some cards =>
      match cards.find? (·.id == id) with
      | none => .ok (none, db)
      | some card =>
        match db.entities with
        | none => .error (.unavailable (.findEntities id))
        | some rows => .ok (some (card, entitiesOf id rows), db) := by
  rw [findRows, run_bind, Transaction.cards, run_rows]
  cases db.cards with
  | none => rfl
  | some cards =>
    dsimp only
    cases cards.find? (·.id == id) with
    | none => rfl
    | some card =>
      dsimp only
      rw [run_bind, Transaction.entities, run_rows]
      cases db.entities <;> rfl

/-- The rows that are found for a card belong to it. -/
theorem found_rows {id : String} {db db' : Database} {card : CardRow} {old : List EntityRow}
    (h : (findRows id).run db = .ok (some (card, old), db')) :
    card.id = id ∧ ∃ rows, db.entities = some rows ∧ old = entitiesOf id rows := by
  rw [run_findRows] at h
  cases hc : db.cards with
  | none => rw [hc] at h; cases h
  | some cards =>
    rw [hc] at h
    dsimp only at h
    cases hf : cards.find? (·.id == id) with
    | none => rw [hf] at h; cases h
    | some c =>
      rw [hf] at h
      dsimp only at h
      cases he : db.entities with
      | none => rw [he] at h; cases h
      | some rows =>
        rw [he] at h
        cases h
        have hid := List.find?_some hf
        exact ⟨eq_of_beq hid, rows, rfl, rfl⟩

/-- A card whose entities cannot be written is not stored, and nothing changes. -/
theorem stored_of_unwritable {group : ServiceGroup} {entities : List StoredEntity} {db : Database}
    (h : Unwritable group.id entities db) : stored group entities db = .ok (none, db) := by
  suffices ∃ e, (putRows group entities).run db = .error e by
    obtain ⟨e, he⟩ := this
    exact stored_of_error he
  rw [putRows, run_bind]
  cases hf : (findRows group.id).run db with
  | error e => exact ⟨e, rfl⟩
  | ok p =>
    obtain ⟨found, db₁⟩ := p
    obtain rfl := readOnly_findRows _ _ _ _ hf
    cases found with
    | none =>
      dsimp only
      rw [run_bind]
      cases hi : (insertRow ⟨group.id, group.participant.scheme, group.participant.value⟩).run db₁ with
      | error e => exact ⟨e, rfl⟩
      | ok q =>
        obtain ⟨_, db₂⟩ := q
        obtain ⟨ht, hk⟩ := insertRow_entities hi
        obtain ⟨e, he⟩ := replaceRows_unwritable (h.congr ht hk) [] fun _ _ _ hr => by cases hr
        dsimp only
        rw [run_bind, he]
        exact ⟨e, rfl⟩
    | some found =>
      obtain ⟨card, old⟩ := found
      obtain ⟨hc, rows, ht, rfl⟩ := found_rows hf
      obtain ⟨e, he⟩ := replaceRows_unwritable h (entitiesOf group.id rows) fun rows' ht' r hr => by
        rw [ht] at ht'
        cases ht'
        exact mem_entitiesOf.1 hr
      dsimp only
      rw [hc, run_bind, he]
      exact ⟨e, rfl⟩

end ParticipantDirectory.Cards
