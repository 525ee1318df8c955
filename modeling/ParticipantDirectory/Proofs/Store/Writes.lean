import Mathlib.Data.List.Nodup
import ParticipantDirectory.Proofs.Store.Distinct
import ParticipantDirectory.Proofs.Store.Integrity
import ParticipantDirectory.Proofs.Store.Refusals

/-!
# Transactions on full tables

What the transactions of a directory make of a database that has its four tables: those that look something up
answer with what is in the tables (`run_findRow`, `findCard_answer`, `lookup_answer`, `identified_database`,
`ownerCheck_database`), and those that write end, if they end, in the tables of the corresponding write
(`insertRow_ok`, `register_database`, `deleteRow_database`, `run_deleteRows`, `stored_numbered`).
-/

namespace ParticipantDirectory

open Transaction

variable {t : Tables} {n : Nat}

namespace Database

/-- The row of a login name. -/
def userNamed (db : Database) (name : String) : Option UserRow :=
  db.users.bind fun rows => rows.find? (·.loginName == name)

theorem userNamed_database (name : String) : t.database.userNamed name = t.user? name := rfl

/-- The credentials are those of a user: they name the row, and the password verifies against its hash. -/
def Identifies (db : Database) (rounds : Nat) (credentials : Option Credentials) (row : UserRow) : Prop :=
  ∃ c, credentials = some c ∧ db.userNamed c.userName = some row ∧
    Password.verify rounds c.password row.passwordHash = true

theorem Identifies.mem {rounds : Nat} {credentials : Option Credentials} {row : UserRow}
    (h : t.database.Identifies rounds credentials row) : row ∈ t.users := by
  obtain ⟨c, -, hf, -⟩ := h
  exact (Tables.mem_of_user? hf).1

theorem identifies_head {rounds : Nat} {id : UserId} {name password stored : String} {rest : List UserRow}
    (hr : t.users = ⟨id, name, stored⟩ :: rest) (hv : Password.verify rounds password stored = true) :
    t.database.Identifies rounds (some ⟨name, password⟩) ⟨id, name, stored⟩ := by
  refine ⟨_, rfl, ?_, hv⟩
  rw [userNamed_database, Tables.user?, hr]
  exact List.find?_cons_of_pos (p := fun u : UserRow => u.loginName == name) (beq_self_eq_true name)

end Database

/-! ## Users -/

namespace Users

/-- Who is presented, if the id in the row of the name can be read. -/
theorem namedRow_answer (name : String) : (namedRow name).answer t.database =
    (Cause.unknownUser name).require (t.user? name) >>= fun row =>
      match row.id.readFault? with
      | none => .ok row
      | some a => .error (.accident a) := by
  have hrows : t.database.users = some t.users := rfl
  rw [answer, outcome, run_namedRow hrows, Tables.user?]
  cases t.users.find? (·.loginName == name) with
  | none => rfl
  | some row =>
    show Except.map Prod.fst (Except.mapError Abort.reported (match row.id.readFault? with
      | none => .ok (row, t.database)
      | some a => .error (.failure (.accident a)))) = (match row.id.readFault? with
      | none => .ok row
      | some a => .error (.accident a))
    cases row.id.readFault? <;> rfl

/-- A name and a password are looked up and verified. -/
theorem identified_database (hu : ∀ u ∈ t.users, u.id.Storable) (rounds : Nat) (c : Credentials) :
    identified rounds t.database (some c) =
    (Cause.unknownUser c.userName).require (t.user? c.userName) >>= fun row =>
      if Password.verify rounds c.password row.passwordHash then .ok row.toUser
      else
        .error (Failure.of
          (.unauthorized ("Illegal password provided for user '" ++ c.userName ++ "'") "UNAUTHORIZED")) := by
  rw [identified, namedRow_answer]
  cases hf : t.user? c.userName with
  | none => rfl
  | some row =>
    have hread := (hu row (Tables.mem_of_user? hf).1).readable
    show ((match row.id.readFault? with
      | none => .ok row
      | some a => .error (.accident a) : Except Failure UserRow) >>= _) = _
    rw [hread]
    rfl

/-- A user is identified by credentials of its own. -/
theorem identified_of_identifies (hu : ∀ u ∈ t.users, u.id.Storable) {rounds : Nat} {credentials : Option Credentials}
    {row : UserRow} (h : t.database.Identifies rounds credentials row) :
    identified rounds t.database credentials = .ok row.toUser := by
  obtain ⟨c, rfl, hf, hv⟩ := h
  rw [Database.userNamed_database] at hf
  rw [identified_database hu, hf]
  exact if_pos hv

/-- Who presents credentials is the user whose they are. -/
theorem identified_ok {rounds : Nat} {credentials : Option Credentials} {user : User}
    (h : identified rounds t.database credentials = .ok user) :
    ∃ row, t.database.Identifies rounds credentials row ∧ user = row.toUser := by
  cases credentials with
  | none => cases h
  | some c =>
    rw [identified, namedRow_answer] at h
    obtain ⟨row, hr, hv⟩ := ok_of_bind h
    obtain ⟨row', hf, hr⟩ := ok_of_bind hr
    split at hr
    · cases hr
      split at hv
      · rename_i hp
        cases hv
        exact ⟨row, ⟨c, rfl, Cause.require_ok hf, hp⟩, rfl⟩
      · cases hv
    · cases hr

theorem run_insertRow_database (row : UserRow) : (insertRow row).run t.database =
    if Database.fresh.constraints.users.refuse UserRow.cell t.users row then .error (.integrity (insertion row))
    else .ok ((), (t.addUser row).database) :=
  run_insertRow row t.database

theorem refuse_userRow {u row : UserRow} (hu : u ∈ t.users) (h : u.loginName = row.loginName) :
    Database.fresh.constraints.users.refuse UserRow.cell t.users row = true :=
  TableConstraints.refuse_of_conflict
    (conflicts_of_agree (k := "login_name") (by decide) hu rfl (congrArg (some ∘ Cell.text) h))

/-- A user is added only under a new login name. -/
theorem insertRow_ok {row : UserRow} {db : Database} (h : (insertRow row).outcome t.database = .ok ((), db)) :
    db = (t.addUser row).database ∧ ∀ u ∈ t.users, u.loginName ≠ row.loginName := by
  rw [outcome_of_run (run_insertRow_database row)] at h
  split at h
  · cases h
  · rename_i hc
    cases h
    exact ⟨rfl, fun u hu he => hc (refuse_userRow hu he)⟩

end Users

/-! ## Cards -/

namespace Cards

theorem run_findRows_database (key : String) : (findRows key).run t.database =
    .ok ((t.card? key).map fun c => (c, t.entitiesOf key), t.database) := by
  rw [run_findRows, Tables.card?]
  dsimp only [Tables.database]
  cases t.cards.find? (·.id == key) <;> rfl

theorem findCard_answer (key : String) : (findCard key).answer t.database =
    .ok ((t.card? key).map fun c => c.toCard ((t.entitiesOf key).map EntityRow.toStored)) := by
  have h : (findCard key).run t.database =
      .ok ((t.card? key).map fun c => c.toCard ((t.entitiesOf key).map EntityRow.toStored), t.database) := by
    rw [findCard, run_bind, run_findRows_database]
    cases t.card? key <;> rfl
  rw [answer_of_run h]
  rfl

/-- Deleting a card drops it, whether or not it is there. -/
theorem run_deleteRows (hl : t.Linked) (key : String) : (deleteRows key).run t.database =
    .ok ((t.card? key).isSome, (t.dropCard key).database) := by
  rw [deleteRows, run_bind, run_findRows_database]
  cases hc : t.card? key with
  | none =>
    have h : t.dropCard key = t := by
      rw [Tables.dropCard, Tables.filter_drop_of_absent (Tables.no_card_of_card? hc),
        Tables.filter_drop_of_absent (hl.no_entity hc)]
    rw [h]
    rfl
  | some card =>
    show (do
      modify fun db => { db with cards := db.cards.map (·.filter (·.id != key)) }
      if !(t.entitiesOf key).isEmpty then
        modify fun db => { db with entities := db.entities.map (·.filter (·.cardId != key)) }
      return true : Transaction Bool).run t.database = _
    cases he : t.entitiesOf key with
    | nil =>
      have hd : (t.dropCard key).database = { t with cards := t.cards.filter (·.id != key) : Tables }.database := by
        rw [Tables.dropCard, Tables.entities_drop_of_none he]
      rw [hd]
      rfl
    | cons e rest => rfl

theorem refuse_cardRow {row : CardRow} (h : t.card? row.id = none) :
    Database.fresh.constraints.cards.refuse CardRow.cell t.cards row = false :=
  (TableConstraints.refuse_eq (lacks_card row)).trans
    (no_conflicts_id fun c hc he => Tables.no_card_of_card? h c hc (Cell.text.inj (Option.some.inj he)))

theorem run_insertRow {row : CardRow} (h : t.card? row.id = none) : (insertRow row).run t.database =
    .ok ((), { t with cards := t.cards ++ [row] : Tables }.database) := by
  have hrun := run_insert Database.cards (·.constraints.cards) CardRow.cell
    (fun db rows => { db with cards := some rows }) (.addCard row) (show t.database.cards = some t.cards from rfl) row
  rw [show t.database.constraints.cards.refuse CardRow.cell t.cards row = false from refuse_cardRow h] at hrun
  exact hrun

/-- With distinct ids, the rows that share no id with a card's rows are those of other cards. -/
theorem filter_others (hk : (t.entities.map (·.id)).Nodup) (key : String) :
    (t.entities.filter fun r => !(t.entitiesOf key).any (·.id == r.id)) = t.entities.filter (·.cardId != key) := by
  refine List.filter_congr fun r hr => ?_
  rw [Bool.eq_iff_iff, Bool.not_eq_true', List.any_eq_false, bne_iff_ne]
  constructor
  · intro h hc
    exact h r (mem_entitiesOf.2 ⟨hr, hc⟩) (beq_self_eq_true _)
  · intro h s hs he
    obtain ⟨hs, hc⟩ := mem_entitiesOf.1 hs
    exact h (List.inj_on_of_nodup_map hk hs hr (eq_of_beq he) ▸ hc)

section admitted

variable {key : String} {entities : List StoredEntity} (ha : t.Admits key entities)
include ha

omit ha in
theorem cell_id {r : EntityRow} (h : r.id ≠ .absent) : r.cell "id" = some (.entity r.id) :=
  if_neg h

/-- Next to the rows of other cards there is room for the rows of the entities, and for any part of them. -/
theorem takes_admitted (p : EntityRow → Bool) :
    Database.fresh.constraints.entities.takes EntityRow.cell (t.entities.filter (·.cardId != key))
      ((newRows key entities).filter p) = true := by
  have present : ∀ r ∈ newRows key entities, r.cell "id" = some (.entity r.id) := fun r hr => by
    obtain ⟨e, he, hid⟩ := exists_of_mem_newRows hr
    exact cell_id (hid ▸ ha.identified e he)
  refine TableConstraints.takes_id rfl (fun r hr => ?_) (fun r hr s hs heq => ?_) ?_
  · obtain ⟨e, he, hid⟩ := exists_of_mem_newRows (List.mem_filter.1 hr).1
    rw [lacks_entity, hid]
    exact decide_eq_false (ha.identified e he)
  · obtain ⟨hs, hne⟩ := List.mem_filter.1 hs
    have hr := (List.mem_filter.1 hr).1
    obtain ⟨e, he, hid⟩ := exists_of_mem_newRows hr
    refine ha.unused s hs (bne_iff_ne.1 hne) e he ?_
    rw [present r hr] at heq
    by_cases hs' : s.id = .absent
    · rw [show s.cell "id" = none from if_pos hs'] at heq
      cases heq
    · rw [cell_id hs'] at heq
      exact (Cell.entity.inj (Option.some.inj heq)).trans hid
  · have hd : ((newRows key entities).map (·.id)).Nodup := newRows_ids key entities ▸ ha.distinct
    refine List.Pairwise.filter p ((List.pairwise_map.1 hd).imp_of_mem fun {r s} hr hs hne heq => hne ?_)
    rw [present r hr, present s hs] at heq
    exact Cell.entity.inj (Option.some.inj heq)

/-- The rows of the entities take the place of the rows of the card, whichever ids they have in common. -/
theorem run_replaceRows_database (hk : (t.entities.map (·.id)).Nodup) :
    (replaceRows (t.entitiesOf key) (newRows key entities)).run t.database =
      .ok ((), { t with entities := t.entities.filter (·.cardId != key) ++ newRows key entities : Tables }.database) := by
  rw [run_replaceRows]
  show (if (t.entitiesOf key).isEmpty && (newRows key entities).isEmpty then _ else
    if Database.fresh.constraints.entities.takes EntityRow.cell _ _ then _ else _) = _
  rw [filter_others hk, takes_admitted ha, lastOfEachId_of_distinct (newRows_ids key entities ▸ ha.distinct)]
  split
  · rename_i he
    obtain ⟨hold, hnew⟩ := (Bool.and_eq_true _ _).mp he
    rw [Tables.entities_drop_of_none (List.isEmpty_iff.1 hold), List.isEmpty_iff.1 hnew, List.append_nil]
  · rfl

end admitted

/-- A card is stored with the entities that the tables admit for it. -/
theorem stored_admitted {group : ServiceGroup} {entities : List StoredEntity} (hk : (t.entities.map (·.id)).Nodup)
    (ho : t.card? group.id = none → ∀ e ∈ t.entities, e.cardId ≠ group.id) (ha : t.Admits group.id entities) :
    stored group entities t.database =
      .ok (some (((t.card? group.id).getD (Tables.cardRow group)).toCard entities),
        (t.putCard group entities).database) := by
  suffices ∃ b, (putRows group entities).run t.database =
      .ok ((b, ((t.card? group.id).getD (Tables.cardRow group)).toCard entities),
        (t.putCard group entities).database) by
    obtain ⟨b, h⟩ := this
    rw [stored, outcome_of_run h]
    rfl
  rw [putRows, run_bind, run_findRows_database]
  cases hc : t.card? group.id with
  | some card =>
    refine ⟨false, ?_⟩
    dsimp only [Option.map]
    rw [(Tables.mem_of_card? hc).2, run_bind, run_replaceRows_database ha hk, Tables.putCard, hc]
    rfl
  | none =>
    let t₁ : Tables := { t with cards := t.cards ++ [Tables.cardRow group] }
    have ha₁ : t₁.Admits group.id entities := { ha with }
    have hrow : (insertRow ⟨group.id, group.participant.scheme, group.participant.value⟩).run t.database =
        .ok ((), t₁.database) := run_insertRow hc
    have hr := run_replaceRows_database (t := t₁) ha₁ hk
    have he : t₁.entitiesOf group.id = [] :=
      List.eq_nil_iff_forall_not_mem.2 fun e hm => ho hc e (mem_entitiesOf.1 hm).1 (mem_entitiesOf.1 hm).2
    rw [he] at hr
    refine ⟨true, ?_⟩
    dsimp only [Option.map]
    rw [run_bind, hrow]
    dsimp only
    rw [run_bind, hr, Tables.putCard, hc]
    rfl

/-- A card is stored under the numbers issued next. -/
theorem stored_numbered (hl : t.Linked) (hn : t.Numbered n) (group : ServiceGroup) (contents : List BusinessEntity) :
    ∃ card, stored group (numbered n contents) t.database =
      .ok (some card, (t.putCard group (numbered n contents)).database) :=
  ⟨_, stored_admitted hn.entityIds hl.no_entity (hn.admits group.id contents)⟩

end Cards

/-! ## Service groups -/

namespace Groups

section owned

variable (ho : ∀ g ∈ t.groups, g.owner.Storable)
include ho

theorem run_findRow (key : String) : (findRow key).run t.database = .ok (t.group? key, t.database) := by
  have hr : (groups (.findGroup key)).run t.database = .ok (t.groups, t.database) := rfl
  rw [findRow, run_bind, hr, Tables.group?]
  dsimp only
  cases hg : t.groups.find? (·.id == key) with
  | none => rfl
  | some row =>
    dsimp only
    rw [run_bind, run_readId, (ho row (Tables.mem_of_group? hg).1).readable]
    dsimp only
    rw [run_bind, Cards.run_findRows_database]
    rfl

theorem lookup_answer (p : Identifier) :
    (lookup p).answer t.database = .ok ((t.group? p.key).map GroupRow.toGroup) := by
  have h : (lookup p).run t.database = .ok ((t.group? p.key).map GroupRow.toGroup, t.database) := by
    rw [lookup, run_bind, run_findRow ho]
    rfl
  rw [answer_of_run h]
  rfl

/-- The owner of a group is compared with the user. -/
theorem ownerCheck_database (p : Identifier) (user : User) : (ownerCheck p user).answer t.database =
    (Cause.unknownGroup p.key).require (t.group? p.key) >>= fun g =>
      if g.owner = user.id then .ok () else .error (Failure.of (.notOwner user.name p.key)) := by
  rw [answer, outcome, ownerCheck, run_bind, run_findRow ho]
  cases t.group? p.key with
  | none => rfl
  | some g =>
    show ((((if g.owner ≠ user.id then Transaction.fail (.notOwner user.name p.key) else pure () :
      Transaction Unit).run t.database).mapError _).map _) = if g.owner = user.id then _ else _
    by_cases h : g.owner = user.id
    · rw [if_neg (not_not_intro h), if_pos h]
      rfl
    · rw [if_pos h, if_neg h]
      rfl

/-- Who passes the check of the owner owns a group. -/
theorem ownerCheck_ok {p : Identifier} {user : User} (h : (ownerCheck p user).answer t.database = .ok ()) :
    ∃ g, t.group? p.key = some g ∧ g.owner = user.id := by
  rw [ownerCheck_database ho] at h
  obtain ⟨g, hg, h⟩ := ok_of_bind h
  split at h
  · exact ⟨g, Cause.require_ok hg, ‹_›⟩
  · cases h

/-- A participant that has no group is registered; one that has a group is not. -/
theorem register_database {p : Identifier} {user : User} (hu : user.id.Storable) (extension : Option String) :
    (register p user extension).outcome t.database =
      match t.group? p.key with
      | some _ => .error (Failure.of (.groupExists p.key))
      | none =>
        let row : GroupRow := ⟨p.key, p.scheme, p.value, user.id, extension⟩
        .ok (row, (t.addGroup row).database) := by
  rw [outcome, register, run_bind, run_findRow ho]
  cases hg : t.group? p.key with
  | some g => rfl
  | none =>
    have hc : Database.fresh.constraints.groups.refuse GroupRow.cell t.groups
        ⟨p.key, p.scheme, p.value, user.id, extension⟩ = false :=
      (TableConstraints.refuse_eq (lacks_group _)).trans <| no_conflicts_id fun g hm he =>
        Tables.no_group_of_group? hg g hm (Cell.text.inj (Option.some.inj he))
    have hi : (insertRow ⟨p.key, p.scheme, p.value, user.id, extension⟩).run t.database =
        .ok ((), (t.addGroup ⟨p.key, p.scheme, p.value, user.id, extension⟩).database) := by
      have hrun := run_insert Database.groups (·.constraints.groups) GroupRow.cell
        (fun db rows => { db with groups := some rows }) (.addGroup ⟨p.key, p.scheme, p.value, user.id, extension⟩)
        (show t.database.groups = some t.groups from rfl) ⟨p.key, p.scheme, p.value, user.id, extension⟩
      rw [show t.database.constraints.groups.refuse GroupRow.cell t.groups
        ⟨p.key, p.scheme, p.value, user.id, extension⟩ = false from hc] at hrun
      exact hrun
    have ho' : ownerId user.id = pure user.id := by
      cases hid : user.id with
      | issued k => rfl
      | external text =>
        rw [ownerId, hu.written text hid]
    show Except.mapError _ ((ownerId user.id >>= fun o => insertRow ⟨p.key, p.scheme, p.value, o, extension⟩ >>=
      fun _ => pure ⟨p.key, p.scheme, p.value, o, extension⟩ : Transaction GroupRow).run t.database) = _
    rw [ho', pure_bind, run_bind, hi]
    rfl

/-- A participant is registered only if it has no group. -/
theorem register_ok {p : Identifier} {user : User} {extension : Option String} {row : GroupRow} {db : Database}
    (hu : user.id.Storable) (h : (register p user extension).outcome t.database = .ok (row, db)) :
    t.group? p.key = none ∧ row = ⟨p.key, p.scheme, p.value, user.id, extension⟩ ∧ db = (t.addGroup row).database := by
  rw [register_database ho hu] at h
  cases hg : t.group? p.key with
  | some g => rw [hg] at h; cases h
  | none =>
    rw [hg] at h
    cases h
    exact ⟨rfl, rfl, rfl⟩

/-- Deleting a group drops it, its card and its entities. -/
theorem deleteRow_database (hl : t.Linked) (key : String) : (deleteRow key).outcome t.database =
    match t.group? key with
    | none => .ok (false, t.database)
    | some _ => .ok (true, (t.dropGroup key).database) := by
  rw [outcome, deleteRow, run_bind, run_findRow ho]
  cases t.group? key with
  | none => rfl
  | some g =>
    dsimp only
    rw [run_bind, Cards.run_deleteRows hl]
    rfl

theorem deleteRow_ok (hl : t.Linked) {key : String} {db : Database}
    (h : (deleteRow key).outcome t.database = .ok (true, db)) : db = (t.dropGroup key).database := by
  rw [deleteRow_database ho hl] at h
  cases hg : t.group? key with
  | none => rw [hg] at h; cases h
  | some g => rw [hg] at h; cases h; rfl

end owned

end Groups

end ParticipantDirectory
