import ParticipantDirectory.Proofs.Framework.Invariant
import ParticipantDirectory.Proofs.Service.Counters
import ParticipantDirectory.Proofs.Service.ReadBack

/-!
# Databases whose cards can be presented

Of a database in which tables may be missing it still holds, whatever was called, that its groups are registered under
the keys of their participants and that its cards and entities can be read back (`Database.Presentable`), as long as the
cards that are stored have come as accepted documents. `Directory.presentable_effect` is one call,
`Directory.no_violation_getCard` what it is for: no card is found that cannot be converted.
-/

namespace ParticipantDirectory

open Transaction

/-- The row of a group has the key and the parts of a participant. -/
def GroupRow.Registered (g : GroupRow) : Prop :=
  ∃ p : Identifier, p.Canonical ∧ g.id = p.key ∧ (⟨g.scheme, g.value⟩ : Identifier) = p

/-- The participant of a card keeps the limits of identifiers. -/
def CardRow.Presentable (c : CardRow) : Prop :=
  (⟨c.scheme, c.value⟩ : Identifier).check = .accepted ⟨c.scheme, c.value⟩

/-- The contents of an entity are read back as they are. -/
def EntityRow.Presentable (r : EntityRow) : Prop :=
  r.toStored.content.ofStored = .ok r.toStored.content

namespace Database

/-- The rows of groups; none if their table is missing. -/
def groupRows (db : Database) : List GroupRow :=
  db.groups.getD []

/-- The rows of cards; none if their table is missing. -/
def cardRows (db : Database) : List CardRow :=
  db.cards.getD []

/-- The rows of entities; none if their table is missing. -/
def entityRows (db : Database) : List EntityRow :=
  db.entities.getD []

/-- Groups are registered under the keys of their participants, and cards and entities can be read back. -/
structure Presentable (db : Database) : Prop where
  groups : ∀ g ∈ db.groupRows, g.Registered
  cards : ∀ c ∈ db.cardRows, c.Presentable
  entities : ∀ r ∈ db.entityRows, r.Presentable

/-- Rows may be dropped, and tables with them. -/
theorem Presentable.of_subset {db db' : Database} (h : db.Presentable) (hg : db'.groupRows ⊆ db.groupRows)
    (hc : db'.cardRows ⊆ db.cardRows) (he : db'.entityRows ⊆ db.entityRows) : db'.Presentable where
  groups := fun g hm => h.groups g (hg hm)
  cards := fun c hm => h.cards c (hc hm)
  entities := fun r hm => h.entities r (he hm)

theorem getD_map_filter_subset {ρ : Type} (table : Option (List ρ)) (f : ρ → Bool) :
    (table.map (·.filter f)).getD [] ⊆ table.getD [] := by
  cases table with
  | none => exact List.nil_subset _
  | some rows => exact List.filter_subset_self rows

end Database

/-! ## What the transactions keep -/

namespace Cards

theorem keeps_deleteRows (id : String) : (deleteRows id).Keeps Database.Presentable := by
  refine (readOnly_findRows id).keeps.bind fun found => ?_
  cases found with
  | none => exact (readOnly_pure _).keeps
  | some found =>
    refine (keeps_modify fun db h => h.of_subset (List.Subset.refl _) (Database.getD_map_filter_subset _ _)
      (List.Subset.refl _)).bind fun _ => ?_
    cases found.2.isEmpty with
    | true => exact (readOnly_pure _).keeps
    | false =>
      exact (keeps_modify fun db h => h.of_subset (List.Subset.refl _) (List.Subset.refl _)
        (Database.getD_map_filter_subset _ _)).bind fun _ => (readOnly_pure _).keeps

/-- The row of a card is added to those that are there. -/
theorem keeps_insertRow {row : CardRow} (hr : row.Presentable) : (insertRow row).Keeps Database.Presentable := by
  intro db a db' hi h
  obtain ⟨rows, hc, rfl⟩ := insert_ok Database.cards (·.constraints.cards) CardRow.cell
    (fun db rows => { db with cards := some rows }) (.addCard row) h
  refine { hi with cards := fun c hm => ?_ }
  rcases List.mem_append.1 hm with hm | hm
  · exact hi.cards c (by rwa [Database.cardRows, hc])
  · obtain rfl := List.mem_singleton.1 hm
    exact hr

/-- The new rows of a card stand beside those of others. -/
theorem keeps_replaceRows {old new : List EntityRow} (hn : ∀ r ∈ new, r.Presentable) :
    (replaceRows old new).Keeps Database.Presentable := by
  intro db a db' hi h
  rw [run_replaceRows] at h
  split at h
  · cases h
    exact hi
  · cases ht : db.entities with
    | none => rw [ht] at h; cases h
    | some rows =>
      rw [ht] at h
      dsimp only at h
      split at h
      · cases h
        refine { hi with entities := fun r hm => ?_ }
        rcases List.mem_append.1 hm with hm | hm
        · exact hi.entities r (by rw [Database.entityRows, ht]; exact (List.mem_filter.1 hm).1)
        · exact hn r (lastOfEachId_subset new hm)
      · cases h

theorem presentable_newRows (cardId : String) {entities : List StoredEntity}
    (h : ∀ e ∈ entities, e.content.ofStored = .ok e.content) : ∀ r ∈ newRows cardId entities, r.Presentable := by
  intro r hr
  have hm := List.mem_map_of_mem (f := EntityRow.toStored) hr
  rw [toStored_newRows] at hm
  exact h _ hm

theorem keeps_putRows {group : ServiceGroup} {entities : List StoredEntity}
    (hg : group.participant.check = .accepted group.participant)
    (he : ∀ e ∈ entities, e.content.ofStored = .ok e.content) :
    (putRows group entities).Keeps Database.Presentable := by
  refine (readOnly_findRows _).keeps.bind fun found => ?_
  cases found with
  | some found => exact (keeps_replaceRows (presentable_newRows _ he)).bind fun _ => (readOnly_pure _).keeps
  | none =>
    have hc : CardRow.Presentable ⟨group.id, group.participant.scheme, group.participant.value⟩ := hg
    exact (keeps_insertRow hc).bind fun _ => (keeps_replaceRows (presentable_newRows _ he)).bind fun _ =>
      (readOnly_pure _).keeps

end Cards

namespace Groups

theorem keeps_deleteRow (id : String) : (deleteRow id).Keeps Database.Presentable := by
  refine (readOnly_findRow id).keeps.bind fun found => ?_
  cases found with
  | none => exact (readOnly_pure _).keeps
  | some row =>
    exact (Cards.keeps_deleteRows id).bind fun _ => (keeps_modify fun db h => h.of_subset
      (Database.getD_map_filter_subset _ _) (List.Subset.refl _) (List.Subset.refl _)).bind fun _ =>
        (readOnly_pure _).keeps

theorem keeps_insertRow {row : GroupRow} (hr : row.Registered) : (insertRow row).Keeps Database.Presentable := by
  intro db a db' hi h
  obtain ⟨rows, hg, rfl⟩ := insert_ok Database.groups (·.constraints.groups) GroupRow.cell
    (fun db rows => { db with groups := some rows }) (.addGroup row) h
  refine { hi with groups := fun g hm => ?_ }
  rcases List.mem_append.1 hm with hm | hm
  · exact hi.groups g (by rwa [Database.groupRows, hg])
  · obtain rfl := List.mem_singleton.1 hm
    exact hr

theorem keeps_register {p : Identifier} (hp : p.Canonical) (owner : User) (extension : Option String) :
    (register p owner extension).Keeps Database.Presentable := by
  refine (readOnly_findRow p.key).keeps.bind fun found => ?_
  cases found with
  | some row =>
    intro db a db' hi h
    cases h
  | none =>
    refine (readOnly_ownerId owner.id).keeps.bind fun o => ?_
    have hr : GroupRow.Registered ⟨p.key, p.scheme, p.value, o, extension⟩ := ⟨p, hp, rfl, rfl⟩
    exact (keeps_insertRow hr).bind fun _ => (readOnly_pure _).keeps

/-- A group that is found is one of the rows under the key. -/
theorem mem_of_findRow {id : String} {db db' : Database} {row : GroupRow}
    (h : (findRow id).run db = .ok (some row, db')) : row ∈ db.groupRows ∧ row.id = id := by
  rw [findRow, run_bind, Transaction.groups, run_rows] at h
  cases hg : db.groups with
  | none => rw [hg] at h; cases h
  | some rows =>
    rw [hg] at h
    dsimp only at h
    cases hf : rows.find? (·.id == id) with
    | none => rw [hf] at h; cases h
    | some g =>
      have hid := List.find?_some hf
      rw [hf] at h
      dsimp only at h
      rw [run_bind] at h
      cases ho : (readId g.owner).run db with
      | error e => rw [ho] at h; cases h
      | ok q =>
        rw [ho] at h
        dsimp only at h
        rw [run_bind] at h
        cases hc : (Cards.findRows id).run q.2 with
        | error e => rw [hc] at h; cases h
        | ok q' =>
          rw [hc] at h
          cases h
          refine ⟨?_, eq_of_beq hid⟩
          rw [Database.groupRows, hg]
          exact List.mem_of_find?_eq_some hf

/-- The group of a participant that is found has this participant as its own. -/
theorem participant_of_lookup {p : Identifier} (hp : p.Canonical) {db : Database} (hi : db.Presentable)
    {group : ServiceGroup} (h : (lookup p).answer db = .ok (some group)) : group.participant = p := by
  obtain ⟨⟨found, db'⟩, hr, he⟩ := ok_of_map h
  have hr := ok_of_mapError hr
  rw [lookup, run_bind] at hr
  cases hf : (findRow p.key).run db with
  | error e => rw [hf] at hr; cases hr
  | ok q =>
    obtain ⟨row?, db₁⟩ := q
    rw [hf] at hr
    cases hr
    obtain ⟨row, rfl, rfl⟩ := Option.map_eq_some_iff.1 he
    obtain ⟨hm, hid⟩ := mem_of_findRow hf
    obtain ⟨q, hq, hk, hparts⟩ := hi.groups row hm
    exact hparts.trans (Identifier.key_injective hq hp (hk.symm.trans hid))

end Groups

namespace Cards

/-- A card that is found can be presented: its row and those of its entities are among the rows. -/
theorem ofCard_of_findCard {id : String} {db : Database} (hi : db.Presentable) {card : BusinessCard}
    (h : (findCard id).answer db = .ok (some card)) : ∃ payload, CardPayload.ofCard card = .ok payload := by
  obtain ⟨⟨found, db'⟩, hr, he⟩ := ok_of_map h
  have hr := ok_of_mapError hr
  rw [findCard, run_bind, run_findRows] at hr
  cases hc : db.cards with
  | none => rw [hc] at hr; cases hr
  | some cards =>
    rw [hc] at hr
    dsimp only at hr
    cases hf : cards.find? (·.id == id) with
    | none =>
      rw [hf] at hr
      cases hr
      cases he
    | some c =>
      rw [hf] at hr
      dsimp only at hr
      cases ht : db.entities with
      | none => rw [ht] at hr; cases hr
      | some rows =>
        rw [ht] at hr
        cases hr
        cases he
        have hcard : c.Presentable := hi.cards c (by rw [Database.cardRows, hc]; exact List.mem_of_find?_eq_some hf)
        let payload : CardPayload :=
          ⟨⟨c.scheme, c.value⟩, ((entitiesOf id rows).map EntityRow.toStored).map (·.content)⟩
        have hread : payload.Readable :=
          { participant := hcard
            entities := fun e hm => by
              obtain ⟨s, hs, rfl⟩ := List.mem_map.1 hm
              obtain ⟨r, hr, rfl⟩ := List.mem_map.1 hs
              exact hi.entities r (by rw [Database.entityRows, ht]; exact (mem_entitiesOf.1 hr).1) }
        exact ⟨payload, CardPayload.ofCard_of_readable hread rfl rfl⟩

end Cards

/-- The rows of users are no others. -/
theorem Users.keeps_insertRow (row : UserRow) : (Users.insertRow row).Keeps Database.Presentable := by
  intro db a db' hi h
  obtain ⟨rows, -, rfl⟩ := insert_ok Database.users (·.constraints.users) UserRow.cell
    (fun db rows => { db with users := some rows }) (Users.insertion row) h
  exact ⟨hi.groups, hi.cards, hi.entities⟩

/-! ## What the calls keep -/

namespace Directory

variable {d : Directory} {db : Database} {n : Nat} {uri : Option String}

/-- A card is stored for a participant that keeps the limits of identifiers. -/
theorem check_of_storeChecks (hi : db.Presentable) {id : String} {payload : CardPayload}
    {credentials : Option Credentials} {v : Json} (hv : CardPayload.decode v = .accepted payload) {group : ServiceGroup}
    (h : d.storeChecks id payload credentials db = .ok group) :
    group.participant.check = .accepted group.participant := by
  obtain ⟨p, hp, h⟩ := ok_of_bind h
  obtain ⟨⟨⟩, hq, h⟩ := ok_of_bind h
  obtain ⟨group', hg, h⟩ := ok_of_bind h
  obtain ⟨user, -, h⟩ := ok_of_bind h
  obtain ⟨⟨⟩, -, h⟩ := ok_of_bind h
  cases h
  obtain ⟨found, hl, hf⟩ := ok_of_bind hg
  obtain rfl := Cause.require_ok hf
  rw [Groups.participant_of_lookup ⟨_, _, named_ok hp⟩ hi hl]
  exact (CardPayload.readable_of_accepted hv (sameParticipant_ok hq)).participant

/-- One call: whatever it does, cards and entities can be read back afterwards. -/
theorem presentable_effect (hi : db.Presentable) {call : Call} (ha : call.Accepted) {a : Answer} {db' : Database}
    (h : d.effect uri n db call = .ok (a, db')) : db'.Presentable := by
  refine d.effect_keeps uri hi (fun id p user extension hp => Groups.keeps_register ⟨_, _, named_ok hp⟩ user extension)
    Groups.keeps_deleteRow (fun id payload credentials group hcall hchecks => ?_) Cards.keeps_deleteRows h
  subst hcall
  obtain ⟨v, hv⟩ := ha _ _ _ rfl
  have hcontents : ∀ e ∈ numbered n payload.entities, e.content.ofStored = .ok e.content := by
    intro e he
    have hm := List.mem_map_of_mem (f := StoredEntity.content) he
    rw [numbered_contents] at hm
    exact CardPayload.ofStored_of_accepted hv _ hm
  exact Cards.keeps_putRows (check_of_storeChecks hi hv hchecks) hcontents

theorem ofCard_of_readCard (hi : db.Presentable) {id : String} {card : BusinessCard} (h : d.readCard id db = .ok card) :
    ∃ payload, CardPayload.ofCard card = .ok payload := by
  obtain ⟨p, -, h⟩ := ok_of_bind h
  obtain ⟨group, -, h⟩ := ok_of_bind h
  obtain ⟨⟨⟩, -, h⟩ := ok_of_bind h
  obtain ⟨found, hf, h⟩ := ok_of_bind h
  obtain rfl := Cause.require_ok h
  exact Cards.ofCard_of_findCard hi hf

/-- A card that is found is presented: no answer tells of violations. -/
theorem no_violation_getCard (hi : db.Presentable) (id : String) (vs : List Violation) :
    (d.effect uri n db (.getCard id)).map Prod.fst ≠ .error (.invalid vs) := by
  intro h
  rw [effect] at h
  cases hr : d.readCard id db with
  | ok card =>
    obtain ⟨payload, hp⟩ := ofCard_of_readCard hi hr
    rw [hr] at h
    change Except.map _ (((CardPayload.ofCard card).mapError Failure.invalid).map _) = _ at h
    rw [hp] at h
    cases h
  | error e =>
    rw [hr] at h
    cases e with
    | invalid ws => exact d.no_violation_readCard id db ws hr
    | fault f => cases h
    | accident a => cases h

end Directory

end ParticipantDirectory
