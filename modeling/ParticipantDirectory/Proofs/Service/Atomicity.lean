import ParticipantDirectory.Proofs.Service.Deeds
import ParticipantDirectory.Proofs.Store.Refusals

/-!
# Failures change nothing

A deed that fails, or that stores no card, leaves the database as it was, whichever tables it has and whatever
they hold. Storing a card does fail where its entities cannot be written.
-/

namespace ParticipantDirectory

open Action

/-- The deed was not done: it failed, or it was answered with a failure. -/
def NotDone : Except Failure Answer → Prop
  | .error _ => True
  | .ok (.outcome .failure) => True
  | .ok _ => False

namespace Directory

/-- What is answered with a failure is answered so because no card could be stored, and then nothing changes. -/
theorem effect_failure {d : Directory} {uri : Option String} {n : Nat} {db db' : Database} {call : Call}
    (h : d.effect uri n db call = .ok (.outcome .failure, db')) : db' = db := by
  cases call with
  | getGroup id | createGroup id credentials extension | deleteGroup id credentials | deleteCard id credentials =>
    obtain ⟨q, hq, heq⟩ := ok_of_map h
    cases heq
  | getCard id =>
    obtain ⟨q, hq, heq⟩ := ok_of_map h
    cases heq
  | createCard id payload credentials =>
    obtain ⟨group, hg, hs⟩ := ok_of_bind h
    obtain ⟨⟨card, db₁⟩, hc, heq⟩ := ok_of_map hs
    cases card with
    | some card => cases heq
    | none =>
      cases heq
      exact Cards.eq_of_stored_none hc

/-- A card whose entities cannot be written is answered with a failure. -/
theorem effect_createCard_of_unwritable {d : Directory} (uri : Option String) {n : Nat} {db : Database} {id : String}
    {payload : CardPayload} {credentials : Option Credentials} {group : ServiceGroup}
    (h : d.storeChecks id payload credentials db = .ok group)
    (hu : Cards.Unwritable group.id (numbered n payload.entities) db) :
    d.effect uri n db (.createCard id payload credentials) = .ok (.outcome .failure, db) := by
  rw [effect, h]
  show (Cards.stored group (numbered n payload.entities) db).map _ = _
  rw [Cards.stored_of_unwritable hu]
  rfl

end Directory

theorem Deed.effect_failure {deed : Deed} {w : World Database} {db : Database}
    (h : deed.effect w = .ok (.outcome .failure, db)) : db = w.state := by
  cases deed with
  | createUser rounds name password =>
    obtain ⟨q, hq, heq⟩ := ok_of_map h
    cases heq
  | call d uri c => exact Directory.effect_failure h

/-- A call to store a card whose entities cannot be written, although it passes all checks, is answered with a
failure. -/
theorem createCard_of_unwritable {d : Directory} (uri : Option String) {w : World Database} {id : String}
    {payload : CardPayload} {credentials : Option Credentials} {group : ServiceGroup}
    (h : d.storeChecks id payload credentials w.state = .ok group)
    (hu : Cards.Unwritable group.id (numbered w.issued payload.entities) w.state) :
    ((Deed.call d uri (.createCard id payload credentials)).perform.runOn w).1 = .ok (.outcome .failure) := by
  obtain ⟨w', e, -⟩ := Deed.runOn_perform (.call d uri (.createCard id payload credentials)) w
  rw [e]
  show (d.effect uri w.issued w.state (.createCard id payload credentials)).map Prod.fst = _
  rw [Directory.effect_createCard_of_unwritable uri h hu]
  rfl

/-- A deed that is not done leaves every row of every table as it was. In particular, a card whose entities cannot
be written is not stored, and all cards and all entities are those from before. -/
theorem failures_change_nothing (w : World Database) :
    (∀ deed : Deed, NotDone (deed.perform.runOn w).1 → (deed.perform.runOn w).2.state = w.state) ∧
      ∀ (group : ServiceGroup) (entities : List StoredEntity), Cards.Unwritable group.id entities w.state →
        ((Cards.put group entities).runOn w).1 = .ok none ∧
          ((Cards.put group entities).runOn w).2.state = w.state := by
  constructor
  · intro deed h
    obtain ⟨w', e, s, -⟩ := deed.runOn_perform w
    rw [e] at h ⊢
    show w'.state = w.state
    rw [s]
    cases hr : deed.effect w with
    | error e => rfl
    | ok p =>
      obtain ⟨answer, db⟩ := p
      rw [hr] at h
      cases answer with
      | outcome o =>
        cases o with
        | success => exact h.elim
        | failure => exact Deed.effect_failure hr
      | user u | group g | card p => exact h.elim
  · intro group entities h
    obtain ⟨w', e, s, -⟩ := (Cards.changes_put group entities).ends w
    rw [Cards.stored_of_unwritable h] at e s
    rw [e]
    exact ⟨rfl, s⟩

/-- Without a table of entities a card with an entity is not stored; without a table of users no user is created. -/
theorem failures_change_nothing_without_tables :
    let w : World Database := { state := { Database.fresh with users := none, entities := none } }
    let entity : BusinessEntity := ⟨[⟨"Acme", none⟩], "DE", none, [], [], [], none, none⟩
    ((Deed.createUser 1 "anna" "secret").perform.runOn w).2.state = w.state ∧
      ((Cards.put ⟨"a::b", ⟨"a", "b"⟩, .issued 0, none⟩ [⟨.issued 1, entity⟩]).runOn w).2.state = w.state :=
  let w : World Database := { state := { Database.fresh with users := none, entities := none } }
  ⟨(failures_change_nothing w).1 (.createUser 1 "anna" "secret") trivial,
    ((failures_change_nothing w).2 _ _ (.missing rfl (List.cons_ne_nil _ _))).2⟩

end ParticipantDirectory
