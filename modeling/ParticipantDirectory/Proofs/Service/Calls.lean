import ParticipantDirectory.Proofs.Framework.Invariant
import ParticipantDirectory.Proofs.Service.Checks
import ParticipantDirectory.Proofs.Store.Entities
import ParticipantDirectory.Proofs.Store.Refusals

/-!
# Calls

The six operations on service groups and business cards as the calls of a directory (`Call.perform`), and
what a call makes of the database (`Directory.effect`): the answer and the new database, or a failure. The main
fact is `Directory.runOn_perform`: from every world, whichever tables are missing, a call ends as `effect` says,
and if that is a failure the database is left as it was. Only storing a card draws numbers, one for each entity.
-/

namespace ParticipantDirectory

open Action Transaction

/-- A call of an operation on service groups or on business cards. -/
inductive Call where
  | getGroup (id : String)
  | createGroup (id : String) (credentials : Option Credentials) (extension : Option String)
  | deleteGroup (id : String) (credentials : Option Credentials)
  | getCard (id : String)
  | createCard (id : String) (payload : CardPayload) (credentials : Option Credentials)
  | deleteCard (id : String) (credentials : Option Credentials)

/-- The answer to a call, or the user who was created. -/
inductive Answer where
  | user (u : User)
  | group (g : ServiceGroup)
  | card (p : CardPayload)
  | outcome (o : Outcome)
  deriving DecidableEq

namespace Call

/-- The raw id that a call names. -/
def id : Call → String
  | getGroup id | createGroup id _ _ | deleteGroup id _ | getCard id | createCard id _ _ | deleteCard id _ => id

/-- The credentials that a call presents. -/
def credentials : Call → Option Credentials
  | getGroup _ | getCard _ => none
  | createGroup _ c _ | deleteGroup _ c | createCard _ _ c | deleteCard _ c => c

/-- A call that only asks for something. -/
def Asks : Call → Prop
  | getGroup _ | getCard _ => True
  | createGroup .. | deleteGroup .. | createCard .. | deleteCard .. => False

/-- How many numbers a call draws when it ends with an answer. -/
def drawn : Call → Nat
  | createCard _ payload _ => payload.entities.length
  | _ => 0

/-- Makes a call. -/
def perform {σ : Type} (c : Collaborators σ) : Call → Action σ Answer
  | getGroup id => .group <$> GroupService.get c id
  | createGroup id credentials extension => .group <$> GroupService.create c id credentials extension
  | deleteGroup id credentials => .outcome <$> GroupService.delete c id credentials
  | getCard id => .card <$> CardService.get c id
  | createCard id payload credentials => .outcome <$> CardService.create c id payload credentials
  | deleteCard id credentials => .outcome <$> CardService.delete c id credentials

end Call

theorem runOn_issueAll {σ : Type} (contents : List BusinessEntity) (w : World σ) :
    (contents.mapM fun content => do
        return (⟨.issued (← issue), content⟩ : StoredEntity) : Action σ _).runOn w =
      (.ok (numbered w.issued contents), { w with issued := w.issued + contents.length }) := by
  induction contents generalizing w with
  | nil => rfl
  | cons content rest ih =>
    rw [List.mapM_cons, runOn_bind]
    show (_ >>= _ : Action σ _).runOn { w with issued := w.issued + 1 } = _
    rw [runOn_bind, ih]
    show (Except.ok (⟨.issued w.issued, content⟩ :: numbered (w.issued + 1) rest),
      ({ w with issued := w.issued + 1 + rest.length } : World σ)) = _
    rw [List.length_cons, Nat.add_right_comm, Nat.add_assoc]
    rfl

namespace Directory

variable (d : Directory)

/-! ## What each operation makes of the database -/

/-- The service group of the participant that an id names. -/
def readGroup (id : String) (db : Database) : Except Failure ServiceGroup := do
  groupOf id (← d.named id) db

/-- The new service group of the participant that an id names. -/
def registerGroup (id : String) (credentials : Option Credentials) (extension : Option String) (db : Database) :
    Except Failure (ServiceGroup × Database) := do
  let p ← d.named id
  let user ← Users.identified d.rounds db credentials
  ((Groups.register p user extension).outcome db).map fun q => (q.1.toGroup, q.2)

/-- The database without the service group of the participant that an id names. -/
def removeGroup (id : String) (credentials : Option Credentials) (db : Database) :
    Except Failure (Unit × Database) := do
  let p ← d.named id
  let _ ← d.ownerOf p credentials db
  let q ← (Groups.deleteRow p.key).outcome db
  if q.1 then return ((), q.2) else .error (Failure.of (.unknownGroup id))

/-- The card of the participant that an id names. -/
def readCard (id : String) (db : Database) : Except Failure BusinessCard := do
  let p ← d.named id
  let group ← groupOf id p db
  d.enabled
  (Cause.unknownCard id).require (← (Cards.findCard group.id).answer db)

/-- The service group for which a card may be stored. -/
def storeChecks (id : String) (payload : CardPayload) (credentials : Option Credentials) (db : Database) :
    Except Failure ServiceGroup := do
  let p ← d.named id
  d.sameParticipant p payload
  let group ← groupOf id p db
  let _ ← d.ownerOf p credentials db
  d.enabled
  return group

/-- The database without the card of the participant that an id names. -/
def removeCard (id : String) (credentials : Option Credentials) (db : Database) :
    Except Failure (Unit × Database) := do
  let p ← d.named id
  let _ ← d.ownerOf p credentials db
  d.enabled
  let card ← (Cause.unknownCard id).require (← (Cards.findCard p.key).answer db)
  ((Cards.deleteRows card.id).outcome db).map fun q => ((), q.2)

variable (uri : Option String)

theorem reads_beginGroup {σ : Type} (operation : GroupOperation) (request : String) :
    (GroupService.begin operation request : Action σ Unit).Reads fun _ => .ok () :=
  (reads_note _).seq (reads_count _ _)

theorem reads_beginCard {σ : Type} (operation : CardOperation) (id request : String) :
    (CardService.begin operation id request : Action σ Unit).Reads fun _ => .ok () :=
  (reads_note _).seq (reads_count _ _)

theorem reads_succeedCard {σ α : Type} (operation : CardOperation) (id message : String) (x : α) :
    (do CardService.succeed operation id message; return x : Action σ α).Reads fun _ => .ok x :=
  Reads.seq ((reads_note _).seq (reads_count _ _)) (reads_pure x)

theorem reads_getGroup (id : String) :
    (GroupService.get (d.collaborators uri) id).Reads fun db =>
      (d.readGroup id db).mapError (GroupService.block (d.collaborators uri) .get id).report := by
  refine (reads_beginGroup _ _).seq (Reads.bind_self (Reads.block _ ?_) fun group =>
    (reads_count _ _).seq (reads_pure group))
  exact (d.reads_parse uri id).bind fun p => d.reads_requireGroup uri id p

theorem changes_createGroup (id : String) (credentials : Option Credentials) (extension : Option String) :
    (GroupService.create (d.collaborators uri) id credentials extension).Changes fun db =>
      (d.registerGroup id credentials extension db).mapError
        (GroupService.block (d.collaborators uri) .create id).report := by
  refine (reads_beginGroup _ _).bind_changes fun _ => Changes.bind_self (Changes.block _ ?_)
    fun group => (reads_count _ _).seq (reads_pure group)
  exact (d.reads_parse uri id).bind_changes fun p => (Users.reads_authenticate _ _).bind_changes fun user =>
    Groups.changes_create p user extension

/-- Where there is no group, none is deleted and nothing changes. -/
theorem deleteRow_false {id : String} {db db' : Database} (h : (Groups.deleteRow id).outcome db = .ok (false, db')) :
    db' = db := by
  rw [outcome, Groups.deleteRow, run_bind] at h
  cases hf : (Groups.findRow id).run db with
  | error e => rw [hf] at h; cases h
  | ok p =>
    obtain ⟨row, db₁⟩ := p
    obtain rfl := Groups.readOnly_findRow id _ _ _ hf
    rw [hf] at h
    cases row with
    | none => cases h; rfl
    | some row =>
      dsimp only at h
      rw [run_bind] at h
      cases hc : (Cards.deleteRows id).run db₁ with
      | error e => rw [hc] at h; cases h
      | ok q => rw [hc] at h; cases h

theorem changes_deleteGroup (id : String) (credentials : Option Credentials) :
    (GroupService.delete (d.collaborators uri) id credentials).Changes fun db =>
      ((d.removeGroup id credentials db).mapError
        (GroupService.block (d.collaborators uri) .delete id).report).map fun q => (Outcome.success, q.2) := by
  refine (reads_beginGroup _ _).bind_changes fun _ => Changes.bind_ok (Changes.block _ ?_)
    fun _ => (reads_count _ _).seq (reads_pure Outcome.success)
  refine (d.reads_parse uri id).bind_changes fun p => (d.reads_requireOwner uri p credentials).bind_changes fun _ =>
    ((Groups.changes_delete p).bind (h := fun deleted _ =>
      if deleted then .ok () else .error (Failure.of (.unknownGroup id))) (fun deleted => ?_) ?_).congr fun db => ?_
  · cases deleted with
    | true => exact reads_pure ()
    | false => exact reads_fail _
  · intro db deleted db' e hd he
    cases deleted with
    | true => cases he
    | false => exact deleteRow_false hd
  · cases (Groups.deleteRow p.key).outcome db with
    | error e => rfl
    | ok q =>
      obtain ⟨deleted, db'⟩ := q
      cases deleted <;> rfl

/-- The reported block in which a card is looked up. -/
theorem reads_cardBlock (id : String) :
    ((CardService.block (d.collaborators uri) .get id).run do
        let p ← (d.collaborators uri).parse id
        let group ← (d.collaborators uri).requireGroup id p
        let store ← (d.collaborators uri).requireCards
        Action.orFail (.unknownCard id) (← store.ofGroup group)).Reads fun db =>
      (d.readCard id db).mapError (CardService.block (d.collaborators uri) .get id).report :=
  Reads.block _ ((d.reads_parse uri id).bind fun p => (d.reads_requireGroup uri id p).bind fun group =>
    d.reads_requireCards uri ((Cards.reads_find? group.id).bind fun card => reads_orFail _ card))

theorem reads_getCard (id : String) :
    (CardService.get (d.collaborators uri) id).Reads fun db =>
      (d.readCard id db).mapError (CardService.block (d.collaborators uri) .get id).report >>= fun card =>
        (CardPayload.ofCard card).mapError .invalid := by
  refine (reads_beginCard _ _ _).seq ((d.reads_cardBlock uri id).bind fun card =>
    Reads.seq ((reads_note _).seq (reads_count _ _)) ?_)
  cases CardPayload.ofCard card with
  | ok payload => exact reads_pure payload
  | error violations => exact reads_throw _

theorem changes_deleteCard (id : String) (credentials : Option Credentials) :
    (CardService.delete (d.collaborators uri) id credentials).Changes fun db =>
      ((d.removeCard id credentials db).mapError
        (CardService.block (d.collaborators uri) .delete id).report).map fun q => (Outcome.success, q.2) := by
  refine (reads_beginCard _ _ _).bind_changes fun _ => Changes.bind_ok (Changes.block _ ?_)
    fun _ => reads_succeedCard _ _ _ Outcome.success
  refine (d.reads_parse uri id).bind_changes fun p => (d.reads_requireOwner uri p credentials).bind_changes fun _ =>
    d.changes_requireCards uri ?_
  exact (Cards.reads_find? p.key).bind_changes fun found => (reads_orFail _ found).bind_changes fun card =>
    (Cards.changes_delete card).bind_ok fun _ => reads_pure ()

theorem reads_storeChecks (id : String) (payload : CardPayload) (credentials : Option Credentials) :
    ((CardService.block (d.collaborators uri) .create id).run do
        let p ← (d.collaborators uri).parse id
        CardService.requireSameParticipant (d.collaborators uri) p payload
        let group ← (d.collaborators uri).requireGroup id p
        let _ ← (d.collaborators uri).requireOwner p credentials
        let store ← (d.collaborators uri).requireCards
        return (group, store)).Reads fun db =>
      ((d.storeChecks id payload credentials db).map fun group => (group, cardStore)).mapError
        (CardService.block (d.collaborators uri) .create id).report := by
  refine Reads.block _ (Reads.congr ((d.reads_parse uri id).bind fun p =>
    (d.reads_requireSameParticipant uri p payload).bind fun _ => (d.reads_requireGroup uri id p).bind fun group =>
      (d.reads_requireOwner uri p credentials).bind fun _ =>
        d.reads_requireCards uri (reads_pure (group, cardStore))) fun db => ?_)
  simp only [storeChecks, except_map_bind]
  rfl

/-- The outcome of storing a card, which is the card or none. -/
def stored : Option BusinessCard → Outcome
  | some _ => .success
  | none => .failure

theorem changes_store (id finished : String) (group : ServiceGroup) (entities : List StoredEntity) :
    (do
      match ← cardStore.put group entities with
      | none =>
        CardService.note .error .create id (finished ++ " - failure")
        Action.count CardService.errorCounter CardOperation.create.name
        return .failure
      | some _ =>
        CardService.succeed .create id (finished ++ " - success")
        return .success : Action Database Outcome).Changes fun db =>
      (Cards.stored group entities db).map fun q => (stored q.1, q.2) := by
  refine (Cards.changes_put group entities).bind_ok fun card => ?_
  cases card with
  | none => exact (reads_note _).seq ((reads_count _ _).seq (reads_pure _))
  | some card => exact reads_succeedCard _ _ _ _

/-! ## What a call makes of the database -/

/-- What a call makes of the database: its answer and the new database, or a failure. New entities are numbered
from `n` on. -/
def effect (n : Nat) (db : Database) : Call → Except Failure (Answer × Database)
  | .getGroup id =>
    ((d.readGroup id db).mapError (GroupService.block (d.collaborators uri) .get id).report).map
      fun group => (.group group, db)
  | .createGroup id credentials extension =>
    ((d.registerGroup id credentials extension db).mapError
      (GroupService.block (d.collaborators uri) .create id).report).map fun q => (.group q.1, q.2)
  | .deleteGroup id credentials =>
    ((d.removeGroup id credentials db).mapError (GroupService.block (d.collaborators uri) .delete id).report).map
      fun q => (.outcome .success, q.2)
  | .getCard id =>
    ((d.readCard id db).mapError (CardService.block (d.collaborators uri) .get id).report >>= fun card =>
      (CardPayload.ofCard card).mapError .invalid).map fun payload => (.card payload, db)
  | .createCard id payload credentials =>
    (d.storeChecks id payload credentials db).mapError
        (CardService.block (d.collaborators uri) .create id).report >>= fun group =>
      (Cards.stored group (numbered n payload.entities) db).map fun q => (.outcome (stored q.1), q.2)
  | .deleteCard id credentials =>
    ((d.removeCard id credentials db).mapError (CardService.block (d.collaborators uri) .delete id).report).map
      fun q => (.outcome .success, q.2)

theorem runOn_createCard (id : String) (payload : CardPayload) (credentials : Option Credentials)
    (w : World Database) :
    let r := d.effect uri w.issued w.state (.createCard id payload credentials)
    ∃ w', ((Call.createCard id payload credentials).perform (d.collaborators uri)).runOn w = (r.map Prod.fst, w') ∧
      w'.state = (w.settle r).state ∧ w'.salts = w.salts ∧ w.issued ≤ w'.issued ∧
      (r.isOk → w'.issued = w.issued + payload.entities.length) := by
  obtain ⟨w₁, e₁, a₁⟩ := reads_beginCard .create id ("PUT /businesscard/" ++ id ++ " ==> " ++ payload.summary) w
  obtain ⟨w₂, e₂, a₂⟩ := d.reads_storeChecks uri id payload credentials w₁
  have a := a₁.trans a₂
  dsimp only at e₂ ⊢
  rw [a₁.state] at e₂
  rw [Call.perform, runOn_map, CardService.create, runOn_bind, e₁]
  dsimp only
  rw [runOn_bind, e₂, effect]
  cases d.storeChecks id payload credentials w.state with
  | error e => exact ⟨w₂, rfl, a.state, a.salts, Nat.le_of_eq a.issued.symm, fun h => by cases h⟩
  | ok group =>
    obtain ⟨w₃, e₃, s₃, i₃, t₃⟩ :=
      (changes_store id ("Finished createBusinessCard(" ++ id ++ "," ++ payload.summary ++ ")") group
        (numbered w.issued payload.entities)).ends { w₂ with issued := w.issued + payload.entities.length }
    have h : w₃.state = (w.settle (Cards.stored group (numbered w.issued payload.entities) w.state)).state := by
      rw [s₃]
      dsimp only
      rw [a.state]
      cases Cards.stored group (numbered w.issued payload.entities) w.state with
      | error e => rfl
      | ok q => rfl
    dsimp only [Except.map, Except.mapError]
    rw [runOn_bind, runOn_issueAll, a.issued]
    refine ⟨w₃, (congrArg (fun q => (q.1.map Answer.outcome, q.2)) e₃).trans ?_, h.trans ?_, t₃.trans a.salts,
      i₃ ▸ Nat.le_add_right _ _, fun _ => i₃⟩
    · dsimp only
      rw [a.state]
      show _ = (Except.map Prod.fst ((Cards.stored group (numbered w.issued payload.entities) w.state).map
        fun q => (Answer.outcome (stored q.1), q.2)), w₃)
      cases Cards.stored group (numbered w.issued payload.entities) w.state <;> rfl
    · show _ = (w.settle ((Cards.stored group (numbered w.issued payload.entities) w.state).map
        fun q => (Answer.outcome (stored q.1), q.2))).state
      cases Cards.stored group (numbered w.issued payload.entities) w.state <;> rfl

/-- A call that stores no card changes the database all or nothing. -/
theorem changes_perform {call : Call} (h : ∀ id payload credentials, call ≠ .createCard id payload credentials)
    (n : Nat) : (call.perform (d.collaborators uri)).Changes fun db => d.effect uri n db call := by
  cases call with
  | getGroup id =>
    refine ((d.reads_getGroup uri id).map Answer.group).changes.congr fun db => ?_
    rw [effect]
    cases d.readGroup id db <;> rfl
  | createGroup id credentials extension =>
    exact (d.changes_createGroup uri id credentials extension).map Answer.group
  | deleteGroup id credentials =>
    refine ((d.changes_deleteGroup uri id credentials).map Answer.outcome).congr fun db => ?_
    rw [effect]
    cases d.removeGroup id credentials db <;> rfl
  | getCard id =>
    refine ((d.reads_getCard uri id).map Answer.card).changes.congr fun db => ?_
    rw [effect]
    cases (d.readCard id db).mapError (CardService.block (d.collaborators uri) .get id).report >>= fun card =>
      (CardPayload.ofCard card).mapError .invalid <;> rfl
  | createCard id payload credentials => exact absurd rfl (h id payload credentials)
  | deleteCard id credentials =>
    refine ((d.changes_deleteCard uri id credentials).map Answer.outcome).congr fun db => ?_
    rw [effect]
    cases d.removeCard id credentials db <;> rfl

/-- What the writes of a call keep, the call keeps. A card is stored only for a group that passes the checks. -/
theorem effect_keeps {P : Database → Prop} {n : Nat} {db : Database} (hi : P db) {call : Call}
    (hregister : ∀ id p user extension, d.named id = .ok p → (Groups.register p user extension).Keeps P)
    (hdelete : ∀ key, (Groups.deleteRow key).Keeps P)
    (hput : ∀ id payload credentials group, call = .createCard id payload credentials →
      d.storeChecks id payload credentials db = .ok group → (Cards.putRows group (numbered n payload.entities)).Keeps P)
    (hdrop : ∀ id, (Cards.deleteRows id).Keeps P) {a : Answer} {db' : Database}
    (h : d.effect uri n db call = .ok (a, db')) : P db' := by
  cases call with
  | getGroup id | getCard id =>
    obtain ⟨x, -, he⟩ := ok_of_map h
    cases he
    exact hi
  | createGroup id credentials extension =>
    obtain ⟨⟨g, db₁⟩, hr, he⟩ := ok_of_map h
    cases he
    obtain ⟨p, hp, h⟩ := ok_of_bind (ok_of_mapError hr)
    obtain ⟨user, -, h⟩ := ok_of_bind h
    obtain ⟨⟨row, db₂⟩, ho, he⟩ := ok_of_map h
    cases he
    exact (hregister id p user extension hp).outcome hi ho
  | deleteGroup id credentials =>
    obtain ⟨⟨⟨⟩, db₁⟩, hr, he⟩ := ok_of_map h
    cases he
    obtain ⟨p, -, h⟩ := ok_of_bind (ok_of_mapError hr)
    obtain ⟨user, -, h⟩ := ok_of_bind h
    obtain ⟨⟨deleted, db₂⟩, ho, he⟩ := ok_of_bind h
    have hd := (hdelete p.key).outcome hi ho
    cases deleted with
    | true => cases he; exact hd
    | false => cases he
  | createCard id payload credentials =>
    obtain ⟨group, hg, h⟩ := ok_of_bind h
    obtain ⟨⟨card, db₁⟩, hs, he⟩ := ok_of_map h
    cases he
    exact Cards.stored_keeps (hput id payload credentials group rfl (ok_of_mapError hg)) hi hs
  | deleteCard id credentials =>
    obtain ⟨⟨⟨⟩, db₁⟩, hr, he⟩ := ok_of_map h
    cases he
    obtain ⟨p, -, h⟩ := ok_of_bind (ok_of_mapError hr)
    obtain ⟨user, -, h⟩ := ok_of_bind h
    obtain ⟨⟨⟩, -, h⟩ := ok_of_bind h
    obtain ⟨found, -, h⟩ := ok_of_bind h
    obtain ⟨card, -, h⟩ := ok_of_bind h
    obtain ⟨⟨deleted, db₂⟩, ho, he⟩ := ok_of_map h
    cases he
    exact (hdrop card.id).outcome hi ho

/-- From every world a call ends as `effect` says; the database is as it was if that is a failure. -/
theorem runOn_perform (call : Call) (w : World Database) :
    let r := d.effect uri w.issued w.state call
    ∃ w', (call.perform (d.collaborators uri)).runOn w = (r.map Prod.fst, w') ∧ w'.state = (w.settle r).state ∧
      w'.salts = w.salts ∧ w.issued ≤ w'.issued ∧ (r.isOk → w'.issued = w.issued + call.drawn) := by
  by_cases h : ∀ id payload credentials, call ≠ .createCard id payload credentials
  · obtain ⟨w', e, s, i, t⟩ := (d.changes_perform uri h w.issued).ends w
    have hd : call.drawn = 0 := by
      cases call with
      | createCard id payload credentials => exact absurd rfl (h id payload credentials)
      | _ => rfl
    exact ⟨w', e, s, t, Nat.le_of_eq i.symm, fun _ => by rw [i, hd, Nat.add_zero]⟩
  · cases call with
    | createCard id payload credentials => exact d.runOn_createCard uri id payload credentials w
    | _ => exact absurd (fun _ _ _ => Call.noConfusion) h

theorem runOn_of_effect {call : Call} {a : Answer} {db : Database} {w : World Database}
    (h : d.effect uri w.issued w.state call = .ok (a, db)) :
    ∃ w', (call.perform (d.collaborators uri)).runOn w = (.ok a, w') ∧ w'.state = db ∧
      w'.issued = w.issued + call.drawn := by
  obtain ⟨w', e, s, -, -, i⟩ := d.runOn_perform uri call w
  rw [h] at e s i
  exact ⟨w', e, s, i rfl⟩

end Directory

end ParticipantDirectory
