import ParticipantDirectory.Proofs.Service.Incidents
import ParticipantDirectory.Proofs.Store.Distinct

/-!
# Operations

What the users, the service groups and the cards of a database can be asked for, whatever they are given, and the calls
of directories over it (`DataOperation`). Whether it succeeds or fails, an operation keeps a database whole: the four
tables are there, and their constraints are met (`DataOperation.preserves_whole`).
-/

namespace ParticipantDirectory

open Action Transaction

/-- What is asked of the users, the service groups and the cards of a database, or of a directory over it. -/
inductive DataOperation where
  | createUser (rounds : Nat) (name password : Text.Loose)
  | findUser (name : Text.Loose)
  | countUsers
  | authenticate (rounds : Nat) (credentials : Option Credentials)
  | verifyOwner (p : Identifier) (user : User)
  | bootstrap (rounds : Nat) (name password : Option Text.Loose)
  | createGroup (p : Identifier) (owner : User) (extension : Option String)
  | findGroup (p : Identifier)
  | countGroups
  | deleteGroup (p : Identifier)
  | putCard (group : ServiceGroup) (entities : List StoredEntity)
  | findCard (id : String)
  | countCards
  | deleteCard (card : BusinessCard)
  | call (d : Directory) (uri : Option String) (c : Call)

/-- The answer to an operation. -/
inductive Reply where
  | done
  | user (u : User)
  | user? (u : Option User)
  | group (g : ServiceGroup)
  | group? (g : Option ServiceGroup)
  | card? (c : Option BusinessCard)
  | count (n : Nat)
  | deleted (found : Bool)
  | answer (a : Answer)

/-- Does what is asked. -/
def DataOperation.perform : DataOperation → Action Database Reply
  | createUser rounds name password => .user <$> Users.create rounds name password
  | findUser name => .user? <$> Users.find? name
  | countUsers => .count <$> Users.count
  | authenticate rounds credentials => .user <$> Users.authenticate rounds credentials
  | verifyOwner p user => (fun _ => .done) <$> Groups.verifyOwner p user
  | bootstrap rounds name password => (fun _ => .done) <$> Directory.ensureBootstrapUser rounds name password
  | createGroup p owner extension => .group <$> Groups.create p owner extension
  | findGroup p => .group? <$> Groups.find? p
  | countGroups => .count <$> Groups.count
  | deleteGroup p => .deleted <$> Groups.delete p
  | putCard group entities => .card? <$> Cards.put group entities
  | findCard id => .card? <$> Cards.find? id
  | countCards => .count <$> Cards.count
  | deleteCard card => .deleted <$> Cards.delete card
  | call d uri c => .answer <$> c.perform (d.collaborators uri)

namespace Action

variable {σ α β : Type} {P : σ → Prop}

theorem Preserves.map {I : World σ → Prop} {a : Action σ α} (ha : a.Preserves I) (f : α → β) :
    (f <$> a).Preserves I := by
  intro w hw
  rw [runOn_map]
  exact ha w hw

/-- What only reads preserves every property of the state. -/
theorem Reads.preserves_state {a : Action σ α} {f : σ → Except Failure α} (ha : a.Reads f) :
    a.Preserves fun w => P w.state :=
  ha.preserves fun _ _ hw h => h.state.symm ▸ hw

/-- A change preserves a property of the state that it hands on when it succeeds. -/
theorem Changes.preserves_state {a : Action σ α} {f : σ → Except Failure (α × σ)} (ha : a.Changes f)
    (h : ∀ s x s', P s → f s = .ok (x, s') → P s') : a.Preserves fun w => P w.state := by
  intro w hw
  obtain ⟨w', e, hs, -⟩ := ha.ends w
  rw [e]
  show P w'.state
  rw [hs]
  cases hf : f w.state with
  | error e => exact hw
  | ok p => exact h _ p.1 p.2 hw hf

end Action

namespace Users

theorem preserves_whole_create (rounds : Nat) (name password : Text.Loose) :
    (Users.create rounds name password).Preserves fun w => w.state.Whole := by
  intro w hw
  obtain ⟨w', e, a⟩ := runOn_created rounds name password w
  rw [e]
  dsimp only
  rw [a.state]
  cases hc : created rounds name password w with
  | error f => exact hw
  | ok q =>
    obtain ⟨name', password', -, -, ho, -⟩ := created_ok hc
    exact (keeps_whole _).outcome hw ho

end Users

namespace DataOperation

theorem preserves_whole (operation : DataOperation) : operation.perform.Preserves fun w => w.state.Whole := by
  cases operation with
  | createUser rounds name password => exact (Users.preserves_whole_create rounds name password).map _
  | findUser name =>
    exact (session_reads ((Users.readOnly_findRow name).bind fun _ => readOnly_pure _)).preserves_state.map _
  | countUsers | countGroups | countCards =>
    exact (session_reads ((readOnly_rows _ _).bind fun _ => readOnly_pure _)).preserves_state.map _
  | authenticate rounds credentials => exact (Users.reads_authenticate rounds credentials).preserves_state.map _
  | verifyOwner p user => exact (Groups.reads_verifyOwner p user).preserves_state.map _
  | bootstrap rounds name password =>
    exact (Directory.preserves_ensureBootstrapUser (fun _ _ hw h => h.state.symm ▸ hw)
      (Users.preserves_whole_create rounds) name password).map _
  | createGroup p owner extension =>
    refine ((Groups.changes_create p owner extension).preserves_state fun db g db' hdb h => ?_).map _
    obtain ⟨q, hq, he⟩ := ok_of_map h
    cases he
    exact (Groups.keeps_whole_register p owner extension).outcome hdb hq
  | findGroup p => exact (Groups.reads_find? p).preserves_state.map _
  | deleteGroup p =>
    exact ((Groups.changes_delete p).preserves_state fun _ _ _ hdb h =>
      (Groups.keeps_whole_deleteRow p.key).outcome hdb h).map _
  | putCard group entities =>
    exact ((Cards.changes_put group entities).preserves_state fun _ _ _ hdb h =>
      Cards.stored_keeps (Cards.keeps_whole_putRows group entities) hdb h).map _
  | findCard id => exact (Cards.reads_find? id).preserves_state.map _
  | deleteCard card =>
    exact ((Cards.changes_delete card).preserves_state fun _ _ _ hdb h =>
      (Cards.keeps_whole_deleteRows card.id).outcome hdb h).map _
  | call d uri c =>
    refine Preserves.map (fun w hw => ?_) _
    obtain ⟨w', e, hs, -⟩ := d.runOn_perform uri c w
    rw [e]
    show w'.state.Whole
    rw [hs]
    cases hf : d.effect uri w.issued w.state c with
    | error e => exact hw
    | ok p =>
      obtain ⟨a, db'⟩ := p
      exact d.effect_keeps uri hw (fun _ p user extension _ => Groups.keeps_whole_register p user extension)
        Groups.keeps_whole_deleteRow (fun _ _ _ group _ _ => Cards.keeps_whole_putRows group _)
        Cards.keeps_whole_deleteRows hf

end DataOperation

end ParticipantDirectory
