import ParticipantDirectory.Proofs.Framework.Transaction
import ParticipantDirectory.Store.Groups
import ParticipantDirectory.Store.Users

/-!
# The sessions of a directory

What each operation on users, service groups and cards makes of the database, as one transaction: looking
up, authenticating and verifying owners read (`Users.reads_authenticate`, `Groups.reads_find?`,
`Groups.reads_verifyOwner`, `Cards.reads_find?`); registering, deleting and storing change all or nothing
(`Groups.changes_create`, `Groups.changes_delete`, `Cards.changes_put`, `Cards.changes_delete`,
`Users.runOn_create`). All of it holds whichever tables are missing.
-/

namespace ParticipantDirectory

open Action Transaction

/-! ## Users -/

namespace Users

/-- The row of a name, which must be there. -/
def namedRow (name : String) : Transaction UserRow := do
  match ← findRow name with
  | some row => return row
  | none => Transaction.fail (.unknownUser name)

/-- The user who presents a name and a password, as a function of the database. -/
def identified (rounds : Nat) (db : Database) : Option Credentials → Except Failure User
  | none => .error (Failure.of (.unauthorized "No credentials provided" "UNAUTHORIZED"))
  | some c => do
    let row ← (namedRow c.userName).answer db
    if Password.verify rounds c.password row.passwordHash then .ok row.toUser
    else
      .error (Failure.of
        (.unauthorized ("Illegal password provided for user '" ++ c.userName ++ "'") "UNAUTHORIZED"))

theorem readOnly_unsent {α : Type} (s : Statement) (b : Text.Broken) : (unsent s b : Transaction α).ReadOnly :=
  (readOnly_rows _ s).bind fun _ => readOnly_throw _

theorem readOnly_findRow (name : Text.Loose) : (findRow name).ReadOnly := by
  cases name with
  | broken b => exact readOnly_unsent _ b
  | whole name =>
    refine (readOnly_rows _ _).bind fun rows => ?_
    cases rows.find? (·.loginName == name) with
    | none => exact readOnly_pure none
    | some row => exact (readOnly_readId row.id).bind fun _ => readOnly_pure (some row)

theorem readOnly_namedRow (name : String) : (namedRow name).ReadOnly := by
  refine (readOnly_findRow name).bind fun row => ?_
  cases row with
  | none => exact readOnly_throw _
  | some row => exact readOnly_pure row

section

variable {name : String} {db : Database} {rows : List UserRow} (h : db.users = some rows)
include h

/-- A row is found if its id can be read. -/
theorem run_findRow : (findRow name).run db =
    match rows.find? (·.loginName == name) with
    | none => .ok (none, db)
    | some row =>
      match row.id.readFault? with
      | none => .ok (some row, db)
      | some a => .error (.failure (.accident a)) := by
  rw [findRow, run_bind, Transaction.users, run_rows, h]
  dsimp only
  cases rows.find? (·.loginName == name) with
  | none => rfl
  | some row =>
    dsimp only
    rw [run_bind, run_readId]
    cases row.id.readFault? <;> rfl

theorem run_namedRow : (namedRow name).run db =
    match rows.find? (·.loginName == name) with
    | none => .error (.failure (Failure.of (.unknownUser name)))
    | some row =>
      match row.id.readFault? with
      | none => .ok (row, db)
      | some a => .error (.failure (.accident a)) := by
  rw [namedRow, run_bind, run_findRow h]
  cases rows.find? (·.loginName == name) with
  | none => rfl
  | some row =>
    dsimp only
    cases row.id.readFault? <;> rfl

end

theorem reads_authenticate (rounds : Nat) (c : Option Credentials) :
    (authenticate rounds c).Reads fun db => identified rounds db c := by
  cases c with
  | none => exact reads_fail _
  | some c =>
    refine (session_reads (readOnly_namedRow c.userName)).bind fun row => ?_
    by_cases h : Password.verify rounds c.password row.passwordHash = true
    · rw [if_pos h, if_pos h]
      exact reads_pure _
    · rw [if_neg h, if_neg h]
      exact reads_fail _

/-- The row of a new user. -/
def newRow (rounds : Nat) (name password : String) (w : World Database) : UserRow :=
  ⟨.issued w.issued, name, Password.hash rounds (w.salts w.issued) password⟩

theorem run_insertRow (row : UserRow) (db : Database) : (insertRow row).run db =
    match db.users with
    | none => .error (.unavailable (insertion row))
    | some rows =>
      if db.constraints.users.refuse UserRow.cell rows row then .error (.integrity (insertion row))
      else .ok ((), { db with users := some (rows ++ [row]) }) := by
  cases hu : db.users with
  | none =>
    rw [insertRow, Transaction.users, run_bind, run_rows, hu]
  | some rows =>
    exact run_insert Database.users (·.constraints.users) UserRow.cell (fun db rows => { db with users := some rows })
      (insertion row) hu row

theorem runOn_create_enter (rounds : Nat) (name password : String) (w : World Database) :
    (create rounds name password).runOn w =
      (enter (newRow rounds name password w)).runOn { w with issued := w.issued + 1 } := rfl

theorem changes_enter (row : UserRow) :
    (enter row).Changes fun db => ((insertRow row).outcome db).map fun p => (row.toUser, p.2) :=
  (session_changes _).bind_ok fun _ => (reads_note _).seq (reads_pure _)

/-- What creating a user makes of the database: the new user and the database with the row of the user, or a failure. -/
def created (rounds : Nat) (name password : Text.Loose) (w : World Database) : Except Failure (User × Database) :=
  match Password.stored rounds (w.salts w.issued) password with
  | .error b => .error (.accident (.ofBroken b))
  | .ok stored =>
    match name with
    | .whole name =>
      let row : UserRow := ⟨.issued w.issued, name, stored⟩
      ((insertRow row).outcome w.state).map fun p => (row.toUser, p.2)
    | .broken b => (unsent (.addUser (.issued w.issued) (.broken b) stored) b).outcome w.state

/-- A new user takes the next number, whether or not the row can be added. -/
theorem runOn_created (rounds : Nat) (name password : Text.Loose) (w : World Database) :
    ∃ w', (create rounds name password).runOn w = ((created rounds name password w).map Prod.fst, w') ∧
      (({ w with issued := w.issued + 1 } : World Database).settle (created rounds name password w)).Agrees w' := by
  let w₁ : World Database := { w with issued := w.issued + 1 }
  cases password with
  | broken b => exact ⟨w₁, rfl, .refl w₁⟩
  | whole password =>
    cases name with
    | whole name => exact changes_enter (newRow rounds name password w) w₁
    | broken b => exact session_changes (unsent (.addUser (.issued w.issued) (.broken b) _) b) w₁

/-- Only users whose names and passwords are whole texts are created. -/
theorem created_ok {rounds : Nat} {name password : Text.Loose} {w : World Database} {q : User × Database}
    (h : created rounds name password w = .ok q) :
    ∃ name' password' : String, name = name' ∧ password = password' ∧
      (insertRow (newRow rounds name' password' w)).outcome w.state = .ok ((), q.2) ∧
      q.1 = (newRow rounds name' password' w).toUser := by
  cases password with
  | broken b => cases h
  | whole password =>
    cases name with
    | whole name =>
      obtain ⟨⟨⟨⟩, db⟩, ho, rfl⟩ := ok_of_map (show Except.map _ _ = _ from h)
      exact ⟨name, password, rfl, rfl, ho, rfl⟩
    | broken b =>
      have hunsent : (unsent (.addUser (.issued w.issued) (.broken b) _) b).outcome w.state = .ok q := h
      rw [outcome, unsent, run_bind, Transaction.users, run_rows] at hunsent
      cases hu : w.state.users with
      | none => rw [hu] at hunsent; cases hunsent
      | some rows => rw [hu] at hunsent; cases hunsent

theorem runOn_create (rounds : Nat) (name password : String) (w : World Database) :
    let row := newRow rounds name password w
    let r := ((insertRow row).outcome w.state).map fun p => (row.toUser, p.2)
    ∃ w', (create rounds name password).runOn w = (r.map Prod.fst, w') ∧
      (({ w with issued := w.issued + 1 } : World Database).settle r).Agrees w' :=
  runOn_created rounds name password w

end Users

/-! ## Cards -/

namespace Cards

theorem readOnly_findRows (id : String) : (findRows id).ReadOnly := by
  refine (readOnly_rows _ _).bind fun rows => ?_
  cases rows.find? (·.id == id) with
  | none => exact readOnly_pure _
  | some card => exact (readOnly_rows _ _).bind fun _ => readOnly_pure _

theorem readOnly_findCard (id : String) : (findCard id).ReadOnly :=
  (readOnly_findRows id).bind fun _ => readOnly_pure _

theorem reads_find? (id : String) : (find? id).Reads (findCard id).answer :=
  session_reads (readOnly_findCard id)

theorem changes_delete (card : BusinessCard) : (delete card).Changes (deleteRows card.id).outcome := by
  refine (session_changes _).bind_self fun deleted => ?_
  cases deleted with
  | true => exact (reads_note _).seq (reads_pure true)
  | false => exact reads_pure false

/-- What a failure to store a card is answered with: after a fault there is no card. -/
def unstored {α : Type} : Failure → Except Failure (Option α)
  | .fault _ => .ok none
  | .invalid vs => .error (.invalid vs)
  | .accident a => .error (.accident a)

/-- The card that was stored; none if the database could not store it. -/
def stored (group : ServiceGroup) (entities : List StoredEntity) (db : Database) :
    Except Failure (Option BusinessCard × Database) :=
  match (putRows group entities).outcome db with
  | .ok ((_, card), db') => .ok (some card, db')
  | .error e => (unstored e).map fun card => (card, db)

theorem changes_put (group : ServiceGroup) (entities : List StoredEntity) :
    (put group entities).Changes (stored group entities) := by
  have h := (session_changes (putRows group entities)).map some
  refine ((h.rescue (k := unstored) fun e => ?_).bind_ok (k := Option.map Prod.snd) fun x => ?_).congr fun db => ?_
  · cases e with
    | fault f => exact (reads_note _).seq (reads_pure none)
    | invalid vs => exact reads_throw _
    | accident a => exact reads_throw _
  · cases x with
    | none => exact reads_pure none
    | some x => exact (reads_note _).seq (reads_pure (some x.2))
  · rw [stored]
    cases (putRows group entities).outcome db with
    | ok p => rfl
    | error e => cases e <;> rfl

end Cards

/-! ## Service groups -/

namespace Groups

theorem readOnly_findRow (id : String) : (findRow id).ReadOnly := by
  refine (readOnly_rows _ _).bind fun rows => ?_
  cases rows.find? (·.id == id) with
  | none => exact readOnly_pure _
  | some row =>
    exact (readOnly_readId row.owner).bind fun _ => (Cards.readOnly_findRows id).bind fun _ => readOnly_pure _

theorem readOnly_ownerId (id : UserId) : (ownerId id).ReadOnly := by
  cases id with
  | issued n => exact readOnly_pure _
  | external text =>
    cases h : Text.Uuid.canonical text with
    | ok t =>
      rw [ownerId, h]
      exact readOnly_pure _
    | error reason =>
      rw [ownerId, h]
      exact readOnly_throw _

/-- The service group of a participant. -/
def lookup (p : Identifier) : Transaction (Option ServiceGroup) := do
  return (← findRow p.key).map GroupRow.toGroup

/-- Fails unless the user owns the group of the participant. -/
def ownerCheck (p : Identifier) (user : User) : Transaction Unit := do
  match ← findRow p.key with
  | none => Transaction.fail (.unknownGroup p.key)
  | some row => if row.owner ≠ user.id then Transaction.fail (.notOwner user.name p.key)

theorem reads_find? (p : Identifier) : (find? p).Reads (lookup p).answer :=
  session_reads ((readOnly_findRow _).bind fun _ => readOnly_pure _)

theorem reads_verifyOwner (p : Identifier) (user : User) :
    (verifyOwner p user).Reads (ownerCheck p user).answer := by
  have h : (ownerCheck p user).ReadOnly := by
    refine (readOnly_findRow _).bind fun row => ?_
    cases row with
    | none => exact readOnly_throw _
    | some row =>
      dsimp only
      split
      · exact readOnly_throw _
      · exact readOnly_pure _
  exact (session_reads h).bind_self fun _ => reads_note _

theorem changes_create (p : Identifier) (owner : User) (extension : Option String) :
    (create p owner extension).Changes fun db =>
      ((register p owner extension).outcome db).map fun q => (q.1.toGroup, q.2) :=
  (session_changes _).bind_ok fun _ => (reads_note _).seq (reads_pure _)

theorem changes_delete (p : Identifier) : (delete p).Changes (deleteRow p.key).outcome := by
  refine (session_changes _).bind_self fun deleted => ?_
  cases deleted with
  | true => exact (reads_note _).seq (reads_pure true)
  | false => exact reads_pure false

end Groups

end ParticipantDirectory
