import ParticipantDirectory.Password
import ParticipantDirectory.Store.Transaction

/-!
# Users in the database

Creating users, finding them by name, and checking what they present. Names are compared exactly. A name that holds a
lone surrogate cannot be sent to the database: a statement with it fails, once the database has found the table.
-/

namespace ParticipantDirectory.Users

/-- The logger of users. -/
def logger : String := "smp_directory.services.user_manager"

/-- Fails over a statement with a text that has no bytes. -/
def unsent {α : Type} (s : Statement) (b : Text.Broken) : Transaction α := do
  let _ ← Transaction.users s
  throw (.failure (.accident (.ofBroken b)))

/-- The row of a name, the id in which has to be read. -/
def findRow : Text.Loose → Transaction (Option UserRow)
  | .whole name => do
    match (← Transaction.users (.findUser name)).find? (·.loginName == name) with
    | none => return none
    | some row =>
      Transaction.readId row.id
      return some row
  | .broken b => unsent (.findUser (.broken b)) b

/-- The statement that adds a row. -/
def insertion (row : UserRow) : Statement :=
  .addUser row.id row.loginName row.passwordHash

/-- Adds a row, unless it breaks a constraint of the table. -/
def insertRow (row : UserRow) : Transaction Unit := do
  let rows ← Transaction.users (insertion row)
  Transaction.refuseIf ((← get).constraints.users.refuse UserRow.cell rows row) (insertion row)
  modify fun db => { db with users := some (rows ++ [row]) }

/-- Adds the row of a new user, and notes it. -/
def enter (row : UserRow) : Action Database User := do
  session (insertRow row)
  Action.note
    { logger, level := .info, message := "Created user '" ++ row.loginName ++ "'",
      context := { userName := .str row.loginName } }
  return row.toUser

/-- Creates a user; the password is stored under a fresh salt. -/
def create (rounds : Nat) (name password : Text.Loose) : Action Database User := do
  let n ← Action.issue
  let w ← get
  match Password.stored rounds (w.salts n) password with
  | .error b => throw (.accident (.ofBroken b))
  | .ok stored =>
    match name with
    | .whole name => enter ⟨.issued n, name, stored⟩
    | .broken b => session (unsent (.addUser (.issued n) (.broken b) stored) b)

/-- The user of a name. -/
def find? (name : Text.Loose) : Action Database (Option User) :=
  session (do return (← findRow name).map UserRow.toUser)

/-- The number of users. -/
def count : Action Database Nat :=
  session (do return (← Transaction.users .countUsers).length)

/-- The user whose name and password are presented. -/
def authenticate (rounds : Nat) : Option Credentials → Action Database User
  | none => Action.fail (.unauthorized "No credentials provided" "UNAUTHORIZED")
  | some c => do
    let row ← session do
      match ← findRow c.userName with
      | some row => return row
      | none => Transaction.fail (.unknownUser c.userName)
    if Password.verify rounds c.password row.passwordHash then return row.toUser
    else
      Action.fail
        (.unauthorized ("Illegal password provided for user '" ++ c.userName ++ "'") "UNAUTHORIZED")

end ParticipantDirectory.Users
