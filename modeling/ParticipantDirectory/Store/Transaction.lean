import ParticipantDirectory.Store.Database
import ParticipantDirectory.World

/-!
# Transactions

A transaction reads and changes the tables of a database and either ends with a value or is aborted; an
aborted one changes nothing. A session runs a transaction as an operation and reports what the database
could not do as a fault.
-/

namespace ParticipantDirectory

/-- Why a transaction is aborted: a statement that breaks a constraint or finds no table on the side of the database,
or a failure of the operation. -/
inductive Abort where
  | integrity (s : Statement)
  | unavailable (s : Statement)
  | failure (f : Failure)

/-- A transaction with answer of type `α`. -/
abbrev Transaction (α : Type) : Type :=
  StateT Database (Except Abort) α

namespace Transaction

/-- The rows of a table that must exist, for a statement. -/
def rows {ρ : Type} (table : Database → Option (List ρ)) (s : Statement) : Transaction (List ρ) := do
  match table (← get) with
  | some rows => return rows
  | none => throw (.unavailable s)

/-- Refuses a statement if it breaks a constraint. -/
def refuseIf (broken : Bool) (s : Statement) : Transaction Unit :=
  if broken then throw (.integrity s) else return ()

/-- Aborts with a cause. -/
def fail {α : Type} (c : Cause) : Transaction α :=
  throw (.failure (Failure.of c))

/-- Reads the id of a user in a row. -/
def readId (id : UserId) : Transaction Unit :=
  match id.readFault? with
  | none => return ()
  | some a => throw (.failure (.accident a))

/-- The rows of users. -/
def users : Statement → Transaction (List UserRow) := rows Database.users

/-- The rows of service groups. -/
def groups : Statement → Transaction (List GroupRow) := rows Database.groups

/-- The rows of cards. -/
def cards : Statement → Transaction (List CardRow) := rows Database.cards

/-- The rows of entities. -/
def entities : Statement → Transaction (List EntityRow) := rows Database.entities

end Transaction

/-- The logger of the database. -/
def databaseLogger : String := "smp_directory.infrastructure.database"

/-- The record of a statement that failed, with what the driver says. -/
def databaseRecord (kind operation text : String) : Record where
  logger := databaseLogger
  level := .error
  message := "DB " ++ operation ++ " error (" ++ kind ++ "): " ++ text
  context := { errorCode := .str "DATABASE_ERROR" }

/-- The fault of a database that cannot do what a statement asks, noted in the journal. -/
def databaseFault {α : Type} (kind message operation : String) (s : Statement) : Action Database α := do
  let w ← get
  Action.note (databaseRecord kind operation (w.explain kind s))
  Action.fail (.databaseFailure message operation)

/-- Runs a transaction on the database. -/
def session {α : Type} (t : Transaction α) : Action Database α := do
  let w ← get
  match t.run w.state with
  | .ok (a, db) =>
    set { w with state := db }
    return a
  | .error (.integrity s) => databaseFault "IntegrityError" "Integrity constraint violated" "commit" s
  | .error (.unavailable s) => databaseFault "OperationalError" "Connection or operational error" "execute" s
  | .error (.failure f) => throw f

end ParticipantDirectory
