import ParticipantDirectory.Service.Collaborators
import ParticipantDirectory.Store.Groups
import ParticipantDirectory.Store.Users

/-!
# A directory over a database

A directory fixes the addressing rule, whether cards are supported, and the rounds in which passwords are
hashed. Its collaborators work on the tables of a database.
-/

namespace ParticipantDirectory

/-- A directory over a database. -/
structure Directory where
  addressing : Addressing
  cardsEnabled : Bool
  rounds : Nat
  deriving DecidableEq, Repr

namespace Directory

/-- The logger of directories. -/
def logger : String := "smp_directory.services.smp_managers"

/-- The collaborators for a request. -/
def collaborators (d : Directory) (requestUri : Option String) : Collaborators Database where
  addressing := d.addressing
  findGroup := Groups.find?
  createGroup := Groups.create
  deleteGroup := Groups.delete
  authenticate := Users.authenticate d.rounds
  verifyOwner := Groups.verifyOwner
  cards :=
    if d.cardsEnabled then
      some { ofGroup := fun g => Cards.find? g.id, ofId := Cards.find?, put := Cards.put, delete := Cards.delete }
    else none
  requestUri := requestUri

/-- Builds a directory for a rule given by its name; `database` says whether there is a database. -/
def build {σ : Type} (database : Bool) (rule : String) (cardsEnabled : Bool) (rounds : Nat) : Action σ Directory := do
  if !database then Action.fail (.initialization "Failed to init SMP managers: database not initialized")
  let addressing ←
    Action.orFail (.initialization ("Failed to create identifier factory for type '" ++ rule ++ "'"))
      (Addressing.ofName? rule)
  Action.note
    { logger, level := .info,
      message := "SMP managers initialized (identifiers=" ++ addressing.name ++ ", business cards=" ++
        (if cardsEnabled then "enabled" else "disabled") ++ ")" }
  return ⟨addressing, cardsEnabled, rounds⟩

/-- Creates the first user unless the name or the password is empty or the name is taken. -/
def ensureBootstrapUser (rounds : Nat) (name password : Option Text.Loose) : Action Database Unit := do
  let name := name.getD ""
  let password := password.getD ""
  if name = "" ∨ password = "" then return ()
  if (← Users.find? name).isSome then return ()
  let user ← Users.create rounds name password
  Action.note
    { logger, level := .info, message := "Bootstrap user '" ++ user.name ++ "' created",
      context := { userName := .str user.name } }

end Directory

end ParticipantDirectory
