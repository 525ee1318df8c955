import ParticipantDirectory.Store.Row

/-!
# Statements

What is asked of a database, statement by statement, with the values that a statement carries. The times that are
written with new rows are left out.
-/

namespace ParticipantDirectory

/-- A statement that is sent to a database. -/
inductive Statement where
  | findUser (name : Text.Loose)
  | countUsers
  | addUser (id : UserId) (name : Text.Loose) (passwordHash : String)
  | findGroup (id : String)
  | countGroups
  | addGroup (row : GroupRow)
  | findCard (id : String)
  | countCards
  | addCard (row : CardRow)
  | findEntities (cardId : String)
  | addEntities (rows : List EntityRow)
  | probe

end ParticipantDirectory
