import ParticipantDirectory.Json.Writer
import ParticipantDirectory.Schema.Model
import ParticipantDirectory.Store.Row

/-!
# The database

Four tables, each of which may be missing. A table is opened from its definition in a catalog, which says what it asks
of its rows: which columns need a value, and in which of them no two rows agree. Nothing ties a row to the rows that it
refers to, and the limits of texts are not enforced.
-/

namespace ParticipantDirectory

open Schema (Catalog Table)

/-- A value of a column. A document is stored as its text, and the time of a write is left out. -/
inductive Cell where
  | text (s : String)
  | user (id : UserId)
  | entity (id : EntityId)
  | number (n : Nat)
  | time
  deriving DecidableEq

/-- A document as the value of a column. -/
def Cell.document (v : Json) : Cell :=
  .text v.render

/-- The value of a column of a user; `none` for a column that is empty or unknown. -/
def UserRow.cell (r : UserRow) : String → Option Cell
  | "id" => some (.user r.id)
  | "login_name" => some (.text r.loginName)
  | "password_hash" => some (.text r.passwordHash)
  | "created_at" => some .time
  | _ => none

/-- The value of a column of a service group. -/
def GroupRow.cell (r : GroupRow) : String → Option Cell
  | "id" => some (.text r.id)
  | "participant_scheme" => some (.text r.scheme)
  | "participant_value" => some (.text r.value)
  | "owner_id" => some (.user r.owner)
  | "extension" => r.extension.map .text
  | "created_at" => some .time
  | _ => none

/-- The value of a column of a business card. -/
def CardRow.cell (r : CardRow) : String → Option Cell
  | "id" => some (.text r.id)
  | "participant_scheme" => some (.text r.scheme)
  | "participant_value" => some (.text r.value)
  | "updated_at" => some .time
  | _ => none

/-- The value of a column of a business entity. -/
def EntityRow.cell (r : EntityRow) : String → Option Cell
  | "id" => if r.id = .absent then none else some (.entity r.id)
  | "business_card_id" => some (.text r.cardId)
  | "position" => some (.number r.position)
  | "names" => some (.document r.names)
  | "country_code" => some (.text r.countryCode)
  | "geographical_information" => r.geographicalInformation.map .text
  | "identifiers" => some (.document r.identifiers)
  | "website_uris" => some (.document r.websites)
  | "contacts" => some (.document r.contacts)
  | "additional_information" => r.additionalInformation.map .text
  | "registration_date" => r.registrationDate.map fun d => .text d.render
  | _ => none

/-- Whether a row has no value in one of the columns. -/
def lacks {ρ : Type} (columns : List String) (cell : ρ → String → Option Cell) (row : ρ) : Bool :=
  columns.any fun k => (cell row k).isNone

/-- Whether a row agrees with another row in a key. -/
def conflicts {ρ : Type} (keys : List String) (cell : ρ → String → Option Cell) (rows : List ρ) (row : ρ) : Bool :=
  keys.any fun k => (cell row k).isSome && rows.any fun r => cell r k == cell row k

/-- What a table asks of its rows: the columns that need a value, and those in which no two rows agree. -/
structure TableConstraints where
  required : List String
  keys : List String
  deriving DecidableEq, Repr

namespace TableConstraints

/-- The constraints of no table. -/
def none : TableConstraints := ⟨[], []⟩

/-- Whether a row breaks a constraint when it is added to others. -/
def refuse {ρ : Type} (c : TableConstraints) (cell : ρ → String → Option Cell) (rows : List ρ) (row : ρ) : Bool :=
  lacks c.required cell row || conflicts c.keys cell rows row

/-- Whether rows can be added one after the other. -/
def takes {ρ : Type} (c : TableConstraints) (cell : ρ → String → Option Cell) (rows : List ρ) : List ρ → Bool
  | [] => true
  | row :: rest => !c.refuse cell rows row && c.takes cell (rows ++ [row]) rest

end TableConstraints

/-- What the four tables ask of their rows. -/
structure Constraints where
  users : TableConstraints
  groups : TableConstraints
  cards : TableConstraints
  entities : TableConstraints
  deriving DecidableEq, Repr

/-- The tables of a directory; `none` is a table that cannot be used. -/
structure Database where
  users : Option (List UserRow)
  groups : Option (List GroupRow)
  cards : Option (List CardRow)
  entities : Option (List EntityRow)
  constraints : Constraints

namespace Database

/-- The columns in which no two rows of a table agree. -/
def keysOf (t : Table) : List String :=
  t.primaryKey :: t.uniques

/-- The columns of a table that need a value in the rows of a model table: those that cannot be null. Of columns that
the model table has not, the database may fill in some itself. -/
def requiredOf (model t : Table) : List String :=
  (t.columns.filter fun d =>
    d.name == t.primaryKey ||
      !d.nullable && (d.filler != .database || model.columns.any (·.name == d.name))).map (·.name)

/-- Whether a table has the columns of a model table, with the same types. -/
def serves (model t : Table) : Bool :=
  model.columns.all fun c => t.columns.any fun d => d.name == c.name && d.type == c.type

/-- An empty table for the rows of a model table, if the catalog has one that can hold them. -/
def opened {ρ : Type} (c : Catalog) (model : Table) : Option (List ρ) :=
  match c.find? model.name with
  | some t => if serves model t then some [] else none
  | none => none

/-- What the table asks of its rows that a catalog has in the place of a model table. -/
def constraintsIn (c : Catalog) (model : Table) : TableConstraints :=
  (c.find? model.name).elim .none fun t => ⟨requiredOf model t, keysOf t⟩

/-- The empty database of a catalog. -/
def ofCatalog (c : Catalog) : Database where
  users := opened c Schema.Model.users
  groups := opened c Schema.Model.groups
  cards := opened c Schema.Model.cards
  entities := opened c Schema.Model.entities
  constraints :=
    ⟨constraintsIn c Schema.Model.users, constraintsIn c Schema.Model.groups, constraintsIn c Schema.Model.cards,
      constraintsIn c Schema.Model.entities⟩

/-- A database without tables. -/
def blank : Database := ofCatalog []

/-- A database with four empty tables. -/
def fresh : Database := ofCatalog Schema.Model.tables

/-- The database after the missing tables are created. -/
def createTables (db : Database) : Database where
  users := some (db.users.getD [])
  groups := some (db.groups.getD [])
  cards := some (db.cards.getD [])
  entities := some (db.entities.getD [])
  constraints :=
    { users := if db.users.isSome then db.constraints.users else fresh.constraints.users
      groups := if db.groups.isSome then db.constraints.groups else fresh.constraints.groups
      cards := if db.cards.isSome then db.constraints.cards else fresh.constraints.cards
      entities := if db.entities.isSome then db.constraints.entities else fresh.constraints.entities }

/-- Which tables are dropped. -/
inductive Loss where
  | users
  | entities
  | cards
  | all
  deriving DecidableEq, Repr

/-- The database after tables are dropped; entities do not outlast cards. -/
def lose (db : Database) : Loss → Database
  | .users => { db with users := none }
  | .entities => { db with entities := none }
  | .cards => { db with cards := none, entities := none }
  | .all => blank

example : fresh.users = some [] ∧ fresh.entities.isSome ∧
    fresh.constraints.users = ⟨["id", "login_name", "password_hash", "created_at"], ["id", "login_name"]⟩ := by
  decide

end Database

end ParticipantDirectory
