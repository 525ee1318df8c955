/-!
# Table definitions

The columns, keys and indexes of tables, and catalogs of tables. A catalog changes by steps, each of which
creates or drops one table or one index and fails if that is there already or missing.
-/

namespace ParticipantDirectory.Schema

/-- The type of a column. -/
inductive ColumnType where
  | uuid
  | varchar (limit : Nat)
  | text
  | integer
  | json
  | date
  | timestamp
  deriving DecidableEq, Repr

/-- Who gives a value to a column for which a new row has none. -/
inductive Filler where
  | nobody
  | application
  | database
  deriving DecidableEq, Repr

/-- A column. -/
structure Column where
  name : String
  type : ColumnType
  nullable : Bool
  filler : Filler
  deriving DecidableEq, Repr

/-- A column that must have a value. -/
def Column.required (name : String) (type : ColumnType) : Column := ⟨name, type, false, .nobody⟩

/-- A column that may be empty. -/
def Column.optional (name : String) (type : ColumnType) : Column := ⟨name, type, true, .nobody⟩

/-- A column that must have a value and is filled by someone. -/
def Column.filledBy (filler : Filler) (name : String) (type : ColumnType) : Column := ⟨name, type, false, filler⟩

/-- A reference from a column to a column of another table. -/
structure ForeignKey where
  column : String
  table : String
  target : String
  cascades : Bool
  deriving DecidableEq, Repr

/-- An index on columns of a table. -/
structure Index where
  name : String
  columns : List String
  deriving DecidableEq, Repr

/-- A table: its columns, the column of its primary key, and what else constrains and orders its rows. -/
structure Table where
  name : String
  columns : List Column
  primaryKey : String
  uniques : List String := []
  foreignKeys : List ForeignKey := []
  indexes : List Index := []
  deriving DecidableEq, Repr

/-- The tables of a database. -/
abbrev Catalog : Type := List Table

namespace Catalog

/-- The table of a name. -/
def find? (c : Catalog) (name : String) : Option Table :=
  List.find? (·.name == name) c

/-- Whether there is a table of a name. -/
def has (c : Catalog) (name : String) : Bool :=
  c.any (·.name == name)

/-- The catalog after the tables that it lacks are created. -/
def createMissing (c : Catalog) (tables : List Table) : Catalog :=
  c ++ tables.filter fun t => !c.has t.name

end Catalog

/-- One change of a catalog. -/
inductive Step where
  | createTable (table : Table)
  | createIndex (table : String) (index : Index)
  | dropIndex (table index : String)
  | dropTable (table : String)
  deriving DecidableEq, Repr

namespace Step

/-- The table after an index is added. -/
def addIndex (index : Index) (t : Table) : Table :=
  { t with indexes := t.indexes ++ [index] }

/-- The table after an index is removed. -/
def removeIndex (index : String) (t : Table) : Table :=
  { t with indexes := t.indexes.filter (·.name != index) }

/-- The catalog after the change, which fails if what it creates is there or what it drops is missing. -/
def applied? (c : Catalog) : Step → Option Catalog
  | createTable t => if c.has t.name then none else some (c ++ [t])
  | createIndex table index =>
    if c.has table && !c.any (·.indexes.any (·.name == index.name)) then
      some (c.map fun t => if t.name = table then addIndex index t else t)
    else none
  | dropIndex table index =>
    if c.any fun t => t.name == table && t.indexes.any (·.name == index) then
      some (c.map fun t => if t.name = table then removeIndex index t else t)
    else none
  | dropTable table => if c.has table then some (c.filter (·.name != table)) else none

/-- The catalog after a list of changes, and whether all succeeded; the first that fails ends the list and
leaves what was done before it. -/
def applyAll (c : Catalog) : List Step → Bool × Catalog
  | [] => (true, c)
  | s :: rest =>
    match s.applied? c with
    | some c => applyAll c rest
    | none => (false, c)

end Step

end ParticipantDirectory.Schema
