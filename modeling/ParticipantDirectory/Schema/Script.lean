import ParticipantDirectory.Schema.Migration

/-!
# Migrations as scripts

Migrations written as statements for a database to run later. The dialects differ in the names of types, in the
function that gives the time, and in whether a script is one transaction.
-/

namespace ParticipantDirectory.Schema

/-- The language of a database. -/
inductive Dialect where
  | postgres
  | sqlite
  deriving DecidableEq, Repr

namespace Dialect

/-- The dialect of a database, by its address. -/
def ofUrl (url : String) : Dialect :=
  if "sqlite".toList.isPrefixOf url.toList then sqlite else postgres

/-- The name of a type. -/
def typeName (d : Dialect) : ColumnType → String
  | .uuid => "UUID"
  | .varchar n => "VARCHAR(" ++ Nat.repr n ++ ")"
  | .text => "TEXT"
  | .integer => "INTEGER"
  | .json => "JSON"
  | .date => "DATE"
  | .timestamp =>
    match d with
    | postgres => "TIMESTAMP WITH TIME ZONE"
    | sqlite => "DATETIME"

/-- The function that gives the time. -/
def clock : Dialect → String
  | postgres => "now()"
  | sqlite => "CURRENT_TIMESTAMP"

/-- The column of the version table as a statement that adds a version gives it back. -/
def returnedVersion : Dialect → String
  | postgres => "alembic_version.version_num"
  | sqlite => "version_num"

end Dialect

/-- The type of a column as a database of the file kind reports it. -/
def ColumnType.reported : ColumnType → String
  | .uuid => "NUMERIC"
  | t => Dialect.sqlite.typeName t

/-- Lines in parentheses after a beginning: all but the last end with a comma. -/
def bracketed (first : String) (lines : List String) : List String :=
  (first ++ " (") :: (lines.mapIdx fun i line => "    " ++ line ++ (if i + 1 < lines.length then "," else "")) ++ [");"]

/-- A column in a script. -/
def Column.script (d : Dialect) (c : Column) : String :=
  c.name ++ " " ++ d.typeName c.type ++ (if c.filler = .database then " DEFAULT " ++ d.clock else "") ++
    (if c.nullable then "" else " NOT NULL")

/-- A reference in a script. -/
def ForeignKey.script (k : ForeignKey) : String :=
  "FOREIGN KEY(" ++ k.column ++ ") REFERENCES " ++ k.table ++ " (" ++ k.target ++ ")" ++
    (if k.cascades then " ON DELETE CASCADE" else "")

/-- A step in a script. -/
def Step.script (d : Dialect) : Step → List String
  | createTable t =>
    bracketed ("CREATE TABLE " ++ t.name)
      (t.columns.map (Column.script d) ++ ["PRIMARY KEY (" ++ t.primaryKey ++ ")"] ++
        t.foreignKeys.map ForeignKey.script ++ t.uniques.map fun u => "UNIQUE (" ++ u ++ ")")
  | createIndex table index =>
    ["CREATE INDEX " ++ index.name ++ " ON " ++ table ++ " (" ++ ", ".intercalate index.columns ++ ");"]
  | dropIndex _ index => ["DROP INDEX " ++ index ++ ";"]
  | dropTable table => ["DROP TABLE " ++ table ++ ";"]

/-- The creation of the version table in a script. -/
def versionTableScript : List String :=
  bracketed "CREATE TABLE alembic_version"
    ["version_num VARCHAR(32) NOT NULL", "CONSTRAINT alembic_version_pkc PRIMARY KEY (version_num)"]

/-- A script as one transaction, where the dialect has such. -/
def Dialect.transaction (d : Dialect) (lines : List String) : List String :=
  match d with
  | .postgres => "BEGIN;" :: lines ++ ["COMMIT;"]
  | .sqlite => lines

namespace Migration

/-- The statement that sets the version after the numbers `before` to that of the migration. -/
def versionUp (d : Dialect) (m : Migration) : Option String → String
  | none =>
    "INSERT INTO alembic_version (version_num) VALUES ('" ++ m.revision ++ "') RETURNING " ++ d.returnedVersion ++ ";"
  | some old =>
    "UPDATE alembic_version SET version_num='" ++ m.revision ++ "' WHERE alembic_version.version_num = '" ++ old ++ "';"

/-- The statement that takes the version of the migration back. -/
def versionDown (m : Migration) : Option String → String
  | none => "DELETE FROM alembic_version WHERE alembic_version.version_num = '" ++ m.revision ++ "';"
  | some old =>
    "UPDATE alembic_version SET version_num='" ++ old ++ "' WHERE alembic_version.version_num = '" ++ m.revision ++ "';"

/-- A migration in a script that runs it after the one of the number `before`. -/
def scriptUp (d : Dialect) (before : Option String) (m : Migration) : List String :=
  ("-- Running upgrade " ++ before.getD "" ++ " -> " ++ m.revision) ::
    m.up.flatMap (Step.script d) ++ [m.versionUp d before]

/-- A migration in a script that takes it back to the one of the number `before`. -/
def scriptDown (d : Dialect) (before : Option String) (m : Migration) : List String :=
  ("-- Running downgrade " ++ m.revision ++ " ->" ++ before.elim "" (" " ++ ·)) ::
    m.down.flatMap (Step.script d) ++ [m.versionDown before]

/-- The migrations with the numbers of those before them. -/
def withBefore (migrations : List Migration) : List (Option String × Migration) :=
  (none :: migrations.map fun m => some m.revision).zip migrations

/-- The ends of a range of destinations, which a colon divides; a range can name its last end alone. -/
def rangeOf (target : String) : Except MigrationFault (Option String × String) :=
  let s := target.toList
  match s.dropWhile (· ≠ ':') with
  | _ :: rest =>
    if ':' ∈ rest then .error .unreadable
    else .ok (some (String.ofList (s.takeWhile (· ≠ ':'))), String.ofList rest)
  | [] => .ok (none, target)

/-- How many migrations are run at the first end of a range: none, unless it names a migration. -/
def countBefore (migrations : List Migration) : Option String → Except MigrationFault Nat
  | none | some "base" => .ok 0
  | some name => do
    match ← (revisions migrations).place name with
    | .reached n => return n
    | _ => .error .startless

/-- The script that runs the migrations of a range. Before the first of all it creates the version table. -/
def upScript (migrations : List Migration) (d : Dialect) (target : String) : Except MigrationFault (List String) := do
  let (start, goal) ← rangeOf target
  let first ← countBefore migrations start
  let last ← (revisions migrations).goalUp first goal
  return d.transaction
    ((if first = 0 ∧ first < last then versionTableScript else []) ++
      (((withBefore migrations).take last).drop first).flatMap fun m => m.2.scriptUp d m.1)

/-- The script that takes the migrations of a range back; both ends must be named. -/
def downScript (migrations : List Migration) (d : Dialect) (target : String) :
    Except MigrationFault (List String) := do
  let (start, goal) ← rangeOf target
  if start.isNone then .error .refused
  let first ← countBefore migrations start
  let last ← (revisions migrations).goalDown first goal
  return d.transaction
    ((((withBefore migrations).take first).drop last).reverse.flatMap fun m => m.2.scriptDown d m.1)

end Migration

end ParticipantDirectory.Schema
