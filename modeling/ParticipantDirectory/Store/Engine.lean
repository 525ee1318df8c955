import ParticipantDirectory.Store.Address
import ParticipantDirectory.Store.Transaction

/-!
# Connecting to a database

The plan by which connections to a database are made, read off its address. An address is refused if its kind or
its driver is not known or not at hand, or if the driver makes a caller wait. Connections to a server are
pooled and renewed every hour; every connection is tried before it is used.
-/

namespace ParticipantDirectory

/-- A pool of connections: how many are kept, and how many more are let; a negative number sets no limit. -/
structure Pool where
  size : Int
  overflow : Int
  deriving DecidableEq, Repr

/-- The pool without a limit if it keeps no connections. -/
def Pool.opened (p : Pool) : Pool :=
  if p.size = 0 then { p with overflow := -1 } else p

/-- How connections to a database are made. -/
structure EnginePlan where
  dialect : String
  driver : String
  tried : Bool
  renewedAfter : Option Nat
  pool : Option Pool
  deriving DecidableEq, Repr

namespace EnginePlan

/-- Whether the address is that of a database in a file or in memory. -/
def isLocal (url : String) : Bool :=
  "sqlite".toList.isPrefixOf url.toList

/-- What is known of a driver: its name if it is at hand and whether it makes a caller wait, or the name of what it
is missed under. -/
inductive Driver where
  | waiting (name : String)
  | prompt (name : String)
  | missing (name : String)
  deriving DecidableEq, Repr

/-- The known kinds of databases with the names of their drivers; the name `base` stands for no name. -/
def drivers : List (String × List (String × Driver)) :=
  [("sqlite",
      [("base", .waiting "pysqlite"), ("pysqlite", .waiting "pysqlite"), ("aiosqlite", .prompt "aiosqlite"),
        ("pysqlcipher", .missing "pysqlcipher3")]),
    ("postgresql",
      [("base", .missing "psycopg"), ("psycopg", .missing "psycopg"), ("psycopg_async", .missing "psycopg"),
        ("asyncpg", .prompt "asyncpg"), ("psycopg2", .missing "psycopg2"),
        ("psycopg2cffi", .missing "psycopg2cffi"), ("pg8000", .missing "pg8000")]),
    ("mysql", mysql), ("mariadb", mysql),
    ("oracle", [("base", .missing "oracledb"), ("oracledb", .missing "oracledb"), ("cx_oracle", .missing "cx_Oracle")]),
    ("mssql",
      [("base", .missing "pyodbc"), ("pyodbc", .missing "pyodbc"), ("pymssql", .missing "pymssql"),
        ("aioodbc", .missing "aioodbc")])]
where
  /-- The drivers of two kinds that share them. -/
  mysql : List (String × Driver) :=
    [("base", .missing "MySQLdb"), ("mysqldb", .missing "MySQLdb"), ("pymysql", .missing "pymysql"),
      ("aiomysql", .missing "aiomysql"), ("asyncmy", .missing "asyncmy"), ("cymysql", .missing "cymysql"),
      ("mysqlconnector", .missing "mysql"), ("mariadbconnector", .missing "mariadb"), ("pyodbc", .missing "pyodbc")]

/-- The dialect and the name of the driver of a kind of database. -/
def partsOf (kind : String) : Except Accident (String × String) :=
  match kind.toList.filter (· == '+') with
  | [] => .ok (kind, "base")
  | [_] =>
    .ok (String.ofList (kind.toList.takeWhile (· ≠ '+')), String.ofList ((kind.toList.dropWhile (· ≠ '+')).drop 1))
  | _ => .error (.told .badValue "too many values to unpack (expected 2)")

/-- The dialect and the driver of a kind of database. -/
def driverOf (kind : String) : Except Accident (String × Driver) := do
  let (dialect, name) ← partsOf kind
  match (drivers.find? (·.1 == dialect)).bind fun d => d.2.find? (·.1 == name) with
  | some (_, driver) => return (dialect, driver)
  | none =>
    .error (.told .unknownDialect
      ("Can't load plugin: sqlalchemy.dialects:" ++ kind.map fun c => if c = '+' then '.' else c))

/-- The fault of a local database with a user, a host or a port. -/
def localAddressText (a : DatabaseAddress) : String :=
  "Invalid SQLite URL: " ++ a.render ++ "\nValid SQLite URL forms are:\n sqlite:///:memory: (or, sqlite://)\n " ++
    "sqlite:///relative/path/to/file.db\n sqlite:////absolute/path/to/file.db"

/-- Whether an address names more than a place on this machine. -/
def namesHost (a : DatabaseAddress) (port : Option Int) : Bool :=
  let given (s : Option String) : Bool := s.any (· ≠ "")
  given a.user || given a.password || given a.host || port.any (· ≠ 0)

/-- The number of the port of an address. -/
def portOf (a : DatabaseAddress) : Except Accident (Option Int) :=
  match a.portNumber with
  | .ok port => .ok port
  | .error "" => .error (.told .badKind "Port argument must be an integer or None")
  | .error text =>
    .error (.told .badValue
      ("invalid literal for int() with base 10: " ++ String.ofList ((Text.quoted text).toList.take 200)))

/-- The plan for an address. -/
def ofUrl (url : String) (pool : Pool) : Except Accident EnginePlan := do
  match DatabaseAddress.ofString? url with
  | none => .error (.told .badAddress "Could not parse SQLAlchemy URL from given URL string")
  | some address =>
    let port ← portOf address
    let (dialect, driver) ← driverOf address.kind
    if let .missing name := driver then
      .error (.told .missingDriver ("No module named '" ++ name ++ "'"))
    if dialect = "sqlite" ∧ namesHost address port then .error (.told .badAddress (localAddressText address))
    match driver with
    | .prompt name =>
      if isLocal url then return ⟨dialect, name, true, none, none⟩
      else return ⟨dialect, name, true, some 3600, some pool.opened⟩
    | .waiting name | .missing name =>
      .error (.told .unfitDriver
        ("The asyncio extension requires an async driver to be used. The loaded '" ++ name ++ "' is not async."))

/-- Makes the plan for an address, and notes that the database is used. -/
def connect {σ : Type} (url : String) (pool : Pool) : Action σ EnginePlan := do
  match ofUrl url pool with
  | .error a => throw (.accident a)
  | .ok plan =>
    Action.note
      { logger := databaseLogger, level := .info,
        message := "Database initialized (" ++ (if isLocal url then "sqlite" else "pooled") ++ ")" }
    return plan

end EnginePlan

/-- Creates the tables that are missing. -/
def createSchema : Action Database Unit := do
  modify fun w => { w with state := w.state.createTables }
  Action.note { logger := databaseLogger, level := .info, message := "Database schema created (4 tables)" }

end ParticipantDirectory
