import ParticipantDirectory.Schema.Destination
import ParticipantDirectory.Schema.Table

/-!
# Migrations

The tables of a directory can be created and dropped by migrations, which are numbered and run in order. The
database keeps the number of the last one in a table of its own; in the tables that migrations create, the
database fills in times.
-/

namespace ParticipantDirectory.Schema

/-- A migration: its number, the steps that it takes, and the steps that take it back. -/
structure Migration where
  revision : String
  up : List Step
  down : List Step

namespace Migration

/-- The index of the entities of a card by position. -/
def entityIndex : Index :=
  ⟨"ix_smp_business_card_entities_card_position", ["business_card_id", "position"]⟩

/-- The first migration creates the four tables and an index. -/
def initial : Migration where
  revision := "001_initial"
  up :=
    [ .createTable
        { name := "smp_users"
          columns :=
            [.required "id" .uuid, .required "login_name" (.varchar 200), .required "password_hash" (.varchar 200),
              .filledBy .database "created_at" .timestamp]
          primaryKey := "id"
          uniques := ["login_name"] },
      .createTable
        { name := "smp_service_groups"
          columns :=
            [.required "id" (.varchar 100), .required "participant_scheme" (.varchar 100),
              .required "participant_value" (.varchar 500), .required "owner_id" .uuid, .optional "extension" .text,
              .filledBy .database "created_at" .timestamp]
          primaryKey := "id"
          foreignKeys := [⟨"owner_id", "smp_users", "id", false⟩] },
      .createTable
        { name := "smp_business_cards"
          columns :=
            [.required "id" (.varchar 100), .required "participant_scheme" (.varchar 100),
              .required "participant_value" (.varchar 500), .filledBy .database "updated_at" .timestamp]
          primaryKey := "id"
          foreignKeys := [⟨"id", "smp_service_groups", "id", true⟩] },
      .createTable
        { name := "smp_business_card_entities"
          columns :=
            [.required "id" (.varchar 36), .required "business_card_id" (.varchar 100), .required "position" .integer,
              .required "names" .json, .required "country_code" (.varchar 2),
              .optional "geographical_information" .text, .required "identifiers" .json,
              .required "website_uris" .json, .required "contacts" .json, .optional "additional_information" .text,
              .optional "registration_date" .date]
          primaryKey := "id"
          foreignKeys := [⟨"business_card_id", "smp_business_cards", "id", true⟩] },
      .createIndex "smp_business_card_entities" entityIndex ]
  down :=
    [ .dropIndex "smp_business_card_entities" entityIndex.name,
      .dropTable "smp_business_card_entities",
      .dropTable "smp_business_cards",
      .dropTable "smp_service_groups",
      .dropTable "smp_users" ]

/-- The migrations in the order in which they are run. -/
def all : List Migration := [initial]

/-- The numbers of migrations. -/
def revisions (migrations : List Migration) : Revisions :=
  migrations.map revision

end Migration

/-- A database as migrations see it: its tables, and the numbers that its version table holds; `none` if it has no
version table. -/
structure Migrated where
  catalog : Catalog
  versions : Option (List String)
  deriving DecidableEq, Repr

namespace Migrated

/-- A database without tables. -/
def blank : Migrated := ⟨[], none⟩

/-- The number of migrations that have been run. -/
def position (migrations : List Migration) (d : Migrated) : Nat :=
  match d.versions with
  | some [v] => (migrations.findIdx? fun m => m.revision == v).elim 0 (· + 1)
  | _ => 0

/-- Creates the tables of the directory that are missing. -/
def createSchema (tables : List Table) (d : Migrated) : Migrated :=
  { d with catalog := d.catalog.createMissing tables }

/-- Runs migrations upwards; the database that the first failing one leaves keeps its number. -/
def runUp (d : Migrated) : List Migration → Option MigrationFault × Migrated
  | [] => (none, d)
  | m :: rest =>
    match Step.applyAll d.catalog m.up with
    | (true, c) => runUp ⟨c, some [m.revision]⟩ rest
    | (false, c) => (some .operational, { d with catalog := c })

/-- Takes migrations back. They are given newest first and with the numbers that remain after each. -/
def runDown (d : Migrated) : List (Migration × List String) → Option MigrationFault × Migrated
  | [] => (none, d)
  | (m, remaining) :: rest =>
    match Step.applyAll d.catalog m.down with
    | (true, c) => runDown ⟨c, some remaining⟩ rest
    | (false, c) => (some .operational, { d with catalog := c })

/-- The migrations with the numbers that remain after each is taken back, newest first. -/
def withRemaining (migrations : List Migration) : List (Migration × List String) :=
  (migrations.zip ([] :: migrations.map fun m => [m.revision])).reverse

/-- The database with its version table. -/
def versioned (d : Migrated) : Migrated :=
  { d with versions := some (d.versions.getD []) }

/-- Runs the migrations up to a destination; one that is behind is reached already. A range is refused before the
version table is made. -/
def upgrade (migrations : List Migration) (target : String) (d : Migrated) : Option MigrationFault × Migrated :=
  let n := d.position migrations
  if ':' ∈ target.toList then (some .refused, d)
  else
    match (Migration.revisions migrations).goalUp n target with
    | .error fault => (some fault, d.versioned)
    | .ok goal => d.versioned.runUp ((migrations.take goal).drop n)

/-- Takes the migrations back down to a destination. A range is refused before the version table is made. -/
def downgrade (migrations : List Migration) (target : String) (d : Migrated) : Option MigrationFault × Migrated :=
  let n := d.position migrations
  if ':' ∈ target.toList then (some .refused, d)
  else
    match (Migration.revisions migrations).goalDown n target with
    | .error fault => (some fault, d.versioned)
    | .ok goal => d.versioned.runDown ((withRemaining (migrations.take n)).take (n - goal))

end Migrated

end ParticipantDirectory.Schema
