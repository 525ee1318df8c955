import ParticipantDirectory.Proofs.Schema.Columns

/-!
# Stored databases

A stored database has a catalog, the rows of a directory, and the rows of other tables (`Stored`). A directory works on
it as on the database that its catalog opens (`Stored.database`), and migrations change it step by step
(`Stored.applyAll`). In a database of other tables the first migration and the directory create tables that are used in
the same way (`Foreign.upgraded`, `Foreign.created`): they hold the same values and take the same rows besides, whatever
is null in these (`Serves.contents_eq`, `Serves.takes_congr`), their constraints are met (`Serves.sound`), and the
directory refuses to add just those rows that the tables do not take (`Serves.guards`). Taking the migration back leaves
the other tables (`Foreign.downgraded`).
-/

namespace ParticipantDirectory

open Schema Transaction

/-- A stored database: its catalog, the rows of the four tables of a directory, and those of other tables by name. -/
structure Stored (ρ : Type) where
  catalog : Catalog
  tables : Tables
  others : String → List ρ

/-- The values that are written for the rows of a table of the directory. -/
def Tables.written (t : Tables) : String → List Values
  | "smp_users" => t.users.map UserRow.cell
  | "smp_service_groups" => t.groups.map GroupRow.cell
  | "smp_business_cards" => t.cards.map CardRow.cell
  | "smp_business_card_entities" => t.entities.map EntityRow.cell
  | _ => []

/-- The tables without the rows of the named ones. -/
def Tables.clear (names : List String) (t : Tables) : Tables where
  users := if "smp_users" ∈ names then [] else t.users
  groups := if "smp_service_groups" ∈ names then [] else t.groups
  cards := if "smp_business_cards" ∈ names then [] else t.cards
  entities := if "smp_business_card_entities" ∈ names then [] else t.entities

namespace Stored

variable {ρ : Type}

/-! ## What a directory sees -/

/-- The database that a directory sees: the rows of its tables, as far as the catalog has tables for them, under the
constraints of these. -/
def database (s : Stored ρ) : Database :=
  let opened := Database.ofCatalog s.catalog
  { users := opened.users.map fun _ => s.tables.users
    groups := opened.groups.map fun _ => s.tables.groups
    cards := opened.cards.map fun _ => s.tables.cards
    entities := opened.entities.map fun _ => s.tables.entities
    constraints := opened.constraints }

/-- The stored database with the rows of a database. -/
def put (s : Stored ρ) (db : Database) : Stored ρ :=
  { s with
    tables :=
      { users := db.users.getD s.tables.users
        groups := db.groups.getD s.tables.groups
        cards := db.cards.getD s.tables.cards
        entities := db.entities.getD s.tables.entities } }

/-- What stands in the rows of the table for a model table. -/
def contents (s : Stored ρ) (model : Table) : List Values :=
  match s.catalog.find? model.name with
  | some t => (s.tables.written model.name).map (t.stored model)
  | none => []

/-- The table for a model table admits rows besides those that it has. -/
def Takes (s : Stored ρ) (model : Table) (rows : List Values) : Prop :=
  ∃ t, s.catalog.find? model.name = some t ∧ t.Admits model (s.tables.written model.name ++ rows)

/-- The constraints of the four tables are met. -/
def Sound (s : Stored ρ) : Prop :=
  ∀ model ∈ Model.tables, s.Takes model []

/-- For their constraints the directory refuses to add just those rows that the tables do not take. -/
structure Guards (s : Stored ρ) : Prop where
  users : ∀ row, (Users.insertRow row).run s.database = .error (.integrity (Users.insertion row)) ↔
    ¬s.Takes Model.users [row.cell]
  groups : ∀ row, (Groups.insertRow row).run s.database = .error (.integrity (.addGroup row)) ↔
    ¬s.Takes Model.groups [row.cell]
  cards : ∀ row, (Cards.insertRow row).run s.database = .error (.integrity (.addCard row)) ↔
    ¬s.Takes Model.cards [row.cell]
  entities : ∀ rows, (Cards.replaceRows [] rows).run s.database = .error (.integrity (.addEntities rows)) ↔
    ¬s.Takes Model.entities (rows.map EntityRow.cell)

/-! ## Changes of the schema -/

/-- The stored database without the rows of the named tables. -/
def clear (names : List String) (s : Stored ρ) : Stored ρ :=
  { s with tables := s.tables.clear names, others := fun name => if name ∈ names then [] else s.others name }

/-- Creates the tables of the directory that are missing. -/
def createSchema (s : Stored ρ) : Stored ρ :=
  let missing := Model.tables.filter fun t => !s.catalog.has t.name
  { s.clear (missing.map (·.name)) with catalog := s.catalog.createMissing Model.tables }

/-- The table that a step creates or drops; it has no rows then. -/
def emptied : Schema.Step → List String
  | .createTable t => [t.name]
  | .dropTable name => [name]
  | .createIndex .. | .dropIndex .. => []

/-- The database after a step, which may fail. -/
def apply (s : Stored ρ) (step : Schema.Step) : Option (Stored ρ) :=
  (step.applied? s.catalog).map fun c => { s.clear (emptied step) with catalog := c }

/-- The database after a list of steps, and whether all succeeded. -/
def applyAll (s : Stored ρ) : List Schema.Step → Bool × Stored ρ
  | [] => (true, s)
  | step :: rest =>
    match s.apply step with
    | some s => s.applyAll rest
    | none => (false, s)

theorem clear_nil (s : Stored ρ) : s.clear [] = s := by
  simp [clear, Tables.clear]

theorem clear_append (s : Stored ρ) (names more : List String) (c d : Catalog) :
    ({ ({ s.clear names with catalog := c } : Stored ρ).clear more with catalog := d } : Stored ρ) =
      { s.clear (names ++ more) with catalog := d } := by
  simp only [clear, Tables.clear, List.mem_append]
  congr 1
  · congr 1 <;> split <;> split <;> simp_all
  · funext name
    split <;> split <;> simp_all

/-- Steps that all succeed leave the rows of the tables that they neither create nor drop. By induction over the
steps. -/
theorem applyAll_eq {steps : List Schema.Step} {s : Stored ρ} {c : Catalog}
    (h : Step.applyAll s.catalog steps = (true, c)) :
    s.applyAll steps = (true, { s.clear (steps.flatMap emptied) with catalog := c }) := by
  induction steps generalizing s with
  | nil =>
    cases h
    rw [List.flatMap_nil, clear_nil]
    rfl
  | cons step rest ih =>
    rw [Step.applyAll] at h
    rw [applyAll, apply]
    cases hs : step.applied? s.catalog with
    | none => rw [hs] at h; cases h
    | some d =>
      rw [hs] at h
      have hrest := ih (s := { s.clear (emptied step) with catalog := d }) h
      rw [clear_append] at hrest
      exact hrest

/-! ## Databases of other tables -/

/-- A database of other tables: nothing in it has the name of something of a directory, and there are no rows where
there is no table. -/
structure Foreign (s : Stored ρ) : Prop where
  free : s.catalog.Free
  tables : s.tables = .empty
  others : ∀ name, s.catalog.has name = false → s.others name = []

namespace Foreign

variable {s : Stored ρ}

/-- Where there is no table there are no rows to lose. -/
theorem clear_eq (h : s.Foreign) {names : List String} (hn : ∀ name ∈ names, s.catalog.has name = false) {t : Tables}
    (ht : t.clear names = .empty) (c d : Catalog) :
    ({ ({ s with catalog := c, tables := t } : Stored ρ).clear names with catalog := d } : Stored ρ) =
      { s with catalog := d } := by
  simp only [clear, ht, h.tables]
  congr 1
  funext name
  split
  · rename_i hm
    exact (h.others name (hn name hm)).symm
  · rfl

theorem has_model (h : s.Foreign) : ∀ name ∈ Model.tables.map (·.name), s.catalog.has name = false :=
  List.forall_mem_map.2 h.free.tables

theorem clear_model (h : s.Foreign) : s.tables.clear (Model.tables.map (·.name)) = .empty := by
  rw [h.tables]
  rfl

/-- The migration adds its tables, which are empty. -/
theorem upgraded (h : s.Foreign) :
    s.applyAll Migration.initial.up = (true, { s with catalog := s.catalog ++ Migration.tables }) := by
  rw [applyAll_eq h.free.up]
  exact congrArg _ (h.clear_eq h.has_model h.clear_model s.catalog _)

/-- The directory adds its own, which are empty. -/
theorem created (h : s.Foreign) : s.createSchema = { s with catalog := s.catalog ++ Model.tables } := by
  have hmissing : (Model.tables.filter fun t => !s.catalog.has t.name) = Model.tables :=
    List.filter_eq_self.2 fun t ht => by rw [h.free.tables t ht]; rfl
  rw [createSchema, hmissing, h.free.createMissing]
  exact h.clear_eq h.has_model h.clear_model s.catalog _

/-- Whatever rows the tables of the migration have got, taking it back removes them and leaves the other tables. -/
theorem downgraded (h : s.Foreign) (t : Tables) :
    ({ s with catalog := s.catalog ++ Migration.tables, tables := t } : Stored ρ).applyAll Migration.initial.down =
      (true, s) := by
  have hnames : ∀ name ∈ Migration.initial.down.flatMap emptied, s.catalog.has name = false := by
    intro name hm
    have hm : name ∈ Model.tables.map (·.name) := by
      revert name
      decide
    exact h.has_model name hm
  have hempty : t.clear (Migration.initial.down.flatMap emptied) = .empty := rfl
  rw [applyAll_eq (s := { s with catalog := s.catalog ++ Migration.tables, tables := t }) h.free.down]
  exact congrArg _ (h.clear_eq hnames hempty _ s.catalog)

end Foreign

/-! ## Databases that serve a directory -/

/-- The catalog opens the tables of a directory, which mirror its model tables, and their constraints are met. -/
structure Serves (s : Stored ρ) : Prop where
  opened : Database.ofCatalog s.catalog = Database.fresh
  houses : s.catalog.Houses
  met : s.tables.Met

variable {s s' : Stored ρ}

namespace Foreign

theorem serves_upgraded (h : s.Foreign) : ({ s with catalog := s.catalog ++ Migration.tables } : Stored ρ).Serves where
  opened := (h.free.ofCatalog_append _).trans ofCatalog_migrated
  houses := h.free.houses houses_migrated
  met := h.tables ▸ Tables.met_empty

theorem serves_created (h : s.Foreign) : ({ s with catalog := s.catalog ++ Model.tables } : Stored ρ).Serves where
  opened := h.free.ofCatalog_append _
  houses := h.free.houses houses_model
  met := h.tables ▸ Tables.met_empty

end Foreign

section housed

variable {model : Table} (hs : s.catalog.Houses) (hm : model ∈ Model.tables)
include hs hm

/-- What stands in the columns does not depend on the table that mirrors the model table. -/
theorem contents_of_housed : s.contents model =
    (s.tables.written model.name).map fun row k => if k ∈ model.names then row k else none := by
  obtain ⟨t, hfind, ht⟩ := hs model hm
  rw [contents, hfind]
  exact List.map_congr_left fun row _ => ht.stored_eq row

/-- Rows are taken exactly if they and those that are there are not null where a value is asked for, and no two of them
agree in a key. -/
theorem takes_iff_of_housed (rows : List Values) : s.Takes model rows ↔
    (∀ row ∈ s.tables.written model.name ++ rows, ∀ k ∈ model.required, (row k).isSome) ∧
      Distinct (Database.keysOf model) id (s.tables.written model.name ++ rows) := by
  obtain ⟨t, hfind, ht⟩ := hs model hm
  rw [← ht.admits_iff, Takes, hfind]
  exact ⟨fun ⟨t', he, ha⟩ => Option.some.inj he ▸ ha, fun ha => ⟨t, rfl, ha⟩⟩

section rows

variable {κ : Type} {cell : κ → Values} {rows : List κ} (hwritten : s.tables.written model.name = rows.map cell)
include hwritten

/-- Rows of a directory are taken exactly if the constraints of the model table are met with them. -/
theorem takes_rows_iff (new : List κ) : s.Takes model (new.map cell) ↔ model.asked.Met cell (rows ++ new) := by
  obtain ⟨t, hfind, ht⟩ := hs model hm
  rw [← ht.admits_rows_iff, List.map_append, ← hwritten, Takes, hfind]
  exact ⟨fun ⟨t', he, ha⟩ => Option.some.inj he ▸ ha, fun ha => ⟨t, rfl, ha⟩⟩

theorem takes_nil (hmet : model.asked.Met cell rows) : s.Takes model [] := by
  refine (takes_rows_iff hs hm hwritten []).2 ?_
  rwa [List.append_nil]

/-- A row is refused for the constraints exactly if the table does not take it. -/
theorem refused_iff (hmet : model.asked.Met cell rows) {t : Transaction Unit} {row : κ} {statement : Statement}
    {db db' : Database}
    (ht : t.run db = if model.asked.refuse cell rows row then .error (.integrity statement) else .ok ((), db')) :
    t.run db = .error (.integrity statement) ↔ ¬s.Takes model [cell row] := by
  have htakes := takes_rows_iff hs hm hwritten [row]
  rw [List.map_singleton, TableConstraints.met_concat] at htakes
  rw [ht, htakes]
  cases model.asked.refuse cell rows row <;> simp [hmet]

end rows

end housed

namespace Serves

theorem database_eq (h : s.Serves) : s.database = s.tables.database := by
  rw [database, h.opened]
  rfl

/-- The constraints of the tables are met. -/
theorem sound (h : s.Serves) : s.Sound := by
  have husers : s.Takes Model.users [] := takes_nil h.houses (by decide) rfl h.met.users
  have hgroups : s.Takes Model.groups [] := takes_nil h.houses (by decide) rfl h.met.groups
  have hcards : s.Takes Model.cards [] := takes_nil h.houses (by decide) rfl h.met.cards
  have hentities : s.Takes Model.entities [] := takes_nil h.houses (by decide) rfl h.met.entities
  exact List.forall_mem_cons.2 ⟨husers, List.forall_mem_cons.2 ⟨hgroups, List.forall_mem_cons.2 ⟨hcards,
    List.forall_mem_cons.2 ⟨hentities, nofun⟩⟩⟩⟩

/-- What the directory refuses to add is what the tables do not take. -/
theorem guards (h : s.Serves) : s.Guards where
  users row := by
    rw [h.database_eq]
    exact refused_iff h.houses (by decide) rfl h.met.users (run_insert Database.users (·.constraints.users) UserRow.cell
      (fun db rows => { db with users := some rows }) (Users.insertion row) rfl row)
  groups row := by
    rw [h.database_eq]
    exact refused_iff h.houses (by decide) rfl h.met.groups (run_insert Database.groups (·.constraints.groups)
      GroupRow.cell (fun db rows => { db with groups := some rows }) (.addGroup row) rfl row)
  cards row := by
    rw [h.database_eq]
    exact refused_iff h.houses (by decide) rfl h.met.cards (run_insert Database.cards (·.constraints.cards) CardRow.cell
      (fun db rows => { db with cards := some rows }) (.addCard row) rfl row)
  entities rows := by
    rw [h.database_eq, Cards.replaceRows_refused_iff h.met]
    exact not_congr (takes_rows_iff h.houses (by decide) rfl rows).symm

variable {model : Table} (h : s.Serves) (h' : s'.Serves) (ht : s'.tables = s.tables) (hm : model ∈ Model.tables)
include h h' ht hm

/-- The values in the tables of a directory do not depend on the catalog. -/
theorem contents_eq : s'.contents model = s.contents model := by
  rw [contents_of_housed h.houses hm, contents_of_housed h'.houses hm, ht]

/-- Nor does it which rows the tables take, whatever is null in these. -/
theorem takes_congr (rows : List Values) : s'.Takes model rows ↔ s.Takes model rows := by
  rw [takes_iff_of_housed h.houses hm, takes_iff_of_housed h'.houses hm, ht]

end Serves

/-- The rows of other tables whose constraints are met can stand in the place of those that are there. -/
theorem Serves.put (h : s.Serves) {db : Database} (hdb : db.Whole) :
    ∃ t, db = t.database ∧ s.put db = { s with tables := t } ∧ (s.put db).Serves := by
  obtain ⟨t, rfl, ht⟩ := hdb
  exact ⟨t, rfl, rfl, ⟨h.opened, h.houses, ht⟩⟩

end Stored

end ParticipantDirectory
