import ParticipantDirectory.Proofs.Schema.Frames
import ParticipantDirectory.Proofs.Store.Distinct

/-!
# What stands in the columns

A row is written to a table of the directory by giving a value or null to each column of a model table (`Values`). What
stands in the columns afterwards depends on the definition of the table, and so does which rows it admits: those that are
not null where the table asks for a value, and of which no two agree in a key (`Table.Admits`). A table mirrors a model
table if it has the same columns and the same keys and asks for a value in the same columns (`Table.Mirrors`). All that
mirror a model table store the same, and they admit the same rows, whatever is null in these (`Mirrors.stored_eq`,
`Mirrors.admits_iff`). The tables of the directory and those of the migration mirror the model tables (`houses_model`,
`houses_migrated`).
-/

namespace ParticipantDirectory

open Schema

/-- The values of columns; `none` is null. -/
abbrev Values : Type := String → Option Cell

namespace Schema.Table

/-! ## Rows in a table -/

section

variable (t : Table)

/-- The names of the columns. -/
def names : List String :=
  t.columns.map (·.name)

/-- The columns that must have a value: the primary key and those that cannot be null. -/
def required : List String :=
  t.primaryKey :: (t.columns.filter (!·.nullable)).map (·.name)

/-- The columns that the database fills in if they are not written. -/
def supplied : List String :=
  (t.columns.filter (·.filler = .database)).map (·.name)

/-- What stands in the columns of a row after the columns of a model table are written, null or not. The times of other
columns are filled in where the database does that. -/
def stored (model : Table) (written : Values) : Values := fun k =>
  if k ∈ t.names then
    if k ∈ model.names then written k else if k ∈ t.supplied then some .time else none
  else none

/-- The rows to which the columns of a model table are written meet the constraints of the table. -/
structure Admits (model : Table) (rows : List Values) : Prop where
  required : ∀ row ∈ rows, ∀ k ∈ t.required, (t.stored model row k).isSome
  distinct : ∀ k ∈ Database.keysOf t,
    rows.Pairwise fun r s => t.stored model r k = none ∨ t.stored model r k ≠ t.stored model s k

/-- The table has the columns of a model table, the same keys, which are columns, and asks for values in the same
columns. -/
structure Mirrors (model : Table) : Prop where
  names : t.names = model.names
  keys : Database.keysOf t = Database.keysOf model
  required : t.required = model.required
  known : ∀ k ∈ Database.keysOf model, k ∈ model.names

/-- What a table asks of the rows of a directory for which it is the model. -/
def asked : TableConstraints :=
  ⟨Database.requiredOf t t, Database.keysOf t⟩

end

section

variable {t model : Table}

theorem required_subset (h : t.primaryKey ∈ t.names) : ∀ k ∈ t.required, k ∈ t.names := by
  intro k hk
  rcases List.mem_cons.1 hk with rfl | hk
  · exact h
  · exact (List.filter_sublist.map _).subset hk

/-- A table that is its own model asks for values in its required columns. -/
theorem mem_requiredOf_self (h : t.primaryKey ∈ t.names) (k : String) : k ∈ Database.requiredOf t t ↔ k ∈ t.required := by
  have hwritten : ∀ d ∈ t.columns, t.columns.any (·.name == d.name) = true := fun d hd =>
    List.any_eq_true.2 ⟨d, hd, beq_self_eq_true _⟩
  simp only [Database.requiredOf, required, List.mem_map, List.mem_filter, List.mem_cons]
  constructor
  · rintro ⟨d, ⟨hd, hr⟩, rfl⟩
    rcases Bool.or_eq_true_iff.1 hr with hkey | hr
    · exact .inl (eq_of_beq hkey)
    · exact .inr ⟨d, ⟨hd, (Bool.and_eq_true_iff.1 hr).1⟩, rfl⟩
  · rintro (rfl | ⟨d, ⟨hd, hr⟩, rfl⟩)
    · obtain ⟨d, hd, hkey⟩ := List.mem_map.1 h
      exact ⟨d, ⟨hd, by rw [hkey, beq_self_eq_true]; rfl⟩, hkey⟩
    · exact ⟨d, ⟨hd, by rw [hr, hwritten d hd, Bool.or_true, Bool.and_true, Bool.or_true]⟩, rfl⟩

namespace Mirrors

variable (h : t.Mirrors model)
include h

/-- What is written stands in the columns. -/
theorem stored_eq (row : Values) : t.stored model row = fun k => if k ∈ model.names then row k else none := by
  funext k
  rw [stored, h.names]
  split <;> rfl

theorem primaryKey_named : model.primaryKey ∈ model.names :=
  h.known _ (List.mem_cons_self ..)

/-- Rows are admitted exactly if they are not null where the model table asks for a value, and no two of them agree in a
key of it. -/
theorem admits_iff (rows : List Values) :
    t.Admits model rows ↔
      (∀ row ∈ rows, ∀ k ∈ model.required, (row k).isSome) ∧ Distinct (Database.keysOf model) id rows := by
  have hstored : ∀ row : Values, ∀ k ∈ model.names, t.stored model row k = row k := fun row k hk => by
    rw [h.stored_eq]
    exact if_pos hk
  have hrequired : (∀ row ∈ rows, ∀ k ∈ t.required, (t.stored model row k).isSome) ↔
      ∀ row ∈ rows, ∀ k ∈ model.required, (row k).isSome := by
    rw [h.required]
    refine forall_congr' fun row => forall_congr' fun _ => forall_congr' fun k => forall_congr' fun hk => ?_
    rw [hstored row k (required_subset h.primaryKey_named k hk)]
  have hdistinct : (∀ k ∈ Database.keysOf t,
      rows.Pairwise fun r s => t.stored model r k = none ∨ t.stored model r k ≠ t.stored model s k) ↔
      Distinct (Database.keysOf model) id rows := by
    rw [h.keys]
    refine forall_congr' fun k => forall_congr' fun hk => ?_
    simp only [hstored _ k (h.known k hk), id]
  exact ⟨fun ha => ⟨hrequired.1 ha.required, hdistinct.1 ha.distinct⟩, fun ha => ⟨hrequired.2 ha.1, hdistinct.2 ha.2⟩⟩

/-- Rows of a directory are admitted exactly if the constraints of the model table are met. -/
theorem admits_rows_iff {ρ : Type} (cell : ρ → Values) (rows : List ρ) :
    t.Admits model (rows.map cell) ↔ model.asked.Met cell rows := by
  have hfilled : ∀ row, lacks (Database.requiredOf model model) cell row = false ↔
      ∀ k ∈ model.required, (cell row k).isSome := by
    intro row
    rw [lacks, List.any_eq_false]
    refine forall_congr' fun k => ?_
    rw [mem_requiredOf_self h.primaryKey_named, Option.isNone_iff_eq_none, ← ne_eq, Option.ne_none_iff_isSome]
  rw [h.admits_iff, List.forall_mem_map]
  constructor
  · rintro ⟨hr, hd⟩
    exact ⟨fun row hm => (hfilled row).2 (hr row hm), fun k hk => List.pairwise_map.1 (hd k hk)⟩
  · rintro ⟨hf, hd⟩
    exact ⟨fun row hm => (hfilled row).1 (hf row hm), fun k hk => List.pairwise_map.2 (hd k hk)⟩

end Mirrors

end

end Schema.Table

/-! ## The tables of a directory -/

/-- A catalog has tables that mirror the model tables. -/
def Schema.Catalog.Houses (c : Catalog) : Prop :=
  ∀ model ∈ Model.tables, ∃ t, c.find? model.name = some t ∧ t.Mirrors model

theorem houses_model : Catalog.Houses Model.tables :=
  List.forall_mem_cons.2 ⟨⟨_, rfl, rfl, rfl, rfl, by decide⟩, List.forall_mem_cons.2 ⟨⟨_, rfl, rfl, rfl, rfl, by decide⟩,
    List.forall_mem_cons.2 ⟨⟨_, rfl, rfl, rfl, rfl, by decide⟩,
      List.forall_mem_cons.2 ⟨⟨_, rfl, rfl, rfl, rfl, by decide⟩, nofun⟩⟩⟩⟩

theorem houses_migrated : Catalog.Houses Migration.tables :=
  List.forall_mem_cons.2 ⟨⟨_, rfl, rfl, rfl, rfl, by decide⟩, List.forall_mem_cons.2 ⟨⟨_, rfl, rfl, rfl, rfl, by decide⟩,
    List.forall_mem_cons.2 ⟨⟨_, rfl, rfl, rfl, rfl, by decide⟩,
      List.forall_mem_cons.2 ⟨⟨_, rfl, rfl, rfl, rfl, by decide⟩, nofun⟩⟩⟩⟩

/-- Other tables do not matter. -/
theorem Schema.Catalog.Free.houses {c d : Catalog} (h : c.Free) (hd : d.Houses) : (c ++ d).Houses := by
  intro model hm
  rw [Catalog.find?_append (h.tables model hm)]
  exact hd model hm

end ParticipantDirectory
