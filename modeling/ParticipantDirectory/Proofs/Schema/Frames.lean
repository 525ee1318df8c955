import ParticipantDirectory.Schema.Migration
import ParticipantDirectory.Store.Database

/-!
# Migrations beside other tables

A step of a migration does not see the tables that it is not about (`Step.applied?_append`), so in a catalog that is
free of the names of the directory the first migration adds its tables, and taking it back removes them and nothing else
(`Catalog.Free.up`, `Catalog.Free.down`). The tables that it adds ask the same of their rows as those that the directory
creates itself (`ofCatalog_migrated`).
-/

namespace ParticipantDirectory.Schema

variable {c d : Catalog}

/-! ## Steps -/

/-- A catalog without the table that a step is about, and without the index that it creates. -/
def Step.Spares (c : Catalog) : Step → Prop
  | createTable t => c.has t.name = false
  | createIndex table index => c.has table = false ∧ (c.any (·.indexes.any (·.name == index.name))) = false
  | dropIndex table _ | dropTable table => c.has table = false

namespace Catalog

theorem has_append (c d : Catalog) (name : String) : Catalog.has (c ++ d) name = (c.has name || d.has name) :=
  List.any_append

theorem name_ne_of_has {name : String} (h : c.has name = false) {t : Table} (ht : t ∈ c) : t.name ≠ name :=
  fun he => Bool.false_ne_true (h.symm.trans (List.any_eq_true.2 ⟨t, ht, beq_iff_eq.2 he⟩))

/-- What is done to the tables of a name that a catalog does not have. -/
theorem map_of_has {name : String} (h : c.has name = false) (f : Table → Table) :
    c.map (fun t => if t.name = name then f t else t) = c := by
  refine (List.map_congr_left fun t ht => ?_).trans (List.map_id c)
  exact if_neg (name_ne_of_has h ht)

theorem find?_append {name : String} (h : c.has name = false) : Catalog.find? (c ++ d) name = d.find? name := by
  have hc : List.find? (fun t : Table => t.name == name) c = none :=
    List.find?_eq_none.2 fun t ht he => name_ne_of_has h ht (eq_of_beq he)
  rw [Catalog.find?, List.find?_append, hc]
  rfl

end Catalog

namespace Step

/-- A step does to a catalog what it does to the part that has what the step is about. -/
theorem applied?_append {s : Step} (h : s.Spares c) (d : Catalog) :
    s.applied? (c ++ d) = (s.applied? d).map (c ++ ·) := by
  cases s with
  | createTable t =>
    have h : c.has t.name = false := h
    rw [applied?, applied?, Catalog.has_append, h, Bool.false_or]
    cases d.has t.name with
    | true => rfl
    | false => exact congrArg some (List.append_assoc c d [t])
  | createIndex table index =>
    rw [applied?, applied?, Catalog.has_append, h.1, List.any_append, h.2, Bool.false_or, Bool.false_or,
      List.map_append, Catalog.map_of_has h.1]
    split <;> rfl
  | dropIndex table index =>
    have h : c.has table = false := h
    have hany : (c.any fun t => t.name == table && t.indexes.any (·.name == index)) = false := by
      rw [List.any_eq_false]
      intro t ht he
      exact Catalog.name_ne_of_has h ht (eq_of_beq (Bool.and_eq_true_iff.1 he).1)
    rw [applied?, applied?, List.any_append, hany, Bool.false_or, List.map_append, Catalog.map_of_has h]
    split <;> rfl
  | dropTable table =>
    have h : c.has table = false := h
    have hfilter : c.filter (·.name != table) = c :=
      List.filter_eq_self.2 fun t ht => bne_iff_ne.2 (Catalog.name_ne_of_has h ht)
    rw [applied?, applied?, Catalog.has_append, h, Bool.false_or, List.filter_append, hfilter]
    split <;> rfl

/-- By induction over the steps. -/
theorem applyAll_append {steps : List Step} (h : ∀ s ∈ steps, s.Spares c) (d : Catalog) :
    applyAll (c ++ d) steps = ((applyAll d steps).1, c ++ (applyAll d steps).2) := by
  induction steps generalizing d with
  | nil => rfl
  | cons s rest ih =>
    obtain ⟨hs, hrest⟩ := List.forall_mem_cons.1 h
    rw [applyAll, applyAll, applied?_append hs]
    cases s.applied? d with
    | none => rfl
    | some d' => exact ih hrest d'

end Step

/-! ## The first migration -/

/-- The tables that the first migration creates. -/
def Migration.tables : Catalog :=
  (Step.applyAll [] Migration.initial.up).2

/-- The catalog of a database that has no table with the name of one of the directory, and no index with the name of the
one that the first migration creates. -/
structure Catalog.Free (c : Catalog) : Prop where
  tables : ∀ t ∈ Model.tables, c.has t.name = false
  index : ∀ t ∈ c, ∀ i ∈ t.indexes, i.name ≠ Migration.entityIndex.name

namespace Catalog.Free

theorem users (h : c.Free) : c.has "smp_users" = false :=
  h.tables Model.users (by decide)

theorem groups (h : c.Free) : c.has "smp_service_groups" = false :=
  h.tables Model.groups (by decide)

theorem cards (h : c.Free) : c.has "smp_business_cards" = false :=
  h.tables Model.cards (by decide)

theorem entities (h : c.Free) : c.has "smp_business_card_entities" = false :=
  h.tables Model.entities (by decide)

theorem unindexed (h : c.Free) : (c.any (·.indexes.any (·.name == Migration.entityIndex.name))) = false := by
  rw [List.any_eq_false]
  intro t ht hi
  obtain ⟨i, hm, he⟩ := List.any_eq_true.1 hi
  exact h.index t ht i hm (eq_of_beq he)

theorem spared_up (h : c.Free) : ∀ s ∈ Migration.initial.up, s.Spares c := by
  refine List.forall_mem_cons.2 ⟨h.users, List.forall_mem_cons.2 ⟨h.groups, List.forall_mem_cons.2 ⟨h.cards,
    List.forall_mem_cons.2 ⟨h.entities, List.forall_mem_cons.2 ⟨⟨h.entities, h.unindexed⟩, fun s hs => ?_⟩⟩⟩⟩⟩
  cases hs

theorem spared_down (h : c.Free) : ∀ s ∈ Migration.initial.down, s.Spares c := by
  refine List.forall_mem_cons.2 ⟨h.entities, List.forall_mem_cons.2 ⟨h.entities, List.forall_mem_cons.2 ⟨h.cards,
    List.forall_mem_cons.2 ⟨h.groups, List.forall_mem_cons.2 ⟨h.users, fun s hs => ?_⟩⟩⟩⟩⟩
  cases hs

/-- Beside other tables the migration creates its own. -/
theorem up (h : c.Free) : Step.applyAll c Migration.initial.up = (true, c ++ Migration.tables) := by
  have hup := Step.applyAll_append h.spared_up []
  rw [List.append_nil] at hup
  rw [hup]
  rfl

/-- Taking the migration back removes its tables and nothing else. -/
theorem down (h : c.Free) : Step.applyAll (c ++ Migration.tables) Migration.initial.down = (true, c) := by
  rw [Step.applyAll_append h.spared_down, show Step.applyAll Migration.tables Migration.initial.down = (true, []) by
    decide, List.append_nil]

theorem createMissing (h : c.Free) : c.createMissing Model.tables = c ++ Model.tables := by
  rw [Catalog.createMissing, List.filter_eq_self.2 fun t ht => by rw [h.tables t ht]; rfl]

/-- Other tables are not seen when a database is opened. -/
theorem ofCatalog_append (h : c.Free) (d : Catalog) : Database.ofCatalog (c ++ d) = Database.ofCatalog d := by
  have hfind : ∀ t ∈ Model.tables, Catalog.find? (c ++ d) t.name = d.find? t.name := fun t ht =>
    Catalog.find?_append (h.tables t ht)
  have hopened : ∀ {ρ : Type}, ∀ t ∈ Model.tables,
      (Database.opened (c ++ d) t : Option (List ρ)) = Database.opened d t := fun t ht => by
    rw [Database.opened, Database.opened, hfind t ht]
  have hasked : ∀ t ∈ Model.tables, Database.constraintsIn (c ++ d) t = Database.constraintsIn d t := fun t ht => by
    rw [Database.constraintsIn, Database.constraintsIn, hfind t ht]
  rw [Database.ofCatalog, Database.ofCatalog, hopened Model.users (by decide), hopened Model.groups (by decide),
    hopened Model.cards (by decide), hopened Model.entities (by decide), hasked Model.users (by decide),
    hasked Model.groups (by decide), hasked Model.cards (by decide), hasked Model.entities (by decide)]

end Catalog.Free

/-- The tables of the migration are opened like those of the directory: they ask the same of the same rows. -/
theorem ofCatalog_migrated : Database.ofCatalog Migration.tables = Database.fresh := rfl

end ParticipantDirectory.Schema
