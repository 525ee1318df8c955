import ParticipantDirectory.Proofs.Schema.Stored
import ParticipantDirectory.Proofs.Service.DataOperations

/-!
# The migration in the place of the directory's own tables

Operations on a stored database that serves a directory are operations on the four tables (`Stored.perform_seen`,
`Stored.run_seen`), whatever catalog it has and whatever other tables. So it does not matter to a directory whether its
tables come from the migration or from itself, and the migration can be taken back at any time
(`Stored.migrated_as_created`).
-/

namespace ParticipantDirectory

open Schema

/-- The answers to operations one after the other, and the world after them. -/
def World.performAll (w : World Database) : List DataOperation → List (Except Failure Reply) × World Database
  | [] => ([], w)
  | operation :: rest =>
    let (reply, w₁) := operation.perform.runOn w
    let (replies, w₂) := w₁.performAll rest
    (reply :: replies, w₂)

namespace Stored

variable {ρ : Type} {w : World (Stored ρ)}

/-! ## Operations -/

/-- A world as a directory sees it. -/
def seen (w : World (Stored ρ)) : World Database :=
  { w with state := w.state.database }

/-- The answer to an operation, and the world with the rows that it leaves. -/
def perform (w : World (Stored ρ)) (operation : DataOperation) : Except Failure Reply × World (Stored ρ) :=
  let (reply, w') := operation.perform.runOn (seen w)
  (reply, { w' with state := w.state.put w'.state })

/-- The answers to operations one after the other, and the world after them. -/
def run (w : World (Stored ρ)) : List DataOperation → List (Except Failure Reply) × World (Stored ρ)
  | [] => ([], w)
  | operation :: rest =>
    let (reply, w₁) := perform w operation
    let (replies, w₂) := run w₁ rest
    (reply :: replies, w₂)

/-- A world with the same catalog and the same other tables, whose database serves a directory. -/
structure Continues (w w' : World (Stored ρ)) : Prop where
  serves : w'.state.Serves
  state : ∃ t, w'.state = { w.state with tables := t }

theorem Continues.trans {w₁ w₂ w₃ : World (Stored ρ)} (h : Continues w₁ w₂) (h' : Continues w₂ w₃) :
    Continues w₁ w₃ := by
  obtain ⟨t, ht⟩ := h.state
  obtain ⟨t', ht'⟩ := h'.state
  exact ⟨h'.serves, t', by rw [ht', ht]⟩

/-- An operation does to a stored database what it does to the four tables, and nothing else. -/
theorem perform_seen (h : w.state.Serves) (operation : DataOperation) :
    (perform w operation).1 = (operation.perform.runOn (seen w)).1 ∧
      seen (perform w operation).2 = (operation.perform.runOn (seen w)).2 ∧ Continues w (perform w operation).2 := by
  have hwhole : (seen w).state.Whole := ⟨w.state.tables, h.database_eq, h.met⟩
  obtain ⟨t, ht, hput, hserves⟩ := h.put (operation.preserves_whole (seen w) hwhole)
  refine ⟨rfl, ?_, ⟨hserves, t, hput⟩⟩
  have hstate : (w.state.put (operation.perform.runOn (seen w)).2.state).database =
      (operation.perform.runOn (seen w)).2.state := by
    rw [hserves.database_eq, hput]
    exact ht.symm
  show ({ (operation.perform.runOn (seen w)).2 with
    state := (w.state.put (operation.perform.runOn (seen w)).2.state).database } : World Database) = _
  rw [hstate]

/-- By induction over the operations. -/
theorem run_seen (h : w.state.Serves) (operations : List DataOperation) :
    (run w operations).1 = ((seen w).performAll operations).1 ∧
      seen (run w operations).2 = ((seen w).performAll operations).2 ∧ Continues w (run w operations).2 := by
  induction operations generalizing w with
  | nil => exact ⟨rfl, rfl, h, w.state.tables, rfl⟩
  | cons operation rest ih =>
    obtain ⟨hreply, hseen, hcontinues⟩ := perform_seen h operation
    obtain ⟨hreplies, hseen', hcontinues'⟩ := ih hcontinues.serves
    rw [hseen] at hreplies hseen'
    refine ⟨?_, hseen', hcontinues.trans hcontinues'⟩
    show (perform w operation).1 :: (run (perform w operation).2 rest).1 = _
    rw [hreply, hreplies]
    rfl

/-- Operations leave the catalog as it is. By induction over them. -/
theorem run_catalog (w : World (Stored ρ)) (operations : List DataOperation) :
    (run w operations).2.state.catalog = w.state.catalog := by
  induction operations generalizing w with
  | nil => rfl
  | cons operation rest ih => exact ih (perform w operation).2

/-! ## Main statement -/

/-- In a database of other tables the first migration creates its tables. Whatever operations follow, they are answered
as if the directory had created its own, and leave the same values in the tables, which take the same rows besides,
whatever values or nulls these have in the columns; everything else that a directory sees is the same as well. In both
cases the constraints of the tables are met, and for them the directory refuses to add just those rows that the tables do
not take. Taking the migration back afterwards restores the database: what the migration created is gone, and the other
tables are as they were. -/
theorem migrated_as_created (h : w.state.Foreign) (operations : List DataOperation) :
    let migrated := { w.state with catalog := w.state.catalog ++ Migration.tables }
    let (replies, w₁) := run { w with state := migrated } operations
    let (replies', w₂) := run { w with state := w.state.createSchema } operations
    w.state.applyAll Migration.initial.up = (true, migrated) ∧
      replies = replies' ∧
      (∀ model ∈ Model.tables, w₁.state.contents model = w₂.state.contents model ∧
        ∀ rows : List Values, w₁.state.Takes model rows ↔ w₂.state.Takes model rows) ∧
      seen w₁ = seen w₂ ∧
      (w₁.state.Sound ∧ w₁.state.Guards) ∧ (w₂.state.Sound ∧ w₂.state.Guards) ∧
      w₁.state.applyAll Migration.initial.down = (true, w.state) := by
  intro migrated
  have hserves : migrated.Serves := h.serves_upgraded
  have hserves' : w.state.createSchema.Serves := h.created ▸ h.serves_created
  have hsame : seen { w with state := migrated } = seen { w with state := w.state.createSchema } := by
    have hdatabase : migrated.database = w.state.createSchema.database := by
      rw [hserves.database_eq, hserves'.database_eq, h.created]
    simp only [seen, hdatabase]
  obtain ⟨hreplies, hseen, hcontinues⟩ := run_seen (w := { w with state := migrated }) hserves operations
  obtain ⟨hreplies', hseen', hcontinues'⟩ :=
    run_seen (w := { w with state := w.state.createSchema }) hserves' operations
  have hsame' : seen (run { w with state := migrated } operations).2 =
      seen (run { w with state := w.state.createSchema } operations).2 := by
    rw [hseen, hseen', hsame]
  have htables : (run { w with state := migrated } operations).2.state.tables =
      (run { w with state := w.state.createSchema } operations).2.state.tables := by
    refine Tables.database_injective ?_
    rw [← hcontinues.serves.database_eq, ← hcontinues'.serves.database_eq]
    exact congrArg World.state hsame'
  refine ⟨h.upgraded, ?_, fun model hm => ⟨?_, fun rows => ?_⟩, hsame',
    ⟨hcontinues.serves.sound, hcontinues.serves.guards⟩, ⟨hcontinues'.serves.sound, hcontinues'.serves.guards⟩, ?_⟩
  · rw [hreplies, hreplies', hsame]
  · exact hcontinues'.serves.contents_eq hcontinues.serves htables hm
  · exact hcontinues'.serves.takes_congr hcontinues.serves htables hm rows
  · obtain ⟨t, ht⟩ := hcontinues.state
    rw [ht]
    exact h.downgraded t

/-- Beside notes with two rows, the same user twice, an entity without an id, and what can be done then. A user without
a login name is taken by neither table of users. -/
theorem migrated_as_created_of_notes :
    let notes : Schema.Table := { name := "notes", columns := [.required "id" .integer], primaryKey := "id" }
    let others : Stored Nat := ⟨[notes], .empty, fun name => if name = "notes" then [1, 2] else []⟩
    let migrated := { others with catalog := others.catalog ++ Migration.tables }
    let operations : List DataOperation := [.createUser 1 "anna" "secret", .createUser 1 "anna" "other",
      .putCard ⟨"a::b", ⟨"a", "b"⟩, .issued 0, none⟩
        [⟨.absent, ⟨[⟨"Example", none⟩], "AT", none, [], [], [], none, none⟩⟩], .countUsers]
    let nameless : Values := fun k => if k = "login_name" then none else some .time
    let ran := run { state := migrated } operations
    let ran' := run { state := others.createSchema } operations
    others.Foreign ∧ ran.1 = ran'.1 ∧ ¬ran.2.state.Takes Model.users [nameless] ∧
      ¬ran'.2.state.Takes Model.users [nameless] ∧ ran.2.state.applyAll Migration.initial.down = (true, others) := by
  intro notes others migrated operations nameless ran ran'
  have h : others.Foreign := by
    refine ⟨⟨by decide, by decide⟩, rfl, fun name hn => if_neg fun hnotes => ?_⟩
    subst hnotes
    exact absurd hn (by decide)
  obtain ⟨-, hreplies, htables, -, -, -, hdown⟩ := migrated_as_created (w := { state := others }) h operations
  have hnull : ¬ran.2.state.Takes Model.users [nameless] := by
    rintro ⟨t, hfind, hadmits⟩
    have hcatalog : ran.2.state.catalog = migrated.catalog := run_catalog _ operations
    rw [hcatalog] at hfind
    cases hfind
    cases hadmits.required nameless (List.mem_append_right _ (List.mem_singleton_self _)) "login_name" (by decide)
  exact ⟨h, hreplies, hnull, mt ((htables Model.users (by decide)).2 [nameless]).2 hnull, hdown⟩

end Stored

end ParticipantDirectory
