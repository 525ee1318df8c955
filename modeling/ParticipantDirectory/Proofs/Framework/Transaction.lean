import ParticipantDirectory.Proofs.Framework.Action
import ParticipantDirectory.Store.Transaction

/-!
# Transactions and sessions

A session runs a transaction as an operation: it changes the database all or nothing (`session_changes`), and
one that runs a read-only transaction reads (`session_reads`). The aborts of a transaction become failures
by `Abort.failure`.
-/

namespace ParticipantDirectory

/-- The failure as which a session reports an abort. -/
def Abort.reported : Abort → Failure
  | .integrity _ => Failure.of (.databaseFailure "Integrity constraint violated" "commit")
  | .unavailable _ => Failure.of (.databaseFailure "Connection or operational error" "execute")
  | .failure f => f

namespace Transaction

variable {α β ρ : Type}

/-! ## Running the parts of a transaction -/

theorem run_bind (t : Transaction α) (f : α → Transaction β) (db : Database) :
    (t >>= f).run db = match t.run db with
      | .ok (a, db') => (f a).run db'
      | .error e => .error e := by
  show (t.run db >>= fun p => (f p.1).run p.2) = _
  cases t.run db <;> rfl

theorem run_get (db : Database) : (get : Transaction Database).run db = .ok (db, db) := rfl

/-- A table that is missing cannot be read. -/
theorem run_rows (table : Database → Option (List ρ)) (s : Statement) (db : Database) :
    (rows table s).run db = match table db with
      | some rs => .ok (rs, db)
      | none => .error (.unavailable s) := by
  rw [rows, run_bind, run_get]
  dsimp only
  cases table db <;> rfl

theorem run_refuseIf (broken : Bool) (s : Statement) (db : Database) :
    (refuseIf broken s).run db = if broken then .error (.integrity s) else .ok ((), db) := by
  cases broken <;> rfl

/-- An id that can be read is read; another one is what the transaction fails over. -/
theorem run_readId (id : UserId) (db : Database) : (readId id).run db = match id.readFault? with
    | none => .ok ((), db)
    | some a => .error (.failure (.accident a)) := by
  rw [readId]
  cases id.readFault? <;> rfl

section

variable (table : Database → Option (List ρ)) (asked : Database → TableConstraints) (cell : ρ → String → Option Cell)
  (put : Database → List ρ → Database) (s : Statement)

/-- A row is added to a table that is there unless the constraints of the table refuse it. -/
theorem run_insert {present : List ρ} {db : Database} (ht : table db = some present) (row : ρ) :
    (do
      let rows ← rows table s
      refuseIf ((asked (← get)).refuse cell rows row) s
      modify fun db => put db (rows ++ [row]) : Transaction Unit).run db =
      if (asked db).refuse cell present row then .error (.integrity s) else .ok ((), put db (present ++ [row])) := by
  rw [run_bind, run_rows, ht]
  dsimp only
  rw [run_bind, run_get]
  dsimp only
  rw [run_bind, run_refuseIf]
  cases (asked db).refuse cell present row <;> rfl

/-- A row that is added is not refused by the constraints of its table. It comes last there, and nothing else
changes. -/
theorem insert_fits {row : ρ} {db db' : Database} {u : Unit}
    (h : (do
      let rows ← rows table s
      refuseIf ((asked (← get)).refuse cell rows row) s
      modify fun db => put db (rows ++ [row]) : Transaction Unit).run db = .ok (u, db')) :
    ∃ rows, table db = some rows ∧ (asked db).refuse cell rows row = false ∧ db' = put db (rows ++ [row]) := by
  cases ht : table db with
  | none =>
    rw [run_bind, run_rows, ht] at h
    cases h
  | some rows =>
    rw [run_insert table asked cell put s ht] at h
    cases hc : (asked db).refuse cell rows row with
    | true => rw [hc] at h; cases h
    | false =>
      rw [hc] at h
      cases h
      exact ⟨rows, rfl, hc, rfl⟩

theorem insert_ok {row : ρ} {db db' : Database} {u : Unit}
    (h : (do
      let rows ← rows table s
      refuseIf ((asked (← get)).refuse cell rows row) s
      modify fun db => put db (rows ++ [row]) : Transaction Unit).run db = .ok (u, db')) :
    ∃ rows, table db = some rows ∧ db' = put db (rows ++ [row]) := by
  obtain ⟨rows, ht, -, he⟩ := insert_fits table asked cell put s h
  exact ⟨rows, ht, he⟩

end

/-! ## Read-only transactions -/

/-- The transaction ends, if at all, in the database in which it began. -/
def ReadOnly (t : Transaction α) : Prop :=
  ∀ db a db', t.run db = .ok (a, db') → db' = db

theorem readOnly_pure (a : α) : (pure a : Transaction α).ReadOnly := by
  intro db b db' h
  cases h
  rfl

theorem readOnly_throw (e : Abort) : (throw e : Transaction α).ReadOnly := by
  intro db b db' h
  cases h

theorem readOnly_rows (table : Database → Option (List ρ)) (s : Statement) : (rows table s).ReadOnly := by
  intro db a db' h
  rw [run_rows] at h
  cases ht : table db with
  | none => rw [ht] at h; cases h
  | some rs => rw [ht] at h; cases h; rfl

theorem ReadOnly.bind {t : Transaction α} {f : α → Transaction β} (ht : t.ReadOnly)
    (hf : ∀ a, (f a).ReadOnly) : (t >>= f).ReadOnly := by
  intro db b db' h
  rw [run_bind] at h
  cases hr : t.run db with
  | error e => rw [hr] at h; cases h
  | ok p =>
    obtain ⟨a, db₁⟩ := p
    rw [hr] at h
    rw [hf a _ _ _ h, ht _ _ _ hr]

theorem readOnly_readId (id : UserId) : (readId id).ReadOnly := by
  rw [readId]
  split
  · exact readOnly_pure ()
  · exact readOnly_throw _

/-! ## Transactions that only the database aborts -/

/-- The transaction is aborted, if at all, by the database. -/
def Mechanical (t : Transaction α) : Prop :=
  ∀ db f, t.run db ≠ .error (.failure f)

theorem mechanical_pure (a : α) : (pure a : Transaction α).Mechanical :=
  fun _ _ h => by cases h

theorem mechanical_refuseIf (broken : Bool) (s : Statement) : (refuseIf broken s).Mechanical := by
  intro db f h
  cases broken <;> cases h

theorem mechanical_get : (get : Transaction Database).Mechanical :=
  fun _ _ h => by cases h

theorem mechanical_modify (f : Database → Database) : (modify f : Transaction Unit).Mechanical :=
  fun _ _ h => by cases h

theorem mechanical_rows (table : Database → Option (List ρ)) (s : Statement) : (rows table s).Mechanical := by
  intro db f h
  rw [run_rows] at h
  cases ht : table db with
  | none => rw [ht] at h; cases h
  | some rs => rw [ht] at h; cases h

theorem Mechanical.bind {t : Transaction α} {f : α → Transaction β} (ht : t.Mechanical)
    (hf : ∀ a, (f a).Mechanical) : (t >>= f).Mechanical := by
  intro db e h
  rw [run_bind] at h
  cases hr : t.run db with
  | error e' => rw [hr] at h; cases h; exact ht _ _ hr
  | ok p => rw [hr] at h; exact hf _ _ _ h

/-! ## What transactions fail over -/

/-- The transaction is aborted by the database, or over failures only of which `P` holds. -/
def Fails (P : Failure → Prop) (t : Transaction α) : Prop :=
  ∀ db f, t.run db = .error (.failure f) → P f

section

variable {P : Failure → Prop}

theorem Mechanical.fails {t : Transaction α} (ht : t.Mechanical) : t.Fails P :=
  fun db f h => absurd h (ht db f)

theorem fails_throw {f : Failure} (h : P f) : (throw (.failure f) : Transaction α).Fails P := by
  intro db g hg
  cases hg
  exact h

theorem Fails.bind {t : Transaction α} {f : α → Transaction β} (ht : t.Fails P) (hf : ∀ a, (f a).Fails P) :
    (t >>= f).Fails P := by
  intro db e h
  rw [run_bind] at h
  cases hr : t.run db with
  | error e' => rw [hr] at h; cases h; exact ht _ _ hr
  | ok p => rw [hr] at h; exact hf _ _ _ h

end

/-! ## Sessions -/

/-- The answer and the database that a session makes of a transaction. -/
def outcome (t : Transaction α) (db : Database) : Except Failure (α × Database) :=
  (t.run db).mapError Abort.reported

/-- The answer that a session makes of a transaction. -/
def answer (t : Transaction α) (db : Database) : Except Failure α :=
  (t.outcome db).map Prod.fst

theorem outcome_of_run {t : Transaction α} {db : Database} {r : Except Abort (α × Database)} (h : t.run db = r) :
    t.outcome db = r.mapError Abort.reported := by
  rw [outcome, h]

theorem answer_of_run {t : Transaction α} {db : Database} {r : Except Abort (α × Database)} (h : t.run db = r) :
    t.answer db = (r.map Prod.fst).mapError Abort.reported := by
  rw [answer, outcome, h]
  cases r <;> rfl

/-- What a session answers fails over what its transaction fails over, or over what the database cannot do. -/
theorem Fails.answer {P : Failure → Prop} {t : Transaction α} (ht : t.Fails P)
    (hd : ∀ message operation, P (Failure.of (.databaseFailure message operation))) (db : Database) :
    FailsWith P (t.answer db) := by
  intro f h
  rw [answer_of_run rfl] at h
  cases hr : t.run db with
  | ok p => rw [hr] at h; cases h
  | error e =>
    rw [hr] at h
    cases e with
    | integrity s | unavailable s => cases h; exact hd _ _
    | failure g => cases h; exact ht _ _ hr

end Transaction

open Action Transaction

variable {α : Type}

/-- What the database cannot do is noted and fails; nothing changes. -/
theorem reads_databaseFault (kind message operation : String) (s : Statement) :
    (databaseFault kind message operation s : Action Database α).Reads
      fun _ => .error (Failure.of (.databaseFailure message operation)) :=
  fun w => (reads_note (databaseRecord kind operation (w.explain kind s))).seq (reads_fail _) w

/-- A session changes the database all or nothing. -/
theorem session_changes (t : Transaction α) : (session t).Changes t.outcome := by
  intro w
  rw [session, runOn_bind, runOn_get, outcome]
  dsimp only
  cases t.run w.state with
  | ok p => exact ⟨_, rfl, .refl _⟩
  | error e =>
    cases e with
    | integrity s => exact reads_databaseFault _ _ _ s w
    | unavailable s => exact reads_databaseFault _ _ _ s w
    | failure f => exact ⟨w, rfl, .refl w⟩

/-- A session that runs a read-only transaction reads. -/
theorem session_reads {t : Transaction α} (ht : t.ReadOnly) : (session t).Reads t.answer := by
  intro w
  obtain ⟨w', e', a'⟩ := session_changes t w
  refine ⟨w', e', ?_⟩
  rw [outcome] at a'
  cases hr : t.run w.state with
  | error e => rw [hr] at a'; exact a'
  | ok p =>
    obtain ⟨a, db⟩ := p
    rw [hr] at a'
    obtain rfl := ht _ _ _ hr
    exact a'

end ParticipantDirectory
