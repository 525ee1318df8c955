import ParticipantDirectory.Proofs.Framework.Invariant

/-!
# Two runs side by side

Two programs match (`Matches R S`) if from states related by `R` they end with the same value or the same failure, in
states related by `S`. They match in sequence if they match part by part (`Matches.bind`). What two programs have in
common takes the same state to the same state (`matches_refl`), and what is known of the state stays known if that part
preserves it (`Action.Preserves.matches`). After the parts in which they differ have come to the same state, the programs
go on alike (`Matches.bind_same`).
-/

namespace ParticipantDirectory

variable {ε ω α β : Type} {R S T : ω → ω → Prop} {P : ω → Prop}

/-- From states related by `R` both programs end with the same value or the same failure, in states related by `S`. -/
def Matches (R S : ω → ω → Prop) (a b : ExceptT ε (StateM ω) α) : Prop :=
  ∀ w w', R w w' → ((ExceptT.run a).run w).1 = ((ExceptT.run b).run w').1 ∧
    S ((ExceptT.run a).run w).2 ((ExceptT.run b).run w').2

/-- The same state, of which `P` holds. -/
def Same (P : ω → Prop) (w w' : ω) : Prop :=
  w = w' ∧ P w

/-- What comes after a part of a program that may fail is run where the part ends, unless that fails. -/
theorem run_sequence (a : ExceptT ε (StateM ω) α) (f : α → ExceptT ε (StateM ω) β) (w : ω) :
    (ExceptT.run (a >>= f)).run w = match (ExceptT.run a).run w with
      | (.ok x, w') => (ExceptT.run (f x)).run w'
      | (.error e, w') => (.error e, w') := by
  show (match (ExceptT.run a).run w with | (r, w') => ExceptT.bindCont (m := StateM ω) f r w') = _
  rcases (ExceptT.run a).run w with ⟨_ | _, _⟩ <;> rfl

theorem matches_refl (a : ExceptT ε (StateM ω) α) : Matches Eq Eq a a := by
  rintro w _ rfl
  exact ⟨rfl, rfl⟩

theorem matches_pure (x : α) : Matches R R (pure x : ExceptT ε (StateM ω) α) (pure x) :=
  fun _ _ h => ⟨rfl, h⟩

theorem matches_throw (e : ε) : Matches R R (throw e : ExceptT ε (StateM ω) α) (throw e) :=
  fun _ _ h => ⟨rfl, h⟩

/-- From the same state both programs come to the same end. -/
theorem matches_same_iff {a b : ExceptT ε (StateM ω) α} :
    Matches (Same P) Eq a b ↔ ∀ w, P w → (ExceptT.run a).run w = (ExceptT.run b).run w := by
  constructor
  · intro h w hw
    obtain ⟨hr, hs⟩ := h w w ⟨rfl, hw⟩
    exact Prod.ext hr hs
  · rintro h w _ ⟨rfl, hw⟩
    rw [h w hw]
    exact ⟨rfl, rfl⟩

namespace Matches

variable {a b : ExceptT ε (StateM ω) α}

theorem mono (h : Matches R T a b) (hS : ∀ w w', T w w' → S w w') : Matches R S a b := by
  intro w w' hR
  obtain ⟨hr, hT⟩ := h w w' hR
  exact ⟨hr, hS _ _ hT⟩

/-- Programs match part by part; where the first part fails, its end is the end. -/
theorem bind {f g : α → ExceptT ε (StateM ω) β} (h : Matches R T a b) (hf : ∀ x, Matches T S (f x) (g x))
    (hS : ∀ w w', T w w' → S w w') : Matches R S (a >>= f) (b >>= g) := by
  intro w w' hR
  obtain ⟨hr, hT⟩ := h w w' hR
  rw [run_sequence, run_sequence]
  rcases ha : (ExceptT.run a).run w with ⟨e | x, v⟩
  all_goals
    rcases hb : (ExceptT.run b).run w' with ⟨e' | x', v'⟩
    all_goals rw [ha, hb] at hr hT
  · obtain rfl := Except.error.inj hr
    exact ⟨rfl, hS _ _ hT⟩
  · cases hr
  · cases hr
  · obtain rfl := Except.ok.inj hr
    exact hf x v v' hT

/-- Programs that have come to the same state go on alike. -/
theorem bind_same (h : Matches R Eq a b) (f : α → ExceptT ε (StateM ω) β) : Matches R Eq (a >>= f) (b >>= f) :=
  h.bind (fun x => matches_refl (f x)) fun _ _ h => h

/-- Programs that begin alike and keep what is known of the state match as the rest does. -/
theorem seq_same {f g : α → ExceptT ε (StateM ω) β} (h : Matches (Same P) (Same P) a b)
    (hf : ∀ x, Matches (Same P) Eq (f x) (g x)) : Matches (Same P) Eq (a >>= f) (b >>= g) :=
  h.bind hf fun _ _ h => h.1

end Matches

namespace Action

variable {σ : Type} {P : World σ → Prop} {R : World σ → World σ → Prop} {a b : Action σ α}

theorem Preserves.matches (h : a.Preserves P) : Matches (Same P) (Same P) a a := by
  rintro w _ ⟨rfl, hw⟩
  exact ⟨rfl, rfl, h w hw⟩

theorem matches_map (f : α → β) (h : Matches R Eq a b) : Matches R Eq (f <$> a) (f <$> b) := by
  rw [← bind_pure_comp, ← bind_pure_comp]
  exact h.bind_same _

/-- A reported block does the same with the same failure. -/
theorem matches_block (k : Block) (h : Matches R Eq a b) : Matches R Eq (k.run a) (k.run b) := by
  intro w w' hR
  obtain ⟨hr, hw⟩ := h w w' hR
  have hrun : a.runOn w = b.runOn w' := Prod.ext hr hw
  show ((k.run a).runOn w).1 = ((k.run b).runOn w').1 ∧ ((k.run a).runOn w).2 = ((k.run b).runOn w').2
  rw [Block.run, Block.run, runOn_tryCatch, runOn_tryCatch, hrun]
  exact ⟨rfl, rfl⟩

end Action

end ParticipantDirectory
