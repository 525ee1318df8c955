import ParticipantDirectory.Proofs.Framework.Transaction

/-!
# What an operation preserves

An operation preserves a property of worlds (`Action.Preserves`) if it leads from worlds that have it to worlds that
have it, whatever its outcome. Sequences of what preserves a property preserve it, and so do alternatives; what only
reads preserves every property that does not tell worlds that agree from each other. In the same way a transaction keeps
a property of databases (`Transaction.Keeps`).
-/

namespace ParticipantDirectory

variable {σ α β : Type}

namespace Transaction

variable {P : Database → Prop}

/-- If it ends, the transaction ends in a database of which `P` holds as it did of the one in which it began. -/
def Keeps (P : Database → Prop) (t : Transaction α) : Prop :=
  ∀ db a db', P db → t.run db = .ok (a, db') → P db'

theorem ReadOnly.keeps {t : Transaction α} (ht : t.ReadOnly) : t.Keeps P :=
  fun _ _ _ hp hr => (ht _ _ _ hr).symm ▸ hp

theorem keeps_modify {f : Database → Database} (h : ∀ db, P db → P (f db)) : (modify f : Transaction Unit).Keeps P := by
  intro db a db' hp hr
  cases hr
  exact h db hp

theorem Keeps.bind {t : Transaction α} {f : α → Transaction β} (ht : t.Keeps P) (hf : ∀ a, (f a).Keeps P) :
    (t >>= f).Keeps P := by
  intro db b db' hp hr
  rw [run_bind] at hr
  cases h : t.run db with
  | error e => rw [h] at hr; cases hr
  | ok p =>
    rw [h] at hr
    exact hf _ _ _ _ (ht _ _ _ hp h) hr

theorem Keeps.outcome {t : Transaction α} (ht : t.Keeps P) {db db' : Database} {a : α} (hp : P db)
    (h : t.outcome db = .ok (a, db')) : P db' :=
  ht _ _ _ hp (ok_of_mapError h)

end Transaction

namespace Action

variable {I : World σ → Prop}

/-- From worlds with the property the operation leads to worlds with the property. -/
def Preserves (I : World σ → Prop) (a : Action σ α) : Prop :=
  ∀ w, I w → I (a.runOn w).2

/-- What only reads preserves what worlds that agree have in common. -/
theorem Reads.preserves {a : Action σ α} {f : σ → Except Failure α} (ha : a.Reads f)
    (hI : ∀ w w', I w → w.Agrees w' → I w') : a.Preserves I := by
  intro w hw
  obtain ⟨w', e, h⟩ := ha w
  rw [e]
  exact hI w w' hw h

theorem preserves_pure (x : α) : (pure x : Action σ α).Preserves I :=
  fun _ hw => hw

theorem Preserves.bind {a : Action σ α} {f : α → Action σ β} (ha : a.Preserves I) (hf : ∀ x, (f x).Preserves I) :
    (a >>= f).Preserves I := by
  intro w hw
  have h := ha w hw
  rw [runOn_bind]
  rcases hr : a.runOn w with ⟨_ | x, w'⟩
  all_goals rw [hr] at h
  · exact h
  · exact hf x w' h

theorem Preserves.ite {p : Prop} [Decidable p] {a b : Action σ α} (ha : a.Preserves I) (hb : b.Preserves I) :
    (if p then a else b).Preserves I := by
  split
  · exact ha
  · exact hb

end Action

end ParticipantDirectory
