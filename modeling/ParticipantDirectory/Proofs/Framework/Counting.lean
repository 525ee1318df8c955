import ParticipantDirectory.Proofs.Framework.Transaction
import ParticipantDirectory.Proofs.Tally

/-!
# What an operation counts

An operation is *silent* (`Silent`) if it counts nothing, whatever its outcome. It *counts* marks (`Counts`) if the
tally after it is the one before with the marks that belong to its outcome, and it *ticks* (`Ticks`) if it always ends
with the same outcome and counts the same marks:

* `Silent.bind`, `Silent.block`, `silent_session`, `silent_mapM`: everything but counting is silent;
* `Ticks.bind_counts`: something counted before the rest;
* `Silent.bind_counts`: a silent part, after whose failure nothing more is counted.
-/

namespace ParticipantDirectory

variable {σ α β : Type}

namespace Action

/-! ## Operations that count nothing -/

/-- From every world the tally is the same afterwards. -/
def Silent (a : Action σ α) : Prop :=
  ∀ w, (a.runOn w).2.tally = w.tally

theorem silent_pure (x : α) : (pure x : Action σ α).Silent :=
  fun _ => rfl

theorem silent_throw (e : Failure) : (throw e : Action σ α).Silent :=
  fun _ => rfl

theorem silent_fail (c : Cause) : (fail c : Action σ α).Silent :=
  silent_throw _

theorem silent_orFail (c : Cause) (o : Option α) : (orFail c o : Action σ α).Silent := by
  cases o with
  | none => exact silent_fail c
  | some a => exact silent_pure a

theorem silent_note (r : Record) : (note r : Action σ Unit).Silent :=
  fun _ => rfl

theorem silent_get : (get : Action σ (World σ)).Silent :=
  fun _ => rfl

theorem silent_issue : (issue : Action σ Nat).Silent :=
  fun _ => rfl

theorem Silent.bind {a : Action σ α} {f : α → Action σ β} (ha : a.Silent) (hf : ∀ x, (f x).Silent) :
    (a >>= f).Silent := by
  intro w
  have h := ha w
  rw [runOn_bind]
  rcases hr : a.runOn w with ⟨_ | x, w₁⟩
  all_goals rw [hr] at h
  · exact h
  · exact (hf x w₁).trans h

/-- Something silent after something silent whose answer does not matter. -/
theorem Silent.seq {a : Action σ α} {b : Action σ β} (ha : a.Silent) (hb : b.Silent) : (a >>= fun _ => b).Silent :=
  ha.bind fun _ => hb

theorem Silent.map {a : Action σ α} (ha : a.Silent) (f : α → β) : (f <$> a).Silent := by
  have h := ha.bind fun x => silent_pure (σ := σ) (f x)
  rwa [bind_pure_comp] at h

theorem Silent.rescue {a : Action σ α} {h : Failure → Action σ α} (ha : a.Silent) (hh : ∀ e, (h e).Silent) :
    (tryCatch a h).Silent := by
  intro w
  have hw := ha w
  rw [runOn_tryCatch]
  rcases hr : a.runOn w with ⟨e | x, w₁⟩
  all_goals rw [hr] at hw
  · exact (hh e w₁).trans hw
  · exact hw

theorem Silent.block {a : Action σ α} (b : Block) (ha : a.Silent) : (b.run a).Silent := by
  refine ha.rescue fun e => ?_
  cases e with
  | fault f => exact (silent_note _).seq (silent_throw _)
  | invalid vs => exact silent_throw _
  | accident x => exact silent_throw _

theorem silent_mapM {f : α → Action σ β} (hf : ∀ x, (f x).Silent) (xs : List α) : (xs.mapM f).Silent := by
  induction xs with
  | nil => exact silent_pure []
  | cons x rest ih =>
    rw [List.mapM_cons]
    exact (hf x).bind fun _ => ih.bind fun _ => silent_pure _

theorem silent_session (t : Transaction α) : (session t).Silent := by
  intro w
  rw [session, runOn_bind, runOn_get]
  dsimp only
  rcases t.run w.state with (_ | _ | _) | ⟨_, _⟩ <;> rfl

/-! ## Operations that count -/

/-- From every world the outcome is `r`, and the marks are counted. -/
def Ticks (a : Action σ α) (r : Except Failure α) (ms : List Mark) : Prop :=
  ∀ w, ∃ w', a.runOn w = (r, w') ∧ w'.tally = w.tally.tick ms

/-- From every world those marks are counted that belong to the outcome. -/
def Counts (a : Action σ α) (marks : Except Failure α → List Mark) : Prop :=
  ∀ w, (a.runOn w).2.tally = w.tally.tick (marks (a.runOn w).1)

theorem ticks_note (r : Record) : (note r : Action σ Unit).Ticks (.ok ()) [] :=
  fun _ => ⟨_, rfl, rfl⟩

theorem ticks_count (name key : String) : (count name key : Action σ Unit).Ticks (.ok ()) [(name, key)] :=
  fun _ => ⟨_, rfl, rfl⟩

theorem ticks_pure (x : α) : (pure x : Action σ α).Ticks (.ok x) [] :=
  fun w => ⟨w, rfl, rfl⟩

theorem ticks_throw (e : Failure) : (throw e : Action σ α).Ticks (.error e) [] :=
  fun w => ⟨w, rfl, rfl⟩

theorem Ticks.bind {a : Action σ α} {f : α → Action σ β} {x : α} {r : Except Failure β} {ms ms' : List Mark}
    (ha : a.Ticks (.ok x) ms) (hf : (f x).Ticks r ms') : (a >>= f).Ticks r (ms ++ ms') := by
  intro w
  obtain ⟨w₁, e₁, t₁⟩ := ha w
  obtain ⟨w₂, e₂, t₂⟩ := hf w₁
  refine ⟨w₂, ?_, ?_⟩
  · rw [runOn_bind, e₁]
    exact e₂
  · rw [t₂, t₁, Tally.tick_append]

theorem Ticks.counts {a : Action σ α} {r : Except Failure α} {ms : List Mark} {marks : Except Failure α → List Mark}
    (ha : a.Ticks r ms) (h : marks r = ms) : a.Counts marks := by
  intro w
  obtain ⟨w', e, t⟩ := ha w
  rw [e, t, h]

theorem Ticks.bind_counts {a : Action σ α} {f : α → Action σ β} {x : α} {ms : List Mark}
    {marks marks' : Except Failure β → List Mark} (ha : a.Ticks (.ok x) ms) (hf : (f x).Counts marks)
    (h : ∀ r, marks' r = ms ++ marks r) : (a >>= f).Counts marks' := by
  intro w
  obtain ⟨w₁, e₁, t₁⟩ := ha w
  rw [runOn_bind, e₁]
  dsimp only
  rw [hf w₁, t₁, h, Tally.tick_append]

/-- A silent part, and what follows on the answers that it can give. -/
theorem Silent.bind_counts {a : Action σ α} {f : α → Action σ β} {marks : Except Failure β → List Mark}
    (ha : a.Silent) (hf : ∀ w x, (a.runOn w).1 = .ok x → (f x).Counts marks)
    (he : ∀ w e, (a.runOn w).1 = .error e → marks (.error e) = []) : (a >>= f).Counts marks := by
  intro w
  have h := ha w
  have hx := hf w
  have hm := he w
  rw [runOn_bind]
  rcases hr : a.runOn w with ⟨e | x, w₁⟩
  all_goals rw [hr] at h hx hm
  · rw [h, hm e rfl]
    rfl
  · dsimp only
    rw [hx x rfl w₁, h]

theorem Counts.map {a : Action σ α} {f : α → β} {marks : Except Failure α → List Mark}
    {marks' : Except Failure β → List Mark} (ha : a.Counts marks)
    (h : ∀ r : Except Failure α, marks' (r.map f) = marks r) : (f <$> a).Counts marks' := by
  intro w
  rw [runOn_map]
  dsimp only
  rw [h, ha w]

end Action

end ParticipantDirectory
