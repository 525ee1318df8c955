import ParticipantDirectory.Store.Database

/-!
# Keys

Rows meet the constraints of a table if they have all that they need and no two of them agree in a key
(`TableConstraints.Met`). A row is refused exactly if the constraints would no longer be met with it (`met_concat`), and
so are rows that are added one after the other (`takes_iff`). Whatever rows there are, new ones cannot be added if one of
them is refused beside these (`not_takes`), and if the only key is the id, they can be added whenever they have all that
they need and their ids are distinct and new (`takes_id`).
-/

namespace ParticipantDirectory

variable {ρ : Type} {keys : List String} {c : TableConstraints} {cell : ρ → String → Option Cell} {rows new : List ρ}
  {r row : ρ}

theorem conflicts_of_agree {k : String} (hk : k ∈ keys) (hr : r ∈ rows) (hs : (cell row k).isSome)
    (h : cell r k = cell row k) : conflicts keys cell rows row = true := by
  rw [conflicts, List.any_eq_true]
  refine ⟨k, hk, ?_⟩
  rw [Bool.and_eq_true, List.any_eq_true]
  exact ⟨hs, r, hr, beq_iff_eq.2 h⟩

/-- More rows, more conflicts. -/
theorem conflicts_append (h : conflicts keys cell rows row = true) (more : List ρ) :
    conflicts keys cell (rows ++ more) row = true := by
  rw [conflicts, List.any_eq_true] at h
  obtain ⟨k, hk, h⟩ := h
  rw [Bool.and_eq_true, List.any_eq_true] at h
  obtain ⟨hs, r, hr, h⟩ := h
  exact conflicts_of_agree hk (List.mem_append_left more hr) hs (eq_of_beq h)

/-- No rows, no conflicts. -/
theorem conflicts_nil : conflicts keys cell [] row = false := by
  rw [conflicts, List.any_eq_false]
  intro k _
  rw [List.any_nil, Bool.and_false]
  exact Bool.false_ne_true

/-- No two rows agree in a key; a row without a value there agrees with none. -/
def Distinct (keys : List String) (cell : ρ → String → Option Cell) (rows : List ρ) : Prop :=
  ∀ k ∈ keys, rows.Pairwise fun r s => cell r k = none ∨ cell r k ≠ cell s k

theorem conflicts_eq_false_iff : conflicts keys cell rows row = false ↔
    ∀ k ∈ keys, ∀ r ∈ rows, cell r k = none ∨ cell r k ≠ cell row k := by
  rw [conflicts, List.any_eq_false]
  refine forall_congr' fun k => forall_congr' fun _ => ?_
  rw [Bool.not_eq_true, Bool.and_eq_false_iff, List.any_eq_false]
  cases hk : cell row k with
  | none => simp [Decidable.em]
  | some v =>
    have himp : ∀ r, cell r k = none → cell r k ≠ some v := fun r h he => by simp [h] at he
    simp only [Option.isSome_some, Bool.true_eq_false, false_or, beq_iff_eq]
    exact ⟨fun h r hr => .inr (h r hr), fun h r hr => (h r hr).elim (himp r) id⟩

/-- A row can be added exactly if it agrees with no other row in a key. -/
theorem distinct_concat : Distinct keys cell (rows ++ [row]) ↔
    Distinct keys cell rows ∧ conflicts keys cell rows row = false := by
  simp only [Distinct, conflicts_eq_false_iff, List.pairwise_append, List.pairwise_singleton, List.mem_singleton,
    forall_eq, true_and]
  exact ⟨fun h => ⟨fun k hk => (h k hk).1, fun k hk => (h k hk).2⟩, fun h k hk => ⟨h.1 k hk, h.2 k hk⟩⟩

theorem no_conflicts_id (h : ∀ r ∈ rows, cell r "id" ≠ cell row "id") : conflicts ["id"] cell rows row = false := by
  rw [conflicts, List.any_cons, List.any_nil, Bool.or_false, Bool.and_eq_false_iff, List.any_eq_false]
  exact .inr fun r hr he => h r hr (eq_of_beq he)

namespace TableConstraints

theorem refuse_of_conflict (h : conflicts c.keys cell rows row = true) : c.refuse cell rows row = true := by
  rw [refuse, h, Bool.or_true]

theorem refuse_of_lacks (h : lacks c.required cell row = true) : c.refuse cell rows row = true := by
  rw [refuse, h, Bool.true_or]

theorem refuse_eq (h : lacks c.required cell row = false) : c.refuse cell rows row = conflicts c.keys cell rows row := by
  rw [refuse, h, Bool.false_or]

/-- The rows have all that they need, and no two of them agree in a key. -/
structure Met (c : TableConstraints) (cell : ρ → String → Option Cell) (rows : List ρ) : Prop where
  filled : ∀ row ∈ rows, lacks c.required cell row = false
  distinct : Distinct c.keys cell rows

theorem met_nil : c.Met cell [] :=
  ⟨List.forall_mem_nil _, fun _ _ => .nil⟩

theorem Met.sublist {rows' : List ρ} (h : c.Met cell rows) (hs : rows'.Sublist rows) : c.Met cell rows' :=
  ⟨fun row hrow => h.filled row (hs.subset hrow), fun k hk => (h.distinct k hk).sublist hs⟩

/-- A row is refused exactly if the constraints would not be met with it. -/
theorem met_concat : c.Met cell (rows ++ [row]) ↔ c.Met cell rows ∧ c.refuse cell rows row = false := by
  rw [refuse, Bool.or_eq_false_iff]
  refine ⟨fun ⟨hf, hd⟩ => ?_, fun ⟨⟨hf, hd⟩, hl, hc⟩ => ⟨?_, distinct_concat.2 ⟨hd, hc⟩⟩⟩
  · obtain ⟨hf, hl⟩ := List.forall_mem_append.1 hf
    obtain ⟨hd, hc⟩ := distinct_concat.1 hd
    exact ⟨⟨hf, hd⟩, hl row (List.mem_singleton_self row), hc⟩
  · exact List.forall_mem_append.2 ⟨hf, List.forall_mem_singleton.2 hl⟩

/-- Rows can be added one after the other exactly if the constraints are met with all of them. -/
theorem takes_iff (h : c.Met cell rows) : c.takes cell rows new = true ↔ c.Met cell (rows ++ new) := by
  induction new generalizing rows with
  | nil => simpa [takes] using h
  | cons first rest ih =>
    rw [takes, Bool.and_eq_true, Bool.not_eq_true', List.append_cons rows first rest]
    constructor
    · intro hfirst
      exact (ih (met_concat.2 ⟨h, hfirst.1⟩)).1 hfirst.2
    · intro hall
      have hfirst := hall.sublist (List.sublist_append_left (rows ++ [first]) rest)
      exact ⟨(met_concat.1 hfirst).2, (ih hfirst).2 hall⟩

/-- A row that is refused is refused beside more rows as well. -/
theorem refuse_append (h : c.refuse cell rows row = true) (more : List ρ) : c.refuse cell (rows ++ more) row = true := by
  rcases Bool.or_eq_true_iff.1 h with h | h
  · exact refuse_of_lacks h
  · exact refuse_of_conflict (conflicts_append h more)

theorem not_takes (hr : row ∈ new) (h : c.refuse cell rows row = true) : c.takes cell rows new = false := by
  induction new generalizing rows with
  | nil => cases hr
  | cons first rest ih =>
    rw [takes, Bool.and_eq_false_iff]
    rcases List.mem_cons.1 hr with rfl | hr
    · exact .inl (by rw [h]; rfl)
    · exact .inr (ih hr (refuse_append h _))

/-- Rows that have all that they need, with distinct ids that are new to a table, can be added to it. -/
theorem takes_id (hc : c.keys = ["id"]) (hv : ∀ row ∈ new, lacks c.required cell row = false)
    (h : ∀ row ∈ new, ∀ r ∈ rows, cell r "id" ≠ cell row "id")
    (hn : new.Pairwise fun r s => cell r "id" ≠ cell s "id") : c.takes cell rows new = true := by
  induction new generalizing rows with
  | nil => rfl
  | cons first rest ih =>
    obtain ⟨hf, hn⟩ := List.pairwise_cons.1 hn
    obtain ⟨hvf, hv⟩ := List.forall_mem_cons.1 hv
    rw [takes, refuse_eq hvf, hc, no_conflicts_id (h first (List.mem_cons_self ..)), ih hv ?_ hn]
    · rfl
    · intro row hrow r hr
      rcases List.mem_append.1 hr with hr | hr
      · exact h row (List.mem_cons_of_mem _ hrow) r hr
      · obtain rfl := List.mem_singleton.1 hr
        exact hf row hrow

end TableConstraints

end ParticipantDirectory
