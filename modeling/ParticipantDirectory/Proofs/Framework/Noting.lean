import ParticipantDirectory.Proofs.Framework.Endings

/-!
# What an operation notes

`Action.Notes P Q` says that from every world the operation only appends to the journal, that `P` holds of each record it
appends, whatever its outcome, that `Q` holds of its answer, and that a fault in which it ends has a text for its code.
The records of a reported block are those of its body and one for its fault (`Notes.block`), those of a session one if
the database cannot do what is asked (`notes_session`).
-/

namespace ParticipantDirectory

variable {σ α β : Type}

namespace World

variable {P : Record → Prop} {w w₁ w₂ : World σ}

/-- The journal has grown by records of which `P` holds. -/
def Appended (P : Record → Prop) (w w' : World σ) : Prop :=
  ∃ records, w'.journal = w.journal ++ records ∧ ∀ r ∈ records, P r

theorem Appended.none (h : w₁.journal = w.journal) : w.Appended P w₁ :=
  ⟨[], by rw [h, List.append_nil], List.forall_mem_nil _⟩

theorem Appended.trans (h : w.Appended P w₁) (h' : w₁.Appended P w₂) : w.Appended P w₂ := by
  obtain ⟨first, hj, hfirst⟩ := h
  obtain ⟨rest, hj', hrest⟩ := h'
  exact ⟨first ++ rest, by rw [hj', hj, List.append_assoc], List.forall_mem_append.2 ⟨hfirst, hrest⟩⟩

theorem Appended.mono {P' : Record → Prop} (h : w.Appended P w₁) (hP : ∀ r, P r → P' r) : w.Appended P' w₁ := by
  obtain ⟨records, hj, hr⟩ := h
  exact ⟨records, hj, fun r hm => hP r (hr r hm)⟩

end World

/-- The code of the fault is a text. -/
def Fault.Coded (f : Fault) : Prop :=
  ∃ code, f.cause.code = .str code

/-- If the failure is a fault, its code is a text. -/
def Failure.Coded : Failure → Prop
  | .fault f => f.Coded
  | .invalid _ | .accident _ => True

namespace Action

variable {P : Record → Prop} {Q : α → Prop} {R : β → Prop} {a : Action σ α}

/-- From every world the operation appends records to the journal of which `P` holds, and it ends with an answer of which
`Q` holds, with a fault whose code is a text, or with another failure. -/
def Notes (P : Record → Prop) (Q : α → Prop) (a : Action σ α) : Prop :=
  ∀ w, w.Appended P (a.runOn w).2 ∧ EndsWith Q Fault.Coded (a.runOn w).1

/-- What leaves the journal alone. -/
theorem notes_none (h : a.Ends Q Fault.Coded) (hj : ∀ w, (a.runOn w).2.journal = w.journal) : a.Notes P Q :=
  fun w => ⟨.none (hj w), h w⟩

theorem notes_pure {x : α} (h : Q x) : (pure x : Action σ α).Notes P Q :=
  notes_none (ends_pure h) fun _ => rfl

theorem notes_fail {c : Cause} {code : String} (h : c.code = .str code) : (fail c : Action σ α).Notes P Q :=
  notes_none (fun _ => ⟨code, h⟩) fun _ => rfl

theorem notes_invalid (vs : List Violation) : (throw (.invalid vs) : Action σ α).Notes P Q :=
  notes_none (ends_invalid vs) fun _ => rfl

theorem notes_accident (x : Accident) : (throw (.accident x) : Action σ α).Notes P Q :=
  notes_none (fun _ => trivial) fun _ => rfl

theorem notes_orFail {c : Cause} {code : String} (h : c.code = .str code) (o : Option α) :
    (orFail c o : Action σ α).Notes P (· ∈ o) := by
  cases o with
  | none => exact notes_fail h
  | some x => exact notes_pure rfl

theorem notes_count (name key : String) : (count name key : Action σ Unit).Notes P fun _ => True :=
  notes_none (ends_count name key) fun _ => rfl

theorem notes_issue : (issue : Action σ Nat).Notes P fun _ => True :=
  notes_none (fun _ => trivial) fun _ => rfl

theorem notes_get : (get : Action σ (World σ)).Notes P fun _ => True :=
  notes_none (fun _ => trivial) fun _ => rfl

theorem notes_note {r : Record} (h : P r) : (note r : Action σ Unit).Notes P fun _ => True :=
  fun _ => ⟨⟨[r], rfl, List.forall_mem_singleton.2 h⟩, trivial⟩

theorem Notes.bind {f : α → Action σ β} (ha : a.Notes P Q) (hf : ∀ x, Q x → (f x).Notes P R) : (a >>= f).Notes P R := by
  intro w
  have h := ha w
  rw [runOn_bind]
  rcases hr : a.runOn w with ⟨e | x, w₁⟩
  all_goals rw [hr] at h
  · refine ⟨h.1, ?_⟩
    cases e with
    | fault f => exact h.2
    | invalid vs => exact trivial
    | accident x => exact trivial
  · obtain ⟨hrest, hend⟩ := hf x h.2 w₁
    exact ⟨h.1.trans hrest, hend⟩

/-- Something after a part whose answer does not matter. -/
theorem Notes.seq {b : Action σ β} (ha : a.Notes P Q) (hb : b.Notes P R) : (a >>= fun _ => b).Notes P R :=
  ha.bind fun _ _ => hb

theorem Notes.mono {P' : Record → Prop} {Q' : α → Prop} (ha : a.Notes P Q) (hP : ∀ r, P r → P' r)
    (hQ : ∀ x, Q x → Q' x) : a.Notes P' Q' := by
  intro w
  obtain ⟨hw, he⟩ := ha w
  refine ⟨hw.mono hP, ?_⟩
  revert he
  match (a.runOn w).1 with
  | .ok x => exact hQ x
  | .error (.fault f) => exact id
  | .error (.invalid _) => exact id
  | .error (.accident _) => exact id

theorem Notes.map {f : α → β} (ha : a.Notes P Q) (hf : ∀ x, Q x → R (f x)) : (f <$> a).Notes P R := by
  have h := ha.bind fun x hx => notes_pure (σ := σ) (P := P) (hf x hx)
  rwa [bind_pure_comp] at h

theorem Notes.rescue {h : Failure → Action σ α} (ha : a.Notes P Q)
    (hf : ∀ f, Fault.Coded f → (h (.fault f)).Notes P Q) (hi : ∀ vs, (h (.invalid vs)).Notes P Q)
    (hx : ∀ x, (h (.accident x)).Notes P Q) : (tryCatch a h).Notes P Q := by
  intro w
  have hw := ha w
  rw [runOn_tryCatch]
  rcases hr : a.runOn w with ⟨e | x, w₁⟩
  all_goals rw [hr] at hw
  · have hhandler : (h e).Notes P Q := by
      cases e with
      | fault f => exact hf f hw.2
      | invalid vs => exact hi vs
      | accident x => exact hx x
    obtain ⟨hrest, hend⟩ := hhandler w₁
    exact ⟨hw.1.trans hrest, hend⟩
  · exact hw

/-- A reported block notes its fault. -/
theorem Notes.block {b : Block} (ha : a.Notes P Q) (hb : ∀ f, Fault.Coded f → P (b.record f)) : (b.run a).Notes P Q := by
  refine ha.rescue (fun f hf => (notes_note (hb f hf)).seq ?_) (fun vs => notes_invalid vs) fun x => notes_accident x
  exact notes_none (fun _ => hf) fun _ => rfl

theorem notes_mapM {f : α → Action σ β} (hf : ∀ x, (f x).Notes P fun _ => True) (xs : List α) :
    (xs.mapM f).Notes P fun _ => True := by
  induction xs with
  | nil => exact notes_pure trivial
  | cons x rest ih =>
    rw [List.mapM_cons]
    exact (hf x).bind fun _ _ => ih.bind fun _ _ => notes_pure trivial

/-- A session notes what the database cannot do. -/
theorem notes_session {t : Transaction α} (ht : t.Fails Failure.Coded)
    (hP : ∀ kind operation text, P (databaseRecord kind operation text)) : (session t).Notes P fun _ => True := by
  have hfault (kind message operation : String) (s : Statement) :
      (databaseFault kind message operation s : Action Database α).Notes P fun _ => True :=
    notes_get.bind fun w _ => (notes_note (hP kind operation (w.explain kind s))).seq (notes_fail rfl)
  intro w
  rw [session, runOn_bind, runOn_get]
  dsimp only
  cases hr : t.run w.state with
  | ok p => exact ⟨.none rfl, trivial⟩
  | error e =>
    cases e with
    | integrity s => exact hfault _ _ _ s w
    | unavailable s => exact hfault _ _ _ s w
    | failure f =>
      refine ⟨.none rfl, ?_⟩
      cases f with
      | fault f => exact ht _ _ hr
      | invalid vs => exact trivial
      | accident x => exact trivial

end Action

end ParticipantDirectory
