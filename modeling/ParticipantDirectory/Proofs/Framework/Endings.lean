import ParticipantDirectory.Proofs.Framework.Transaction

/-!
# How an operation ends

An operation ends with an answer, with a fault, or with another failure. `Action.Ends Q P` says that from every world
`Q` holds of its answer and `P` of its fault, whichever of them there is. What comes after a part of an operation has
the answer of that part to rely on (`Ends.bind`). A fault that leaves a reported block has the context of the block,
whatever happened inside (`Ends.block`).
-/

namespace ParticipantDirectory

variable {σ α β : Type}

/-- `Q` holds of the answer or `P` of the fault; nothing is said of another failure. -/
def EndsWith (Q : α → Prop) (P : Fault → Prop) : Except Failure α → Prop
  | .ok x => Q x
  | .error (.fault f) => P f
  | .error (.invalid _) | .error (.accident _) => True

/-- The context of a fault says which operation was called, for which id, and at which address. -/
structure Fault.Traced (operation id uri : String) (f : Fault) : Prop where
  operation : f.context.operation = .str operation
  serviceGroupId : f.context.serviceGroupId = .str id
  requestUri : f.context.requestUri = .str uri

namespace Action

/-- From every world the operation ends with an answer of which `Q` holds, with a fault of which `P` holds, or with
another failure. -/
def Ends (Q : α → Prop) (P : Fault → Prop) (a : Action σ α) : Prop :=
  ∀ w, EndsWith Q P (a.runOn w).1

variable {Q : α → Prop} {R : β → Prop} {P : Fault → Prop} {a : Action σ α}

/-- An operation ends somehow. -/
theorem ends_somehow (a : Action σ α) : a.Ends (fun _ => True) (fun _ => True) := by
  intro w
  match (a.runOn w).1 with
  | .ok _ => exact trivial
  | .error (.fault _) => exact trivial
  | .error (.invalid _) => exact trivial
  | .error (.accident _) => exact trivial

theorem ends_pure {x : α} (h : Q x) : (pure x : Action σ α).Ends Q P :=
  fun _ => h

theorem ends_invalid (vs : List Violation) : (throw (.invalid vs) : Action σ α).Ends Q P :=
  fun _ => trivial

theorem ends_note (r : Record) : (note r : Action σ Unit).Ends (fun _ => True) P :=
  fun _ => trivial

theorem ends_count (name key : String) : (count name key : Action σ Unit).Ends (fun _ => True) P :=
  fun _ => trivial

theorem Ends.bind {f : α → Action σ β} (ha : a.Ends Q P) (hf : ∀ x, Q x → (f x).Ends R P) : (a >>= f).Ends R P := by
  intro w
  have h := ha w
  rw [runOn_bind]
  rcases hr : a.runOn w with ⟨e | x, w'⟩
  all_goals rw [hr] at h
  · cases e with
    | fault f => exact h
    | invalid vs => exact trivial
    | accident x => exact trivial
  · exact hf x h w'

/-- Something after a part whose answer does not matter. -/
theorem Ends.seq {b : Action σ β} (ha : a.Ends Q P) (hb : b.Ends R P) : (a >>= fun _ => b).Ends R P :=
  ha.bind fun _ _ => hb

/-- A fault that leaves a reported block has the context of the block. -/
theorem Ends.block {b : Block} {uri : String} (hu : b.requestUri = some uri) (ha : a.Ends Q P) :
    (b.run a).Ends Q (Fault.Traced b.operation b.serviceGroupId uri) := by
  intro w
  have h := ha w
  rw [Block.run, runOn_tryCatch]
  rcases hr : a.runOn w with ⟨e | x, w'⟩
  all_goals rw [hr] at h
  · cases e with
    | fault f => exact ⟨rfl, rfl, congrArg Json.ofString? hu⟩
    | invalid vs => exact trivial
    | accident x => exact trivial
  · exact h

/-- What changes all or nothing ends as the change says. -/
theorem Changes.ends_as {f : σ → Except Failure (α × σ)} (ha : a.Changes f)
    (h : ∀ s, EndsWith (fun p => Q p.1) P (f s)) : a.Ends Q P := by
  intro w
  obtain ⟨w', e, -⟩ := ha w
  have hs := h w.state
  rw [e]
  rcases hf : f w.state with e | p
  all_goals rw [hf] at hs
  · cases e with
    | fault f => exact hs
    | invalid vs => exact trivial
    | accident x => exact trivial
  · exact hs

end Action

end ParticipantDirectory
