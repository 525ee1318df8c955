import ParticipantDirectory.Proofs.Store.Refusals

/-!
# What transactions fail over

A transaction on users or on service groups fails on the side of the database or over what it is asked for. Reading a
user or a group can fail over the id of the user besides: one that is kept as a number cannot be read back, which is an
accident.
For each transaction that fails otherwise than on the side of the database there is one lemma, in which a property of
failures has to hold of what the transaction can fail over.
-/

namespace ParticipantDirectory

open Transaction

variable {P : Failure → Prop}

theorem fails_readId (haccident : ∀ a, P (.accident a)) (id : UserId) : (readId id).Fails P := by
  rw [readId]
  cases id.readFault? with
  | none => exact (mechanical_pure _).fails
  | some a => exact fails_throw (haccident a)

/-- Looking up a user fails on the side of the database, or over a name without bytes or an id that cannot be read. -/
theorem Users.fails_findRow (haccident : ∀ a, P (.accident a)) (name : Text.Loose) : (findRow name).Fails P := by
  cases name with
  | broken b => exact (mechanical_rows _ _).fails.bind fun _ => fails_throw (haccident _)
  | whole name =>
    refine (mechanical_rows _ _).fails.bind fun rows => ?_
    cases rows.find? (·.loginName == name) with
    | none => exact (mechanical_pure _).fails
    | some row => exact (fails_readId haccident row.id).bind fun _ => (mechanical_pure _).fails

theorem Users.fails_namedRow {name : String} (haccident : ∀ a, P (.accident a))
    (hunknown : P (Failure.of (.unknownUser name))) : (namedRow name).Fails P := by
  refine (fails_findRow haccident name).bind fun found => ?_
  cases found with
  | none => exact fails_throw hunknown
  | some row => exact (mechanical_pure row).fails

theorem Cards.mechanical_findCard (id : String) : (findCard id).Mechanical :=
  (mechanical_findRows id).bind fun _ => mechanical_pure _

theorem Cards.mechanical_deleteRows (id : String) : (deleteRows id).Mechanical := by
  refine (mechanical_findRows id).bind fun found => ?_
  cases found with
  | none => exact mechanical_pure _
  | some rows =>
    refine (mechanical_modify _).bind fun _ => ?_
    dsimp only
    split
    · exact (mechanical_modify _).bind fun _ => mechanical_pure _
    · exact mechanical_pure _

namespace Groups

theorem mechanical_insertRow (row : GroupRow) : (insertRow row).Mechanical :=
  (mechanical_rows _ _).bind fun _ => mechanical_get.bind fun _ =>
    (mechanical_refuseIf _ _).bind fun _ => mechanical_modify _

variable (haccident : ∀ a, P (.accident a))
include haccident

/-- Looking up a group fails on the side of the database, or over the owner of the group. -/
theorem fails_findRow (id : String) : (findRow id).Fails P := by
  refine (mechanical_rows _ _).fails.bind fun rows => ?_
  cases rows.find? (·.id == id) with
  | none => exact (mechanical_pure _).fails
  | some row =>
    exact (fails_readId haccident row.owner).bind fun _ =>
      ((Cards.mechanical_findRows id).bind fun _ => mechanical_pure _).fails

theorem fails_lookup (p : Identifier) : (lookup p).Fails P :=
  (fails_findRow haccident _).bind fun _ => (mechanical_pure _).fails

theorem fails_ownerCheck {p : Identifier} {user : User} (hunknown : P (Failure.of (.unknownGroup p.key)))
    (hother : P (Failure.of (.notOwner user.name p.key))) : (ownerCheck p user).Fails P := by
  refine (fails_findRow haccident p.key).bind fun found => ?_
  cases found with
  | none => exact fails_throw hunknown
  | some row =>
    dsimp only
    split
    · exact fails_throw hother
    · exact (mechanical_pure _).fails

theorem fails_ownerId (owner : UserId) : (ownerId owner).Fails P := by
  cases owner with
  | issued n => exact (mechanical_pure _).fails
  | external text =>
    unfold ownerId
    dsimp only
    cases Text.Uuid.canonical text with
    | ok t => exact (mechanical_pure _).fails
    | error reason => exact fails_throw (haccident _)

theorem fails_register {p : Identifier} (hexists : P (Failure.of (.groupExists p.key))) (owner : User)
    (extension : Option String) : (register p owner extension).Fails P := by
  have henter : (do
      let row : GroupRow := ⟨p.key, p.scheme, p.value, ← ownerId owner.id, extension⟩
      insertRow row
      return row : Transaction GroupRow).Fails P :=
    (fails_ownerId haccident owner.id).bind fun _ => ((mechanical_insertRow _).bind fun _ => mechanical_pure _).fails
  refine (fails_findRow haccident p.key).bind fun found => ?_
  cases found with
  | none => exact henter
  | some row => exact (fails_throw hexists).bind fun _ => henter

theorem fails_deleteRow (id : String) : (deleteRow id).Fails P := by
  refine (fails_findRow haccident id).bind fun found => ?_
  cases found with
  | none => exact (mechanical_pure _).fails
  | some row =>
    exact ((Cards.mechanical_deleteRows _).bind fun _ => (mechanical_modify _).bind fun _ => mechanical_pure _).fails

end Groups

end ParticipantDirectory
