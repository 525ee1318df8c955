import ParticipantDirectory.Proofs.Store.Failures
import ParticipantDirectory.Service.Cards
import ParticipantDirectory.Service.Directory
import ParticipantDirectory.Service.Groups

/-!
# The checks of a directory

The checks that the operations of a directory over a database are made of, each as a function of the
database: that an id names a participant (`named`), that the participant has a service group (`groupOf`), that
the credentials are those of its owner (`ownerOf`), that cards are supported (`enabled`), and that a payload
is for the participant (`sameParticipant`). What such a check can fail over is said by a property of failures that
holds of all of it (`failsWith_groupOf`, `failsWith_enabled`).
-/

namespace ParticipantDirectory

open Action

namespace Directory

variable (d : Directory)

/-- The participant that a raw id names. -/
def named (id : String) : Except Failure Identifier :=
  (Cause.invalidIdentifier id).require (d.addressing.parse? id)

/-- The service group of a participant, which must exist; `id` is its id as it was given. -/
def groupOf (id : String) (p : Identifier) (db : Database) : Except Failure ServiceGroup := do
  (Cause.unknownGroup id).require (← (Groups.lookup p).answer db)

/-- The user who presents credentials and owns the group of a participant. -/
def ownerOf (p : Identifier) (credentials : Option Credentials) (db : Database) : Except Failure User := do
  let user ← Users.identified d.rounds db credentials
  (Groups.ownerCheck p user).answer db
  return user

/-- Cards are supported. -/
def enabled : Except Failure Unit :=
  if d.cardsEnabled then .ok () else .error (Failure.of .featureNotSupported)

/-- The payload is for the participant. -/
def sameParticipant (p : Identifier) (payload : CardPayload) : Except Failure Unit :=
  let q := d.addressing.create? payload.participant.scheme payload.participant.value
  if q = some p then .ok ()
  else .error (Failure.of (.participantMismatch p.key (q.getD payload.participant).key))

/-- The store of cards over the database. -/
def cardStore : CardStore Database where
  ofGroup g := Cards.find? g.id
  ofId := Cards.find?
  put := Cards.put
  delete := Cards.delete

variable (uri : Option String)

theorem reads_parse (id : String) : ((d.collaborators uri).parse id).Reads fun _ => d.named id :=
  reads_orFail _ _

theorem reads_requireGroup (id : String) (p : Identifier) :
    ((d.collaborators uri).requireGroup id p).Reads (groupOf id p) :=
  (Groups.reads_find? p).bind fun _ => reads_orFail _ _

theorem reads_requireOwner (p : Identifier) (credentials : Option Credentials) :
    ((d.collaborators uri).requireOwner p credentials).Reads (d.ownerOf p credentials) :=
  (Users.reads_authenticate _ _).bind fun user => (Groups.reads_verifyOwner p user).bind fun _ => reads_pure user

theorem reads_requireSameParticipant (p : Identifier) (payload : CardPayload) :
    (CardService.requireSameParticipant (d.collaborators uri) p payload).Reads
      fun _ => d.sameParticipant p payload := by
  by_cases h : d.addressing.create? payload.participant.scheme payload.participant.value = some p
  · refine Reads.congr ?_ fun _ => (if_pos h).symm
    rw [show CardService.requireSameParticipant (d.collaborators uri) p payload = pure () from if_neg (· h)]
    exact reads_pure ()
  · refine Reads.congr ?_ fun _ => (if_neg h).symm
    rw [show CardService.requireSameParticipant (d.collaborators uri) p payload = Action.fail _ from if_pos h]
    exact reads_fail _

/-- A directory that supports cards has its store of them. -/
theorem requireCards_eq : (d.collaborators uri).requireCards =
    if d.cardsEnabled then pure cardStore else Action.fail .featureNotSupported := by
  unfold Collaborators.requireCards
  cases h : d.cardsEnabled with
  | true =>
    rw [show (d.collaborators uri).cards = some cardStore by simp [collaborators, h, cardStore]]
    rfl
  | false =>
    rw [show (d.collaborators uri).cards = none by simp [collaborators, h]]
    rfl

theorem reads_requireCards {α : Type} {k : CardStore Database → Action Database α} {h : Database → Except Failure α}
    (hk : (k cardStore).Reads h) :
    ((d.collaborators uri).requireCards >>= k).Reads fun db => d.enabled >>= fun _ => h db := by
  rw [requireCards_eq, enabled]
  cases d.cardsEnabled with
  | true => exact hk
  | false => exact fun w => ⟨w, rfl, .refl w⟩

theorem changes_requireCards {α : Type} {k : CardStore Database → Action Database α}
    {h : Database → Except Failure (α × Database)} (hk : (k cardStore).Changes h) :
    ((d.collaborators uri).requireCards >>= k).Changes fun db => d.enabled >>= fun _ => h db := by
  rw [requireCards_eq, enabled]
  cases d.cardsEnabled with
  | true => exact hk
  | false => exact fun w => ⟨w, rfl, .refl w⟩

/-! ## What checks fail over -/

variable {P : Failure → Prop}

theorem failsWith_groupOf {id : String} {p : Identifier} (haccident : ∀ a, P (.accident a))
    (hdatabase : ∀ message operation, P (Failure.of (.databaseFailure message operation)))
    (hunknown : P (Failure.of (.unknownGroup id))) (db : Database) : FailsWith P (groupOf id p db) :=
  ((Groups.fails_lookup haccident p).answer hdatabase db).bind fun group => failsWith_require hunknown group

theorem failsWith_enabled (h : P (Failure.of .featureNotSupported)) : FailsWith P d.enabled := by
  rw [enabled]
  cases d.cardsEnabled with
  | true => exact failsWith_ok ()
  | false => exact failsWith_error h

end Directory

end ParticipantDirectory
