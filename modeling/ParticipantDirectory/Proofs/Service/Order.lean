import ParticipantDirectory.Proofs.Service.Ownership
import ParticipantDirectory.Proofs.Service.Reachable

/-!
# The order of the checks

Each operation makes its checks in an order of its own (`Call.checks`). In every state that is reached with accepted
cards only, the first check that fails decides: the call fails with the cause of that check, in the context of the
call, and if no check fails the call succeeds (`first_failing_check`).

A computation is *decided* by a list of checks (`Decides`) if it ends so. Checks that stand for themselves decide what
they are (`decides_require`, `decides_of`), and a sequence is decided by the checks of its parts one after the other
(`Decides.bind`); the rest of the module puts each operation together from its parts.
-/

namespace ParticipantDirectory

open Transaction

variable {α β : Type}

/-- The row of a participant's card. -/
def Database.cardNamed (db : Database) (p : Identifier) : Option CardRow :=
  db.cards.bind fun rows => rows.find? (·.id == p.key)

/-! ## Checks -/

/-- What an operation may check. -/
inductive Check where
  /-- The id names a participant. -/
  | names
  /-- The payload is for the participant. -/
  | participant
  /-- The participant has a service group. -/
  | group
  /-- There are credentials. -/
  | presented
  /-- The credentials name a user. -/
  | known
  /-- The password is the user's. -/
  | password
  /-- The user owns the service group. -/
  | owner
  /-- Cards are supported. -/
  | support
  /-- The participant has a card. -/
  | card
  /-- The participant has no service group. -/
  | vacant
  deriving DecidableEq, Repr

namespace Call

/-- The checks of a call in their order. -/
def checks : Call → List Check
  | getGroup _ => [.names, .group]
  | createGroup .. => [.names, .presented, .known, .password, .vacant]
  | deleteGroup .. => [.names, .presented, .known, .password, .group, .owner]
  | getCard _ => [.names, .group, .support, .card]
  | createCard .. => [.names, .participant, .group, .presented, .known, .password, .owner, .support]
  | deleteCard .. => [.names, .presented, .known, .password, .group, .owner, .support, .card]

/-- The identifier that the payload of a call gives. -/
def given? : Call → Option Identifier
  | createCard _ payload _ => some payload.participant
  | getGroup _ | createGroup .. | deleteGroup .. | getCard _ | deleteCard .. => none

/-- The name that a call presents. -/
def userName (call : Call) : String :=
  (call.credentials.map (·.userName)).getD ""

/-- The name of the operation that a call is of. -/
def operation : Call → String
  | getGroup _ => GroupOperation.get.name
  | createGroup .. => GroupOperation.create.name
  | deleteGroup .. => GroupOperation.delete.name
  | getCard _ => CardOperation.get.name
  | createCard .. => CardOperation.create.name
  | deleteCard .. => CardOperation.delete.name

/-- The context in which the faults of a call are reported. -/
def context (call : Call) (uri : Option String) : FaultContext :=
  { operation := .str call.operation, serviceGroupId := .str call.id, requestUri := .ofString? uri }

/-- The key of the participant that the id of a call names. -/
def key (call : Call) (rule : Addressing) : String :=
  ((rule.parse? call.id).map Identifier.key).getD call.id

end Call

namespace Check

/-- Whether a check of a call is passed. -/
def holds (d : Directory) (db : Database) (call : Call) : Check → Bool
  | names => (d.addressing.parse? call.id).isSome
  | participant => (d.addressing.parse? call.id).any fun p => call.given?.any fun q =>
      d.addressing.create? q.scheme q.value = some p
  | group => (d.addressing.parse? call.id).any fun p => (db.groupNamed p).isSome
  | presented => call.credentials.isSome
  | known => call.credentials.any fun c => (db.userNamed c.userName).isSome
  | password => call.credentials.any fun c => (db.userNamed c.userName).any fun u =>
      Password.verify d.rounds c.password u.passwordHash
  | owner => (d.addressing.parse? call.id).any fun p => (db.groupNamed p).any fun g =>
      call.credentials.any fun c => (db.userNamed c.userName).any fun u => g.owner = u.id
  | support => d.cardsEnabled
  | card => (d.addressing.parse? call.id).any fun p => (db.cardNamed p).isSome
  | vacant => (d.addressing.parse? call.id).any fun p => (db.groupNamed p).isNone

/-- Why a call fails that does not pass a check. A call that has checked the user first reports a missing group under
its key, the others under the id as it was given. -/
def cause (d : Directory) (call : Call) : Check → Cause
  | names => .invalidIdentifier call.id
  | participant =>
    let given := call.given?.getD default
    .participantMismatch (call.key d.addressing) ((d.addressing.create? given.scheme given.value).getD given).key
  | group =>
    match call with
    | .deleteGroup .. | .deleteCard .. => .unknownGroup (call.key d.addressing)
    | .getGroup id | .createGroup id _ _ | .getCard id | .createCard id _ _ => .unknownGroup id
  | presented => .unauthorized "No credentials provided" "UNAUTHORIZED"
  | known => .unknownUser call.userName
  | password => .unauthorized ("Illegal password provided for user '" ++ call.userName ++ "'") "UNAUTHORIZED"
  | owner => .notOwner call.userName (call.key d.addressing)
  | support => .featureNotSupported
  | card => .unknownCard call.id
  | vacant => .groupExists (call.key d.addressing)

/-- What a check reports is answered with the status of an error of the caller. -/
theorem status_cause (d : Directory) (call : Call) (c : Check) :
    400 ≤ (c.cause d call).status ∧ (c.cause d call).status < 500 := by
  cases c with
  | group => cases call <;> simp [cause, Cause.status]
  | _ => simp [cause, Cause.status]

end Check

/-- The call passes all its checks. -/
def Call.Passes (call : Call) (d : Directory) (db : Database) : Prop :=
  ∀ c ∈ call.checks, c.holds d db call = true

/-! ## What is decided by checks -/

section

variable (d : Directory) (db : Database) (call : Call)

/-- The computation fails by the first of the checks that is not passed; if all are, it ends with a good value. -/
def Decides (fail : Cause → Failure) (good : α → Prop) (x : Except Failure α) : List Check → Prop
  | [] => ∃ a, x = .ok a ∧ good a
  | c :: rest => if c.holds d db call then Decides fail good x rest else x = .error (fail (c.cause d call))

end

section

variable {d : Directory} {db : Database} {call : Call} {fail : Cause → Failure} {good : α → Prop}
  {x : Except Failure α} {c : Check} {checks : List Check}

theorem decides_cons_of_holds (h : c.holds d db call = true) :
    Decides d db call fail good x (c :: checks) ↔ Decides d db call fail good x checks := by
  rw [Decides, if_pos h]

theorem decides_cons_of_fails (h : c.holds d db call = false) :
    Decides d db call fail good x (c :: checks) ↔ x = .error (fail (c.cause d call)) := by
  rw [Decides, h, if_neg Bool.false_ne_true]

theorem decides_of (hok : c.holds d db call = true → ∃ a, x = .ok a ∧ good a)
    (herror : c.holds d db call = false → x = .error (fail (c.cause d call))) :
    Decides d db call fail good x [c] := by
  cases hc : c.holds d db call with
  | true => exact (decides_cons_of_holds hc).2 (hok hc)
  | false => exact (decides_cons_of_fails hc).2 (herror hc)

/-- A condition that is checked decides. -/
theorem decides_ite {P : Prop} [Decidable P] {a : α} (h : c.holds d db call = decide P) (ha : P → good a) :
    Decides d db call fail good (if P then .ok a else .error (fail (c.cause d call))) [c] := by
  refine decides_of (fun hc => ?_) fun hc => ?_
  · have hP : P := of_decide_eq_true (h.symm.trans hc)
    exact ⟨a, if_pos hP, ha hP⟩
  · exact if_neg (of_decide_eq_false (h.symm.trans hc))

/-- A value that must be there decides. -/
theorem decides_require {o : Option α} (h : c.holds d db call = o.isSome) :
    Decides d db call Failure.of (o = some ·) ((c.cause d call).require o) [c] := by
  cases o with
  | none => exact decides_of (fun hc => by rw [h] at hc; cases hc) fun _ => rfl
  | some a => exact decides_of (fun _ => ⟨a, rfl, rfl⟩) fun hc => by rw [h] at hc; cases hc

/-- A sequence is decided by the checks of its parts, one after the other. -/
theorem Decides.bind {good' : β → Prop} {f : α → Except Failure β} (hx : Decides d db call fail good x checks)
    (checks' : List Check) (hf : ∀ a, good a → Decides d db call fail good' (f a) checks') :
    Decides d db call fail good' (x >>= f) (checks ++ checks') := by
  induction checks with
  | nil =>
    obtain ⟨a, rfl, ha⟩ := hx
    exact hf a ha
  | cons c rest ih =>
    rw [List.cons_append]
    cases hc : c.holds d db call with
    | true =>
      rw [decides_cons_of_holds hc] at hx ⊢
      exact ih hx
    | false =>
      rw [decides_cons_of_fails hc] at hx ⊢
      rw [hx]
      rfl

/-- What follows the checks and makes a good value of each. -/
theorem Decides.bind_ok {good' : β → Prop} {f : α → Except Failure β} (hx : Decides d db call fail good x checks)
    (hf : ∀ a, good a → ∃ b, f a = .ok b ∧ good' b) : Decides d db call fail good' (x >>= f) checks := by
  have h := hx.bind [] hf
  rwa [List.append_nil] at h

theorem Decides.mono {good' : α → Prop} (hx : Decides d db call fail good x checks) (h : ∀ a, good a → good' a) :
    Decides d db call fail good' x checks := by
  have hpure := hx.bind_ok (f := Except.ok) fun a ha => ⟨a, rfl, h a ha⟩
  rwa [show x >>= Except.ok = x from bind_pure x] at hpure

theorem Decides.map {good' : β → Prop} {f : α → β} (hx : Decides d db call fail good x checks)
    (hf : ∀ a, good a → good' (f a)) : Decides d db call fail good' (x.map f) checks := by
  have h := hx.bind_ok (f := fun a => .ok (f a)) fun a ha => ⟨f a, rfl, hf a ha⟩
  cases x with
  | ok a => exact h
  | error e => exact h

/-- A block changes the failures of what runs inside it, and nothing else. -/
theorem Decides.mapError (hx : Decides d db call fail good x checks) (g : Failure → Failure) :
    Decides d db call (g ∘ fail) good (x.mapError g) checks := by
  induction checks with
  | nil =>
    obtain ⟨a, rfl, ha⟩ := hx
    exact ⟨a, rfl, ha⟩
  | cons c rest ih =>
    cases hc : c.holds d db call with
    | true =>
      rw [decides_cons_of_holds hc] at hx ⊢
      exact ih hx
    | false =>
      rw [decides_cons_of_fails hc] at hx ⊢
      rw [hx]
      rfl

/-- The check that decides is the first one that is not passed. -/
theorem Decides.first (hx : Decides d db call fail good x checks) :
    match checks.find? fun c => !c.holds d db call with
    | some c => x = .error (fail (c.cause d call))
    | none => ∃ a, x = .ok a ∧ good a := by
  induction checks with
  | nil => exact hx
  | cons c rest ih =>
    cases hc : c.holds d db call with
    | true =>
      rw [decides_cons_of_holds hc] at hx
      rw [List.find?_cons_of_neg (by simp [hc])]
      exact ih hx
    | false =>
      rw [decides_cons_of_fails hc] at hx
      rw [List.find?_cons_of_pos (by simp [hc])]
      exact hx

/-- A check is not passed and is why the computation fails, or all are and it ends with a good value. -/
theorem Decides.cases (hx : Decides d db call fail good x checks) :
    (∃ c ∈ checks, c.holds d db call = false ∧ x = .error (fail (c.cause d call))) ∨
      (∀ c ∈ checks, c.holds d db call = true) ∧ ∃ a, x = .ok a ∧ good a := by
  have hfirst := hx.first
  cases hc : checks.find? fun c => !c.holds d db call with
  | some c =>
    rw [hc] at hfirst
    have hfails := List.find?_some hc
    exact .inl ⟨c, List.mem_of_find?_eq_some hc, by simpa using hfails, hfirst⟩
  | none =>
    rw [hc] at hfirst
    exact .inr ⟨fun c hm => by simpa using List.find?_eq_none.1 hc c hm, hfirst⟩

end

/-! ## The parts of the operations -/

section

variable {d : Directory} {call : Call} {t : Tables} {n : Nat} {p : Identifier}

theorem decides_named : Decides d t.database call Failure.of (d.addressing.parse? call.id = some ·) (d.named call.id)
    [.names] :=
  decides_require (c := .names) rfl

theorem decides_enabled : Decides d t.database call Failure.of (fun _ => True) d.enabled [.support] :=
  decides_ite (c := .support) Bool.decide_eq_true.symm fun _ => trivial

theorem decides_identified (hn : t.Numbered n) : Decides d t.database call Failure.of
    (fun user => ∃ u, t.database.Identifies d.rounds call.credentials u ∧ user = u.toUser)
    (Users.identified d.rounds t.database call.credentials) [.presented, .known, .password] := by
  cases hc : call.credentials with
  | none =>
    have hp : Check.presented.holds d t.database call = false := by rw [Check.holds, hc]; rfl
    rw [decides_cons_of_fails hp]
    rfl
  | some c =>
    have hp : Check.presented.holds d t.database call = true := by rw [Check.holds, hc]; rfl
    have hname : call.userName = c.userName := by rw [Call.userName, hc]; rfl
    rw [decides_cons_of_holds hp, Users.identified_database hn.users, ← hname]
    have hk : Check.known.holds d t.database call = (t.user? call.userName).isSome := by
      rw [Check.holds, hc, hname]
      rfl
    refine (decides_require hk).bind [.password] fun row hrow => ?_
    have hv : Check.password.holds d t.database call =
        decide (Password.verify d.rounds c.password row.passwordHash = true) := by
      rw [Check.holds, hc, Option.any_some, Database.userNamed_database, ← hname, hrow, Option.any_some,
        Bool.decide_eq_true]
    refine decides_ite hv fun h => ⟨row, ⟨c, rfl, ?_, h⟩, rfl⟩
    rw [Database.userNamed_database, ← hname, hrow]

section

variable (hp : d.addressing.parse? call.id = some p)
include hp

theorem key_of_named : call.key d.addressing = p.key := by
  rw [Call.key, hp]
  rfl

theorem holds_group : Check.group.holds d t.database call = (t.group? p.key).isSome := by
  rw [Check.holds, hp]
  rfl

theorem holds_card : Check.card.holds d t.database call = (t.card? p.key).isSome := by
  rw [Check.holds, hp]
  rfl

theorem decides_sameParticipant {payload : CardPayload} (hq : call.given? = some payload.participant) :
    Decides d t.database call Failure.of (fun _ => True) (d.sameParticipant p payload) [.participant] := by
  have hc : Check.participant.holds d t.database call =
      decide (d.addressing.create? payload.participant.scheme payload.participant.value = some p) := by
    rw [Check.holds, hp, Option.any_some, hq, Option.any_some]
  have hcause : Check.participant.cause d call = .participantMismatch p.key
      ((d.addressing.create? payload.participant.scheme payload.participant.value).getD payload.participant).key := by
    rw [Check.cause, hq, key_of_named hp]
    rfl
  rw [Directory.sameParticipant, ← hcause]
  exact decides_ite hc fun _ => trivial

/-- The owner of a group that is there. -/
theorem decides_owner {g : GroupRow} (hg : t.group? p.key = some g) {u : UserRow}
    (hu : t.database.Identifies d.rounds call.credentials u) {P : Prop} (hP : P) :
    Decides d t.database call Failure.of (fun _ => P)
      (if g.owner = u.id then .ok () else .error (Failure.of (.notOwner u.toUser.name p.key))) [.owner] := by
  obtain ⟨c, hc, hf, -⟩ := hu
  have hname : u.toUser.name = call.userName := by
    rw [Call.userName, hc]
    exact (Tables.mem_of_user? hf).2
  have ho : Check.owner.holds d t.database call = decide (g.owner = u.id) := by
    rw [Check.holds, hp, Option.any_some, show t.database.groupNamed p = some g from hg, Option.any_some, hc,
      Option.any_some, hf, Option.any_some]
  have hcause : Check.owner.cause d call = .notOwner u.toUser.name p.key := by
    rw [Check.cause, key_of_named hp, hname]
  rw [← hcause]
  exact decides_ite ho fun _ => hP

end

variable (hl : t.Linked) (hn : t.Numbered n) (hp : d.addressing.parse? call.id = some p)
include hl hn hp

theorem decides_groupOf (hc : Check.group.cause d call = .unknownGroup call.id) :
    Decides d t.database call Failure.of (fun group => ∃ g, t.group? p.key = some g ∧ group = g.toGroup)
      (Directory.groupOf call.id p t.database) [.group] := by
  rw [Directory.groupOf, Groups.lookup_answer fun _ hg => hl.owner_storable hn hg]
  show Decides d t.database call Failure.of _ ((Cause.unknownGroup call.id).require _) _
  rw [Cause.require_map, ← hc]
  exact (decides_require (holds_group hp)).map fun g hg => ⟨g, hg, rfl⟩

omit hl hn in
/-- The card of the participant, if there is one. -/
theorem decides_findCard : Decides d t.database call Failure.of
    (fun card => ∃ c, t.card? p.key = some c ∧ card = c.toCard ((t.entitiesOf p.key).map EntityRow.toStored))
    ((Cards.findCard p.key).answer t.database >>= fun card => (Cause.unknownCard call.id).require card) [.card] := by
  rw [Cards.findCard_answer]
  show Decides d t.database call Failure.of _ ((Cause.unknownCard call.id).require _) _
  rw [Cause.require_map]
  exact (decides_require (c := .card) (holds_card hp)).map fun c hc => ⟨c, hc, rfl⟩

/-- The user who presents the credentials and owns the group, if there is one. -/
theorem decides_ownerOf (hc : Check.group.cause d call = .unknownGroup p.key) :
    Decides d t.database call Failure.of (fun _ => ∃ g, t.group? p.key = some g)
      (d.ownerOf p call.credentials t.database) [.presented, .known, .password, .group, .owner] := by
  refine (decides_identified hn).bind [.group, .owner] fun user hu => ?_
  obtain ⟨u, hu, rfl⟩ := hu
  rw [Groups.ownerCheck_database fun _ hg => hl.owner_storable hn hg, ← hc]
  have howned : ∀ g, t.group? p.key = some g → Decides d t.database call Failure.of
      (fun _ => ∃ g, t.group? p.key = some g)
      (if g.owner = u.id then .ok () else .error (Failure.of (.notOwner u.toUser.name p.key))) [.owner] :=
    fun g hg => decides_owner hp hg hu ⟨g, hg⟩
  exact ((decides_require (holds_group hp)).bind [.owner] howned).bind_ok fun _ h => ⟨_, rfl, h⟩

/-- The user who presents the credentials and owns a group that is there. -/
theorem decides_ownerOf_group {g : GroupRow} (hg : t.group? p.key = some g) :
    Decides d t.database call Failure.of (fun _ => True) (d.ownerOf p call.credentials t.database)
      [.presented, .known, .password, .owner] := by
  refine (decides_identified hn).bind [.owner] fun user hu => ?_
  obtain ⟨u, hu, rfl⟩ := hu
  rw [Groups.ownerCheck_database fun _ hg => hl.owner_storable hn hg, hg]
  exact (decides_owner hp hg hu trivial).bind_ok fun _ _ => ⟨_, rfl, trivial⟩

end

/-! ## The operations -/

section

variable {d : Directory} {t : Tables} {n : Nat} (hl : t.Linked) (hn : t.Numbered n)
include hl hn

theorem decides_readGroup (id : String) :
    Decides d t.database (.getGroup id) Failure.of (fun _ => True) (d.readGroup id t.database)
      [.names, .group] :=
  decides_named.bind [.group] fun _ hp => (decides_groupOf hl hn hp rfl).mono fun _ _ => trivial

/-- A participant is registered as what the id names, for the user who presents the credentials. -/
theorem decides_registerGroup (id : String) (credentials : Option Credentials) (extension : Option String) :
    Decides d t.database (.createGroup id credentials extension) Failure.of
      (fun q => ∃ p u, d.addressing.parse? id = some p ∧ t.database.Identifies d.rounds credentials u ∧
        t.group? p.key = none ∧
        q = (⟨p.key, p, u.id, extension⟩, (t.addGroup ⟨p.key, p.scheme, p.value, u.id, extension⟩).database))
      (d.registerGroup id credentials extension t.database) [.names, .presented, .known, .password, .vacant] := by
  refine decides_named.bind [.presented, .known, .password, .vacant] fun p hp => ?_
  refine (decides_identified hn).bind [.vacant] fun user hu => ?_
  obtain ⟨u, hu, rfl⟩ := hu
  rw [Groups.register_database (fun _ hg => hl.owner_storable hn hg) (hn.users u hu.mem)]
  have hv : Check.vacant.holds d t.database (.createGroup id credentials extension) = (t.group? p.key).isNone := by
    rw [Check.holds, hp]
    rfl
  refine decides_of (fun h => ?_) fun h => ?_
  · rw [hv, Option.isNone_iff_eq_none] at h
    rw [h]
    exact ⟨_, rfl, p, u, hp, hu, h, rfl⟩
  · rw [hv, Option.isNone_eq_false_iff] at h
    obtain ⟨g, hg⟩ := Option.isSome_iff_exists.1 h
    rw [hg, Check.cause, key_of_named hp]
    rfl

theorem decides_removeGroup (id : String) (credentials : Option Credentials) :
    Decides d t.database (.deleteGroup id credentials) Failure.of (fun _ => True)
      (d.removeGroup id credentials t.database) [.names, .presented, .known, .password, .group, .owner] := by
  refine decides_named.bind [.presented, .known, .password, .group, .owner] fun p hp => ?_
  refine (decides_ownerOf hl hn hp (congrArg _ (congrArg _ (key_of_named hp)))).bind_ok fun _ hg => ?_
  obtain ⟨g, hg⟩ := hg
  rw [Groups.deleteRow_database (fun _ hg => hl.owner_storable hn hg) hl, hg]
  exact ⟨_, rfl, trivial⟩

/-- If all cards can be read, then so can the one that is found. -/
theorem decides_readCard (hc : t.CardsReadable) (id : String) :
    Decides d t.database (.getCard id) Failure.of (fun card => ∃ payload, CardPayload.ofCard card = .ok payload)
      (d.readCard id t.database) [.names, .group, .support, .card] := by
  refine decides_named.bind [.group, .support, .card] fun p hp => ?_
  refine (decides_groupOf hl hn hp rfl).bind [.support, .card] fun group hgroup => ?_
  refine decides_enabled.bind [.card] fun _ _ => ?_
  obtain ⟨g, hg, rfl⟩ := hgroup
  rw [show g.toGroup.id = p.key from (Tables.mem_of_group? hg).2]
  refine (decides_findCard hp).mono fun card hcard => ?_
  obtain ⟨c, hfound, rfl⟩ := hcard
  have hread := hc p ⟨d.addressing, id, hp⟩ ⟨⟨c.scheme, c.value⟩, t.contents p.key⟩
    (by rw [Tables.payloadAt, hfound]; rfl)
  exact ⟨_, CardPayload.ofCard_of_readable hread rfl (List.map_map ..)⟩

theorem decides_storeChecks (id : String) (payload : CardPayload) (credentials : Option Credentials) :
    Decides d t.database (.createCard id payload credentials) Failure.of (fun _ => True)
      (d.storeChecks id payload credentials t.database)
      [.names, .participant, .group, .presented, .known, .password, .owner, .support] := by
  refine decides_named.bind [.participant, .group, .presented, .known, .password, .owner, .support]
    fun p hp => ?_
  refine (decides_sameParticipant hp rfl).bind [.group, .presented, .known, .password, .owner, .support]
    fun _ _ => ?_
  refine (decides_groupOf hl hn hp rfl).bind [.presented, .known, .password, .owner, .support]
    fun group hgroup => ?_
  obtain ⟨g, hg, rfl⟩ := hgroup
  refine (decides_ownerOf_group hl hn hp hg).bind [.support] fun _ _ => ?_
  exact decides_enabled.bind_ok fun _ _ => ⟨_, rfl, trivial⟩

theorem decides_removeCard (id : String) (credentials : Option Credentials) :
    Decides d t.database (.deleteCard id credentials) Failure.of (fun _ => True)
      (d.removeCard id credentials t.database)
      [.names, .presented, .known, .password, .group, .owner, .support, .card] := by
  refine decides_named.bind [.presented, .known, .password, .group, .owner, .support, .card] fun p hp => ?_
  refine (decides_ownerOf hl hn hp (congrArg _ (congrArg _ (key_of_named hp)))).bind [.support, .card]
    fun _ _ => ?_
  refine decides_enabled.bind [.card] fun _ _ => ?_
  rw [← bind_assoc]
  refine (decides_findCard hp).bind_ok fun card _ => ?_
  rw [outcome_of_run (Cards.run_deleteRows hl card.id)]
  exact ⟨_, rfl, trivial⟩

/-- Every call is decided by its checks; it succeeds if it passes all of them. -/
theorem decides_effect (hc : t.CardsReadable) (uri : Option String) (call : Call) :
    Decides d t.database call (fun c => .fault ⟨c, call.context uri⟩)
      (fun q => Served.succeeded ⟨call, .ok q.1⟩ = true) (d.effect uri n t.database call) call.checks := by
  cases call with
  | getGroup id =>
    have h := (decides_readGroup (d := d) hl hn id).mapError (GroupService.block (d.collaborators uri) .get id).report
    exact h.map fun _ _ => rfl
  | createGroup id credentials extension =>
    have h := (decides_registerGroup (d := d) hl hn id credentials extension).mapError
      (GroupService.block (d.collaborators uri) .create id).report
    exact h.map fun _ _ => rfl
  | deleteGroup id credentials =>
    have h := (decides_removeGroup (d := d) hl hn id credentials).mapError
      (GroupService.block (d.collaborators uri) .delete id).report
    exact h.map fun _ _ => rfl
  | getCard id =>
    have h := (decides_readCard (d := d) hl hn hc id).mapError (CardService.block (d.collaborators uri) .get id).report
    have hread : ∀ card, (∃ payload, CardPayload.ofCard card = .ok payload) →
        ∃ payload, (CardPayload.ofCard card).mapError Failure.invalid = .ok payload ∧ True := by
      rintro card ⟨payload, hpayload⟩
      rw [hpayload]
      exact ⟨payload, rfl, trivial⟩
    exact (h.bind_ok hread).map fun _ _ => rfl
  | createCard id payload credentials =>
    have h := (decides_storeChecks (d := d) hl hn id payload credentials).mapError
      (CardService.block (d.collaborators uri) .create id).report
    refine h.bind_ok fun group _ => ?_
    obtain ⟨card, hcard⟩ := Cards.stored_numbered hl hn group payload.entities
    rw [hcard]
    exact ⟨_, rfl, rfl⟩
  | deleteCard id credentials =>
    have h := (decides_removeCard (d := d) hl hn id credentials).mapError
      (CardService.block (d.collaborators uri) .delete id).report
    exact h.map fun _ _ => rfl

end

/-- In every state that a run of deeds reaches from the empty schema, where all cards that were to be stored were
accepted documents, the first check that a call does not pass is why it fails; a call that passes all its checks
succeeds. -/
theorem first_failing_check (deeds : List Deed) (ha : ∀ deed ∈ deeds, deed.Accepted) (w₀ : World Database)
    (d : Directory) (uri : Option String) (call : Call) :
    let w := ({ w₀ with state := Database.fresh } : World Database).after deeds
    let answer := ((call.perform (d.collaborators uri)).runOn w).1
    match call.checks.find? fun c => !c.holds d w.state call with
    | some c => answer = .error (.fault ⟨c.cause d call, call.context uri⟩)
    | none => Served.succeeded ⟨call, answer⟩ = true := by
  intro w answer
  obtain ⟨t, hs⟩ := sound_after ha w₀
  obtain ⟨w', e, -⟩ := d.runOn_perform uri call w
  have hanswer : answer = (d.effect uri w.issued w.state call).map Prod.fst := congrArg Prod.fst e
  have hfirst := (decides_effect (d := d) hs.linked hs.numbered hs.cards uri call).first
  rw [hanswer, show w.state = t.database from hs.state]
  cases hc : call.checks.find? fun c => !c.holds d t.database call with
  | some c =>
    rw [hc] at hfirst
    rw [hfirst]
    rfl
  | none =>
    rw [hc] at hfirst
    obtain ⟨q, hq, hgood⟩ := hfirst
    rw [hq]
    exact hgood

/-- Without credentials a call to delete a card is unauthorized, although there is neither a group nor a card and the
directory supports none. -/
theorem first_failing_check_without_credentials :
    let d : Directory := ⟨.simple, false, 1⟩
    let w := ({ state := Database.fresh } : World Database).after [.createUser 1 "anna" "secret"]
    let call := Call.deleteCard "a::b" none
    let answer := ((call.perform (d.collaborators none)).runOn w).1
    answer = .error (.fault ⟨.unauthorized "No credentials provided" "UNAUTHORIZED", call.context none⟩) := by
  intro d w call answer
  have ha : ∀ deed ∈ [Deed.createUser 1 "anna" "secret"], deed.Accepted := by
    intro deed hd
    rw [List.mem_singleton.1 hd]
    exact trivial
  have hnames : Check.names.holds d w.state call = true := by decide +kernel
  have hfind : call.checks.find? (fun c => !c.holds d w.state call) = some .presented := by
    rw [show call.checks = .names :: .presented :: _ from rfl, List.find?_cons_of_neg (by simp [hnames])]
    rfl
  have h : match call.checks.find? fun c => !c.holds d w.state call with
      | some c => answer = .error (.fault ⟨c.cause d call, call.context none⟩)
      | none => Served.succeeded ⟨call, answer⟩ = true :=
    first_failing_check _ ha { state := Database.fresh } d none call
  rw [hfind] at h
  exact h

end ParticipantDirectory
