import ParticipantDirectory.Proofs.Identifier.Separable
import ParticipantDirectory.Proofs.Service.Calls

/-!
# Payloads for another participant

A card is stored for the participant that the id names only if the payload makes this participant's identifier. If it
does not, the call reports two texts: the key of the participant and what the payload gives, written in the same way
(`Directory.reportsMismatch_iff`). Nothing else that goes wrong is reported so, since storing a card fails exactly as its
checks do (`Directory.error_create_iff`) and the other checks fail over causes of their own.

Identifiers are compared by their parts and reported by their keys, so two that differ may be written alike. They are
exactly if the payload's scheme cannot be separated and is written with the value as the key of the participant
(`mismatch_reported`). A report that shows the same text twice is `mismatch_of_equal_texts`.
-/

namespace ParticipantDirectory

open Action Transaction

open Identifier (Separable)

/-- The failure reports that a payload is for another participant, with the texts for the two. -/
def Failure.Mismatch (url given : Json) (f : Failure) : Prop :=
  ∃ context, f = .fault ⟨.participantMismatch url given, context⟩

/-- The failure reports something else. -/
def Failure.Unrelated (f : Failure) : Prop :=
  ∀ url given, ¬f.Mismatch url given

/-- The answer is a report that a payload is for another participant, with the texts for the two. -/
def ReportsMismatch {α : Type} (answer : Except Failure α) (url given : Json) : Prop :=
  ∃ f, answer = .error f ∧ f.Mismatch url given

theorem Failure.unrelated_of {c : Cause} (h : ∀ url given, c ≠ .participantMismatch url given) :
    (Failure.of c).Unrelated := by
  rintro url given ⟨context, he⟩
  cases he
  exact h url given rfl

theorem Failure.unrelated_database (message operation : Json) :
    (Failure.of (.databaseFailure message operation)).Unrelated :=
  unrelated_of fun _ _ => Cause.noConfusion

theorem Failure.unrelated_accident (a : Accident) : (Failure.accident a).Unrelated := by
  rintro url given ⟨context, he⟩
  cases he

/-- A reported block adds a context and leaves the texts. -/
theorem Failure.mismatch_report (b : Block) {f : Failure} {url given : Json} :
    (b.report f).Mismatch url given ↔ f.Mismatch url given := by
  constructor
  · rintro ⟨context, h⟩
    cases f with
    | fault g =>
      obtain ⟨cause, own⟩ := g
      cases h
      exact ⟨own, rfl⟩
    | invalid | accident => cases h
  · rintro ⟨context, rfl⟩
    exact ⟨_, rfl⟩

namespace Directory

/-- The identifier that the payload makes, if the rule of the directory accepts what it writes. -/
def made (d : Directory) (payload : CardPayload) : Option Identifier :=
  d.addressing.create? payload.participant.scheme payload.participant.value

variable (d : Directory) {uri : Option String} {id : String} {payload : CardPayload} {credentials : Option Credentials}

/-! ## Checks -/

theorem unrelated_identified (rounds : Nat) (credentials : Option Credentials) (db : Database) :
    FailsWith Failure.Unrelated (Users.identified rounds db credentials) := by
  have hunauthorized (reason : String) : (Failure.of (.unauthorized reason "UNAUTHORIZED")).Unrelated :=
    Failure.unrelated_of fun _ _ => Cause.noConfusion
  cases credentials with
  | none => exact failsWith_error (hunauthorized _)
  | some c =>
    have hrow : (Users.namedRow c.userName).Fails Failure.Unrelated :=
      Users.fails_namedRow Failure.unrelated_accident (Failure.unrelated_of fun _ _ => Cause.noConfusion)
    refine (hrow.answer Failure.unrelated_database db).bind fun row => ?_
    split
    · exact failsWith_ok _
    · exact failsWith_error (hunauthorized _)

theorem unrelated_ownerOf (p : Identifier) (credentials : Option Credentials) (db : Database) :
    FailsWith Failure.Unrelated (d.ownerOf p credentials db) := by
  refine (unrelated_identified d.rounds credentials db).bind fun user => FailsWith.bind ?_ fun _ => failsWith_ok user
  have howner : (Groups.ownerCheck p user).Fails Failure.Unrelated :=
    Groups.fails_ownerCheck Failure.unrelated_accident (Failure.unrelated_of fun _ _ => Cause.noConfusion)
      (Failure.unrelated_of fun _ _ => Cause.noConfusion)
  exact howner.answer Failure.unrelated_database db

/-- If the payload is for the participant, nothing that then goes wrong is a mismatch. -/
theorem unrelated_storeChecks {p : Identifier} (hp : d.addressing.parse? id = some p)
    (h : d.made payload = some p) (db : Database) :
    FailsWith Failure.Unrelated (d.storeChecks id payload credentials db) := by
  have hnamed : d.named id = .ok p := by rw [named, hp]; rfl
  have hsame : d.sameParticipant p payload = .ok () := if_pos h
  rw [storeChecks, hnamed]
  show FailsWith _ (d.sameParticipant p payload >>= _)
  rw [hsame]
  have hgroup : FailsWith Failure.Unrelated (groupOf id p db) := failsWith_groupOf Failure.unrelated_accident
    Failure.unrelated_database (Failure.unrelated_of fun _ _ => Cause.noConfusion) db
  have henabled : FailsWith Failure.Unrelated d.enabled :=
    d.failsWith_enabled (Failure.unrelated_of fun _ _ => Cause.noConfusion)
  exact hgroup.bind fun group => (d.unrelated_ownerOf p credentials db).bind fun _ =>
    henabled.bind fun _ => failsWith_ok group

/-- If it is not, that is reported before anything else is looked at. -/
theorem storeChecks_mismatch {p : Identifier} (hp : d.addressing.parse? id = some p)
    (h : d.made payload ≠ some p) (db : Database) : d.storeChecks id payload credentials db =
      .error (Failure.of (.participantMismatch p.key ((d.made payload).getD payload.participant).key)) := by
  have hnamed : d.named id = .ok p := by rw [named, hp]; rfl
  rw [storeChecks, hnamed]
  show d.sameParticipant p payload >>= _ = _
  rw [show d.sameParticipant p payload = _ from if_neg h]
  rfl

/-- The checks of storing a card report a mismatch exactly if the id names a participant and the payload makes another
identifier, or none. -/
theorem storeChecks_reports_iff (credentials : Option Credentials) {url given : Json} (db : Database) :
    ReportsMismatch (d.storeChecks id payload credentials db) url given ↔
      ∃ p, d.addressing.parse? id = some p ∧ d.made payload ≠ some p ∧ url = .str p.key ∧
        given = .str ((d.made payload).getD payload.participant).key := by
  constructor
  · rintro ⟨f, hf, hmismatch⟩
    cases hp : d.addressing.parse? id with
    | none =>
      have hunnamed : d.storeChecks id payload credentials db = .error (Failure.of (.invalidIdentifier id)) := by
        rw [storeChecks, named, hp]
        rfl
      cases hunnamed.symm.trans hf
      exact absurd hmismatch (Failure.unrelated_of (fun _ _ => Cause.noConfusion) _ _)
    | some p =>
      by_cases hq : d.made payload = some p
      · exact absurd hmismatch (d.unrelated_storeChecks hp hq db f hf _ _)
      · cases (d.storeChecks_mismatch hp hq db).symm.trans hf
        obtain ⟨context, h⟩ := hmismatch
        cases h
        exact ⟨p, rfl, hq, rfl, rfl⟩
  · rintro ⟨p, hp, hq, rfl, rfl⟩
    exact ⟨_, d.storeChecks_mismatch hp hq db, {}, rfl⟩

/-! ## Calls -/

/-- Storing a card fails exactly as its checks do: once they are passed there is an outcome. -/
theorem error_create_iff {w : World Database} {e : Failure} :
    ((CardService.create (d.collaborators uri) id payload credentials).runOn w).1 = .error e ↔
      ∃ f, d.storeChecks id payload credentials w.state = .error f ∧
        (CardService.block (d.collaborators uri) .create id).report f = e := by
  obtain ⟨w', hrun, -⟩ := d.runOn_createCard uri id payload credentials w
  rw [Call.perform, runOn_map, effect] at hrun
  have hanswer := congrArg Prod.fst hrun
  cases hchecks : d.storeChecks id payload credentials w.state with
  | error f =>
    rw [hchecks] at hanswer
    rw [error_of_map hanswer]
    constructor
    · exact fun h => ⟨f, rfl, Except.error.inj h⟩
    · rintro ⟨_, ⟨⟩, rfl⟩
      rfl
  | ok group =>
    obtain ⟨⟨card, db⟩, hstored⟩ := Cards.stored_ok group (numbered w.issued payload.entities) w.state
    rw [hchecks] at hanswer
    dsimp only [Except.mapError, bind, Except.bind] at hanswer
    rw [hstored] at hanswer
    obtain ⟨outcome, houtcome, -⟩ := ok_of_map hanswer
    rw [houtcome]
    refine iff_of_false (fun h => by cases h) ?_
    rintro ⟨_, ⟨⟩, -⟩

/-- Storing a card reports a mismatch exactly if the id names a participant and the payload makes another identifier, or
none. The texts are the key of the participant and what the payload gives. -/
theorem reportsMismatch_iff {url given : Json} (w : World Database) :
    ReportsMismatch ((CardService.create (d.collaborators uri) id payload credentials).runOn w).1 url given ↔
      ∃ p, d.addressing.parse? id = some p ∧ d.made payload ≠ some p ∧ url = .str p.key ∧
        given = .str ((d.made payload).getD payload.participant).key := by
  rw [← d.storeChecks_reports_iff credentials w.state]
  constructor
  · rintro ⟨e, he, hmismatch⟩
    obtain ⟨f, hf, rfl⟩ := d.error_create_iff.1 he
    exact ⟨f, hf, (Failure.mismatch_report _).1 hmismatch⟩
  · rintro ⟨f, hf, hmismatch⟩
    exact ⟨_, d.error_create_iff.2 ⟨f, hf, rfl⟩, (Failure.mismatch_report _).2 hmismatch⟩

/-- From every world, a call to store a card reports a mismatch exactly if the id names a participant and the payload
does not make the identifier of this participant. The text for the id is the key of the participant, and that for the
payload is the key of the identifier that the payload makes, or of the one that it writes if it makes none. The two texts
are the same exactly if the scheme that the payload writes cannot be separated and is written with its value as the key
of the participant. -/
theorem mismatch_reported (uri : Option String) (id : String) (payload : CardPayload)
    (credentials : Option Credentials) (w : World Database) :
    let answer := ((CardService.create (d.collaborators uri) id payload credentials).runOn w).1
    let written := payload.participant
    (∀ url given, ReportsMismatch answer url given ↔
      ∃ p, d.addressing.parse? id = some p ∧ d.made payload ≠ some p ∧ url = .str p.key ∧
        given = .str ((d.made payload).getD written).key) ∧
    ((∃ url given, ReportsMismatch answer url given) ↔
      ∃ p, d.addressing.parse? id = some p ∧ d.made payload ≠ some p) ∧
    (∀ text, ReportsMismatch answer text text ↔
      ∃ p, d.addressing.parse? id = some p ∧ text = .str p.key ∧ written.key = p.key ∧ ¬Separable written.scheme) := by
  dsimp only
  refine ⟨fun url given => d.reportsMismatch_iff w, ⟨?_, ?_⟩, fun text => ?_⟩
  · rintro ⟨url, given, h⟩
    obtain ⟨p, hp, hne, -⟩ := (d.reportsMismatch_iff w).1 h
    exact ⟨p, hp, hne⟩
  · rintro ⟨p, hp, hne⟩
    exact ⟨_, _, (d.reportsMismatch_iff w).2 ⟨p, hp, hne, rfl, rfl⟩⟩
  · rw [d.reportsMismatch_iff w]
    constructor
    -- If the scheme could be separated, texts that agree would come from parts that agree.
    · rintro ⟨p, hp, hne, rfl, hgiven⟩
      have hjoin := (Addressing.key_eq_iff hp hne).1 (Json.str.inj hgiven).symm
      exact ⟨p, hp, rfl, hjoin, fun hs => hne (Addressing.create?_of_join hp hs hjoin)⟩
    · rintro ⟨p, hp, rfl, hjoin, hs⟩
      have hne : d.made payload ≠ some p := fun h => hs (Addressing.separable_of_create? hp h)
      exact ⟨p, hp, hne, rfl, congrArg Json.str ((Addressing.key_eq_iff hp hne).2 hjoin).symm⟩

/-- Under either rule the scheme of an accepted payload may have a separator, and then the two texts can be the same:
under the simple rule the payload makes another identifier, under the PEPPOL rule none. -/
theorem mismatch_of_equal_texts :
    let w : World Database := { state := .fresh }
    let simple : CardPayload := ⟨⟨"a::b", "c"⟩, []⟩
    let peppol : CardPayload := ⟨⟨"a-b-c::x", "y"⟩, []⟩
    (CardPayload.decode simple.encode = .accepted simple ∧ CardPayload.decode peppol.encode = .accepted peppol) ∧
    ReportsMismatch ((CardService.create (collaborators ⟨.simple, true, 1⟩ none) "a::b::c" simple none).runOn w).1
      (.str "a::b::c") (.str "a::b::c") ∧
    ReportsMismatch ((CardService.create (collaborators ⟨.peppol, true, 1⟩ none) "a-b-c::x::y" peppol none).runOn w).1
      (.str "a-b-c::x::y") (.str "a-b-c::x::y") := by
  refine ⟨⟨rfl, rfl⟩, ?_, ?_⟩
  · refine (reportsMismatch_iff ⟨.simple, true, 1⟩ _).2 ⟨⟨"a", "b::c"⟩, ?_, ?_, congrArg _ ?_, congrArg _ ?_⟩
    all_goals decide +kernel
  · refine (reportsMismatch_iff ⟨.peppol, true, 1⟩ _).2 ⟨⟨"a-b-c", "x::y"⟩, ?_, ?_, congrArg _ ?_, congrArg _ ?_⟩
    all_goals decide +kernel

end Directory

end ParticipantDirectory
