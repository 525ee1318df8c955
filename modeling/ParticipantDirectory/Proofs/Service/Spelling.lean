import ParticipantDirectory.Proofs.Identifier.Normal
import ParticipantDirectory.Proofs.Service.Calls

/-!
# Spellings of a participant

Under the PEPPOL rule it does not matter in which case a participant is written. Two answers are alike (`Alike`) if
they are the same value or failures of the same kind; every rule by which an operation is put together keeps answers
alike. Of a raw id an operation uses the participant that it names and, beside that, only puts the id into the
wording and the context of faults, so calls that differ in spelling (`Call.Respelled`) end alike and leave the same
database (`case_insensitive`).
-/

namespace ParticipantDirectory

variable {α β : Type}

/-! ## Answers of the same kind -/

/-- Failures of the same kind: faults with the same names and the same code, the same violations, or the same
accident. -/
def Failure.SameKind : Failure → Failure → Prop
  | .fault f, .fault g => f.cause.lineage = g.cause.lineage ∧ f.cause.code = g.cause.code
  | .invalid vs, .invalid ws => vs = ws
  | .accident a, .accident b => a = b
  | _, _ => False

/-- The same value, or failures of the same kind. -/
inductive Alike : Except Failure α → Except Failure α → Prop where
  | ok (a : α) : Alike (.ok a) (.ok a)
  | error {e f : Failure} (h : e.SameKind f) : Alike (.error e) (.error f)

theorem Failure.SameKind.refl (e : Failure) : e.SameKind e := by
  cases e with
  | fault f => exact ⟨rfl, rfl⟩
  | invalid vs => exact rfl
  | accident a => exact rfl

/-- A block adds nothing to the kind of a failure. -/
theorem Failure.SameKind.report {e f : Failure} (h : e.SameKind f) (b b' : Block) :
    (b.report e).SameKind (b'.report f) := by
  cases e with
  | fault _ => cases f with
    | fault _ => exact h
    | invalid _ | accident _ => exact h.elim
  | invalid _ => cases f with
    | invalid _ => exact h
    | fault _ | accident _ => exact h.elim
  | accident _ => cases f with
    | accident _ => exact h
    | fault _ | invalid _ => exact h.elim

/-- Faults about the same kind of thing, where nothing else depends on what they say about it. -/
theorem alike_require {s t : String} (c : Json → Cause) (o : Option α)
    (hc : (Failure.of (c s)).SameKind (Failure.of (c t))) : Alike ((c s).require o) ((c t).require o) := by
  cases o with
  | none => exact .error hc
  | some a => exact .ok a

namespace Alike

variable {x y : Except Failure α}

theorem refl (x : Except Failure α) : Alike x x := by
  cases x with
  | ok a => exact .ok a
  | error e => exact .error (.refl e)

theorem bind (h : Alike x y) {f g : α → Except Failure β} (hf : ∀ a, Alike (f a) (g a)) :
    Alike (x >>= f) (y >>= g) := by
  cases h with
  | ok a => exact hf a
  | error h => exact .error h

theorem map (h : Alike x y) (f : α → β) : Alike (x.map f) (y.map f) := by
  cases h with
  | ok a => exact .ok (f a)
  | error h => exact .error h

theorem report (h : Alike x y) (b b' : Block) : Alike (x.mapError b.report) (y.mapError b'.report) := by
  cases h with
  | ok a => exact .ok a
  | error h => exact .error (h.report b b')

/-- Alike changes of a world leave the same state. -/
theorem settle {σ : Type} {x y : Except Failure (α × σ)} (h : Alike x y) (w : World σ) :
    (w.settle x).state = (w.settle y).state := by
  cases h with
  | ok p => rfl
  | error h => rfl

end Alike

/-! ## Calls that differ in spelling -/

/-- Two texts that have the same lower-case form. -/
def SameLower (s t : String) : Prop :=
  Text.toLower s = Text.toLower t

/-- Identifiers whose parts have the same lower-case forms. -/
structure Identifier.SameLower (p q : Identifier) : Prop where
  scheme : ParticipantDirectory.SameLower p.scheme q.scheme
  value : ParticipantDirectory.SameLower p.value q.value

/-- The same call with an id of the same lower-case form; the participant of a payload may be spelled otherwise,
too. -/
inductive Call.Respelled : Call → Call → Prop where
  | getGroup {id id' : String} (h : SameLower id id') : Respelled (.getGroup id) (.getGroup id')
  | createGroup {id id' : String} (h : SameLower id id') (credentials : Option Credentials)
      (extension : Option String) :
      Respelled (.createGroup id credentials extension) (.createGroup id' credentials extension)
  | deleteGroup {id id' : String} (h : SameLower id id') (credentials : Option Credentials) :
      Respelled (.deleteGroup id credentials) (.deleteGroup id' credentials)
  | getCard {id id' : String} (h : SameLower id id') : Respelled (.getCard id) (.getCard id')
  | createCard {id id' : String} (h : SameLower id id') {q q' : Identifier} (hq : q.SameLower q')
      (entities : List BusinessEntity) (credentials : Option Credentials) :
      Respelled (.createCard id ⟨q, entities⟩ credentials) (.createCard id' ⟨q', entities⟩ credentials)
  | deleteCard {id id' : String} (h : SameLower id id') (credentials : Option Credentials) :
      Respelled (.deleteCard id credentials) (.deleteCard id' credentials)

namespace Addressing

theorem parse?_of_sameLower {id id' : String} (h : SameLower id id') : peppol.parse? id = peppol.parse? id' := by
  rw [← parse?_toLower id, ← parse?_toLower id', h]

theorem create?_of_sameLower {q q' : Identifier} (h : q.SameLower q') :
    peppol.create? q.scheme q.value = peppol.create? q'.scheme q'.value :=
  create?_congr h.scheme h.value

end Addressing

namespace Directory

variable {d : Directory} {id id' : String}

theorem alike_named (hd : d.addressing = .peppol) (h : SameLower id id') : Alike (d.named id) (d.named id') := by
  rw [named, named, hd, Addressing.parse?_of_sameLower h]
  exact alike_require .invalidIdentifier _ ⟨rfl, rfl⟩

theorem alike_groupOf (id id' : String) (p : Identifier) (db : Database) :
    Alike (groupOf id p db) (groupOf id' p db) :=
  (Alike.refl _).bind fun _ => alike_require .unknownGroup _ ⟨rfl, rfl⟩

/-- Payloads for others are refused alike, whatever they name. -/
theorem sameKind_mismatch (p q q' : Json) :
    (Failure.of (.participantMismatch p q)).SameKind (Failure.of (.participantMismatch p q')) :=
  ⟨rfl, rfl⟩

/-- Whether a payload is for a participant does not depend on the spelling of its identifier. -/
theorem alike_sameParticipant (hd : d.addressing = .peppol) (p : Identifier) {payload payload' : CardPayload}
    (h : payload.participant.SameLower payload'.participant) :
    Alike (d.sameParticipant p payload) (d.sameParticipant p payload') := by
  simp only [sameParticipant, hd, Addressing.create?_of_sameLower h]
  split
  · exact .ok ()
  · exact .error (sameKind_mismatch _ _ _)

/-- Calls that differ in spelling make the same of the database. -/
theorem alike_effect (hd : d.addressing = .peppol) (uri uri' : Option String) (n : Nat) (db : Database)
    {call call' : Call} (h : call.Respelled call') : Alike (d.effect uri n db call) (d.effect uri' n db call') := by
  cases h with
  | @getGroup id id' h =>
    have hread : Alike (d.readGroup id db) (d.readGroup id' db) :=
      (alike_named hd h).bind fun p => alike_groupOf id id' p db
    exact (hread.report _ _).map _
  | @createGroup id id' h credentials extension =>
    have hregister :
        Alike (d.registerGroup id credentials extension db) (d.registerGroup id' credentials extension db) :=
      (alike_named hd h).bind fun _ => .refl _
    exact (hregister.report _ _).map _
  | @deleteGroup id id' h credentials =>
    have hremove : Alike (d.removeGroup id credentials db) (d.removeGroup id' credentials db) := by
      refine (alike_named hd h).bind fun p => (Alike.refl _).bind fun _ => (Alike.refl _).bind fun q => ?_
      split
      · exact .ok _
      · exact .error ⟨rfl, rfl⟩
    exact (hremove.report _ _).map _
  | @getCard id id' h =>
    have hread : Alike (d.readCard id db) (d.readCard id' db) := by
      refine (alike_named hd h).bind fun p => (alike_groupOf id id' p db).bind fun group => ?_
      exact (Alike.refl d.enabled).bind fun _ => (Alike.refl _).bind fun _ => alike_require .unknownCard _ ⟨rfl, rfl⟩
    exact ((hread.report _ _).bind fun _ => .refl _).map _
  | @createCard id id' h q q' hq entities credentials =>
    have hchecks : Alike (d.storeChecks id ⟨q, entities⟩ credentials db)
        (d.storeChecks id' ⟨q', entities⟩ credentials db) := by
      refine (alike_named hd h).bind fun p => (alike_sameParticipant hd p hq).bind fun _ => ?_
      exact (alike_groupOf id id' p db).bind fun _ => .refl _
    exact (hchecks.report _ _).bind fun _ => .refl _
  | @deleteCard id id' h credentials =>
    have hremove : Alike (d.removeCard id credentials db) (d.removeCard id' credentials db) := by
      refine (alike_named hd h).bind fun p => (Alike.refl _).bind fun _ => (Alike.refl d.enabled).bind fun _ => ?_
      refine (Alike.refl _).bind fun card => ?_
      exact (alike_require (s := id) (t := id') .unknownCard card ⟨rfl, rfl⟩).bind fun _ => .refl _
    exact (hremove.report _ _).map _

end Directory

/-- Under the PEPPOL rule a text names whom its lower-case form names. So from every world, calls that differ in
spelling only have the same answer or fail in the same kind, and leave the same database, and a payload is for a
participant whichever way its identifier is spelled. -/
theorem case_insensitive :
    (∀ raw : String, Addressing.peppol.parse? raw = Addressing.peppol.parse? (Text.toLower raw)) ∧
    (∀ (d : Directory) (uri uri' : Option String) (w : World Database) (call call' : Call),
      d.addressing = .peppol → call.Respelled call' →
        let r := (call.perform (d.collaborators uri)).runOn w
        let r' := (call'.perform (d.collaborators uri')).runOn w
        Alike r.1 r'.1 ∧ r.2.state = r'.2.state) ∧
    (∀ (d : Directory) (uri uri' : Option String) (w : World Database) (p : Identifier)
      (payload payload' : CardPayload),
      d.addressing = .peppol → payload.participant.SameLower payload'.participant →
        Alike ((CardService.requireSameParticipant (d.collaborators uri) p payload).runOn w).1
          ((CardService.requireSameParticipant (d.collaborators uri') p payload').runOn w).1) := by
  refine ⟨fun raw => (Addressing.parse?_toLower raw).symm, ?_, ?_⟩
  · intro d uri uri' w call call' hd h r r'
    obtain ⟨w₁, e₁, s₁, -⟩ := d.runOn_perform uri call w
    obtain ⟨w₂, e₂, s₂, -⟩ := d.runOn_perform uri' call' w
    have heffect := Directory.alike_effect hd uri uri' w.issued w.state h
    rw [show r = _ from e₁, show r' = _ from e₂]
    refine ⟨heffect.map Prod.fst, ?_⟩
    show w₁.state = w₂.state
    rw [s₁, s₂]
    exact heffect.settle w
  · intro d uri uri' w p payload payload' hd h
    obtain ⟨w₁, e₁, -⟩ := d.reads_requireSameParticipant uri p payload w
    obtain ⟨w₂, e₂, -⟩ := d.reads_requireSameParticipant uri' p payload' w
    rw [e₁, e₂]
    exact Directory.alike_sameParticipant hd p h

/-- The Kelvin sign for a small k: the group is read alike and the payload is for the participant alike. -/
theorem case_insensitive_of_kelvin :
    let d : Directory := ⟨.peppol, true, 1⟩
    let w : World Database := { state := Database.fresh }
    Alike (((Call.getGroup "A-B-\u212a::\u0178").perform (d.collaborators none)).runOn w).1
        (((Call.getGroup "a-b-k::ÿ").perform (d.collaborators none)).runOn w).1 ∧
      Alike ((CardService.requireSameParticipant (d.collaborators none) ⟨"a-b-k", "ÿ"⟩ ⟨⟨"A-B-K", "ÿ"⟩, []⟩).runOn w).1
        ((CardService.requireSameParticipant (d.collaborators none) ⟨"a-b-k", "ÿ"⟩
          ⟨⟨"a-b-\u212a", "\u0178"⟩, []⟩).runOn w).1 := by
  intro d w
  have hid : SameLower "A-B-\u212a::\u0178" "a-b-k::ÿ" := by
    show Text.toLower _ = Text.toLower _
    decide +kernel
  have hq : Identifier.SameLower ⟨"A-B-K", "ÿ"⟩ ⟨"a-b-\u212a", "\u0178"⟩ := by
    constructor
    · show Text.toLower _ = Text.toLower _
      decide +kernel
    · show Text.toLower _ = Text.toLower _
      decide +kernel
  have hd : d.addressing = .peppol := rfl
  have hcall := case_insensitive.2.1 d none none w _ _ hd (.getGroup hid)
  have hcheck := case_insensitive.2.2 d none none w ⟨"a-b-k", "ÿ"⟩ ⟨⟨"A-B-K", "ÿ"⟩, []⟩
    ⟨⟨"a-b-\u212a", "\u0178"⟩, []⟩ hd hq
  exact ⟨hcall.1, hcheck⟩

end ParticipantDirectory
