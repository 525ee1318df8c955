import ParticipantDirectory.Proofs.Service.Deeds
import ParticipantDirectory.Proofs.Store.Writes

/-!
# Steps on full tables

A deed on a database with its four tables that ends with an answer is a step from tables to tables: it adds a user,
it asks for something, or it makes one of four writes, each under the checks that allow it (`Directory.Does`,
`Deed.Step`). That is all a deed can do (`Deed.step_of_effect`, `Deed.run_database`); what is preserved by every
step is proved from it by cases.
-/

namespace ParticipantDirectory

open Transaction

variable {t t' : Tables} {n : Nat}

namespace Directory

/-- What a call that ends with an answer makes of the tables, where new entities are numbered from `n` on. -/
inductive Does (d : Directory) (n : Nat) (t : Tables) : Call → Answer → Tables → Prop
  | asks {call : Call} {a : Answer} (h : call.Asks) : Does d n t call a t
  | createGroup {id : String} {credentials : Option Credentials} {extension : Option String} {p : Identifier}
    {u : UserRow} (hp : d.addressing.parse? id = some p) (hu : t.database.Identifies d.rounds credentials u)
    (hg : t.group? p.key = none) :
    Does d n t (.createGroup id credentials extension) (.group ⟨p.key, p, u.id, extension⟩)
      (t.addGroup ⟨p.key, p.scheme, p.value, u.id, extension⟩)
  | deleteGroup {id : String} {credentials : Option Credentials} {p : Identifier} {u : UserRow} {g : GroupRow}
    (hp : d.addressing.parse? id = some p) (hu : t.database.Identifies d.rounds credentials u)
    (hg : t.group? p.key = some g) (ho : g.owner = u.id) :
    Does d n t (.deleteGroup id credentials) (.outcome .success) (t.dropGroup p.key)
  | createCard {id : String} {payload : CardPayload} {credentials : Option Credentials} {p : Identifier} {u : UserRow}
    {g : GroupRow} (hp : d.addressing.parse? id = some p)
    (hq : d.addressing.create? payload.participant.scheme payload.participant.value = some p)
    (hu : t.database.Identifies d.rounds credentials u) (hg : t.group? p.key = some g) (ho : g.owner = u.id) :
    Does d n t (.createCard id payload credentials) (.outcome .success)
      (t.putCard g.toGroup (numbered n payload.entities))
  | deleteCard {id : String} {credentials : Option Credentials} {p : Identifier} {u : UserRow} {g : GroupRow}
    (hp : d.addressing.parse? id = some p) (hu : t.database.Identifies d.rounds credentials u)
    (hg : t.group? p.key = some g) (ho : g.owner = u.id) :
    Does d n t (.deleteCard id credentials) (.outcome .success) (t.dropCard p.key)

variable {d : Directory}

/-! ## What the checks of a call have found -/

theorem named_ok {id : String} {p : Identifier} (h : d.named id = .ok p) : d.addressing.parse? id = some p :=
  Cause.require_ok h

theorem sameParticipant_ok {p : Identifier} {payload : CardPayload} (h : d.sameParticipant p payload = .ok ()) :
    d.addressing.create? payload.participant.scheme payload.participant.value = some p := by
  rw [sameParticipant] at h
  split at h
  · assumption
  · cases h

section owned

variable (ho : ∀ g ∈ t.groups, g.owner.Storable)
include ho

theorem groupOf_ok {id : String} {p : Identifier} {group : ServiceGroup}
    (h : groupOf id p t.database = .ok group) : ∃ g, t.group? p.key = some g ∧ group = g.toGroup := by
  rw [groupOf, Groups.lookup_answer ho] at h
  obtain ⟨g, hg, he⟩ := Option.map_eq_some_iff.1 (Cause.require_ok h)
  exact ⟨g, hg, he.symm⟩

theorem ownerOf_ok {p : Identifier} {credentials : Option Credentials} {user : User}
    (h : d.ownerOf p credentials t.database = .ok user) :
    ∃ u g, t.database.Identifies d.rounds credentials u ∧ t.group? p.key = some g ∧ g.owner = u.id := by
  obtain ⟨user', hu, h⟩ := ok_of_bind h
  obtain ⟨⟨⟩, hc, -⟩ := ok_of_bind h
  obtain ⟨u, hi, rfl⟩ := Users.identified_ok hu
  obtain ⟨g, hg, ho⟩ := Groups.ownerCheck_ok ho hc
  exact ⟨u, g, hi, hg, ho⟩

end owned

/-! ## What a call does -/

variable (hl : t.Linked) (hn : t.Numbered n)
include hl hn

/-- The group of a participant is looked up. -/
theorem readGroup_database {id : String} {p : Identifier} (hp : d.addressing.parse? id = some p) :
    d.readGroup id t.database = (Cause.unknownGroup id).require ((t.group? p.key).map GroupRow.toGroup) := by
  rw [readGroup, named, hp]
  show groupOf id p t.database = _
  rw [groupOf, Groups.lookup_answer fun g hg => hl.owner_storable hn hg]
  rfl

theorem registerGroup_does {id : String} {credentials : Option Credentials} {extension : Option String}
    {g : ServiceGroup} {db : Database} (h : d.registerGroup id credentials extension t.database = .ok (g, db)) :
    ∃ t', db = t'.database ∧ d.Does n t (.createGroup id credentials extension) (.group g) t' := by
  obtain ⟨p, hp, h⟩ := ok_of_bind h
  obtain ⟨user, hu, h⟩ := ok_of_bind h
  obtain ⟨⟨row, db'⟩, hr, he⟩ := ok_of_map h
  cases he
  obtain ⟨u, hi, rfl⟩ := Users.identified_ok hu
  obtain ⟨hg, rfl, rfl⟩ := Groups.register_ok (fun g hg => hl.owner_storable hn hg) (hn.users u hi.mem) hr
  exact ⟨_, rfl, .createGroup (named_ok hp) hi hg⟩

theorem removeGroup_does {id : String} {credentials : Option Credentials} {db : Database}
    (h : d.removeGroup id credentials t.database = .ok ((), db)) :
    ∃ t', db = t'.database ∧ d.Does n t (.deleteGroup id credentials) (.outcome .success) t' := by
  have ho := fun g (hg : g ∈ t.groups) => hl.owner_storable hn hg
  obtain ⟨p, hp, h⟩ := ok_of_bind h
  obtain ⟨user, hu, h⟩ := ok_of_bind h
  obtain ⟨⟨deleted, db'⟩, hr, he⟩ := ok_of_bind h
  obtain ⟨u, g, hi, hg, hgo⟩ := ownerOf_ok ho hu
  cases deleted with
  | false => cases he
  | true =>
    cases he
    exact ⟨_, Groups.deleteRow_ok ho hl hr, .deleteGroup (named_ok hp) hi hg hgo⟩

theorem removeCard_does {id : String} {credentials : Option Credentials} {db : Database}
    (h : d.removeCard id credentials t.database = .ok ((), db)) :
    ∃ t', db = t'.database ∧ d.Does n t (.deleteCard id credentials) (.outcome .success) t' := by
  obtain ⟨p, hp, h⟩ := ok_of_bind h
  obtain ⟨user, hu, h⟩ := ok_of_bind h
  obtain ⟨⟨⟩, -, h⟩ := ok_of_bind h
  obtain ⟨found, hf, h⟩ := ok_of_bind h
  obtain ⟨card, hc, h⟩ := ok_of_bind h
  obtain ⟨⟨deleted, db'⟩, hr, he⟩ := ok_of_map h
  cases he
  obtain ⟨u, g, hi, hg, hgo⟩ := ownerOf_ok (fun g hg => hl.owner_storable hn hg) hu
  have hid : card.id = p.key := by
    rw [Cards.findCard_answer] at hf
    cases hf
    obtain ⟨c, hm, rfl⟩ := Option.map_eq_some_iff.1 (Cause.require_ok hc)
    exact (Tables.mem_of_card? hm).2
  rw [hid, outcome_of_run (Cards.run_deleteRows hl p.key)] at hr
  cases hr
  exact ⟨_, rfl, .deleteCard (named_ok hp) hi hg hgo⟩

theorem storeCard_does {id : String} {payload : CardPayload} {credentials : Option Credentials} {group : ServiceGroup}
    {card : Option BusinessCard} {db : Database} (h : d.storeChecks id payload credentials t.database = .ok group)
    (hs : Cards.stored group (numbered n payload.entities) t.database = .ok (card, db)) :
    ∃ t', db = t'.database ∧ d.Does n t (.createCard id payload credentials) (.outcome (stored card)) t' := by
  have ho := fun g (hg : g ∈ t.groups) => hl.owner_storable hn hg
  obtain ⟨p, hp, h⟩ := ok_of_bind h
  obtain ⟨⟨⟩, hq, h⟩ := ok_of_bind h
  obtain ⟨group', hf, h⟩ := ok_of_bind h
  obtain ⟨user, hu, h⟩ := ok_of_bind h
  obtain ⟨⟨⟩, -, h⟩ := ok_of_bind h
  cases h
  obtain ⟨g, hg, rfl⟩ := groupOf_ok ho hf
  obtain ⟨u, g', hi, hg', hgo⟩ := ownerOf_ok ho hu
  cases hg.symm.trans hg'
  obtain ⟨card', hs'⟩ := Cards.stored_numbered hl hn g.toGroup payload.entities
  rw [hs'] at hs
  cases hs
  exact ⟨_, rfl, .createCard (named_ok hp) (sameParticipant_ok hq) hi hg hgo⟩

/-- A call that ends with an answer does one of six things. -/
theorem does_of_effect {uri : Option String} {call : Call} {a : Answer} {db : Database}
    (h : d.effect uri n t.database call = .ok (a, db)) : ∃ t', db = t'.database ∧ d.Does n t call a t' := by
  cases call with
  | getGroup id | getCard id =>
    obtain ⟨x, -, he⟩ := ok_of_map h
    cases he
    exact ⟨t, rfl, .asks trivial⟩
  | createGroup id credentials extension =>
    obtain ⟨⟨g, db'⟩, hr, he⟩ := ok_of_map h
    cases he
    exact registerGroup_does hl hn (ok_of_mapError hr)
  | deleteGroup id credentials =>
    obtain ⟨⟨⟨⟩, db'⟩, hr, he⟩ := ok_of_map h
    cases he
    exact removeGroup_does hl hn (ok_of_mapError hr)
  | createCard id payload credentials =>
    obtain ⟨group, hg, h⟩ := ok_of_bind h
    obtain ⟨⟨card, db'⟩, hs, he⟩ := ok_of_map h
    cases he
    exact storeCard_does hl hn (ok_of_mapError hg) hs
  | deleteCard id credentials =>
    obtain ⟨⟨⟨⟩, db'⟩, hr, he⟩ := ok_of_map h
    cases he
    exact removeCard_does hl hn (ok_of_mapError hr)

/-! ## What a call does that passes its checks -/

/-- A user registers a participant that has no group. -/
theorem effect_createGroup {id : String} {credentials : Option Credentials} {p : Identifier} {u : UserRow}
    (hp : d.addressing.parse? id = some p) (hu : t.database.Identifies d.rounds credentials u)
    (hg : t.group? p.key = none) (uri extension : Option String) :
    d.effect uri n t.database (.createGroup id credentials extension) = .ok (.group ⟨p.key, p, u.id, extension⟩,
      (t.addGroup ⟨p.key, p.scheme, p.value, u.id, extension⟩).database) := by
  have hnamed : d.named id = .ok p := by
    rw [named, hp]
    rfl
  have hregister : (Groups.register p u.toUser extension).outcome t.database = _ :=
    Groups.register_database (fun g hg => hl.owner_storable hn hg) (hn.users u hu.mem) extension
  rw [hg] at hregister
  rw [effect, registerGroup, hnamed]
  show ((Users.identified d.rounds t.database credentials >>= _ : Except Failure _).mapError _).map _ = _
  rw [Users.identified_of_identifies hn.users hu]
  show ((((Groups.register p u.toUser extension).outcome t.database).map _).mapError _).map _ = _
  rw [hregister]
  rfl

/-- The owner of a group stores a card for its participant. -/
theorem effect_createCard {id : String} {payload : CardPayload} {credentials : Option Credentials} {p : Identifier}
    {u : UserRow} {g : GroupRow} (hd : d.cardsEnabled = true) (hp : d.addressing.parse? id = some p)
    (hq : d.addressing.create? payload.participant.scheme payload.participant.value = some p)
    (hu : t.database.Identifies d.rounds credentials u) (hg : t.group? p.key = some g) (ho : g.owner = u.id)
    (uri : Option String) :
    d.effect uri n t.database (.createCard id payload credentials) = .ok (.outcome .success,
      (t.putCard g.toGroup (numbered n payload.entities)).database) := by
  have hstorable := fun g (hg : g ∈ t.groups) => hl.owner_storable hn hg
  have hnamed : d.named id = .ok p := by
    rw [named, hp]
    rfl
  have hsame : d.sameParticipant p payload = .ok () := if_pos hq
  have hgroup : groupOf id p t.database = .ok g.toGroup := by
    rw [groupOf, Groups.lookup_answer hstorable, hg]
    rfl
  have howner : d.ownerOf p credentials t.database = .ok u.toUser := by
    rw [ownerOf, Users.identified_of_identifies hn.users hu]
    show ((Groups.ownerCheck p u.toUser).answer t.database >>= _ : Except Failure _) = _
    rw [Groups.ownerCheck_database hstorable, hg]
    show ((if g.owner = u.id then _ else _ : Except Failure Unit) >>= _) = _
    rw [if_pos ho]
    rfl
  have hchecks : d.storeChecks id payload credentials t.database = .ok g.toGroup := by
    simp only [storeChecks, hnamed, hsame, hgroup, howner, enabled, hd, bind, Except.bind]
    rfl
  obtain ⟨card, hcard⟩ := Cards.stored_numbered hl hn g.toGroup payload.entities
  rw [effect, hchecks]
  show ((Cards.stored g.toGroup (numbered n payload.entities) t.database).map _) = _
  rw [hcard]
  rfl

end Directory

/-! ## What every call preserves -/

namespace Directory.Does

variable {d : Directory} {call : Call} {a : Answer}

theorem users (h : d.Does n t call a t') : t'.users = t.users := by
  cases h <;> rfl

theorem linked (h : d.Does n t call a t') (hl : t.Linked) : t'.Linked := by
  cases h with
  | asks => exact hl
  | createGroup hp hu hg => exact hl.addGroup rfl hg ⟨_, hu.mem, rfl⟩
  | deleteGroup => exact hl.dropGroup _
  | createCard hp hq hu hg ho => exact hl.putCard (Tables.mem_of_group? hg).1 _
  | deleteCard => exact hl.dropCard _

theorem numbered (h : d.Does n t call a t') (hn : t.Numbered n) : t'.Numbered (n + call.drawn) := by
  cases h with
  | asks => exact hn.mono (Nat.le_add_right _ _)
  | createGroup => exact hn.addGroup _
  | deleteGroup => exact hn.dropGroup _
  | createCard => exact hn.putCard _ _
  | deleteCard => exact hn.dropCard _

/-- Only the participant that a call names is affected. -/
theorem share_of_ne (h : d.Does n t call a t') {key : String}
    (hk : ∀ p, d.addressing.parse? call.id = some p → p.key ≠ key) : t'.share key = t.share key := by
  cases h with
  | asks => rfl
  | createGroup hp => exact Tables.share_addGroup_of_ne (hk _ hp)
  | deleteGroup hp => exact Tables.share_dropGroup_of_ne (hk _ hp)
  | createCard hp hq hu hg =>
    exact Tables.share_putCard_of_ne _ fun he => hk _ hp ((Tables.mem_of_group? hg).2.symm.trans he)
  | deleteCard hp => exact Tables.share_dropCard_of_ne (hk _ hp)

end Directory.Does

/-- Who registers a participant may then store its card. -/
theorem Directory.runOn_registered {d : Directory} {w : World Database} (hw : w.state = t.database) (hl : t.Linked)
    (hn : t.Numbered w.issued) {id : String} {credentials : Option Credentials} {p : Identifier} {u : UserRow}
    (hd : d.cardsEnabled = true) (hp : d.addressing.parse? id = some p) (payload : CardPayload)
    (hq : d.addressing.create? payload.participant.scheme payload.participant.value = some p)
    (hu : t.database.Identifies d.rounds credentials u) (hg : t.group? p.key = none) (uri extension : Option String) :
    let row : GroupRow := ⟨p.key, p.scheme, p.value, u.id, extension⟩
    let t' := (t.addGroup row).putCard row.toGroup (numbered w.issued payload.entities)
    ∃ w₁ w₂, ((Call.createGroup id credentials extension).perform (d.collaborators uri)).runOn w =
        (.ok (.group row.toGroup), w₁) ∧
      ((Call.createCard id payload credentials).perform (d.collaborators uri)).runOn w₁ =
        (.ok (.outcome .success), w₂) ∧
      w₂.state = t'.database ∧ t'.Linked ∧ t'.Numbered w₂.issued := by
  intro row t'
  have hregistered : d.Does w.issued t (.createGroup id credentials extension) (.group row.toGroup) (t.addGroup row) :=
    .createGroup hp hu hg
  have heffect := effect_createGroup hl hn hp hu hg uri extension
  obtain ⟨w₁, e₁, s₁, i₁⟩ := d.runOn_of_effect uri (hw.symm ▸ heffect)
  have hl₁ : (t.addGroup row).Linked := hregistered.linked hl
  have hn₁ : (t.addGroup row).Numbered w₁.issued := i₁ ▸ hregistered.numbered hn
  have hg₁ : (t.addGroup row).group? p.key = some row := Tables.group?_addGroup hg
  have hstored := Does.createCard (n := w₁.issued) (t := t.addGroup row) hp hq hu hg₁ rfl
  have heffect₁ := effect_createCard hl₁ hn₁ hd hp hq hu hg₁ rfl uri
  obtain ⟨w₂, e₂, s₂, i₂⟩ := d.runOn_of_effect uri (s₁.symm ▸ heffect₁)
  have hissued : w₁.issued = w.issued := i₁
  rw [hissued] at s₂ hstored
  exact ⟨w₁, w₂, e₁, e₂, s₂, hstored.linked hl₁, i₂ ▸ hissued.symm ▸ hstored.numbered (hissued ▸ hn₁)⟩

/-! ## Deeds -/

namespace Deed

/-- What a deed that ends with an answer makes of the tables, where numbers are drawn from `n` on. -/
inductive Step (n : Nat) (t : Tables) : Deed → Answer → Tables → Prop
  | createUser {rounds : Nat} {name password : Text.Loose} {row : UserRow} (hi : row.id = .issued n)
    (hn : ∀ u ∈ t.users, u.loginName ≠ row.loginName) :
    Step n t (.createUser rounds name password) (.user row.toUser) (t.addUser row)
  | call {d : Directory} {uri : Option String} {c : Call} {a : Answer} {t' : Tables} (h : d.Does n t c a t') :
    Step n t (.call d uri c) a t'

theorem step_of_effect (hl : t.Linked) {w : World Database} (hw : w.state = t.database) (hn : t.Numbered w.issued)
    {deed : Deed} {a : Answer} {db : Database} (h : deed.effect w = .ok (a, db)) :
    ∃ t', db = t'.database ∧ deed.Step w.issued t a t' := by
  cases deed with
  | createUser rounds name password =>
    obtain ⟨⟨u, db'⟩, hr, he⟩ := ok_of_map h
    cases he
    obtain ⟨name', password', -, -, ho, rfl⟩ := Users.created_ok hr
    rw [hw] at ho
    obtain ⟨rfl, hnew⟩ := Users.insertRow_ok ho
    exact ⟨_, rfl, .createUser rfl hnew⟩
  | call d uri c =>
    rw [effect, hw] at h
    obtain ⟨t', hdb, hd⟩ := Directory.does_of_effect hl hn h
    exact ⟨t', hdb, .call hd⟩

theorem Step.linked {deed : Deed} {a : Answer} (h : deed.Step n t a t') (hl : t.Linked) : t'.Linked := by
  cases h with
  | createUser => exact hl.addUser _
  | call h => exact h.linked hl

theorem Step.integrity {deed : Deed} {a : Answer} (h : deed.Step n t a t') (hi : t.Integrity) : t'.Integrity := by
  cases h with
  | createUser _ hnew => exact hi.addUser hnew
  | call h => exact { h.linked hi.toLinked with loginNames := h.users ▸ hi.loginNames }

theorem Step.numbered {deed : Deed} {a : Answer} (h : deed.Step n t a t') (hn : t.Numbered n) :
    t'.Numbered (n + deed.drawn) := by
  cases h with
  | createUser hi => exact (hn.addUser (hi ▸ UserId.storable_issued n)).mono (Nat.le_add_right _ _)
  | call h => exact h.numbered hn

/-- On full tables a deed is a step, or it fails and changes nothing. -/
theorem run_database (deed : Deed) {w : World Database} (hw : w.state = t.database) (hl : t.Linked)
    (hn : t.Numbered w.issued) :
    ∃ t' w', (deed.perform.runOn w).2 = w' ∧ w'.state = t'.database ∧ t'.Numbered w'.issued ∧
      match (deed.perform.runOn w).1 with
      | .ok a => deed.Step w.issued t a t'
      | .error _ => t' = t := by
  obtain ⟨w', e, s, -, hle, hi⟩ := deed.runOn_perform w
  rw [e]
  cases hr : deed.effect w with
  | error f =>
    rw [hr] at s
    exact ⟨t, w', rfl, s.trans hw, hn.mono hle, rfl⟩
  | ok p =>
    obtain ⟨a, db⟩ := p
    rw [hr] at s hi
    obtain ⟨t', rfl, hs⟩ := step_of_effect hl hw hn hr
    exact ⟨t', w', rfl, s, hi rfl ▸ hs.numbered hn, hs⟩

end Deed

/-- On full tables a call does one of six things, or it fails and changes nothing. -/
theorem Directory.run_database (d : Directory) (uri : Option String) (call : Call) {w : World Database}
    (hw : w.state = t.database) (hl : t.Linked) (hn : t.Numbered w.issued) :
    ∃ t' w', ((call.perform (d.collaborators uri)).runOn w).2 = w' ∧ w'.state = t'.database ∧ t'.Numbered w'.issued ∧
      match ((call.perform (d.collaborators uri)).runOn w).1 with
      | .ok a => d.Does w.issued t call a t'
      | .error _ => t' = t := by
  obtain ⟨t', w', e, hw', hn', hs⟩ := (Deed.call d uri call).run_database hw hl hn
  refine ⟨t', w', e, hw', hn', ?_⟩
  rw [Deed.perform] at hs
  cases hr : ((call.perform (d.collaborators uri)).runOn w).1 with
  | error f =>
    rw [hr] at hs
    exact hs
  | ok a =>
    rw [hr] at hs
    cases hs with
    | call hs => exact hs

end ParticipantDirectory
