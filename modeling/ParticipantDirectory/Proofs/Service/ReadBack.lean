import ParticipantDirectory.Proofs.Password
import ParticipantDirectory.Proofs.Service.History

/-!
# What was written is read back

A directory with cards serves any calls, one after the other, over any users and no service groups. Then for every
id that names a participant, the group that is read is the one last registered and not deleted since, and the card
is the payload last stored and deleted neither alone nor with its group since, under this participant; where there
is none, that is the failure (`read_back`). The invariant `Recalls` ties the tables to the history:
`recalls_step` is one call, `recalls_serve` the induction over the calls.
-/

namespace ParticipantDirectory

/-- The answer is what was to be found; if there is nothing, it is a fault of this cause. -/
def Finds (answer : Except Failure Answer) (c : Cause) : Option Answer → Prop
  | some a => answer = .ok a
  | none => ∃ f : Fault, answer = .error (.fault f) ∧ f.cause = c

/-- The participants that the ids of a directory name. -/
def Directory.Names (d : Directory) (p : Identifier) : Prop :=
  ∃ raw, d.addressing.parse? raw = some p

theorem Directory.Names.canonical {d : Directory} {p : Identifier} (h : d.Names p) : p.Canonical :=
  ⟨d.addressing, h⟩

/-- A card that the call stores has come as an accepted document. -/
def Call.Accepted (call : Call) : Prop :=
  ∀ id payload credentials, call = .createCard id payload credentials → ∃ v, CardPayload.decode v = .accepted payload

/-- What the tables have of every participant is what the history says last of it. -/
structure Recalls (d : Directory) (users : List UserRow) (history : List Served) (w : World Database) (t : Tables) :
    Prop where
  state : w.state = t.database
  sameUsers : t.users = users
  linked : t.Linked
  numbered : t.Numbered w.issued
  groups : ∀ p, d.Names p → t.groupAt p.key = last (Served.registration? d.addressing users p) history
  cards : ∀ p, d.Names p → t.payloadAt p.key = last (Served.submission? d.addressing p) history
  /-- The payload of every card can be built again. -/
  readable : ∀ p payload, d.Names p → t.payloadAt p.key = some payload → payload.Readable

variable {d : Directory} {users : List UserRow} {history : List Served} {w : World Database} {t t' : Tables} {n : Nat}

/-! ## One call -/

theorem Recalls.participant (h : Recalls d users history w t) {p : Identifier} (hp : d.Names p) {g : GroupRow}
    (hg : t.group? p.key = some g) : (⟨g.scheme, g.value⟩ : Identifier) = p := by
  have hlast := h.groups p hp
  rw [Tables.groupAt, hg] at hlast
  exact participant_of_last hlast.symm

/-- The payload that an accepted call stores is readable. -/
theorem Directory.Does.readable {call : Call} {a : Answer} (h : d.Does n t call a t') (ha : call.Accepted)
    {p : Identifier} {payload : CardPayload}
    (hs : Served.submission? d.addressing p ⟨call, .ok a⟩ = some (some payload)) : payload.Readable := by
  rw [Served.submission?] at hs
  split at hs
  · rename_i hc
    have hp := of_decide_eq_true ((Bool.and_eq_true _ _).mp hc).2
    cases h with
    | asks h =>
      cases call with
      | getGroup | getCard => cases hs
      | createGroup | deleteGroup | createCard | deleteCard => exact h.elim
    | createGroup | deleteGroup | deleteCard => cases hs
    | createCard hq hq' =>
      cases hq.symm.trans hp
      cases hs
      obtain ⟨v, hv⟩ := ha _ _ _ rfl
      exact CardPayload.readable_of_accepted hv hq'
  · cases hs

theorem recalls_step (h : Recalls d users history w t) (uri : Option String) {call : Call} (ha : call.Accepted) :
    ∃ t', Recalls d users (history ++ [⟨call, ((call.perform (d.collaborators uri)).runOn w).1⟩])
      ((call.perform (d.collaborators uri)).runOn w).2 t' := by
  obtain ⟨t', w', e, hw, hn, hs⟩ := d.run_database uri call h.state h.linked h.numbered
  refine ⟨t', ?_⟩
  rw [e]
  cases hr : ((call.perform (d.collaborators uri)).runOn w).1 with
  | error f =>
    rw [hr] at hs
    cases hs
    refine ⟨hw, h.sameUsers, h.linked, hn, fun p hp => ?_, fun p hp => ?_, h.readable⟩
    · rw [last_concat]
      exact h.groups p hp
    · rw [last_concat]
      exact h.cards p hp
  | ok a =>
    rw [hr] at hs
    have payload_after := fun p hp => hs.payload_after h.linked (p := p) (Directory.Names.canonical hp)
      fun g hg => h.participant hp hg
    refine ⟨hw, hs.users.trans h.sameUsers, hs.linked h.linked, hn, fun p hp => ?_, fun p hp => ?_,
      fun p payload hp hpay => ?_⟩
    · rw [last_concat, hs.group_after hp.canonical, h.groups p hp, h.sameUsers]
    · rw [last_concat, payload_after p hp, h.cards p hp]
    · rw [payload_after p hp] at hpay
      cases hsub : Served.submission? d.addressing p ⟨call, .ok a⟩ with
      | none =>
        rw [hsub] at hpay
        exact h.readable p payload hp hpay
      | some r =>
        rw [hsub] at hpay
        cases hpay
        exact hs.readable ha hsub

/-- By induction over the calls. -/
theorem recalls_serve (h : Recalls d users history w t) (calls : List (Option String × Call))
    (ha : ∀ c ∈ calls, c.2.Accepted) :
    ∃ t', Recalls d users (history ++ (d.serve w calls).1) (d.serve w calls).2 t' := by
  induction calls generalizing history w t with
  | nil =>
    refine ⟨t, ?_⟩
    rw [Directory.serve, List.append_nil]
    exact h
  | cons c rest ih =>
    obtain ⟨uri, call⟩ := c
    obtain ⟨t₁, h₁⟩ := recalls_step h uri (ha _ (List.mem_cons_self ..))
    obtain ⟨t₂, h₂⟩ := ih h₁ fun c hc => ha c (List.mem_cons_of_mem _ hc)
    rw [List.append_assoc] at h₂
    exact ⟨t₂, h₂⟩

theorem recalls_start (d : Directory) (hu : ∀ u ∈ users, u.id.Storable) (w : World Database) :
    Recalls d users [] { w with state := { Database.fresh with users := some users } } ⟨users, [], [], []⟩ where
  state := rfl
  sameUsers := rfl
  linked := { Tables.integrity_empty.toLinked with owners := fun _ h => by cases h }
  numbered := { Tables.numbered_empty _ with users := hu }
  groups := fun _ _ => rfl
  cards := fun _ _ => rfl
  readable := fun _ _ _ h => by cases h

/-- The only user of a new directory registers a participant and stores its card. -/
theorem Directory.runOn_registered_sole {d : Directory} {k : Nat} {name password stored : String}
    (hv : Password.verify d.rounds password stored = true) (w : World Database) {id : String} {p : Identifier}
    (hd : d.cardsEnabled = true) (hp : d.addressing.parse? id = some p) (payload : CardPayload)
    (hq : d.addressing.create? payload.participant.scheme payload.participant.value = some p)
    (uri extension : Option String) :
    let start := { w with state := { Database.fresh with users := some [⟨.issued k, name, stored⟩] } }
    let row : GroupRow := ⟨p.key, p.scheme, p.value, .issued k, extension⟩
    let t' := ((Tables.mk [⟨.issued k, name, stored⟩] [] [] []).addGroup row).putCard row.toGroup
      (numbered w.issued payload.entities)
    ∃ w₁ w₂, ((Call.createGroup id (some ⟨name, password⟩) extension).perform (d.collaborators uri)).runOn start =
        (.ok (.group row.toGroup), w₁) ∧
      ((Call.createCard id payload (some ⟨name, password⟩)).perform (d.collaborators uri)).runOn w₁ =
        (.ok (.outcome .success), w₂) ∧
      w₂.state = t'.database ∧ t'.Linked ∧ t'.Numbered w₂.issued ∧
      t'.payloadAt p.key = some { payload with participant := p } := by
  have hu : ∀ u ∈ [(⟨.issued k, name, stored⟩ : UserRow)], u.id.Storable :=
    List.forall_mem_singleton.2 (UserId.storable_issued k)
  have hstart := recalls_start d hu w
  obtain ⟨w₁, w₂, e₁, e₂, s₂, hl, hn⟩ := d.runOn_registered hstart.state hstart.linked hstart.numbered hd hp payload hq
    (Database.identifies_head rfl hv) rfl uri extension
  exact ⟨w₁, w₂, e₁, e₂, s₂, hl, hn, Tables.payloadAt_putCard _ ⟨p.key, p, .issued k, extension⟩ _ _⟩

/-! ## Reading -/

theorem getGroup_answer (hl : t.Linked) (hn : t.Numbered n) (hw : w.state = t.database) (uri : Option String)
    {raw : String} {p : Identifier} (hp : d.addressing.parse? raw = some p) :
    Finds (((Call.getGroup raw).perform (d.collaborators uri)).runOn w).1 (.unknownGroup raw)
      ((t.groupAt p.key).map .group) := by
  obtain ⟨w', e, -⟩ := d.runOn_perform uri (.getGroup raw) w
  rw [e, Directory.effect, hw, Directory.readGroup_database hl hn hp, ← Tables.groupAt]
  cases t.groupAt p.key with
  | some g => rfl
  | none => exact ⟨_, rfl, rfl⟩

/-- The card of a participant is looked up if it has a group. -/
theorem readCard_database (hd : d.cardsEnabled = true) (hl : t.Linked) (hn : t.Numbered n) {raw : String}
    {p : Identifier} (hp : d.addressing.parse? raw = some p) : d.readCard raw t.database =
      match t.group? p.key with
      | none => .error (Failure.of (.unknownGroup raw))
      | some _ => (Cause.unknownCard raw).require
          ((t.card? p.key).map fun c => c.toCard ((t.entitiesOf p.key).map EntityRow.toStored)) := by
  rw [Directory.readCard, Directory.named, hp]
  show (Directory.groupOf raw p t.database >>= _) = _
  rw [Directory.groupOf, Groups.lookup_answer fun g hg => hl.owner_storable hn hg, Directory.enabled, hd]
  cases hg : t.group? p.key with
  | none => rfl
  | some g =>
    have hid : g.toGroup.id = p.key := (Tables.mem_of_group? hg).2
    show ((Cards.findCard g.toGroup.id).answer t.database >>= fun card => (Cause.unknownCard raw).require card) = _
    rw [hid, Cards.findCard_answer]
    rfl

theorem getCard_answer (hd : d.cardsEnabled = true) (hl : t.Linked) (hn : t.Numbered n) (hw : w.state = t.database)
    (uri : Option String) {raw : String} {p : Identifier} (hp : d.addressing.parse? raw = some p)
    (hr : ∀ payload, t.payloadAt p.key = some payload → payload.Readable) :
    Finds (((Call.getCard raw).perform (d.collaborators uri)).runOn w).1
      (if (t.groupAt p.key).isSome then .unknownCard raw else .unknownGroup raw)
      ((t.payloadAt p.key).map .card) := by
  obtain ⟨w', e, -⟩ := d.runOn_perform uri (.getCard raw) w
  rw [e, Directory.effect, hw, readCard_database hd hl hn hp, Tables.groupAt]
  rw [Tables.payloadAt] at hr ⊢
  cases hg : t.group? p.key with
  | none =>
    rw [hl.no_card hg]
    exact ⟨_, rfl, rfl⟩
  | some g =>
    cases hc : t.card? p.key with
    | none => exact ⟨_, rfl, rfl⟩
    | some c =>
      rw [hc] at hr
      have hcard : CardPayload.ofCard (c.toCard ((t.entitiesOf p.key).map EntityRow.toStored)) =
          .ok ⟨⟨c.scheme, c.value⟩, t.contents p.key⟩ :=
        CardPayload.ofCard_of_readable (hr _ rfl) rfl (List.map_map ..)
      show Except.map Prod.fst (((CardPayload.ofCard (c.toCard ((t.entitiesOf p.key).map EntityRow.toStored))).mapError
        Failure.invalid).map fun payload => (Answer.card payload, t.database)) = _
      rw [hcard]
      rfl

end ParticipantDirectory
