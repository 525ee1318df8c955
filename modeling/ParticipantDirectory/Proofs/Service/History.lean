import ParticipantDirectory.Proofs.Card.Accepted
import ParticipantDirectory.Proofs.Identifier.Key
import ParticipantDirectory.Proofs.Service.Integrity

/-!
# Histories

The calls that a directory has served, with their answers. What a participant has after them is what the last of
them says that succeeded and concerns it: a registration or its deletion (`registration?`), a submitted payload or
its deletion (`submission?`). A call changes what the tables have under the key of a participant as it says:
`Directory.Does.group_after` and `Directory.Does.payload_after` are one call.
-/

namespace ParticipantDirectory

/-- A call and its answer. -/
structure Served where
  call : Call
  answer : Except Failure Answer

/-- Serves calls, each with the address of its request, one after the other. -/
def Directory.serve (d : Directory) (w : World Database) : List (Option String × Call) → List Served × World Database
  | [] => ([], w)
  | (uri, call) :: rest =>
    let (answer, w₁) := (call.perform (d.collaborators uri)).runOn w
    let (served, w₂) := d.serve w₁ rest
    (⟨call, answer⟩ :: served, w₂)

theorem Directory.serve_cons {d : Directory} {w w' : World Database} {uri : Option String} {call : Call}
    {answer : Except Failure Answer} (h : (call.perform (d.collaborators uri)).runOn w = (answer, w'))
    (rest : List (Option String × Call)) :
    d.serve w ((uri, call) :: rest) = (⟨call, answer⟩ :: (d.serve w' rest).1, (d.serve w' rest).2) := by
  rw [Directory.serve, h]

/-- The id of the user whom credentials name. -/
def presentedId (users : List UserRow) (credentials : Option Credentials) : Option UserId :=
  credentials.bind fun c => (users.find? (·.loginName == c.userName)).map (·.id)

theorem presentedId_of_identifies {t : Tables} {rounds : Nat} {credentials : Option Credentials} {u : UserRow}
    (h : t.database.Identifies rounds credentials u) : presentedId t.users credentials = some u.id := by
  obtain ⟨c, rfl, hf, -⟩ := h
  rw [Database.userNamed_database, Tables.user?] at hf
  rw [presentedId, Option.bind_some, hf, Option.map_some]

namespace Call

/-- What a successful call for a participant says of its service group: that it is registered, by the user whom the
credentials name, or that it is deleted. -/
def registration? (users : List UserRow) (p : Identifier) : Call → Option (Option ServiceGroup)
  | createGroup _ credentials extension =>
    some ((presentedId users credentials).map fun owner => ⟨p.key, p, owner, extension⟩)
  | deleteGroup .. => some none
  | getGroup _ | getCard _ | createCard .. | deleteCard .. => none

/-- What a successful call for a participant says of its card: that a payload is stored, which is then one for this
participant, or that it is deleted, be it with the service group. -/
def submission? (p : Identifier) : Call → Option (Option CardPayload)
  | createCard _ payload _ => some (some { payload with participant := p })
  | deleteCard .. | deleteGroup .. => some none
  | getGroup _ | createGroup .. | getCard _ => none

end Call

namespace Served

/-- The call was answered, and not with a failure. -/
def succeeded (s : Served) : Bool :=
  match s.answer with
  | .error _ => false
  | .ok (.outcome .failure) => false
  | .ok _ => true

/-- The call succeeded, and its id names the participant. -/
def concerns (rule : Addressing) (p : Identifier) (s : Served) : Bool :=
  s.succeeded && rule.parse? s.call.id = some p

/-- What a served call says of the service group of a participant. -/
def registration? (rule : Addressing) (users : List UserRow) (p : Identifier) (s : Served) :
    Option (Option ServiceGroup) :=
  if s.concerns rule p then s.call.registration? users p else none

/-- What a served call says of the card of a participant. -/
def submission? (rule : Addressing) (p : Identifier) (s : Served) : Option (Option CardPayload) :=
  if s.concerns rule p then s.call.submission? p else none

end Served

/-- What the last of the served calls says that says anything. -/
def last {β : Type} (tells : Served → Option (Option β)) (history : List Served) : Option β :=
  (history.reverse.findSome? tells).join

theorem last_concat {β : Type} (tells : Served → Option (Option β)) (history : List Served) (s : Served) :
    last tells (history ++ [s]) = (tells s).getD (last tells history) := by
  rw [last, List.reverse_append, List.reverse_singleton, List.singleton_append, List.findSome?_cons]
  cases tells s <;> rfl

variable {rule : Addressing} {users : List UserRow} {p : Identifier}

/-- What a call registers, it registers as the group of the participant. -/
theorem Served.participant_of_registration {s : Served} {g : ServiceGroup}
    (h : s.registration? rule users p = some (some g)) : g.participant = p := by
  obtain ⟨call, answer⟩ := s
  rw [Served.registration?] at h
  split at h
  · cases call with
    | createGroup id credentials extension =>
      obtain ⟨o, -, rfl⟩ := Option.map_eq_some_iff.1 (Option.some.inj h)
      rfl
    | getGroup | deleteGroup | getCard | createCard | deleteCard => cases h
  · cases h

theorem participant_of_last {history : List Served} {g : ServiceGroup}
    (h : last (Served.registration? rule users p) history = some g) : g.participant = p := by
  obtain ⟨s, -, hs⟩ := List.exists_of_findSome?_eq_some (Option.join_eq_some_iff.1 h)
  exact Served.participant_of_registration hs

namespace Served

variable {call : Call} {answer : Except Failure Answer}

theorem concerns_of_ne (h : rule.parse? call.id ≠ some p) : concerns rule p ⟨call, answer⟩ = false := by
  rw [concerns, decide_eq_false h, Bool.and_false]

theorem concerns_of_eq (hs : succeeded ⟨call, answer⟩ = true) (hp : rule.parse? call.id = some p) :
    concerns rule p ⟨call, answer⟩ = true := by
  rw [concerns, hs, decide_eq_true hp]
  rfl

theorem registration?_of_eq (hs : succeeded ⟨call, answer⟩ = true) (hp : rule.parse? call.id = some p) :
    registration? rule users p ⟨call, answer⟩ = call.registration? users p := by
  rw [registration?, concerns_of_eq hs hp, if_pos rfl]

theorem submission?_of_eq (hs : succeeded ⟨call, answer⟩ = true) (hp : rule.parse? call.id = some p) :
    submission? rule p ⟨call, answer⟩ = call.submission? p := by
  rw [submission?, concerns_of_eq hs hp, if_pos rfl]

theorem registration?_of_asks (h : call.Asks) : registration? rule users p ⟨call, answer⟩ = none := by
  cases call with
  | getGroup id | getCard id => exact ite_self _
  | createGroup | deleteGroup | createCard | deleteCard => exact h.elim

theorem submission?_of_asks (h : call.Asks) : submission? rule p ⟨call, answer⟩ = none := by
  cases call with
  | getGroup id | getCard id => exact ite_self _
  | createGroup | deleteGroup | createCard | deleteCard => exact h.elim

end Served

namespace Tables

/-- The group of a participant's key. -/
def groupAt (t : Tables) (key : String) : Option ServiceGroup :=
  (t.group? key).map GroupRow.toGroup

/-- The payload of a key's card. -/
def payloadAt (t : Tables) (key : String) : Option CardPayload :=
  (t.card? key).map fun c => ⟨⟨c.scheme, c.value⟩, t.contents key⟩

variable {t t' : Tables} {key : String}

theorem groupAt_of_share (h : t'.share key = t.share key) : t'.groupAt key = t.groupAt key := by
  rw [groupAt, groupAt, group?_of_share h]

theorem payloadAt_of_share (h : t'.share key = t.share key) : t'.payloadAt key = t.payloadAt key := by
  rw [payloadAt, payloadAt, card?_of_share h, contents_of_share h]

/-- What is stored for a group is the payload of its key's card. -/
theorem payloadAt_putCard (t : Tables) (group : ServiceGroup) (n : Nat) (contents : List BusinessEntity) :
    (t.putCard group (numbered n contents)).payloadAt group.id =
      some ⟨⟨((t.card? group.id).getD (cardRow group)).scheme, ((t.card? group.id).getD (cardRow group)).value⟩,
        contents⟩ := by
  rw [payloadAt, card?_putCard, Option.map_some, contents_putCard]

theorem Linked.card_participant (h : t.Linked) {g : GroupRow} {c : CardRow} (hg : t.group? key = some g)
    (hc : t.card? key = some c) : (⟨c.scheme, c.value⟩ : Identifier) = ⟨g.scheme, g.value⟩ := by
  obtain ⟨hcm, hci⟩ := mem_of_card? hc
  obtain ⟨hgm, hgi⟩ := mem_of_group? hg
  obtain ⟨g', hgm', hgi', hs, hv⟩ := h.cardGroups c hcm
  obtain rfl := List.inj_on_of_nodup_map h.groupIds hgm hgm' (hgi.trans (hci.symm.trans hgi'.symm))
  rw [hs, hv]

end Tables

namespace Directory.Does

variable {d : Directory} {n : Nat} {t t' : Tables} {call : Call} {a : Answer}

/-- A call on another participant changes nothing of this one. -/
theorem share_of_other (h : d.Does n t call a t') (hp : p.Canonical) (hne : d.addressing.parse? call.id ≠ some p) :
    t'.share p.key = t.share p.key :=
  h.share_of_ne fun q hq hk => hne (by rw [hq, Identifier.key_injective ⟨_, _, hq⟩ hp hk])

/-- What a call makes of the service group of a participant is what it says of it. -/
theorem group_after (h : d.Does n t call a t') (hp : p.Canonical) :
    t'.groupAt p.key =
      (Served.registration? d.addressing t.users p ⟨call, .ok a⟩).getD (t.groupAt p.key) := by
  by_cases hpp : d.addressing.parse? call.id = some p
  · cases h with
    | asks ha =>
      rw [Served.registration?_of_asks ha]
      rfl
    | @createGroup id credentials extension q u hq hu hg =>
      cases hq.symm.trans hpp
      rw [Served.registration?_of_eq rfl hpp, Call.registration?, presentedId_of_identifies hu, Tables.groupAt,
        Tables.group?_addGroup hg]
      rfl
    | @deleteGroup id credentials q u g hq hu hg ho =>
      cases hq.symm.trans hpp
      rw [Served.registration?_of_eq rfl hpp, Tables.groupAt, Tables.group?_dropGroup]
      rfl
    | createCard | deleteCard =>
      rw [Served.registration?_of_eq rfl hpp]
      rfl
  · rw [Served.registration?, Served.concerns_of_ne hpp]
    exact Tables.groupAt_of_share (h.share_of_other hp hpp)

/-- What a call makes of the card of a participant is what it says of it. -/
theorem payload_after (h : d.Does n t call a t') (hl : t.Linked) (hp : p.Canonical)
    (hpart : ∀ g, t.group? p.key = some g → (⟨g.scheme, g.value⟩ : Identifier) = p) :
    t'.payloadAt p.key = (Served.submission? d.addressing p ⟨call, .ok a⟩).getD (t.payloadAt p.key) := by
  by_cases hpp : d.addressing.parse? call.id = some p
  · cases h with
    | asks ha =>
      rw [Served.submission?_of_asks ha]
      rfl
    | createGroup =>
      rw [Served.submission?_of_eq rfl hpp]
      rfl
    | @deleteGroup id credentials q u g hq hu hg ho =>
      cases hq.symm.trans hpp
      rw [Served.submission?_of_eq rfl hpp, Tables.payloadAt,
        show (t.dropGroup p.key).card? p.key = none from Tables.card?_dropCard]
      rfl
    | @createCard id payload credentials q u g hq _ hu hg ho =>
      cases hq.symm.trans hpp
      have hgi : g.toGroup.id = p.key := (Tables.mem_of_group? hg).2
      have hcp : (⟨((t.card? g.toGroup.id).getD (Tables.cardRow g.toGroup)).scheme,
          ((t.card? g.toGroup.id).getD (Tables.cardRow g.toGroup)).value⟩ : Identifier) = p := by
        cases hk : t.card? g.toGroup.id with
        | none => exact hpart g hg
        | some c =>
          rw [hgi] at hk
          exact (hl.card_participant hg hk).trans (hpart g hg)
      rw [Served.submission?_of_eq rfl hpp, ← hgi, Tables.payloadAt_putCard, hcp]
      rfl
    | @deleteCard id credentials q u g hq hu hg ho =>
      cases hq.symm.trans hpp
      rw [Served.submission?_of_eq rfl hpp, Tables.payloadAt, Tables.card?_dropCard]
      rfl
  · rw [Served.submission?, Served.concerns_of_ne hpp]
    exact Tables.payloadAt_of_share (h.share_of_other hp hpp)

end Directory.Does

end ParticipantDirectory
