import ParticipantDirectory.Proofs.Card.Encoded
import ParticipantDirectory.Proofs.Server.Requests
import ParticipantDirectory.Proofs.Server.Stocked
import ParticipantDirectory.Proofs.Service.Order

/-!
# Requests for cards

A directory *shows* a payload under an id (`Directory.Shows`) if it supports cards and the tables have the payload as
the card of the participant that the id names. On settled tables, what is shown is what a request for the card is
answered with, if all texts of it have bytes (`handle_getCard`), and a request that is answered with success has
something of which this is true shown to it (`shown_of_answered`). A request of the owner to store an accepted payload
for the participant is answered with success, and the payload is shown from then on (`handle_putCard`).
-/

namespace ParticipantDirectory

open Server (IsError Refusal)

/-- The directory shows the payload as the card of the participant that the id names. -/
structure Directory.Shows (d : Directory) (t : Tables) (id : String) (p : Identifier) (payload : CardPayload) :
    Prop where
  enabled : d.cardsEnabled = true
  names : d.addressing.parse? id = some p
  card : t.payloadAt p.key = some payload

variable {d : Directory} {w : World Database} {t : Tables} {id : String} {p : Identifier} {payload : CardPayload}

namespace Settled

variable (h : Settled w t)
include h

/-- A payload is shown under its own participant. -/
theorem participant_shown (hs : d.Shows t id p payload) : payload.participant = p := by
  obtain ⟨c, hc, rfl⟩ := Option.map_eq_some_iff.1 hs.card
  cases hg : t.group? p.key with
  | none =>
    rw [h.linked.no_card hg] at hc
    cases hc
  | some g => exact (h.linked.card_participant hg hc).trans (h.participant ⟨d.addressing, id, hs.names⟩ hg)

theorem readable_shown (hs : d.Shows t id p payload) : payload.Readable :=
  h.cards p ⟨d.addressing, id, hs.names⟩ payload hs.card

/-- What is shown is read. -/
theorem getCard_shown (hs : d.Shows t id p payload) (uri : Option String) :
    ∃ w', (CardService.get (d.collaborators uri) id).runOn w = (.ok payload, w') ∧ w.Agrees w' := by
  obtain ⟨w', e, ha⟩ := d.reads_getCard uri id w
  refine ⟨w', ?_, ha⟩
  have hanswer := getCard_answer hs.enabled h.linked h.numbered h.state uri hs.names
    fun q hq => h.cards p ⟨d.addressing, id, hs.names⟩ q hq
  rw [hs.card, Option.map_some, Finds, Call.perform, Action.runOn_map] at hanswer
  obtain ⟨payload', hread, he⟩ := ok_of_map hanswer
  cases he
  rw [e] at hread ⊢
  exact congrArg (·, w') hread

/-- A card is shown, or reading it fails with the status of an error. -/
theorem shown_or_error (d : Directory) (uri : Option String) (id : String) :
    (∃ p payload, d.Shows t id p payload) ∨
      ∃ f, ((CardService.get (d.collaborators uri) id).runOn w).1 = .error f ∧ IsError (Refusal.failed f).status := by
  have hdecides := (decides_effect (d := d) h.linked h.numbered h.cards uri (.getCard id)).cases
  rcases hdecides with ⟨c, -, -, hr⟩ | ⟨hpass, -⟩
  · right
    obtain ⟨w', e, -⟩ := d.runOn_perform uri (.getCard id) w
    rw [h.state, hr, Call.perform, Action.runOn_map] at e
    have hstatus := c.status_cause d (.getCard id)
    have herror : ((CardService.get (d.collaborators uri) id).runOn w).1 =
        .error (.fault ⟨c.cause d (.getCard id), (Call.getCard id).context uri⟩) := by
      cases hget : ((CardService.get (d.collaborators uri) id).runOn w).1 with
      | ok payload =>
        rw [hget] at e
        cases e
      | error f =>
        rw [hget] at e
        cases e
        rfl
    exact ⟨_, herror, hstatus.1, Int.lt_trans hstatus.2 (by decide)⟩
  · left
    have hpass : ∀ c ∈ [Check.names, .group, .support, .card], c.holds d t.database (.getCard id) = true := hpass
    obtain ⟨p, hp⟩ := Option.isSome_iff_exists.1 (hpass .names (by decide))
    have hcard : (t.card? p.key).isSome := (holds_card hp).symm.trans (hpass .card (by decide))
    obtain ⟨c, hc⟩ := Option.isSome_iff_exists.1 hcard
    exact ⟨p, _, hpass .support (by decide), hp, by rw [Tables.payloadAt, hc]; rfl⟩

/-- A call that passes its checks is made. -/
theorem does {call : Call} (ha : call.Accepted) (hpass : call.Passes d t.database) (uri : Option String) :
    ∃ a t', ((call.perform (d.collaborators uri)).runOn w).1 = .ok a ∧
      Settled ((call.perform (d.collaborators uri)).runOn w).2 t' ∧ d.Does w.issued t call a t' := by
  obtain ⟨w', e, -⟩ := d.runOn_perform uri call w
  obtain ⟨t', ht, hs⟩ := settled_step h (show (Deed.call d uri call).Accepted from ha)
  rw [Deed.perform] at ht hs
  rcases (decides_effect (d := d) h.linked h.numbered h.cards uri call).cases with
    ⟨c, hm, hfails, -⟩ | ⟨-, q, hq, -⟩
  · exact absurd (hfails.symm.trans (hpass c hm)) Bool.false_ne_true
  · rw [h.state, hq] at e
    have hanswer := congrArg Prod.fst e
    refine ⟨q.1, t', hanswer, ht, ?_⟩
    rw [hanswer] at hs
    cases hs with
    | call hs => exact hs

end Settled

/-! ## Storing for an owner -/

/-- The credentials are those of the user who owns the service group of the participant that the id names. -/
structure Directory.Owns (d : Directory) (db : Database) (id : String) (c : Credentials) (p : Identifier)
    (g : GroupRow) : Prop where
  names : d.addressing.parse? id = some p
  group : db.groupNamed p = some g
  user : ∃ u, db.Identifies d.rounds (some c) u ∧ g.owner = u.id

/-- The owner of the group of a participant may store any payload that is for the participant. -/
theorem Directory.Owns.passes {db : Database} {c : Credentials} {g : GroupRow} (h : d.Owns db id c p g)
    (hd : d.cardsEnabled = true)
    (hq : d.addressing.create? payload.participant.scheme payload.participant.value = some p) :
    (Call.createCard id payload (some c)).Passes d db := by
  obtain ⟨u, ⟨_, ⟨⟩, hname, hverify⟩, ho⟩ := h.user
  intro check hm
  simp only [Call.checks, List.mem_cons, List.not_mem_nil, or_false] at hm
  rcases hm with rfl | rfl | rfl | rfl | rfl | rfl | rfl | rfl
  · exact congrArg Option.isSome h.names
  · simp [Check.holds, Call.id, h.names, Call.given?, hq]
  · simp [Check.holds, Call.id, h.names, h.group]
  · rfl
  · simp [Check.holds, Call.credentials, hname]
  · simp [Check.holds, Call.credentials, hname, hverify]
  · simp [Check.holds, Call.id, h.names, h.group, Call.credentials, hname, ho]
  · exact hd

/-- What the owner stores is shown under the participant. -/
theorem Settled.createCard_shown (h : Settled w t) {c : Credentials} {g : GroupRow} (ho : d.Owns t.database id c p g)
    (hd : d.cardsEnabled = true) {v : Json} (hv : CardPayload.decode v = .accepted payload)
    (hq : d.addressing.create? payload.participant.scheme payload.participant.value = some p) (uri : Option String) :
    let run := ((Call.createCard id payload (some c)).perform (d.collaborators uri)).runOn w
    let t' := t.putCard g.toGroup (numbered w.issued payload.entities)
    run.1 = .ok (.outcome .success) ∧ Settled run.2 t' ∧ d.Shows t' id p ⟨p, payload.entities⟩ := by
  intro run t'
  have hcanonical : p.Canonical := ⟨d.addressing, id, ho.names⟩
  have haccepted : (Call.createCard id payload (some c)).Accepted := fun _ _ _ he => by
    cases he
    exact ⟨v, hv⟩
  obtain ⟨a, t₁, e, ht, hdoes⟩ := h.does haccepted (ho.passes hd hq) uri
  have hcard := hdoes.payload_after h.linked hcanonical fun _ => h.participant hcanonical
  cases hdoes with
  | asks ha => exact ha.elim
  | @createCard _ _ _ p' _ g' hp' _ _ hg' =>
    cases ho.names.symm.trans hp'
    cases (show t.group? p.key = some g from ho.group).symm.trans hg'
    have hstored : Served.submission? d.addressing p ⟨.createCard id payload (some c), .ok (.outcome .success)⟩ =
        some (some ⟨p, payload.entities⟩) := Served.submission?_of_eq rfl ho.names
    rw [hstored] at hcard
    exact ⟨e, ht, hd, ho.names, hcard⟩

namespace Server

open Http (Request Response Target)

variable {s : Server} {r : Request}

/-- The request asks with a method for the card of an id. -/
structure AsksCard (r : Request) (method : String) (id : String) : Prop where
  method : r.method = method
  path : Target.ofPath? r.path = some (.card id)

theorem step?_getCard (s : Server) (h : AsksCard r "GET" id) : s.step? r (.card id) = some (s.getCard r id) := by
  rw [step?, if_pos h.method]

theorem step?_putCard (s : Server) (h : AsksCard r "PUT" id) : s.step? r (.card id) = some (s.putCard r id) := by
  rw [step?, h.method, if_neg (by decide), if_pos rfl]

/-! ## Reading -/

/-- Without tables no card is read. -/
theorem getCard_blank (d : Directory) (uri : Option String) (id : String) (hw : w.state = .blank) :
    ∃ f, ((CardService.get (d.collaborators uri) id).runOn w).1 = .error f ∧ IsError (Refusal.failed f).status := by
  obtain ⟨w', e, -⟩ := d.reads_getCard uri id w
  rw [e, hw]
  dsimp only
  rw [Directory.readCard, Directory.named]
  cases d.addressing.parse? id with
  | none => exact ⟨_, rfl, (by decide : IsError 400)⟩
  | some p => exact ⟨_, rfl, (by decide : IsError 503)⟩

/-- What a card that was read is answered with: its document, or nothing if a text of it has no bytes. -/
def shownCard (payload : CardPayload) : Except Failure Response :=
  if payload.encode.isWhole then .ok (.ok payload.encode) else .error (.accident ⟨.unencodable, []⟩)

theorem runOn_cardResponse (payload : CardPayload) (w : World Database) :
    (cardResponse payload).runOn w = (shownCard payload, w) := by
  rw [cardResponse, shownCard]
  cases payload.encode.isWhole <;> rfl

/-- The card is read, and its document is the response, if it can be sent. -/
theorem run_getCard (hd : s.directory = some d) (id : String) :
    (ExceptT.run (s.getCard r id)).run s.world =
      let read := (CardService.get (d.collaborators (some r.address)) id).runOn s.world
      ((read.1.bind shownCard).mapError .failed, read.2) := by
  rw [getCard, collaborators_eq, hd, Step.run_ofAction]
  dsimp only
  rw [pure_bind, Action.runOn_bind]
  rcases (CardService.get (d.collaborators (some r.address)) id).runOn s.world with ⟨f | payload, w'⟩
  · rfl
  · dsimp only
    rw [runOn_cardResponse]
    rfl

/-- A card that is read is answered with its document if all its texts are whole, and otherwise with an unexpected
failure. -/
theorem handle_read (hd : s.directory = some d) (hr : AsksCard r "GET" id) {w' : World Database}
    (e : (CardService.get (d.collaborators (some r.address)) id).runOn s.world = (.ok payload, w')) (now : String) :
    (payload.Whole → (s.handle now r).1 = .ok payload.encode) ∧
      (¬payload.Whole → (s.handle now r).1 = .unexpected) ∧ w'.Agrees (s.handle now r).2.world := by
  have hrun := run_getCard (r := r) hd id
  rw [e] at hrun
  dsimp only at hrun
  by_cases hw : payload.Whole
  · have hshown : shownCard payload = .ok (.ok payload.encode) := if_pos (payload.isWhole_encode_iff.2 hw)
    rw [show (Except.ok payload : Except Failure _).bind shownCard = shownCard payload from rfl, hshown] at hrun
    rw [handle_of_ok hr.path (s.step?_getCard hr) hrun]
    exact ⟨fun _ => rfl, fun h => absurd hw h, .refl w'⟩
  · have hshown : shownCard payload = .error (.accident ⟨.unencodable, []⟩) :=
      if_neg fun h => hw (payload.isWhole_encode_iff.1 h)
    rw [show (Except.ok payload : Except Failure _).bind shownCard = shownCard payload from rfl, hshown] at hrun
    have hrespond : (s.respond now r).run s.world = _ := respond_of_step hr.path (s.step?_getCard hr) s.world
    rw [hrun] at hrespond
    refine ⟨fun h => absurd h hw, fun _ => congrArg Prod.fst hrespond, ?_⟩
    show w'.Agrees ((s.respond now r).run s.world).2
    rw [hrespond]
    exact refuse_agrees now r _ w'

/-- What is shown is what a request for the card is answered with, if all its texts are whole. -/
theorem handle_getCard (h : Settled s.world t) (hd : s.directory = some d) (hs : d.Shows t id p payload)
    (hw : payload.Whole) (hr : AsksCard r "GET" id) (now : String) :
    (s.handle now r).1 = .ok payload.encode ∧ s.world.Agrees (s.handle now r).2.world := by
  obtain ⟨w', e, ha⟩ := h.getCard_shown hs (some r.address)
  obtain ⟨hresponse, -, ha'⟩ := handle_read hd hr e now
  exact ⟨hresponse hw, ha.trans ha'⟩

/-- A failure to read the card is answered with its status. -/
theorem status_getCard (hd : s.directory = some d) (hr : AsksCard r "GET" id) (now : String) {f : Failure}
    (hf : ((CardService.get (d.collaborators (some r.address)) id).runOn s.world).1 = .error f) :
    (s.handle now r).1.status = Refusal.status (.failed f) := by
  have hrun := run_getCard (r := r) hd id
  dsimp only at hrun
  rw [hf] at hrun
  exact status_of_refused hr.path (s.step?_getCard hr) hrun

/-- If a request for a card is answered with success, then there are tables and something is shown, all texts of which
are whole. -/
theorem shown_of_answered (h : Stocked s.world) (hr : AsksCard r "GET" id) {now : String}
    (hok : (s.handle now r).1.status = 200) :
    ∃ d t p payload, s.directory = some d ∧ Settled s.world t ∧ d.Shows t id p payload ∧ payload.Whole := by
  have hno : ¬IsError (s.handle now r).1.status := by
    rw [hok]
    decide
  cases hd : s.directory with
  | none =>
    have hrun : (ExceptT.run (s.getCard r id)).run s.world =
        (.error (.failed (Failure.of (.initialization "SMP managers are not initialized"))), s.world) := by
      rw [getCard, collaborators_eq, hd]
      rfl
    rw [status_of_refused hr.path (s.step?_getCard hr) hrun] at hno
    exact absurd (by decide : IsError 500) hno
  | some d =>
    have herror : ∀ f, ((CardService.get (d.collaborators (some r.address)) id).runOn s.world).1 = .error f →
        ¬IsError (Refusal.failed f).status := fun f hf => s.status_getCard hd hr now hf ▸ hno
    rcases h.tables with hw | ⟨t, h⟩
    · obtain ⟨f, hf, hstatus⟩ := getCard_blank d (some r.address) id hw
      exact absurd hstatus (herror f hf)
    · rcases h.shown_or_error d (some r.address) id with ⟨p, payload, hs⟩ | ⟨f, hf, hstatus⟩
      · refine ⟨d, t, p, payload, rfl, h, hs, Decidable.byContradiction fun hw => ?_⟩
        obtain ⟨w', e, -⟩ := h.getCard_shown hs (some r.address)
        rw [(handle_read hd hr e now).2.1 hw] at hno
        exact hno (by decide : IsError 500)
      · exact absurd hstatus (herror f hf)

/-! ## Storing -/

/-- What a request asks to be stored, and in which directory. -/
structure Submission where
  directory : Directory
  credentials : Option Credentials
  payload : CardPayload

/-- The payload in the content of a body, if the content is accepted. -/
def payload? : Option Json → Option CardPayload
  | some .null => none
  | some v => (CardPayload.decode v).toOption
  | none => none

/-- What a request to store a card asks for, if its body is accepted, its credentials are well-formed and there is a
directory. -/
def submission? (s : Server) (r : Request) : Option Submission := do
  let content ← content? r
  let credentials ← credentials? r
  let d ← s.directory
  let payload ← payload? content
  return ⟨d, credentials, payload⟩

/-- The fault of a card that could not be stored. -/
def notStored (id : String) : Fault where
  cause := .storeFailure CardOperation.create.name
  context := { operation := CardOperation.create.name, serviceGroupId := id }

/-- Stores what is asked for. -/
def submit (r : Request) (id : String) (q : Submission) : Action Database Response := do
  match ← CardService.create (q.directory.collaborators (some r.address)) id q.payload q.credentials with
  | .success => return .ok (outcomeDocument .success)
  | .failure => throw (.fault (notStored id))

theorem payload?_of_ne {v : Json} (h : v ≠ .null) : payload? (some v) = (CardPayload.decode v).toOption := by
  cases v with
  | null => exact absurd rfl h
  | _ => rfl

theorem cardPayload_of_ne {v : Json} (h : v ≠ .null) : cardPayload (some v) = accept (CardPayload.decode v) := by
  cases v with
  | null => exact absurd rfl h
  | _ => rfl

theorem settles_cardPayload {kind : Refusal → Prop} (he : ∀ refusal : Refusal, refusal.Early → kind refusal)
    (content : Option Json) : (cardPayload content).Settles kind (payload? content) := by
  cases content with
  | none => exact ⟨_, rfl, he _ (.violations _)⟩
  | some v =>
    by_cases hv : v = .null
    · subst hv
      exact ⟨_, rfl, he _ (.violations _)⟩
    · rw [cardPayload_of_ne hv, payload?_of_ne hv]
      cases CardPayload.decode v with
      | accepted payload => rfl
      | refused vs => exact ⟨_, rfl, he _ (.violations (Http.Detail.ofViolations vs))⟩

/-- What is asked for is stored, unless the request is refused before. -/
theorem putCard_leads {kind : Refusal → Prop} (hs : s.Refuses kind) (r : Request) (id : String) :
    (s.putCard r id).Leads kind (fun q => Step.ofAction (submit r id q)) (s.submission? r) :=
  (settles_readContent hs.early r).bind fun content => (settles_readCredentials hs.early r).bind fun _ =>
    withCollaborators_leads hs r fun _ => (settles_cardPayload hs.early content).bind fun _ => rfl

/-- A request with an accepted payload and credentials asks for the payload to be stored. -/
theorem submission?_of_accepted {v : Json} {c : Credentials} (hd : s.directory = some d)
    (hcontent : r.content = .document v) (hv : CardPayload.decode v = .accepted payload)
    (hc : r.presented = .credentials c) : s.submission? r = some ⟨d, some c, payload⟩ := by
  have hne : v ≠ .null := fun he => by
    rw [he] at hv
    cases hv
  rw [submission?, content?, hcontent, credentials?, hc, hd]
  show (payload? (some v) >>= _) = _
  rw [payload?_of_ne hne, hv]
  rfl

theorem run_putCard {v : Json} {c : Credentials} {w' : World Database} (hd : s.directory = some d)
    (hcontent : r.content = .document v) (hv : CardPayload.decode v = .accepted payload)
    (hc : r.presented = .credentials c)
    (he : (CardService.create (d.collaborators (some r.address)) id payload (some c)).runOn s.world =
      (.ok .success, w')) :
    (ExceptT.run (s.putCard r id)).run s.world = (.ok (.ok (outcomeDocument .success)), w') := by
  have hleads := putCard_leads (refuses_early hd) r id
  rw [submission?_of_accepted hd hcontent hv hc] at hleads
  rw [show s.putCard r id = _ from hleads, Step.run_ofAction, submit, Action.runOn_bind, he]
  rfl

/-- The outcome of storing a card is what a call to store it ends with. -/
theorem runOn_create {c : Collaborators Database} {credentials : Option Credentials} {o : Outcome}
    (e : (((Call.createCard id payload credentials).perform c).runOn w).1 = .ok (.outcome o)) :
    (CardService.create c id payload credentials).runOn w =
      (.ok o, (((Call.createCard id payload credentials).perform c).runOn w).2) := by
  rw [Call.perform, Action.runOn_map] at e ⊢
  obtain ⟨o', ho, he⟩ := ok_of_map e
  cases he
  exact Prod.ext ho rfl

/-- The request comes from the owner of the service group of the id. -/
def FromOwner (s : Server) (r : Request) (id : String) : Prop :=
  ∃ d c p g, s.directory = some d ∧ r.presented = .credentials c ∧ d.Owns s.world.state id c p g

/-- A request to store an accepted payload for the participant is answered with success if it comes from the owner. -/
theorem handle_putCard (h : Settled s.world t) (hd : s.directory = some d) {c : Credentials} {g : GroupRow}
    (ho : d.Owns t.database id c p g) (hcards : d.cardsEnabled = true) {v : Json}
    (hv : CardPayload.decode v = .accepted payload)
    (hq : d.addressing.create? payload.participant.scheme payload.participant.value = some p)
    (hr : AsksCard r "PUT" id) (hcontent : r.content = .document v) (hc : r.presented = .credentials c)
    (now : String) :
    let t' := t.putCard g.toGroup (numbered s.world.issued payload.entities)
    (s.handle now r).1 = .ok (outcomeDocument .success) ∧ Settled (s.handle now r).2.world t' ∧
      d.Shows t' id p ⟨p, payload.entities⟩ := by
  obtain ⟨e, ht, hshows⟩ := h.createCard_shown ho hcards hv hq (some r.address)
  rw [handle_of_ok hr.path (s.step?_putCard hr) (run_putCard hd hcontent hv hc (runOn_create e))]
  exact ⟨rfl, ht, hshows⟩

end Server

end ParticipantDirectory
