import ParticipantDirectory.Proofs.Identifier.Normal
import ParticipantDirectory.Proofs.Password
import ParticipantDirectory.Proofs.Server.Requests
import ParticipantDirectory.Proofs.Service.Order

/-!
# Registering a participant over HTTP

A request to register a participant is to be all or nothing (`AllOrNothing`): either it is answered with the document
of the new group, which is stored and which a following request for the group is answered with, or it is answered with
an error and nothing has changed. In every reached world a server keeps to this unless the document cannot be made
(`Overlong`): the group is stored before its document is made, a document takes 100 characters of a scheme and 500 of
a value, and the simple rule sets no such limit. `registration_outcome` says that this is the only exception, and that
then the group is stored but cannot be read (`HalfDone`).
-/

namespace ParticipantDirectory

/-! ## Documents of service groups -/

/-- The parts are no longer than a document of a service group takes. -/
structure Identifier.Fits (p : Identifier) : Prop where
  scheme : p.scheme.length ≤ 100
  value : p.value.length ≤ 500

instance (p : Identifier) : Decidable p.Fits :=
  decidable_of_iff (p.scheme.length ≤ 100 ∧ p.value.length ≤ 500) ⟨fun h => ⟨h.1, h.2⟩, fun h => ⟨h.1, h.2⟩⟩

namespace Addressing

theorem ne_empty_of_accepted {rule : Addressing} {s : String}
    (h : rule.acceptsScheme s = true ∨ rule.acceptsValue s = true) : s ≠ "" := by
  cases rule with
  | simple => simpa [acceptsScheme, acceptsValue] using h
  | peppol =>
    rcases h with h | h
    · simp only [acceptsScheme, Bool.and_eq_true, decide_eq_true_eq] at h
      exact h.1.1
    · simp only [acceptsValue, Bool.and_eq_true, decide_eq_true_eq] at h
      exact h.1.1.1

/-- The PEPPOL rule accepts nothing that is too long for a document. -/
theorem fits_of_peppol {raw : String} {p : Identifier} (h : peppol.parse? raw = some p) : p.Fits := by
  obtain ⟨parts, -, hc⟩ := Option.bind_eq_some_iff.1 h
  obtain ⟨-, hs, hv⟩ := Identifier.of_create? hc
  simp only [acceptsScheme, acceptsValue, Bool.and_eq_true, decide_eq_true_eq] at hs hv
  exact ⟨Nat.le_trans hs.1.2 (by decide), Nat.le_trans hv.1.1.2 (by decide)⟩

end Addressing

namespace Identifier

theorem Canonical.check_accepted {p : Identifier} (hp : p.Canonical) (h : p.Fits) : p.check = .accepted p := by
  obtain ⟨rule, raw, hp⟩ := hp
  obtain ⟨parts, -, hc⟩ := Option.bind_eq_some_iff.1 hp
  obtain ⟨-, hs, hv⟩ := of_create? hc
  have hscheme := length_pos (Addressing.ne_empty_of_accepted (.inl hs))
  have hvalue := length_pos (Addressing.ne_empty_of_accepted (.inr hv))
  exact Identifier.check_accepted (TextRule.filled_accepted hscheme h.scheme) (TextRule.filled_accepted hvalue h.value)

theorem fits_of_check {p q : Identifier} (h : p.check = .accepted q) : p.Fits := by
  obtain ⟨g, value, hg, hv, -⟩ := Verdict.seq_accepted h
  obtain ⟨scheme, hs, -⟩ := Verdict.map_accepted hg
  have hs := TextRule.check_accepted (Verdict.under_accepted hs)
  have hv := TextRule.check_accepted (Verdict.under_accepted hv)
  exact ⟨(TextRule.length_of_filled hs.2).2, (TextRule.length_of_filled hv.2).2⟩

theorem check_refused {p : Identifier} (h : ¬p.Fits) : ∃ vs, p.check = .refused vs := by
  cases hc : p.check with
  | accepted q => exact absurd (fits_of_check hc) h
  | refused vs => exact ⟨vs, rfl⟩

end Identifier

namespace Server

open Http (Request Response Target)

/-- The document of a service group. -/
def documentOf (p : Identifier) (extension : Option String) : Json :=
  (GroupPayload.mk p.key p (extension.map .whole)).encode

theorem groupDocument_fits {p : Identifier} (hp : p.Canonical) (h : p.Fits) (owner : UserId)
    (extension : Option String) :
    groupDocument ⟨p.key, p, owner, extension⟩ = pure (documentOf p extension) := by
  refine groupDocument_of_ok ?_
  rw [GroupPayload.ofGroup, hp.check_accepted h]
  rfl

theorem groupDocument_overlong {p : Identifier} (h : ¬p.Fits) (key : String) (owner : UserId)
    (extension : Option String) : ∃ vs, groupDocument ⟨key, p, owner, extension⟩ = throw (.invalid vs) := by
  obtain ⟨vs, hvs⟩ := Identifier.check_refused h
  refine ⟨vs, groupDocument_of_error ?_⟩
  rw [GroupPayload.ofGroup, hvs]
  rfl

/-! ## Creating a group -/

section

variable (d : Directory) (id : String) (credentials : Option Credentials) (extension : Option String)

/-- Without tables no user is known. -/
theorem registerGroup_blank : ∃ f, d.registerGroup id credentials extension .blank = .error f ∧
    IsError (Refusal.failed f).status := by
  rw [Directory.registerGroup, Directory.named]
  cases d.addressing.parse? id with
  | none => exact ⟨_, rfl, (by decide : IsError 400)⟩
  | some p =>
    cases credentials with
    | none => exact ⟨_, rfl, (by decide : IsError 401)⟩
    | some c => exact ⟨_, rfl, (by decide : IsError 503)⟩

theorem not_passes_blank : ¬(Call.createGroup id credentials extension).Passes d .blank := by
  intro h
  have hknown := h .known (List.mem_of_elem_eq_true rfl)
  cases credentials <;> cases hknown

/-- How the creation of a group may end: a check is not passed and nothing changes, or all are and there is a new
group. -/
inductive Created (w : World Database) : Except Failure ServiceGroup → World Database → Prop where
  | refused {f : Failure} {w' : World Database} (hf : IsError (Refusal.failed f).status) (ha : w.Agrees w')
    (hc : ¬(Call.createGroup id credentials extension).Passes d w.state) :
    Created w (.error f) w'
  | stored {p : Identifier} {owner : UserId} {w' : World Database} (hp : d.addressing.parse? id = some p)
    (hnew : w.state.groupNamed p = none)
    (hrow : w'.state.groupNamed p = some ⟨p.key, p.scheme, p.value, owner, extension⟩)
    (hc : (Call.createGroup id credentials extension).Passes d w.state) :
    Created w (.ok ⟨p.key, p, owner, extension⟩) w'

theorem created_of_reached {w : World Database} (h : Reached w) (uri : Option String) :
    ∃ result w', (GroupService.create (d.collaborators uri) id credentials extension).runOn w = (result, w') ∧
      Created d id credentials extension w result w' := by
  obtain ⟨w', e, ha⟩ := d.changes_createGroup uri id credentials extension w
  refine ⟨_, w', e, ?_⟩
  dsimp only at ha ⊢
  rcases h.tables with hw | ⟨t, hw, hi, hn⟩
  · obtain ⟨f, hf, hs⟩ := registerGroup_blank d id credentials extension
    rw [hw, hf] at ha ⊢
    exact .refused ((Refusal.status_report _ f).symm ▸ hs) ha (hw ▸ not_passes_blank d id credentials extension)
  · have hdecides := (decides_registerGroup (d := d) hi.toLinked hn id credentials extension).cases
    rw [hw] at ha ⊢
    rcases hdecides with ⟨c, hm, hfails, hr⟩ | ⟨hpass, q, hr, p, u, hp, -, hg, rfl⟩
    · rw [hr] at ha ⊢
      have hstatus := Check.status_cause d (.createGroup id credentials extension) c
      refine .refused ⟨hstatus.1, Int.lt_trans hstatus.2 (by decide)⟩ ha fun hpass => ?_
      rw [hw] at hpass
      exact Bool.false_ne_true (hfails.symm.trans (hpass c hm))
    · rw [hr] at ha ⊢
      let row : GroupRow := ⟨p.key, p.scheme, p.value, u.id, extension⟩
      have hrow : (t.addGroup row).group? row.id = some row := Tables.group?_addGroup hg
      refine .stored hp (hw ▸ hg) ?_ (hw ▸ hpass)
      rw [ha.state]
      exact hrow

end

/-! ## Answers to requests -/

/-- The response with the document of a group and a status, or to the failure to make it. -/
def documented (status : Int) (p : Identifier) (extension : Option String) : Response :=
  if p.Fits then ⟨status, some (documentOf p extension), []⟩ else .unexpected

/-- Every request for the group of an id is answered with a response. -/
def Answers (s : Server) (id : String) (response : Response) : Prop :=
  ∀ now r, Asks r "GET" id → (s.handle now r).1 = response

/-- An operation that ends with a group is answered with the document of the group. -/
theorem respond_documented {s : Server} (now : String) {r : Request} {target : Target} {status : Int}
    {a : Action Database ServiceGroup} (ht : Target.ofPath? r.path = some target)
    (hs : s.step? r target = some (Step.ofAction do
      let g ← a
      return ⟨status, some (← groupDocument g), []⟩))
    {w w' : World Database} {p : Identifier} (hp : p.Canonical) {owner : UserId} {extension : Option String}
    (ha : a.runOn w = (.ok ⟨p.key, p, owner, extension⟩, w')) :
    ∃ w'', (s.respond now r).run w = (documented status p extension, w'') ∧ w'.Agrees w'' := by
  rw [respond_of_step ht hs, Step.run_ofAction, Action.runOn_bind, ha, documented]
  dsimp only
  by_cases hfits : p.Fits
  · rw [groupDocument_fits hp hfits, if_pos hfits]
    exact ⟨w', rfl, .refl w'⟩
  · obtain ⟨vs, hvs⟩ := groupDocument_overlong hfits p.key owner extension
    rw [hvs, if_neg hfits]
    exact ⟨_, rfl, refuse_agrees now r (.failed (.invalid vs)) w'⟩

/-- A group that is there is what requests for it are answered with. -/
theorem answers_of_group {s : Server} (h : Reached s.world) {d : Directory} (hd : s.directory = some d) {id : String}
    {p : Identifier} (hp : d.addressing.parse? id = some p) {owner : UserId} {extension : Option String}
    (hrow : s.world.state.groupNamed p = some ⟨p.key, p.scheme, p.value, owner, extension⟩) :
    s.Answers id (documented 200 p extension) := by
  intro now r hr
  have hstep : s.step? r (.group id) = some (Step.ofAction do
      let g ← GroupService.get (d.collaborators (some r.address)) id
      return ⟨200, some (← groupDocument g), []⟩) := by
    rw [s.step?_get hr, getGroup, collaborators_eq, hd]
    rfl
  obtain ⟨w', e, -⟩ := d.reads_getGroup (some r.address) id s.world
  have hget : (GroupService.get (d.collaborators (some r.address)) id).runOn s.world =
      (.ok ⟨p.key, p, owner, extension⟩, w') := by
    rw [e]
    rcases h.tables with hw | ⟨t, hw, hi, hn⟩
    · rw [hw] at hrow
      cases hrow
    · rw [hw] at hrow ⊢
      have hg : t.group? p.key = some ⟨p.key, p.scheme, p.value, owner, extension⟩ := hrow
      dsimp only
      rw [Directory.readGroup_database hi.toLinked hn hp, hg]
      rfl
  obtain ⟨w'', e', -⟩ := respond_documented now hr.path hstep ⟨d.addressing, id, hp⟩ hget
  exact congrArg Prod.fst e'

/-! ## Registering -/

/-- A request to register a participant is carried out: it is answered with the document of the new group, which is
stored, and which a following request for the group is answered with. -/
def CarriedOut (s : Server) (now : String) (put : Request) (id : String) : Prop :=
  ∃ q p owner, s.registration? put = some q ∧ q.directory.addressing.parse? id = some p ∧
    (s.handle now put).1 = ⟨201, some (documentOf p q.extension), []⟩ ∧
    (s.handle now put).2.world.state.groupNamed p = some ⟨p.key, p.scheme, p.value, owner, q.extension⟩ ∧
    (s.handle now put).2.Answers id (.ok (documentOf p q.extension))

/-- A request to register a participant is carried out or refused. -/
def AllOrNothing (s : Server) (now : String) (put : Request) (id : String) : Prop :=
  s.CarriedOut now put id ∨ s.Refused now put

/-- A request to register a participant is carried out by half, under the simple rule: the new group is stored, but the
request, like a following request for the group, is answered with an unexpected failure. -/
def HalfDone (s : Server) (now : String) (put : Request) (id : String) : Prop :=
  ∃ q p owner, s.registration? put = some q ∧ q.directory.addressing = .simple ∧
    q.directory.addressing.parse? id = some p ∧ s.world.state.groupNamed p = none ∧ (s.handle now put).1 = .unexpected ∧
    (s.handle now put).2.world.state.groupNamed p = some ⟨p.key, p.scheme, p.value, owner, q.extension⟩ ∧
    (s.handle now put).2.Answers id .unexpected

/-- A request asks to register a participant whose parts are too long for a document, and nothing else stands against
it. -/
def Overlong (s : Server) (put : Request) (id : String) : Prop :=
  ∃ q p, s.registration? put = some q ∧ q.directory.addressing.parse? id = some p ∧ ¬p.Fits ∧
    (q.call id).Passes q.directory s.world.state

theorem HalfDone.not_allOrNothing {s : Server} {now : String} {put : Request} {id : String}
    (h : s.HalfDone now put id) : ¬s.AllOrNothing now put id := by
  obtain ⟨q, p, owner, -, -, -, hnew, hresponse, hrow, -⟩ := h
  rintro (⟨_, _, _, -, -, hcreated, -⟩ | ⟨-, hsame⟩)
  · rw [hresponse] at hcreated
    cases hcreated
  · rw [hsame, hnew] at hrow
    cases hrow

/-- A request to register a participant is refused, and is not one that passes all checks; or it passes all, and the
group is stored and answered with as far as its document can be made. -/
theorem handle_put {s : Server} (h : Reached s.world) (now : String) {put : Request} {id : String}
    (hput : Asks put "PUT" id) :
    s.Refused now put ∧ (∀ q, s.registration? put = some q → ¬(q.call id).Passes q.directory s.world.state) ∨
      ∃ q p owner, s.registration? put = some q ∧ q.directory.addressing.parse? id = some p ∧
        (q.call id).Passes q.directory s.world.state ∧ s.world.state.groupNamed p = none ∧
        (s.handle now put).1 = documented 201 p q.extension ∧
        (s.handle now put).2.world.state.groupNamed p = some ⟨p.key, p.scheme, p.value, owner, q.extension⟩ ∧
        (s.handle now put).2.Answers id (documented 200 p q.extension) := by
  have hstep := s.step?_put hput
  have hleads := putGroup_leads s.refuses_isError put id
  cases hq : s.registration? put with
  | none =>
    rw [hq] at hleads
    obtain ⟨refusal, hthrow, herror⟩ := hleads
    rw [hthrow] at hstep
    exact .inl ⟨refused_of_step hput.path hstep rfl herror (.refl _), fun q hq => by cases hq⟩
  | some q =>
    rw [hq] at hleads
    rw [show s.putGroup put id = Step.ofAction (register put id q) from hleads] at hstep
    obtain ⟨result, w', e, hc⟩ := created_of_reached q.directory id q.credentials q.extension h (some put.address)
    cases hc with
    | refused hf ha hc =>
      refine .inl ⟨refused_of_step hput.path hstep ?_ hf ha, fun q' hq' => ?_⟩
      · rw [Step.run_ofAction, register, Action.runOn_bind, e]
        rfl
      · cases hq'
        exact hc
    | @stored p owner w' hp hnew hrow hc =>
      obtain ⟨w'', e', ha⟩ := respond_documented now hput.path hstep ⟨_, id, hp⟩ e
      have hrow' : (s.handle now put).2.world.state.groupNamed p =
          some ⟨p.key, p.scheme, p.value, owner, q.extension⟩ := by
        show ((s.respond now put).run s.world).2.state.groupNamed p = _
        rw [e', ha.state]
        exact hrow
      exact .inr ⟨q, p, owner, rfl, hp, hc, hnew, congrArg Prod.fst e', hrow',
        answers_of_group (reached_handle h now put) (directory_of_registration? hq) hp hrow'⟩

theorem halfDone_of_overlong {s : Server} (h : Reached s.world) (now : String) {put : Request} {id : String}
    (hput : Asks put "PUT" id) (ho : s.Overlong put id) : s.HalfDone now put id := by
  obtain ⟨q, p, hq, hp, hfits, hpass⟩ := ho
  rcases s.handle_put h now hput with ⟨-, hchecks⟩ | ⟨q', p', owner, hq', hp', -, hnew, hresponse, hrow, hget⟩
  · exact absurd hpass (hchecks q hq)
  · cases hq.symm.trans hq'
    cases hp.symm.trans hp'
    rw [documented, if_neg hfits] at hresponse hget
    refine ⟨q, p, owner, hq, ?_, hp, hnew, hresponse, hrow, hget⟩
    cases hrule : q.directory.addressing with
    | simple => rfl
    | peppol =>
      rw [hrule] at hp
      exact absurd (Addressing.fits_of_peppol hp) hfits

/-- In every reached world, a request to register a participant is carried out or refused, unless it passes all checks
for a participant whose parts are too long for a document. Such a request is carried out by half. -/
theorem registration_outcome {s : Server} (h : Reached s.world) (now : String) {put : Request} {id : String}
    (hput : Asks put "PUT" id) :
    (¬s.Overlong put id → s.AllOrNothing now put id) ∧
      (s.Overlong put id → s.HalfDone now put id ∧ ¬s.AllOrNothing now put id) := by
  constructor
  · intro ho
    rcases s.handle_put h now hput with ⟨hrefused, -⟩ | ⟨q, p, owner, hq, hp, hpass, -, hresponse, hrow, hget⟩
    · exact .inr hrefused
    · have hfits : p.Fits := Decidable.not_not.1 fun hfits => ho ⟨q, p, hq, hp, hfits, hpass⟩
      rw [documented, if_pos hfits] at hresponse hget
      exact .inl ⟨q, p, owner, hq, hp, hresponse, hrow, hget⟩
  · intro ho
    have hhalf := halfDone_of_overlong h now hput ho
    exact ⟨hhalf, hhalf.not_allOrNothing⟩

/-! ## A participant that is too long -/

/-- A server under the simple rule with one user. -/
def annasServer : Server where
  settings := .default
  logging := .initial
  directory := some ⟨.simple, true, 1⟩
  connection := .open
  world := ((Deed.createUser 1 "anna" "secret").perform.runOn { state := .fresh }).2

/-- The user's request to register a participant. -/
def annasRequest (id : String) : Request where
  method := "PUT"
  path := Target.groupRoot ++ id
  query := ""
  headers := [("authorization", "Basic YW5uYTpzZWNyZXQ=")]
  body := ""

/-- A participant whose scheme has one character more than a document takes. -/
def overlong : Identifier :=
  ⟨String.ofList (List.replicate 101 'a'), "b"⟩

theorem reached_annasServer : Reached annasServer.world :=
  (Reached.fresh { state := .fresh }).deed (.createUser 1 "anna" "secret")

theorem userNamed_annasServer : annasServer.world.state.userNamed "anna" =
    some ⟨.issued 0, "anna", Password.hash 1 (List.replicate 16 0) "secret"⟩ := rfl

theorem registration?_annasRequest (id : String) : annasServer.registration? (annasRequest id) =
    some ⟨⟨.simple, true, 1⟩, some ⟨"anna", "secret"⟩, none⟩ := by
  have hpresented : (annasRequest id).presented = .credentials ⟨"anna", "secret"⟩ := by
    show (annasRequest "").presented = _
    decide +kernel
  rw [registration?, credentials?, hpresented]
  rfl

/-- Whatever the user asks to be registered first passes all checks. -/
theorem passes_annasRequest {id : String} {p : Identifier} (hp : Addressing.simple.parse? id = some p) :
    (Call.createGroup id (some ⟨"anna", "secret"⟩) none).Passes ⟨.simple, true, 1⟩ annasServer.world.state := by
  intro c hc
  have hc : c ∈ [Check.names, .presented, .known, .password, .vacant] := hc
  simp only [List.mem_cons, List.not_mem_nil, or_false] at hc
  rcases hc with rfl | rfl | rfl | rfl | rfl
  · exact congrArg Option.isSome hp
  · rfl
  · rfl
  · rw [Check.holds, Call.credentials, Option.any_some, userNamed_annasServer, Option.any_some]
    exact Password.verify_hash_self 1 (List.replicate 16 0) "secret"
  · show (Addressing.simple.parse? id).any _ = true
    rw [hp]
    rfl

/-- A participant that is not too long is registered for the user. -/
theorem registration_outcome_of_anna :
    Reached annasServer.world ∧ Asks (annasRequest "a::b") "PUT" "a::b" ∧
      ¬annasServer.Overlong (annasRequest "a::b") "a::b" ∧
      annasServer.AllOrNothing "" (annasRequest "a::b") "a::b" := by
  have hput : Asks (annasRequest "a::b") "PUT" "a::b" := ⟨rfl, Target.ofPath?_group (by decide) (by decide)⟩
  have hfits : ¬annasServer.Overlong (annasRequest "a::b") "a::b" := by
    rintro ⟨q, p, hq, hp, hfits, -⟩
    cases hq.symm.trans (registration?_annasRequest "a::b")
    have hparse : Addressing.simple.parse? "a::b" = some ⟨"a", "b"⟩ := by decide +kernel
    cases hp.symm.trans hparse
    exact hfits (by decide)
  exact ⟨reached_annasServer, hput, hfits, (registration_outcome reached_annasServer "" hput).1 hfits⟩

/-- A participant that is too long is registered by half. -/
theorem registration_by_half :
    Reached annasServer.world ∧ Asks (annasRequest overlong.key) "PUT" overlong.key ∧
      ¬annasServer.AllOrNothing "" (annasRequest overlong.key) overlong.key := by
  have hscheme : overlong.scheme.toList = List.replicate 101 'a' := String.toList_ofList
  have hchars : overlong.key.toList = List.replicate 101 'a' ++ ':' :: ':' :: ['b'] := by
    rw [Identifier.toList_key, hscheme]
    rfl
  have hne : overlong.key ≠ "" := by
    intro he
    rw [he] at hchars
    cases hchars
  have hput : Asks (annasRequest overlong.key) "PUT" overlong.key :=
    ⟨rfl, Target.ofPath?_group hne (by rw [hchars]; decide)⟩
  have hparse : Addressing.simple.parse? overlong.key = some overlong := by
    rw [Addressing.parse?, Identifier.split?_of_no_colon (by rw [hscheme]; decide)]
    rfl
  have hlong : annasServer.Overlong (annasRequest overlong.key) overlong.key :=
    ⟨_, _, registration?_annasRequest _, hparse, by decide, passes_annasRequest hparse⟩
  exact ⟨reached_annasServer, hput, (halfDone_of_overlong reached_annasServer "" hput hlong).not_allOrNothing⟩

end Server

end ParticipantDirectory
