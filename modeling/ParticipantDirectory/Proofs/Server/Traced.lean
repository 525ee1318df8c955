import ParticipantDirectory.Proofs.Framework.Endings
import ParticipantDirectory.Proofs.Server.Resubmission
import ParticipantDirectory.Proofs.Service.Atomicity
import ParticipantDirectory.Proofs.Service.Counters

/-!
# Faults that can be traced

The document of a fault says in which operation, for which id, and in which request it arose. The operations of a
directory report their faults from blocks that put all three into the context (`GroupService.ends_get` and the like),
and a response whose body is the document of a fault has it from there (`traced_of_leads`). One fault has another
origin: a card that passes all checks and cannot be stored is an outcome of the operation, not a fault, and the fault is
made for the response, with the operation and the id, but without the address (`notStored`). `faults_traced` says that
this is the only exception.
-/

namespace ParticipantDirectory

open Action

variable {d : Directory} {uri : String} {id : String} {P : Fault → Prop}

/-! ## Operations -/

namespace GroupService

theorem ends_begin {σ : Type} (operation : GroupOperation) (request : String) :
    (begin operation request : Action σ Unit).Ends (fun _ => True) P :=
  (ends_note _).seq (ends_count _ _)

theorem ends_get : (get (d.collaborators uri) id).Ends (fun _ => True)
    (Fault.Traced GroupOperation.get.name id uri) :=
  (ends_begin _ _).seq (((ends_somehow _).block rfl).bind fun _ _ => (ends_count _ _).seq (ends_pure trivial))

theorem ends_create (credentials : Option Credentials) (extension : Option String) :
    (create (d.collaborators uri) id credentials extension).Ends (fun _ => True)
      (Fault.Traced GroupOperation.create.name id uri) :=
  (ends_begin _ _).seq (((ends_somehow _).block rfl).bind fun _ _ => (ends_count _ _).seq (ends_pure trivial))

theorem ends_delete (credentials : Option Credentials) : (delete (d.collaborators uri) id credentials).Ends
    (fun _ => True) (Fault.Traced GroupOperation.delete.name id uri) :=
  (ends_begin _ _).seq (((ends_somehow _).block rfl).seq ((ends_count _ _).seq (ends_pure trivial)))

end GroupService

/-- What the database cannot do when a card is stored is no fault. -/
theorem Cards.ends_put (group : ServiceGroup) (entities : List StoredEntity) :
    (put group entities).Ends (fun _ => True) P := by
  refine (changes_put group entities).ends_as fun db => ?_
  obtain ⟨q, h⟩ := stored_ok group entities db
  rw [h]
  exact trivial

namespace CardService

theorem ends_begin {σ : Type} (operation : CardOperation) (id request : String) :
    (begin operation id request : Action σ Unit).Ends (fun _ => True) P :=
  (ends_note _).seq (ends_count _ _)

theorem ends_succeed {σ : Type} (operation : CardOperation) (id message : String) :
    (succeed operation id message : Action σ Unit).Ends (fun _ => True) P :=
  (ends_note _).seq (ends_count _ _)

theorem ends_get : (get (d.collaborators uri) id).Ends (fun _ => True)
    (Fault.Traced CardOperation.get.name id uri) := by
  refine (ends_begin _ _ _).seq (((ends_somehow _).block rfl).bind fun card _ => (ends_succeed _ _ _).seq ?_)
  cases CardPayload.ofCard card with
  | ok payload => exact ends_pure trivial
  | error violations => exact ends_invalid violations

theorem ends_delete (credentials : Option Credentials) : (delete (d.collaborators uri) id credentials).Ends
    (fun _ => True) (Fault.Traced CardOperation.delete.name id uri) :=
  (ends_begin _ _ _).seq (((ends_somehow _).block rfl).seq ((ends_succeed _ _ _).seq (ends_pure trivial)))

/-- The store of a directory is the one over its database. -/
theorem ends_requireCards : (d.collaborators uri).requireCards.Ends (· = Directory.cardStore) (fun _ => True) := by
  rw [Directory.requireCards_eq]
  cases d.cardsEnabled with
  | true => exact ends_pure rfl
  | false => exact fun _ => trivial

/-- Storing ends with an outcome or in the block of the checks: numbers are drawn without fail, and what the database
cannot do is an outcome. -/
theorem ends_create (payload : CardPayload) (credentials : Option Credentials) :
    (create (d.collaborators uri) id payload credentials).Ends (fun _ => True)
      (Fault.Traced CardOperation.create.name id uri) := by
  have hchecks : (do
      let p ← (d.collaborators uri).parse id
      requireSameParticipant (d.collaborators uri) p payload
      let group ← (d.collaborators uri).requireGroup id p
      let _ ← (d.collaborators uri).requireOwner p credentials
      let store ← (d.collaborators uri).requireCards
      return (group, store) : Action Database _).Ends (fun q => q.2 = Directory.cardStore) (fun _ => True) :=
    (ends_somehow _).bind fun _ _ => (ends_somehow _).seq ((ends_somehow _).bind fun _ _ =>
      (ends_somehow _).seq (ends_requireCards.bind fun _ h => ends_pure h))
  refine (ends_begin _ _ _).seq ((hchecks.block rfl).bind ?_)
  rintro ⟨group, store⟩ rfl
  refine Ends.bind (Q := fun _ => True) (fun w => ?_) fun entities _ => (Cards.ends_put group entities).bind ?_
  · rw [runOn_issueAll]
    exact trivial
  · rintro (_ | _) -
    · exact (ends_note _).seq ((ends_count _ _).seq (ends_pure trivial))
    · exact (ends_succeed _ _ _).seq (ends_pure trivial)

end CardService

namespace Operation

open Http (Target)

/-- The method of the requests for an operation. -/
def method : Operation → String
  | group .get | card .get => "GET"
  | group .create | card .create => "PUT"
  | group .delete | card .delete => "DELETE"

/-- The resource with which an operation is concerned. -/
def target (id : String) : Operation → Target
  | group _ => .group id
  | card _ => .card id

end Operation

/-! ## Documents of faults -/

/-- The document is not that of a fault. -/
def Json.Faultless (v : Json) : Prop :=
  ∀ f now, v ≠ Fault.envelope now f

theorem Json.faultless_obj {name : String} {v : Json} {rest : List (String × Json)} (h : name ≠ "error") :
    (Json.obj ((name, v) :: rest)).Faultless := by
  intro f now he
  simp only [Fault.envelope, Json.obj.injEq, List.cons.injEq, Prod.mk.injEq] at he
  exact h he.1.1

/-- Documents of faults that are the same have the same context. -/
theorem Fault.context_of_envelope {f g : Fault} {now now' : String} (h : f.envelope now = g.envelope now') :
    f.context.operation = g.context.operation ∧ f.context.serviceGroupId = g.context.serviceGroupId ∧
      f.context.requestUri = g.context.requestUri := by
  simp only [Fault.envelope, FaultContext.encode, Json.obj.injEq, List.cons.injEq, Prod.mk.injEq, true_and,
    and_true] at h
  obtain ⟨-, -, -, -, -, hcontext⟩ := h
  exact hcontext

namespace Http.Response

/-- The body is not the document of a fault. -/
def Faultless (response : Response) : Prop :=
  ∀ v, response.body = some v → v.Faultless

/-- If the body is the document of a fault, the fault is traced. -/
def Traced (operation id uri : String) (response : Response) : Prop :=
  ∀ f now, response.body = some (Fault.envelope now f) → f.Traced operation id uri

theorem Faultless.traced {response : Response} (h : response.Faultless) (operation id uri : String) :
    response.Traced operation id uri :=
  fun f now hb => absurd rfl (h _ hb f now)

theorem traced_ofFault {operation : String} {f : Fault} (h : f.Traced operation id uri) (now : String) :
    (ofFault now f).Traced operation id uri := by
  intro g now' hb
  obtain ⟨ho, hi, hu⟩ := Fault.context_of_envelope (Option.some.inj hb)
  exact ⟨ho ▸ h.operation, hi ▸ h.serviceGroupId, hu ▸ h.requestUri⟩

theorem faultless_of_body {response : Response} {v : Json} (hb : response.body = some v) (h : v.Faultless) :
    response.Faultless := by
  intro v' hb'
  cases hb.symm.trans hb'
  exact h

/-- The document of a failure that is not a fault has no context and no moment. -/
theorem faultless_envelope {code message : String} {category : Category} {severity : Severity}
    {more : List (String × Json)} (h : more.length < 2) : (envelope code message category severity more).Faultless := by
  intro f now he
  simp only [envelope, Fault.envelope, Json.obj.injEq, List.cons.injEq, Prod.mk.injEq] at he
  have hl := congrArg List.length he.1.2
  simp only [List.length_append, List.length_cons, List.length_nil] at hl
  omega

theorem faultless_unexpected : unexpected.Faultless := by
  refine faultless_of_body rfl (faultless_envelope ?_)
  exact Nat.zero_lt_two

end Http.Response

namespace Server

open Http (Request Response Target)

variable {s : Server} {r : Request}

/-- What is refused early is not answered with the document of a fault. -/
theorem faultless_of_early (now : String) (r : Request) {refusal : Refusal} (h : refusal.Early) (w : World Database) :
    ((refuse now r refusal).run w).1.Faultless := by
  cases h with
  | body => exact Response.faultless_of_body rfl (Json.faultless_obj (by decide))
  | credentials => exact Response.faultless_of_body rfl (Json.faultless_obj (by decide))
  | violations details => exact Response.faultless_of_body rfl (Response.faultless_envelope Nat.one_lt_two)

theorem ends_groupDocument (g : ServiceGroup) : (groupDocument g).Ends Json.Faultless P := by
  cases h : GroupPayload.ofGroup g with
  | ok p =>
    rw [groupDocument_of_ok h]
    exact ends_pure (Json.faultless_obj (by decide))
  | error vs =>
    rw [groupDocument_of_error h]
    exact ends_invalid vs

theorem ends_collaborators {α : Type} {Q : α → Prop} {k : Collaborators Database → Action Database α}
    (hd : s.directory = some d) (hk : (k (d.collaborators (some r.address))).Ends Q P) :
    (s.collaborators r >>= k).Ends Q P := by
  rw [collaborators_eq, hd]
  exact hk

/-! ## Answers -/

/-- The request asks for an operation on the service group or the card of an id. -/
structure AsksFor (r : Request) (operation : Operation) (id : String) : Prop where
  method : r.method = operation.method
  path : Target.ofPath? r.path = some (operation.target id)

/-- The step of answering a request for an operation. -/
def answering (s : Server) (r : Request) (id : String) : Operation → Step Response
  | .group .get => s.getGroup r id
  | .group .create => s.putGroup r id
  | .group .delete => s.deleteGroup r id
  | .card .get => s.getCard r id
  | .card .create => s.putCard r id
  | .card .delete => s.deleteCard r id

theorem step?_answering (s : Server) {operation : Operation} (h : AsksFor r operation id) :
    s.step? r (operation.target id) = some (s.answering r id operation) := by
  have hm := h.method
  rcases operation with (_ | _ | _) | (_ | _ | _)
  all_goals simp [step?, answering, Operation.target, hm, Operation.method]

/-- A request is refused early, or an operation is called. If a fault with which that ends is traced, then so is what is
answered. -/
theorem traced_of_leads {operation : Operation} (hr : AsksFor r operation id) {β : Type}
    {next : β → Action Database Response} {o : Option β}
    (hl : (s.answering r id operation).Leads Refusal.Early (fun q => Step.ofAction (next q)) o)
    (hn : ∀ q, o = some q →
      EndsWith Response.Faultless (Fault.Traced operation.name id r.address) ((next q).runOn s.world).1)
    (now : String) : (s.handle now r).1.Traced operation.name id r.address := by
  show ((s.respond now r).run s.world).1.Traced _ _ _
  rw [respond_of_step hr.path (s.step?_answering hr)]
  cases o with
  | none =>
    obtain ⟨refusal, hthrow, hearly⟩ := hl
    rw [hthrow]
    exact (faultless_of_early now r hearly s.world).traced _ _ _
  | some q =>
    have hends := hn q rfl
    rw [show s.answering r id operation = Step.ofAction (next q) from hl, Step.run_ofAction]
    rcases hrun : (next q).runOn s.world with ⟨(f | vs | a) | response, w'⟩
    all_goals rw [hrun] at hends
    · exact Response.traced_ofFault hends now
    · exact Response.faultless_unexpected.traced _ _ _
    · exact Response.faultless_unexpected.traced _ _ _
    · exact Response.Faultless.traced hends _ _ _

/-- A request asks for a card to be stored that passes all checks, and the database cannot store it. -/
def Unstored (s : Server) (r : Request) (id : String) : Prop :=
  AsksFor r (.card .create) id ∧ ∃ q, s.submission? r = some q ∧
    ((CardService.create (q.directory.collaborators (some r.address)) id q.payload q.credentials).runOn s.world).1 =
      .ok .failure

/-- A card that is not stored is answered with a fault that does not say in which request it arose. -/
theorem handle_unstored {d : Directory} (hd : s.directory = some d) (now : String) (h : s.Unstored r id) :
    (s.handle now r).1 = .ofFault now (notStored id) := by
  obtain ⟨hr, q, hq, hfailure⟩ := h
  have hleads := putCard_leads (refuses_early hd) r id
  rw [hq] at hleads
  have hstep : s.answering r id (.card .create) = Step.ofAction (submit r id q) := hleads
  show ((s.respond now r).run s.world).1 = _
  rw [respond_of_step hr.path (s.step?_answering hr), hstep, Step.run_ofAction, submit, runOn_bind]
  rcases hrun : (CardService.create (q.directory.collaborators (some r.address)) id q.payload q.credentials).runOn s.world
    with ⟨result, w'⟩
  rw [hrun] at hfailure
  obtain rfl : result = .ok .failure := hfailure
  rfl

theorem not_traced_notStored (now : String) (operation uri : String) :
    ¬(Response.ofFault now (notStored id)).Traced operation id uri := by
  intro h
  have huri := (h (notStored id) now rfl).requestUri
  cases huri

section

variable {d : Directory} (hd : s.directory = some d)
include hd

theorem traced_getGroup (hr : AsksFor r (.group .get) id) (now : String) :
    (s.handle now r).1.Traced GroupOperation.get.name id r.address := by
  have hl : (s.getGroup r id).Leads Refusal.Early (fun _ : Unit => Step.ofAction do
      let c ← s.collaborators r
      return .ok (← groupDocument (← GroupService.get c id))) (some ()) := rfl
  refine traced_of_leads hr hl (fun _ _ => ?_) now
  exact ends_collaborators hd (GroupService.ends_get.bind fun g _ =>
    (ends_groupDocument g).bind fun v hv => ends_pure (Response.faultless_of_body rfl hv)) s.world

theorem traced_putGroup (hr : AsksFor r (.group .create) id) (now : String) :
    (s.handle now r).1.Traced GroupOperation.create.name id r.address := by
  refine traced_of_leads hr (putGroup_leads (refuses_early hd) r id) (fun q _ => ?_) now
  exact (GroupService.ends_create q.credentials q.extension).bind (fun g _ =>
    (ends_groupDocument g).bind fun v hv => ends_pure (Response.faultless_of_body rfl hv)) s.world

theorem traced_deleteGroup (hr : AsksFor r (.group .delete) id) (now : String) :
    (s.handle now r).1.Traced GroupOperation.delete.name id r.address := by
  have hl : (s.deleteGroup r id).Leads Refusal.Early (fun credentials => Step.ofAction do
      let c ← s.collaborators r
      return .ok (outcomeDocument (← GroupService.delete c id credentials))) ((credentials? r).bind some) :=
    (settles_readCredentials (refuses_early hd).early r).bind fun _ => rfl
  refine traced_of_leads hr hl (fun credentials _ => ?_) now
  exact ends_collaborators hd ((GroupService.ends_delete credentials).bind fun outcome _ =>
    ends_pure (Response.faultless_of_body rfl (Json.faultless_obj (by decide)))) s.world

omit hd in
theorem ends_cardResponse {P : Fault → Prop} (payload : CardPayload) :
    (cardResponse payload).Ends Response.Faultless P := by
  rw [cardResponse]
  split
  · exact ends_pure (Response.faultless_of_body rfl (Json.faultless_obj (by decide)))
  · exact fun _ => trivial

theorem traced_getCard (hr : AsksFor r (.card .get) id) (now : String) :
    (s.handle now r).1.Traced CardOperation.get.name id r.address := by
  have hl : (s.getCard r id).Leads Refusal.Early (fun _ : Unit => Step.ofAction do
      let c ← s.collaborators r
      cardResponse (← CardService.get c id)) (some ()) := rfl
  refine traced_of_leads hr hl (fun _ _ => ?_) now
  exact ends_collaborators hd (CardService.ends_get.bind fun payload _ => ends_cardResponse payload) s.world

/-- The outcome decides: what is stored is answered with a document, and what is not, with the one fault without an
address. -/
theorem traced_putCard (hr : AsksFor r (.card .create) id) (hstored : ¬s.Unstored r id) (now : String) :
    (s.handle now r).1.Traced CardOperation.create.name id r.address := by
  refine traced_of_leads hr (putCard_leads (refuses_early hd) r id) (fun q hq => ?_) now
  have hends : EndsWith (fun _ => True) (Fault.Traced CardOperation.create.name id r.address)
      ((CardService.create (q.directory.collaborators (some r.address)) id q.payload q.credentials).runOn s.world).1 :=
    CardService.ends_create q.payload q.credentials s.world
  rw [submit, runOn_bind]
  rcases hrun : (CardService.create (q.directory.collaborators (some r.address)) id q.payload q.credentials).runOn s.world
    with ⟨(f | vs | a) | outcome, w'⟩
  all_goals rw [hrun] at hends
  · exact hends
  · exact trivial
  · exact trivial
  · cases outcome with
    | success => exact Response.faultless_of_body rfl (Json.faultless_obj (by decide))
    | failure => exact absurd ⟨hr, q, hq, congrArg Prod.fst hrun⟩ hstored

theorem traced_deleteCard (hr : AsksFor r (.card .delete) id) (now : String) :
    (s.handle now r).1.Traced CardOperation.delete.name id r.address := by
  have hl : (s.deleteCard r id).Leads Refusal.Early (fun credentials => Step.ofAction do
      let c ← s.collaborators r
      return .ok (outcomeDocument (← CardService.delete c id credentials))) ((credentials? r).bind some) :=
    (settles_readCredentials (refuses_early hd).early r).bind fun _ => rfl
  refine traced_of_leads hr hl (fun credentials _ => ?_) now
  exact ends_collaborators hd ((CardService.ends_delete credentials).bind fun outcome _ =>
    ends_pure (Response.faultless_of_body rfl (Json.faultless_obj (by decide)))) s.world

end

/-- A server with a directory answers a request for an operation with the document of a fault only if the document says
which operation it was, for which id as it was given, and at which address, unless it is a request for a card to be
stored that passes all checks, where the database cannot store it. Then the document names the operation and the id,
but no address. -/
theorem faults_traced {d : Directory} (hd : s.directory = some d) (now : String) {operation : Operation}
    (hr : AsksFor r operation id) :
    (¬s.Unstored r id → (s.handle now r).1.Traced operation.name id r.address) ∧
      (s.Unstored r id → (s.handle now r).1 = .ofFault now (notStored id) ∧
        ¬(s.handle now r).1.Traced operation.name id r.address) := by
  refine ⟨fun hstored => ?_, fun h => ?_⟩
  · rcases operation with (_ | _ | _) | (_ | _ | _)
    · exact traced_getGroup hd hr now
    · exact traced_putGroup hd hr now
    · exact traced_deleteGroup hd hr now
    · exact traced_getCard hd hr now
    · exact traced_putCard hd hr hstored now
    · exact traced_deleteCard hd hr now
  · rw [handle_unstored hd now h]
    exact ⟨rfl, not_traced_notStored now _ _⟩

/-- A request for the card of a participant that is not registered is answered with a fault that is traced. -/
theorem faults_traced_of_anna :
    annasServer.directory = some annasDirectory ∧ AsksFor cardRequest (.card .get) "a::b" ∧
      ¬annasServer.Unstored cardRequest "a::b" ∧
      (∃ f, (annasServer.handle "" cardRequest).1 = .ofFault "" f) ∧
      (annasServer.handle "" cardRequest).1.Traced "getBusinessCard" "a::b" "http://test/api/v1/businesscard/a::b" := by
  have hr : AsksFor cardRequest (.card .get) "a::b" := ⟨rfl, by decide +kernel⟩
  have hstored : ¬annasServer.Unstored cardRequest "a::b" := fun h => absurd h.1.method (by decide)
  have haddress : cardRequest.address = "http://test/api/v1/businesscard/a::b" := by decide +kernel
  have htraced := (faults_traced (d := annasDirectory) rfl "" hr).1 hstored
  rw [haddress] at htraced
  refine ⟨rfl, hr, hstored, ?_, htraced⟩
  obtain ⟨w', e, -⟩ := annasDirectory.reads_getCard (some cardRequest.address) "a::b" annasServer.world
  have hread : annasDirectory.readCard "a::b" annasServer.world.state = .error (Failure.of (.unknownGroup "a::b")) := by
    rw [Directory.readCard, Directory.named]
    show (Cause.require _ (Addressing.simple.parse? "a::b") >>= _) = _
    rw [show Addressing.simple.parse? "a::b" = some ⟨"a", "b"⟩ by decide +kernel]
    rfl
  dsimp only at e
  rw [hread] at e
  have hrun := run_getCard (s := annasServer) (d := annasDirectory) (r := cardRequest) rfl "a::b"
  rw [e] at hrun
  show ∃ f, ((annasServer.respond "" cardRequest).run annasServer.world).1 = _
  rw [respond_of_step hr.path (annasServer.step?_answering hr), answering, hrun]
  exact ⟨_, rfl⟩

/-- The tables in which the user has the participant, the table of entities having been lost. -/
def withoutEntities (hash : String) : Database :=
  { Database.fresh with
    users := some [⟨.issued 0, "anna", hash⟩]
    groups := some [⟨"a::b", "a", "b", .issued 0, none⟩]
    entities := none }

/-- Without a table of entities the card passes all checks. -/
theorem storeChecks_withoutEntities {hash : String} (h : Password.verify 1 "secret" hash = true) :
    annasDirectory.storeChecks "a::b" annasCard (some ⟨"anna", "secret"⟩) (withoutEntities hash) =
      .ok ⟨"a::b", ⟨"a", "b"⟩, .issued 0, none⟩ := by
  have hnamed : annasDirectory.named "a::b" = .ok ⟨"a", "b"⟩ := by
    show Cause.require _ (Addressing.simple.parse? "a::b") = _
    rw [show Addressing.simple.parse? "a::b" = some ⟨"a", "b"⟩ by decide +kernel]
    rfl
  have hsame : annasDirectory.sameParticipant ⟨"a", "b"⟩ annasCard = .ok () := by
    rw [Directory.sameParticipant]
    exact if_pos (by decide +kernel)
  have hgroup : Directory.groupOf "a::b" ⟨"a", "b"⟩ (withoutEntities hash) =
      .ok ⟨"a::b", ⟨"a", "b"⟩, .issued 0, none⟩ := rfl
  have huser : Users.identified 1 (withoutEntities hash) (some ⟨"anna", "secret"⟩) = .ok ⟨.issued 0, "anna"⟩ :=
    if_pos h
  have howner : annasDirectory.ownerOf ⟨"a", "b"⟩ (some ⟨"anna", "secret"⟩) (withoutEntities hash) =
      .ok ⟨.issued 0, "anna"⟩ := by
    rw [Directory.ownerOf, show annasDirectory.rounds = 1 from rfl, huser]
    rfl
  simp only [Directory.storeChecks, hnamed, hsame, hgroup, howner, bind, Except.bind]
  rfl

/-- The card is not stored, and the answer does not say in which request. -/
theorem untraced_without_entities :
    let s : Server := { annasServer with world := { state := withoutEntities (Password.hash 1 [] "secret"), issued := 1 } }
    s.directory = some annasDirectory ∧ AsksFor annasCardRequest (.card .create) "a::b" ∧
      (s.handle "" annasCardRequest).1 = .ofFault "" (notStored "a::b") ∧
      ¬(s.handle "" annasCardRequest).1.Traced "createBusinessCard" "a::b" annasCardRequest.address := by
  intro s
  have hr : AsksFor annasCardRequest (.card .create) "a::b" := ⟨rfl, by decide +kernel⟩
  have hcontent := content_of_card (r := annasCardRequest) whole_annasCard (by decide +kernel) (by rw [annasCardRequest])
  have hq : s.submission? annasCardRequest = some ⟨annasDirectory, some ⟨"anna", "secret"⟩, annasCard⟩ :=
    submission?_of_accepted rfl hcontent decode_annasCard (by decide +kernel)
  have hchecks := storeChecks_withoutEntities (Password.verify_hash_self 1 [] "secret")
  have hfailure := runOn_create (createCard_of_unwritable (w := s.world) (some annasCardRequest.address) hchecks
    (.missing rfl (List.cons_ne_nil _ _)))
  have hunstored : s.Unstored annasCardRequest "a::b" := ⟨hr, _, hq, congrArg Prod.fst hfailure⟩
  have hresponse := handle_unstored (d := annasDirectory) rfl "" hunstored
  refine ⟨rfl, hr, hresponse, ?_⟩
  rw [hresponse]
  exact not_traced_notStored _ _ _

end Server

end ParticipantDirectory
