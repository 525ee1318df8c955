import ParticipantDirectory.Proofs.Server.Reached

/-!
# Requests for service groups

What a request to register a participant asks for (`registration?`), and what becomes of it. Reading a part of a
request *settles* (`Step.Settles`): there is a value, or the request is refused. The step of answering *leads*
(`Step.Leads`) to the registration that is asked for, as the parts that settle are put together (`putGroup_leads`).
Both say of which kind the refusal is otherwise. A request that is refused in a step which has changed nothing changes
nothing (`refused_of_step`).
-/

namespace ParticipantDirectory

namespace Http.Target

/-- No other resource has a path that goes on from the root of service groups. -/
theorem fixedPaths_take : ∀ p ∈ fixedPaths, p.1.toList.take 10 ≠ groupRoot.toList.take 10 ∧
    (p.1 ++ "\n").toList.take 10 ≠ groupRoot.toList.take 10 := by decide +kernel

theorem take_groupRoot (id : String) : (groupRoot ++ id).toList.take 10 = groupRoot.toList.take 10 := by
  rw [String.toList_append, List.take_append_of_le_length (by decide +kernel)]

/-- Every id that is not empty and has no slash can be asked for. -/
theorem ofPath?_group {id : String} (h : id ≠ "") (hs : '/' ∉ id.toList) :
    ofPath? (groupRoot ++ id) = some (group id) := by
  have hfixed : fixedPaths.find? (fun p => groupRoot ++ id == p.1 || groupRoot ++ id == p.1 ++ "\n") = none := by
    rw [List.find?_eq_none]
    intro p hp he
    rw [Bool.or_eq_true, beq_iff_eq, beq_iff_eq] at he
    rcases he with he | he
    · exact (fixedPaths_take p hp).1 (he ▸ take_groupRoot id)
    · exact (fixedPaths_take p hp).2 (he ▸ take_groupRoot id)
  have hid : idAfter? groupRoot (groupRoot ++ id) = some id := by
    have hdrop : (groupRoot ++ id).toList.drop groupRoot.length = id.toList := by
      rw [String.toList_append, ← String.length_toList, List.drop_left]
    have hprefix : groupRoot.toList.isPrefixOf (groupRoot ++ id).toList = true := by
      rw [String.toList_append, List.isPrefixOf_iff_prefix]
      exact List.prefix_append _ _
    have hne : id.toList.isEmpty = false := by simpa using h
    have hslash : id.toList.contains '/' = false := by simpa using hs
    rw [idAfter?, hdrop, hprefix, hne, hslash]
    simp
  rw [ofPath?, hfixed]
  dsimp only
  rw [hid]

end Http.Target

namespace Server

open Http (Request Response Target)

/-! ## Requests for a service group -/

/-- The request asks with a method for the service group of an id. -/
structure Asks (r : Request) (method : String) (id : String) : Prop where
  method : r.method = method
  path : Target.ofPath? r.path = some (.group id)

/-- What a request asks to be registered, and of which directory. -/
structure Registration where
  directory : Directory
  credentials : Option Credentials
  extension : Option String

/-- The call of a registration under an id. -/
def Registration.call (q : Registration) (id : String) : Call :=
  .createGroup id q.credentials q.extension

/-- The content of the body of a request, if it is well-formed. -/
def content? (r : Request) : Option (Option Json) :=
  match r.content with
  | .absent => some (some .null)
  | .document v => some (some v)
  | .unread => some none
  | .malformed _ | .unusable => none

/-- The credentials of a request, if they are well-formed. -/
def credentials? (r : Request) : Option (Option Credentials) :=
  match r.presented with
  | .nothing => some none
  | .credentials c => some (some c)
  | .unusable => none

/-- The extension in the content of a body, if the content is accepted. -/
def extension? : Option Json → Option (Option String)
  | some .null => some none
  | some v => (GroupRequest.decode v).toOption.map (·.extension)
  | none => none

/-- What a request to register a participant asks for, if its body is accepted, its credentials are well-formed and
there is a directory. -/
def registration? (s : Server) (r : Request) : Option Registration := do
  let content ← content? r
  let credentials ← credentials? r
  let d ← s.directory
  let extension ← extension? content
  return ⟨d, credentials, extension⟩

theorem directory_of_registration? {s : Server} {r : Request} {q : Registration} (h : s.registration? r = some q) :
    s.directory = some q.directory := by
  obtain ⟨content, -, h⟩ := Option.bind_eq_some_iff.1 h
  obtain ⟨credentials, -, h⟩ := Option.bind_eq_some_iff.1 h
  obtain ⟨d, hd, h⟩ := Option.bind_eq_some_iff.1 h
  obtain ⟨extension, -, h⟩ := Option.bind_eq_some_iff.1 h
  cases h
  exact hd

theorem extension?_of_ne {v : Json} (h : v ≠ .null) :
    extension? (some v) = (GroupRequest.decode v).toOption.map (·.extension) := by
  cases v with
  | null => exact absurd rfl h
  | _ => rfl

theorem groupExtension_of_ne {v : Json} (h : v ≠ .null) :
    groupExtension (some v) = accept (GroupRequest.decode v) >>= fun request => pure request.extension := by
  cases v with
  | null => exact absurd rfl h
  | _ => rfl

theorem step?_get (s : Server) {r : Request} {id : String} (h : Asks r "GET" id) :
    s.step? r (.group id) = some (s.getGroup r id) := by
  rw [step?, if_pos h.method]

theorem step?_put (s : Server) {r : Request} {id : String} (h : Asks r "PUT" id) :
    s.step? r (.group id) = some (s.putGroup r id) := by
  rw [step?, h.method, if_neg (by decide), if_pos rfl]

/-! ## Refusals -/

/-- The status of an error. -/
def IsError (status : Int) : Prop :=
  400 ≤ status ∧ status < 600

instance (status : Int) : Decidable (IsError status) :=
  inferInstanceAs (Decidable (400 ≤ status ∧ status < 600))

/-- The status of the response to a refusal. -/
def Refusal.status : Refusal → Int
  | .settled response => response.status
  | .violations _ => 400
  | .failed (.fault f) => f.cause.status
  | .failed (.invalid _) | .failed (.accident _) => 500

theorem status_refuse (now : String) (r : Request) (refusal : Refusal) (w : World Database) :
    ((refuse now r refusal).run w).1.status = refusal.status := by
  cases refusal with
  | settled response => rfl
  | violations details => rfl
  | failed f => cases f <;> rfl

/-- A block does not change the status of a failure. -/
theorem Refusal.status_report (b : Block) (f : Failure) : status (.failed (b.report f)) = status (.failed f) := by
  cases f <;> rfl

/-- The refusal has the status of an error. -/
def Refusal.IsError (refusal : Refusal) : Prop :=
  Server.IsError refusal.status

/-- A refusal of the body or of the credentials of a request, before anything is done. -/
inductive Refusal.Early : Refusal → Prop
  | body : Early (.settled .unreadableBody)
  | credentials : Early (.settled .notAuthenticated)
  | violations (details : List Http.Detail) : Early (.violations details)

/-- The refusal of a server that has no directory. -/
def Refusal.uninitialized : Refusal :=
  .failed (Failure.of (.initialization "SMP managers are not initialized"))

/-- What a server refuses before it calls an operation is of the given kind. -/
structure Refuses (s : Server) (kind : Refusal → Prop) : Prop where
  early : ∀ refusal : Refusal, refusal.Early → kind refusal
  uninitialized : s.directory = none → kind .uninitialized

theorem refuses_isError (s : Server) : s.Refuses Refusal.IsError where
  early := fun _ h => by
    cases h with
    | body => exact (by decide : IsError 400)
    | credentials => exact (by decide : IsError 401)
    | violations => exact (by decide : IsError 400)
  uninitialized := fun _ => (by decide : IsError 500)

theorem refuses_early {s : Server} {d : Directory} (hd : s.directory = some d) : s.Refuses Refusal.Early where
  early := fun _ h => h
  uninitialized := fun h => by
    rw [hd] at h
    cases h

/-- The step is the value that there is; if there is none, it is a refusal of the given kind. -/
def Step.Settles {α : Type} (kind : Refusal → Prop) (x : Step α) : Option α → Prop
  | some a => x = pure a
  | none => ∃ refusal : Refusal, x = throw refusal ∧ kind refusal

/-- The step goes on with the value that there is; if there is none, it is a refusal of the given kind. -/
def Step.Leads {α β : Type} (kind : Refusal → Prop) (x : Step α) (next : β → Step α) : Option β → Prop
  | some b => x = next b
  | none => ∃ refusal : Refusal, x = throw refusal ∧ kind refusal

section

variable {α β γ : Type} {kind : Refusal → Prop}

theorem Step.Settles.bind {x : Step γ} {o : Option γ} (hx : x.Settles kind o) {f : γ → Step α} {next : β → Step α}
    {g : γ → Option β} (hf : ∀ c, (f c).Leads kind next (g c)) : (x >>= f).Leads kind next (o.bind g) := by
  cases o with
  | some c =>
    rw [show x = pure c from hx, pure_bind]
    exact hf c
  | none =>
    obtain ⟨refusal, rfl, h⟩ := hx
    exact ⟨refusal, rfl, h⟩

theorem settles_readContent (he : ∀ refusal : Refusal, refusal.Early → kind refusal) (r : Request) :
    (readContent r).Settles kind (content? r) := by
  rw [readContent, content?]
  cases r.content with
  | absent | document | unread => rfl
  | malformed => exact ⟨_, rfl, he _ (.violations _)⟩
  | unusable => exact ⟨_, rfl, he _ .body⟩

theorem settles_readCredentials (he : ∀ refusal : Refusal, refusal.Early → kind refusal) (r : Request) :
    (readCredentials r).Settles kind (credentials? r) := by
  rw [readCredentials, credentials?]
  cases r.presented with
  | nothing | credentials => rfl
  | unusable => exact ⟨_, rfl, he _ .credentials⟩

theorem withCollaborators_leads {s : Server} (hs : s.Refuses kind) (r : Request) {f : Collaborators Database → Step α}
    {next : β → Step α} {g : Directory → Option β}
    (hf : ∀ d : Directory, (f (d.collaborators (some r.address))).Leads kind next (g d)) :
    (Step.ofAction (s.collaborators r) >>= f).Leads kind next (s.directory.bind g) := by
  rw [collaborators_eq]
  cases hd : s.directory with
  | some d => exact hf d
  | none => exact ⟨.uninitialized, rfl, hs.uninitialized hd⟩

theorem settles_groupExtension (he : ∀ refusal : Refusal, refusal.Early → kind refusal) (content : Option Json) :
    (groupExtension content).Settles kind (extension? content) := by
  cases content with
  | none => exact ⟨_, rfl, he _ (.violations _)⟩
  | some v =>
    by_cases hv : v = .null
    · subst hv
      rfl
    · rw [groupExtension_of_ne hv, extension?_of_ne hv]
      cases GroupRequest.decode v with
      | accepted request => rfl
      | refused vs => exact ⟨_, rfl, he _ (.violations (Http.Detail.ofViolations vs))⟩

end

/-- A step that ends with a response is answered with it. -/
theorem handle_of_ok {s : Server} {now : String} {r : Request} {target : Target} {step : Step Response}
    (ht : Target.ofPath? r.path = some target) (hs : s.step? r target = some step) {response : Response}
    {w' : World Database} (hr : (ExceptT.run step).run s.world = (.ok response, w')) :
    s.handle now r = (response, { s with world := w' }) := by
  rw [handle, respond_of_step ht hs, hr]

/-- A step that is refused is answered with the status of the refusal. -/
theorem status_of_refused {s : Server} {now : String} {r : Request} {target : Target} {step : Step Response}
    (ht : Target.ofPath? r.path = some target) (hs : s.step? r target = some step) {refusal : Refusal}
    {w' : World Database} (hr : (ExceptT.run step).run s.world = (.error refusal, w')) :
    (s.handle now r).1.status = refusal.status := by
  show ((s.respond now r).run s.world).1.status = refusal.status
  rw [respond_of_step ht hs, hr]
  exact status_refuse now r refusal w'

/-- A request is refused: it is answered with an error, and every row of every table is as it was. -/
def Refused (s : Server) (now : String) (r : Request) : Prop :=
  IsError (s.handle now r).1.status ∧ (s.handle now r).2.world.state = s.world.state

theorem refused_of_step {s : Server} {now : String} {r : Request} {target : Target} {step : Step Response}
    (ht : Target.ofPath? r.path = some target) (hs : s.step? r target = some step) {refusal : Refusal}
    {w' : World Database} (hr : (ExceptT.run step).run s.world = (.error refusal, w'))
    (herror : IsError refusal.status) (ha : s.world.Agrees w') : s.Refused now r := by
  constructor
  · rw [status_of_refused ht hs hr]
    exact herror
  · show ((s.respond now r).run s.world).2.state = s.world.state
    rw [respond_of_step ht hs, hr]
    exact (ha.trans (refuse_agrees now r refusal w')).state

/-- Registers what is asked for and makes the document of the new group. -/
def register (r : Request) (id : String) (q : Registration) : Action Database Response := do
  let g ← GroupService.create (q.directory.collaborators (some r.address)) id q.credentials q.extension
  return ⟨201, some (← groupDocument g), []⟩

/-- What is asked for is registered, unless the request is refused before. -/
theorem putGroup_leads {s : Server} {kind : Refusal → Prop} (hs : s.Refuses kind) (r : Request) (id : String) :
    (s.putGroup r id).Leads kind (fun q => Step.ofAction (register r id q)) (s.registration? r) :=
  (settles_readContent hs.early r).bind fun content => (settles_readCredentials hs.early r).bind fun _ =>
    withCollaborators_leads hs r fun _ => (settles_groupExtension hs.early content).bind fun _ => rfl

end Server

end ParticipantDirectory
