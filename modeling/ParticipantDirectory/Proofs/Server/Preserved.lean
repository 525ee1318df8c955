import ParticipantDirectory.Proofs.Service.Incidents
import ParticipantDirectory.Proofs.Service.Reachable
import ParticipantDirectory.Server

/-!
# What a server preserves

A property of worlds is *upheld* (`Upheld`) if it is preserved when things are noted and counted, when missing tables
are created, and when a deed is done that stores no card but an accepted document. All that a server does is of this
kind: every step of answering a request preserves an upheld property (`step_preserves`), as sequences of what preserves
it do, and so do an answer (`Upheld.handle`) and the start of a server (`Upheld.start`). A card comes from an accepted
document, because its payload is read off the body before anything is done (`preserves_withPayload`).
-/

namespace ParticipantDirectory

open Action Transaction

/-- A property of worlds that is preserved by whatever a server does. -/
structure Upheld (I : World Database → Prop) : Prop where
  noted : ∀ w w', I w → w.Agrees w' → I w'
  created : ∀ w, I w → I { w with state := w.state.createTables }
  deed : ∀ deed w, Deed.Accepted deed → I w → I (deed.perform.runOn w).2

variable {α β : Type} {I : World Database → Prop}

namespace Upheld

variable (hI : Upheld I)
include hI

theorem reads {a : Action Database α} {f : Database → Except Failure α} (ha : a.Reads f) : a.Preserves I :=
  ha.preserves hI.noted

/-- What a deed puts into an answer preserves the property. -/
theorem of_deed {a : Action Database α} {f : α → Answer} (deed : Deed) (ha : deed.Accepted)
    (h : deed.perform = f <$> a) : a.Preserves I := by
  intro w hw
  have hd := hI.deed deed w ha hw
  rw [h, runOn_map] at hd
  exact hd

end Upheld

namespace Server

open Http (Request Response Target)

namespace Step

/-- From worlds with the property the step leads to worlds with the property. -/
def Preserves (I : World Database → Prop) (x : Step α) : Prop :=
  ∀ w, I w → I ((ExceptT.run x).run w).2

theorem run_ofAction (a : Action Database α) (w : World Database) :
    (ExceptT.run (ofAction a)).run w = ((a.runOn w).1.mapError .failed, (a.runOn w).2) := rfl

theorem run_bind (x : Step α) (f : α → Step β) (w : World Database) :
    (ExceptT.run (x >>= f)).run w = match (ExceptT.run x).run w with
      | (.ok a, w') => (ExceptT.run (f a)).run w'
      | (.error e, w') => (.error e, w') := by
  show (match (ExceptT.run x).run w with | (r, w') => ExceptT.bindCont (m := StateM (World Database)) f r w') = _
  rcases (ExceptT.run x).run w with ⟨_ | _, _⟩ <;> rfl

theorem preserves_ofAction {a : Action Database α} (ha : a.Preserves I) : (ofAction a).Preserves I := by
  intro w hw
  rw [run_ofAction]
  exact ha w hw

theorem preserves_pure (x : α) : Preserves I (pure x) :=
  fun _ hw => hw

theorem preserves_throw (e : Refusal) : Preserves I (throw e : Step α) :=
  fun _ hw => hw

theorem Preserves.bind {x : Step α} {f : α → Step β} (hx : x.Preserves I) (hf : ∀ a, (f a).Preserves I) :
    (x >>= f).Preserves I := by
  intro w hw
  have h := hx w hw
  rw [run_bind]
  cases hr : (ExceptT.run x).run w with
  | mk r w' =>
    rw [hr] at h
    cases r with
    | ok a => exact hf a w' h
    | error e => exact h

end Step

/-! ## The parts of a step -/

/-- The collaborators are those of the directory, if there is one. -/
theorem collaborators_eq (s : Server) (r : Request) : s.collaborators r =
    match s.directory with
    | some d => pure (d.collaborators (some r.address))
    | none => Action.fail (.initialization "SMP managers are not initialized") := by
  rw [collaborators, requireDirectory]
  cases s.directory <;> rfl

theorem preserves_collaborators (s : Server) (r : Request) {k : Collaborators Database → Action Database α}
    (hk : ∀ d : Directory, (k (d.collaborators (some r.address))).Preserves I) :
    (s.collaborators r >>= k).Preserves I := by
  rw [collaborators_eq]
  cases s.directory with
  | some d =>
    rw [pure_bind]
    exact hk d
  | none => exact fun w hw => hw

theorem preserves_withCollaborators (s : Server) (r : Request) {k : Collaborators Database → Step α}
    (hk : ∀ d : Directory, (k (d.collaborators (some r.address))).Preserves I) :
    (Step.ofAction (s.collaborators r) >>= k).Preserves I := by
  rw [collaborators_eq]
  cases s.directory with
  | some d => exact hk d
  | none => exact fun w hw => hw

theorem preserves_readContent (r : Request) : (readContent r).Preserves I := by
  rw [readContent]
  split
  · exact Step.preserves_pure _
  · exact Step.preserves_pure _
  · exact Step.preserves_throw _
  · exact Step.preserves_pure _
  · exact Step.preserves_throw _

theorem preserves_readCredentials (r : Request) : (readCredentials r).Preserves I := by
  rw [readCredentials]
  split
  · exact Step.preserves_pure _
  · exact Step.preserves_throw _
  · exact Step.preserves_pure _

theorem preserves_accept (v : Verdict α) : (accept v).Preserves I := by
  cases v with
  | accepted a => exact Step.preserves_pure a
  | refused vs => exact Step.preserves_throw _

/-- What is done with the payload of a body has an accepted payload to do it with. -/
theorem preserves_withPayload (content : Option Json) {k : CardPayload → Step α}
    (hk : ∀ payload v, CardPayload.decode v = .accepted payload → (k payload).Preserves I) :
    (cardPayload content >>= k).Preserves I := by
  unfold cardPayload
  split
  · exact fun _ hw => hw
  · rename_i v _
    cases h : CardPayload.decode v with
    | accepted payload => exact hk payload v h
    | refused vs => exact fun _ hw => hw
  · exact fun _ hw => hw

theorem preserves_groupExtension (content : Option Json) : (groupExtension content).Preserves I := by
  unfold groupExtension
  split
  · exact Step.preserves_pure _
  · exact (preserves_accept _).bind fun _ => Step.preserves_pure _
  · exact preserves_accept _

theorem groupDocument_of_ok {g : ServiceGroup} {p : GroupPayload} (h : GroupPayload.ofGroup g = .ok p) :
    groupDocument g = pure p.encode := by
  delta groupDocument
  rw [h]

theorem groupDocument_of_error {g : ServiceGroup} {vs : List Violation} (h : GroupPayload.ofGroup g = .error vs) :
    groupDocument g = throw (.invalid vs) := by
  delta groupDocument
  rw [h]

theorem preserves_cardResponse (p : CardPayload) : (cardResponse p).Preserves I :=
  .ite (Action.preserves_pure _) fun _ hw => hw

/-! ## Steps -/

section

variable (hI : Upheld I) (s : Server) (r : Request) (id : String)
include hI

omit hI in
theorem preserves_groupDocument (g : ServiceGroup) : (groupDocument g).Preserves I := by
  cases h : GroupPayload.ofGroup g with
  | ok p =>
    rw [groupDocument_of_ok h]
    exact Action.preserves_pure _
  | error vs =>
    rw [groupDocument_of_error h]
    exact fun _ hw => hw

theorem preserves_databaseCheck (connection : Connection) : (databaseCheck connection).Preserves I := by
  cases connection with
  | broken =>
    have hget : (get : Action Database (World Database)).Preserves I := fun _ hw => hw
    exact hget.bind fun _ => (hI.reads (reads_note _)).bind fun _ => (hI.reads (reads_note _)).bind fun _ =>
      Action.preserves_pure _
  | _ => exact Action.preserves_pure _

theorem preserves_readiness : (s.readiness r).Preserves I :=
  (preserves_databaseCheck hI s.connection).bind fun _ =>
    .ite (Action.preserves_pure _) ((hI.reads (reads_note _)).bind fun _ => Action.preserves_pure _)

/-- To count rows is to read. -/
theorem preserves_count {ρ : Type} (table : Database → Option (List ρ)) (statement : Statement) :
    (session (do return (← rows table statement).length)).Preserves I :=
  hI.reads (session_reads ((readOnly_rows table statement).bind fun _ => readOnly_pure _))

theorem preserves_status : s.status.Preserves I := by
  have hcounts : ∀ k : Nat → Nat → Response,
      (do let users ← Users.count; let groups ← Groups.count; return k users groups).Preserves I := fun k =>
    (preserves_count hI Database.users _).bind fun _ => (preserves_count hI Database.groups _).bind fun _ =>
      Action.preserves_pure _
  have hcards : (some <$> Cards.count).Preserves I :=
    hI.reads ((session_reads ((readOnly_rows Database.cards _).bind fun _ => readOnly_pure _)).map some)
  exact (hI.reads (reads_orFail _ _)).bind fun d =>
    .ite (hcards.bind fun _ => hcounts _) ((Action.preserves_pure none).bind fun _ => hcounts _)

theorem preserves_getGroup : (s.getGroup r id).Preserves I :=
  Step.preserves_ofAction (s.preserves_collaborators r fun d =>
    (hI.of_deed (.call d (some r.address) (.getGroup id)) (fun _ _ _ h => by cases h) rfl).bind fun g =>
      (preserves_groupDocument g).bind fun _ => Action.preserves_pure _)

theorem preserves_putGroup : (s.putGroup r id).Preserves I :=
  (preserves_readContent r).bind fun content => (preserves_readCredentials r).bind fun credentials =>
    s.preserves_withCollaborators r fun d => (preserves_groupExtension content).bind fun extension =>
      Step.preserves_ofAction
        ((hI.of_deed (.call d (some r.address) (.createGroup id credentials extension)) (fun _ _ _ h => by cases h)
          rfl).bind fun g => (preserves_groupDocument g).bind fun _ => Action.preserves_pure _)

theorem preserves_deleteGroup : (s.deleteGroup r id).Preserves I :=
  (preserves_readCredentials r).bind fun credentials => Step.preserves_ofAction (s.preserves_collaborators r fun d =>
    (hI.of_deed (.call d (some r.address) (.deleteGroup id credentials)) (fun _ _ _ h => by cases h) rfl).bind
      fun _ => Action.preserves_pure _)

theorem preserves_getCard : (s.getCard r id).Preserves I :=
  Step.preserves_ofAction (s.preserves_collaborators r fun d =>
    (hI.of_deed (.call d (some r.address) (.getCard id)) (fun _ _ _ h => by cases h) rfl).bind fun p =>
      preserves_cardResponse p)

theorem preserves_putCard : (s.putCard r id).Preserves I := by
  refine (preserves_readContent r).bind fun content => (preserves_readCredentials r).bind fun credentials =>
    s.preserves_withCollaborators r fun d => preserves_withPayload content fun payload v hv =>
      Step.preserves_ofAction ((hI.of_deed (.call d (some r.address) (.createCard id payload credentials))
        (fun _ _ _ h => ?_) rfl).bind fun outcome => ?_)
  · cases h
    exact ⟨v, hv⟩
  · cases outcome with
    | success => exact Action.preserves_pure _
    | failure => exact fun _ hw => hw

theorem preserves_deleteCard : (s.deleteCard r id).Preserves I :=
  (preserves_readCredentials r).bind fun credentials => Step.preserves_ofAction (s.preserves_collaborators r fun d =>
    (hI.of_deed (.call d (some r.address) (.deleteCard id credentials)) (fun _ _ _ h => by cases h) rfl).bind
      fun _ => Action.preserves_pure _)

end

section

variable {r : Request} {x y z step : Step Response}

/-- The step of a resource that can only be read. -/
theorem preserves_of_get (hx : x.Preserves I) (h : (if r.method = "GET" then some x else none) = some step) :
    step.Preserves I := by
  split at h
  · exact Option.some.inj h ▸ hx
  · cases h

/-- The step of a resource that can be read, written and deleted. -/
theorem preserves_of_method (hx : x.Preserves I) (hy : y.Preserves I) (hz : z.Preserves I)
    (h : (if r.method = "GET" then some x else if r.method = "PUT" then some y
      else if r.method = "DELETE" then some z else none) = some step) : step.Preserves I := by
  split at h
  · exact Option.some.inj h ▸ hx
  · split at h
    · exact Option.some.inj h ▸ hy
    · split at h
      · exact Option.some.inj h ▸ hz
      · cases h

end

/-- Whatever is asked of a server, it reads, or it does one deed. -/
theorem step_preserves (hI : Upheld I) (s : Server) (r : Request) {target : Target} {step : Step Response}
    (h : s.step? r target = some step) : step.Preserves I := by
  cases target with
  | liveness => exact preserves_of_get (Step.preserves_pure _) h
  | readiness => exact preserves_of_get (Step.preserves_ofAction (preserves_readiness hI s r)) h
  | status => exact preserves_of_get (Step.preserves_ofAction (preserves_status hI s)) h
  | statistics => exact preserves_of_get (Step.preserves_ofAction (a := statistics) fun w hw => hw) h
  | cardStatistics => exact preserves_of_get (Step.preserves_ofAction (a := cardStatistics) fun w hw => hw) h
  | group id =>
    exact preserves_of_method (preserves_getGroup hI s r id) (preserves_putGroup hI s r id)
      (preserves_deleteGroup hI s r id) h
  | card id =>
    exact preserves_of_method (preserves_getCard hI s r id) (preserves_putCard hI s r id)
      (preserves_deleteCard hI s r id) h

/-- To refuse is to note. -/
theorem refuse_agrees (now : String) (r : Request) (refusal : Refusal) (w : World Database) :
    w.Agrees ((refuse now r refusal).run w).2 := by
  cases refusal with
  | settled response => exact .refl w
  | violations details => exact ⟨rfl, rfl, rfl, rfl⟩
  | failed f => cases f <;> exact ⟨rfl, rfl, rfl, rfl⟩

/-- What is answered to a request whose resource has a step for it. -/
theorem respond_of_step {s : Server} {now : String} {r : Request} {target : Target} {step : Step Response}
    (ht : Target.ofPath? r.path = some target) (hs : s.step? r target = some step) (w : World Database) :
    (s.respond now r).run w = match (ExceptT.run step).run w with
      | (.ok response, w') => (response, w')
      | (.error refusal, w') => (refuse now r refusal).run w' := by
  rw [respond, ht]
  dsimp only
  rw [hs]
  dsimp only
  rw [StateT.run_bind]
  rcases (ExceptT.run step).run w with ⟨_ | _, _⟩ <;> rfl

end Server

namespace Upheld

open Server Http

variable (hI : Upheld I)
include hI

/-- A request leads from worlds with the property to worlds with the property. -/
theorem handle {s : Server} (h : I s.world) (now : String) (r : Request) : I (s.handle now r).2.world := by
  show I ((s.respond now r).run s.world).2
  cases ht : Target.ofPath? r.path with
  | none =>
    rw [respond, ht]
    dsimp only
    split
    · exact h
    · exact h
  | some target =>
    cases hs : s.step? r target with
    | none =>
      rw [respond, ht]
      dsimp only
      rw [hs]
      exact h
    | some step =>
      have hstep := step_preserves hI s r hs s.world h
      rw [respond_of_step ht hs]
      cases hr : (ExceptT.run step).run s.world with
      | mk result w =>
        rw [hr] at hstep
        cases result with
        | ok response => exact hstep
        | error refusal => exact hI.noted _ _ hstep (refuse_agrees now r refusal w)

/-! ## The start -/

theorem preserves_createSchema : createSchema.Preserves I :=
  fun _ hw => hI.noted _ _ (hI.created _ hw) ⟨rfl, rfl, rfl, rfl⟩

omit hI in
theorem reads_connect {σ : Type} (url : String) (pool : Pool) :
    (EnginePlan.connect url pool : Action σ EnginePlan).Reads fun _ =>
      (EnginePlan.ofUrl url pool).mapError .accident := by
  unfold EnginePlan.connect
  cases EnginePlan.ofUrl url pool with
  | ok plan => exact (reads_note _).seq (reads_pure plan)
  | error a => exact reads_throw _

theorem preserves_build (database : Bool) (rule : String) (cardsEnabled : Bool) (rounds : Nat) :
    (Directory.build database rule cardsEnabled rounds : Action Database Directory).Preserves I := by
  have hrest : (do
      let addressing ← Action.orFail (.initialization ("Failed to create identifier factory for type '" ++ rule ++ "'"))
        (Addressing.ofName? rule)
      Action.note
        { logger := Directory.logger, level := .info,
          message := "SMP managers initialized (identifiers=" ++ addressing.name ++ ", business cards=" ++
            (if cardsEnabled then "enabled" else "disabled") ++ ")" }
      return (⟨addressing, cardsEnabled, rounds⟩ : Directory) : Action Database Directory).Preserves I :=
    (hI.reads (reads_orFail _ _)).bind fun _ => (hI.reads (reads_note _)).bind fun _ => Action.preserves_pure _
  exact .ite ((hI.reads (reads_fail _)).bind fun _ => hrest) hrest

theorem preserves_bootstrap (rounds : Nat) (name password : Option Text.Loose) :
    (Directory.ensureBootstrapUser rounds name password).Preserves I :=
  Directory.preserves_ensureBootstrapUser hI.noted
    (fun name password => hI.of_deed (.createUser rounds name password) trivial rfl) name password

theorem preserves_prepare (s : Settings) (rounds : Nat) : (prepare s rounds).Preserves I := by
  have hrest : (do
      let directory ← Directory.build true s.addressing.name s.cardsEnabled rounds
      Directory.ensureBootstrapUser rounds s.bootstrapName s.bootstrapPassword
      Action.note { logger, level := .info, message := "SMP Directory API started (" ++ s.smpId ++ ")" }
      return directory : Action Database Directory).Preserves I :=
    (hI.preserves_build _ _ _ _).bind fun _ => (hI.preserves_bootstrap _ _ _).bind fun _ =>
      (hI.reads (reads_note _)).bind fun _ => Action.preserves_pure _
  exact (hI.reads (reads_connect _ _)).bind fun _ => .ite (hI.preserves_createSchema.bind fun _ => hrest) hrest

/-- On a world with the property a server starts in a world with the property. -/
theorem start {s : Settings} {rounds : Nat} {w : World Database} {server : Server} (hw : I w)
    (h : Server.start s rounds w = .ok server) : I server.world := by
  have hprepare := hI.preserves_prepare s rounds w hw
  rw [Server.start] at h
  split at h
  · cases h
  · cases h
  · split at h
    · rename_i hp
      rw [hp] at hprepare
      cases h
      exact hprepare
    · cases h

end Upheld

end ParticipantDirectory
