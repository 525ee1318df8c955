import ParticipantDirectory.Proofs.Password
import ParticipantDirectory.Proofs.Service.Incidents

/-!
# Credentials stay valid

As long as no tables are dropped, users are only added, and their login names stay distinct (`holds_through`). A user
who was created, be it as the first one, has a row whose stored password is that of the user (`Enrols.row`), so the name
and the password authenticate in every later state, another password does exactly if it has the same key, and nobody
else is created under the name (`credentials_stay_valid`).
-/

namespace ParticipantDirectory

open Action Transaction

variable {t : Tables} {w : World Database} {users : List UserRow}

/-! ## Users in full tables -/

namespace Tables

/-- With distinct login names, a row is the one that is found under its name. -/
theorem Integrity.user?_of_mem (h : t.Integrity) {row : UserRow} (hm : row ∈ t.users) :
    t.user? row.loginName = some row := by
  cases hf : t.user? row.loginName with
  | none => exact absurd (beq_self_eq_true _) (List.find?_eq_none.1 hf row hm)
  | some other =>
    obtain ⟨ho, hn⟩ := mem_of_user? hf
    rw [List.inj_on_of_nodup_map h.loginNames ho hm hn]

theorem user?_of_forall_ne {name : String} (h : ∀ row ∈ t.users, row.loginName ≠ name) : t.user? name = none :=
  List.find?_eq_none.2 fun row hm he => h row hm (eq_of_beq he)

end Tables

namespace Users

/-- Who presents no credentials is not authenticated. -/
theorem authenticate_none (rounds : Nat) (w : World Database) : ((authenticate rounds none).runOn w).1 =
    .error (Failure.of (.unauthorized "No credentials provided" "UNAUTHORIZED")) := rfl

/-- Who presents a name that no user has is unknown. -/
theorem authenticate_unknown (hw : w.state = t.database) (hn : t.Numbered w.issued) {name : String}
    (h : ∀ row ∈ t.users, row.loginName ≠ name) (rounds : Nat) (password : String) : ((authenticate rounds (some ⟨name, password⟩)).runOn w).1 =
      .error (Failure.of (.unknownUser name)) := by
  obtain ⟨w', e, -⟩ := reads_authenticate rounds (some ⟨name, password⟩) w
  rw [e]
  dsimp only
  rw [hw, identified_database hn.users, Tables.user?_of_forall_ne h]
  rfl

/-- Who presents the name of a user is that user exactly if the password has the key that is stored for the user. -/
theorem authenticate_stored (hw : w.state = t.database) (hi : t.Integrity) (hn : t.Numbered w.issued)
    {row : UserRow} (hm : row ∈ t.users) {salt key : List UInt8}
    (hk : Password.readStored row.passwordHash = some (salt, key)) (rounds : Nat) (attempt : String) :
    ((authenticate rounds (some ⟨row.loginName, attempt⟩)).runOn w).1 =
      if Digest.deriveKey (Password.bytesOf attempt) salt rounds = key then .ok row.toUser
      else .error (Failure.of (.unauthorized ("Illegal password provided for user '" ++ row.loginName ++ "'")
        "UNAUTHORIZED")) := by
  have hv : Password.verify rounds attempt row.passwordHash =
      decide (Digest.deriveKey (Password.bytesOf attempt) salt rounds = key) := by
    rw [Password.verify, hk]
    exact Bool.beq_eq_decide_eq _ _
  obtain ⟨w', e, -⟩ := reads_authenticate rounds (some ⟨row.loginName, attempt⟩) w
  rw [e]
  dsimp only
  rw [hw, identified_database hn.users, hi.user?_of_mem hm]
  show (if Password.verify rounds attempt row.passwordHash = true then _ else _) = _
  rw [hv]
  by_cases h : Digest.deriveKey (Password.bytesOf attempt) salt rounds = key
  · rw [if_pos h, if_pos (decide_eq_true h)]
  · rw [if_neg h, if_neg fun hd => h (of_decide_eq_true hd)]

/-- Nobody is created under a name that a user has. -/
theorem create_taken (hw : w.state = t.database) {row : UserRow} (hm : row ∈ t.users) (rounds : Nat)
    (password : String) :
    ((create rounds row.loginName password).runOn w).1 =
        .error (Failure.of (.databaseFailure "Integrity constraint violated" "commit")) ∧
      ((create rounds row.loginName password).runOn w).2.state = w.state := by
  have ho : (insertRow (newRow rounds row.loginName password w)).outcome w.state =
      .error (Failure.of (.databaseFailure "Integrity constraint violated" "commit")) := by
    have hc := refuse_userRow hm (show row.loginName = (newRow rounds row.loginName password w).loginName from rfl)
    rw [hw, outcome_of_run (run_insertRow_database _), hc]
    rfl
  obtain ⟨w', e, a⟩ := runOn_create rounds row.loginName password w
  rw [ho] at e a
  rw [e]
  exact ⟨rfl, a.state⟩

end Users

/-! ## Runs without losses -/

/-- No tables are dropped. -/
def Incident.Lasting : Incident → Prop
  | loss _ => False
  | call .. | user .. | bootstrap .. | schema => True

/-- The four tables are there, with integrity, and these users are among those that they have. -/
structure Registers (users : List UserRow) (w : World Database) (t : Tables) : Prop where
  state : w.state = t.database
  integrity : t.Integrity
  numbered : t.Numbered w.issued
  users : users ⊆ t.users

/-- These users are registered in the tables of a world. -/
def World.Holds (users : List UserRow) (w : World Database) : Prop :=
  ∃ t, Registers users w t

theorem World.Holds.agrees {w w' : World Database} (h : w.Holds users) (ha : w.Agrees w') : w'.Holds users := by
  obtain ⟨t, h⟩ := h
  exact ⟨t, ha.state.trans h.state, h.integrity, ha.issued ▸ h.numbered, h.users⟩

/-- A deed adds at most a user. -/
theorem Deed.Step.users_subset {n : Nat} {deed : Deed} {a : Answer} {t' : Tables} (h : deed.Step n t a t') :
    t.users ⊆ t'.users := by
  cases h with
  | createUser => exact List.subset_append_left _ _
  | call h => exact h.users ▸ List.Subset.refl _

theorem Deed.preserves_holds (deed : Deed) : deed.perform.Preserves (World.Holds users) := by
  rintro w ⟨t, h⟩
  obtain ⟨t', w', e, hw, hn, hs⟩ := deed.run_database h.state h.integrity.toLinked h.numbered
  rw [e]
  cases hr : (deed.perform.runOn w).1 with
  | error f =>
    rw [hr] at hs
    cases hs
    exact ⟨t, hw, h.integrity, hn, h.users⟩
  | ok a =>
    rw [hr] at hs
    exact ⟨t', hw, hs.integrity h.integrity, hn, List.Subset.trans h.users hs.users_subset⟩

theorem Users.preserves_holds (rounds : Nat) (name password : Text.Loose) :
    (Users.create rounds name password).Preserves (World.Holds users) := by
  intro w hw
  have h := (Deed.createUser rounds name password).preserves_holds w hw
  rwa [Deed.perform, runOn_map] at h

/-- Whatever happens short of dropping tables, users stay registered. -/
theorem holds_occur {i : Incident} (hi : i.Lasting) (h : w.Holds users) : (i.occur w).2.Holds users := by
  cases i with
  | call d uri c => exact (Deed.call d uri c).preserves_holds w h
  | user rounds name password => exact Users.preserves_holds rounds name password w h
  | bootstrap rounds name password =>
    exact Directory.preserves_ensureBootstrapUser (fun _ _ h a => h.agrees a) (Users.preserves_holds rounds)
      name password w h
  | loss l => exact hi.elim
  | schema =>
    obtain ⟨t, h⟩ := h
    have hs : w.state.createTables = t.database := by
      rw [h.state]
      rfl
    exact ⟨t, hs, h.integrity, h.numbered, h.users⟩

/-- By induction over what happens. -/
theorem holds_through {incidents : List Incident} (hi : ∀ i ∈ incidents, i.Lasting) (h : w.Holds users) :
    (w.through incidents).2.Holds users :=
  World.through_invariant (P := fun _ w => w.Holds users) incidents [] h fun i hm _ _ h => holds_occur (hi i hm) h

/-- Nobody is registered in new tables. -/
theorem holds_fresh (w : World Database) : ({ w with state := .fresh } : World Database).Holds [] :=
  ⟨.empty, rfl, Tables.integrity_empty, Tables.numbered_empty _, List.nil_subset _⟩

/-! ## The row of a new user -/

/-- Something that happens in a world makes a user: the user is created, or it was not there and is found after the
first user has been created. -/
inductive Enrols (rounds : Nat) (name password : String) (w : World Database) : Incident → User → Prop
  | created {u : User} (h : ((Users.create rounds name password).runOn w).1 = .ok u) :
    Enrols rounds name password w (.user rounds name password) u
  | bootstrapped {u : User} (hn : name ≠ "") (hp : password ≠ "") (hnew : ((Users.find? name).runOn w).1 = .ok none)
    (h : ((Users.find? name).runOn
      ((Directory.ensureBootstrapUser rounds (some name) (some password)).runOn w).2).1 = .ok (some u)) :
    Enrols rounds name password w (.bootstrap rounds (some name) (some password)) u

/-- Creating a user adds the row of the new user, or it fails and changes nothing. -/
theorem Users.create_database (hw : w.state = t.database) (rounds : Nat) (name password : String) :
    let row := Users.newRow rounds name password w
    let (answer, w') := (Users.create rounds name password).runOn w
    answer = .ok row.toUser ∧ w'.state = (t.addUser row).database ∨ (∃ f, answer = .error f) ∧ w'.state = w.state := by
  intro row
  obtain ⟨w', e, a⟩ := Users.runOn_create rounds name password w
  rw [e]
  dsimp only
  cases ho : (Users.insertRow row).outcome w.state with
  | error f =>
    rw [ho] at a
    exact .inr ⟨⟨f, rfl⟩, a.state⟩
  | ok q =>
    obtain ⟨⟨⟩, db⟩ := q
    rw [ho] at a
    rw [hw] at ho
    exact .inl ⟨rfl, a.state.trans (Users.insertRow_ok ho).1⟩

/-- Anybody is created in new tables. -/
theorem Users.create_fresh {w : World Database} (hw : w.state = .fresh) (rounds : Nat) (name password : String) :
    ((Users.create rounds name password).runOn w).1 = .ok ⟨.issued w.issued, name⟩ := by
  obtain ⟨w', e, -⟩ := Users.runOn_create rounds name password w
  have ho : (Users.insertRow (Users.newRow rounds name password w)).outcome w.state =
      .ok ((), (Tables.empty.addUser (Users.newRow rounds name password w)).database) := by
    rw [hw, ← Tables.database_empty, outcome_of_run (Users.run_insertRow_database _), Tables.empty,
      TableConstraints.refuse_eq (lacks_user _), conflicts_nil]
    rfl
  rw [e, ho]
  rfl

/-- Looking up a user is answered with the user of the row. -/
theorem Users.find?_database (hw : w.state = t.database) (hn : t.Numbered w.issued) (name : String) :
    ∃ w', (Users.find? name).runOn w = (.ok ((t.user? name).map UserRow.toUser), w') ∧ w.Agrees w' := by
  have hrows : t.database.users = some t.users := rfl
  obtain ⟨w', e, a⟩ :=
    session_reads ((Users.readOnly_findRow name).bind fun row => readOnly_pure (row.map UserRow.toUser)) w
  refine ⟨w', e.trans (congrArg (·, w') ?_), a⟩
  rw [hw, answer, outcome, run_bind, Users.run_findRow hrows, Tables.user?]
  cases hf : t.users.find? (·.loginName == name) with
  | none => rfl
  | some row =>
    dsimp only
    rw [(hn.users row (Tables.mem_of_user? hf).1).readable]
    rfl

/-- The first user is created like any other. -/
theorem Directory.ensureBootstrapUser_new (hw : w.state = t.database) (hi : t.Numbered w.issued)
    {name password : String} (hn : name ≠ "") (hp : password ≠ "") (hu : t.user? name = none) (rounds : Nat) :
    ∃ w₁, w.Agrees w₁ ∧ ((Users.create rounds name password).runOn w₁).2.Agrees
      ((Directory.ensureBootstrapUser rounds (some name) (some password)).runOn w).2 := by
  obtain ⟨w₁, e, a⟩ := Users.find?_database hw hi name
  rw [hu] at e
  refine ⟨w₁, a, ?_⟩
  have hne : ¬((name : Text.Loose) = "" ∨ (password : Text.Loose) = "") := fun h =>
    h.elim (fun h => hn (Text.Loose.whole.inj h)) fun h => hp (Text.Loose.whole.inj h)
  show World.Agrees _ (Action.runOn (if (name : Text.Loose) = "" ∨ (password : Text.Loose) = "" then pure () else
    Users.find? name >>= _) w).2
  rw [if_neg hne, runOn_bind, e]
  dsimp only [Option.map]
  show World.Agrees _ (Action.runOn (Users.create rounds name password >>= _) w₁).2
  rw [runOn_bind]
  rcases (Users.create rounds name password).runOn w₁ with ⟨_ | u, w₂⟩
  · exact .refl w₂
  · exact ⟨rfl, rfl, rfl, rfl⟩

theorem World.Holds.of_users (h : w.Holds []) {rows : List UserRow} (hs : w.state.users = some rows)
    (hm : users ⊆ rows) : w.Holds users := by
  obtain ⟨t, h⟩ := h
  rw [h.state] at hs
  cases hs
  exact ⟨t, h.state, h.integrity, h.numbered, hm⟩

theorem World.Holds.numbered (h : w.Holds users) (hs : w.state = t.database) : t.Numbered w.issued := by
  obtain ⟨t', h⟩ := h
  obtain rfl : t' = t := Tables.database_injective (h.state.symm.trans hs)
  exact h.numbered

/-- Who is enrolled has the row of a new user. -/
theorem Enrols.row {rounds : Nat} {name password : String} {i : Incident} {u : User}
    (he : Enrols rounds name password w i u) (hw : w.Holds []) :
    (Users.newRow rounds name password w).toUser = u ∧ (i.occur w).2.Holds [Users.newRow rounds name password w] := by
  obtain ⟨t, ht⟩ := id hw
  have hlast : [Users.newRow rounds name password w] ⊆ t.users ++ [Users.newRow rounds name password w] :=
    List.subset_append_right _ _
  cases he with
  | created h =>
    have hafter : ((Users.create rounds name password).runOn w).2.Holds [] := Users.preserves_holds _ _ _ w hw
    rcases Users.create_database ht.state rounds name password with ⟨ha, hs⟩ | ⟨⟨f, ha⟩, -⟩
    · exact ⟨Except.ok.inj (ha.symm.trans h), hafter.of_users (congrArg Database.users hs) hlast⟩
    · cases ha.symm.trans h
  | bootstrapped hn hp hnew h =>
    have hafter := holds_occur (i := .bootstrap rounds (some name) (some password)) trivial hw
    have hnone : t.user? name = none := by
      obtain ⟨w', e, -⟩ := Users.find?_database ht.state ht.numbered name
      rw [e] at hnew
      exact Option.map_eq_none_iff.1 (Except.ok.inj hnew)
    obtain ⟨w₁, a, a'⟩ := Directory.ensureBootstrapUser_new ht.state ht.numbered hn hp hnone rounds
    have hrow : Users.newRow rounds name password w₁ = Users.newRow rounds name password w := by
      rw [Users.newRow, Users.newRow, a.issued, a.salts]
    rcases Users.create_database (a.state.trans ht.state) rounds name password with ⟨-, hs⟩ | ⟨-, hs⟩
    · rw [hrow] at hs
      have hstate := a'.state.trans hs
      obtain ⟨w', e, -⟩ := Users.find?_database hstate (hafter.numbered hstate) name
      have hfound : (t.addUser (Users.newRow rounds name password w)).user? name =
          some (Users.newRow rounds name password w) := by
        rw [Tables.user?, Tables.addUser, List.find?_append, show t.users.find? (·.loginName == name) = none from hnone]
        rw [Option.none_or]
        exact List.find?_cons_of_pos (p := fun row : UserRow => row.loginName == name) (beq_self_eq_true name)
      rw [e, hfound] at h
      exact ⟨Option.some.inj (Except.ok.inj h), hafter.of_users (congrArg Database.users hstate) hlast⟩
    · have hstate := a'.state.trans (hs.trans (a.state.trans ht.state))
      obtain ⟨w', e, -⟩ := Users.find?_database hstate (hafter.numbered hstate) name
      rw [e, hnone] at h
      cases h

/-! ## Authentication -/

/-- A user is created, or enrolled as the first user, in a run from the empty schema in which no tables are dropped.
Then in every later state of the run the name and the password authenticate this user. The row of the user keeps a salt
and a key, and any password authenticates the user exactly if its key under this salt is that key; otherwise it is an
illegal password. Nobody else is created under the name: that is a failure of the database, and nothing changes. A name
that no user has is that of an unknown user, who presents nothing is not authorized, and no two users have the same
name. -/
theorem credentials_stay_valid (w : World Database) (before later : List Incident) (hb : ∀ i ∈ before, i.Lasting)
    (hl : ∀ i ∈ later, i.Lasting) {rounds : Nat} {name password : String} {i : Incident} {u : User}
    (he : Enrols rounds name password (({ w with state := .fresh } : World Database).through before).2 i u) :
    let w₁ := (({ w with state := .fresh } : World Database).through before).2
    let w₂ := ((i.occur w₁).2.through later).2
    let users := w₂.state.users.getD []
    let authenticate := fun credentials => ((Users.authenticate rounds credentials).runOn w₂).1
    authenticate (some ⟨name, password⟩) = .ok u ∧
      (∃ row ∈ users, ∃ salt key, row.loginName = name ∧ row.toUser = u ∧
        Password.readStored row.passwordHash = some (salt, key) ∧
        ∀ attempt, authenticate (some ⟨name, attempt⟩) =
          if Digest.deriveKey (Password.bytesOf attempt) salt rounds = key then .ok u
          else .error (Failure.of (.unauthorized ("Illegal password provided for user '" ++ name ++ "'")
            "UNAUTHORIZED"))) ∧
      (∀ rounds' (password' : String), ((Users.create rounds' name password').runOn w₂).1 =
          .error (Failure.of (.databaseFailure "Integrity constraint violated" "commit")) ∧
        ((Users.create rounds' name password').runOn w₂).2.state = w₂.state) ∧
      (∀ name' attempt, (∀ row ∈ users, row.loginName ≠ name') →
        authenticate (some ⟨name', attempt⟩) = .error (Failure.of (.unknownUser name'))) ∧
      authenticate none = .error (Failure.of (.unauthorized "No credentials provided" "UNAUTHORIZED")) ∧
      (users.map (·.loginName)).Nodup := by
  intro w₁ w₂ users authenticate
  obtain ⟨hu, hrow⟩ := he.row (holds_through hb (holds_fresh w))
  obtain ⟨t, ht⟩ := holds_through hl hrow
  have hm : Users.newRow rounds name password w₁ ∈ t.users := ht.users (List.mem_singleton_self _)
  have husers : users = t.users := by
    show w₂.state.users.getD [] = t.users
    rw [ht.state]
    rfl
  have hk := Password.readStored_hash rounds (w₁.salts w₁.issued) password
  have hstored := fun attempt => Users.authenticate_stored ht.state ht.integrity ht.numbered hm hk rounds attempt
  have hname : (Users.newRow rounds name password w₁).loginName = name := rfl
  rw [hu, hname] at hstored
  have hself : authenticate (some ⟨name, password⟩) = .ok u := (hstored password).trans (if_pos rfl)
  have htaken := Users.create_taken ht.state hm
  rw [hname] at htaken
  refine ⟨hself, ⟨_, husers ▸ hm, _, _, hname, hu, hk, hstored⟩, htaken, fun name' attempt h => ?_,
    Users.authenticate_none rounds w₂, husers ▸ ht.integrity.loginNames⟩
  exact Users.authenticate_unknown ht.state ht.numbered (husers ▸ h) rounds attempt

/-- Anna is created and registers a participant; then she is to be made the first user with another password. -/
theorem credentials_stay_valid_of_anna :
    let w : World Database := { state := .blank }
    let anna : User := ⟨.issued 0, "anna"⟩
    let enrolment : Incident := .user 1 "anna" "secret"
    let later : List Incident :=
      [.call ⟨.simple, true, 1⟩ none (.createGroup "a::b" (some ⟨"anna", "secret"⟩) none),
        .bootstrap 1 (some "anna") (some "other")]
    let w₁ := (({ w with state := .fresh } : World Database).through []).2
    let w₂ := ((enrolment.occur w₁).2.through later).2
    Enrols 1 "anna" "secret" w₁ enrolment anna ∧
      ((Users.authenticate 1 (some ⟨"anna", "secret"⟩)).runOn w₂).1 = .ok anna ∧
      ((Users.create 1 "anna" "other").runOn w₂).1 =
        .error (Failure.of (.databaseFailure "Integrity constraint violated" "commit")) := by
  intro w anna enrolment later w₁ w₂
  have he : Enrols 1 "anna" "secret" w₁ enrolment anna := .created (Users.create_fresh rfl 1 "anna" "secret")
  have hl : ∀ i ∈ later, i.Lasting := by
    intro i hi
    rcases List.mem_cons.1 hi with rfl | hi
    · trivial
    · obtain rfl := List.mem_singleton.1 hi
      trivial
  obtain ⟨hself, -, htaken, -⟩ := credentials_stay_valid w [] later (fun _ h => by cases h) hl he
  exact ⟨he, hself, (htaken 1 "other").1⟩

end ParticipantDirectory
