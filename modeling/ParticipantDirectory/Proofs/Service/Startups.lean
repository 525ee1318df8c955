import ParticipantDirectory.Proofs.Password
import ParticipantDirectory.Proofs.Store.Distinct
import ParticipantDirectory.Service.Directory
import ParticipantDirectory.Settings

/-!
# Startups

Whenever a directory starts, the first user that its settings name is created, unless a user has the name. All that this
needs is the table of users (`World.Enrolling`), whichever other tables are missing: `Settings.newcomers` says which rows
a startup adds, or over which accident it fails, and `startUp_adds` that this is all it does. After startups in turn a
name that no user had belongs to the first user whom a startup could give it (`startUps_add`). So startups can be
repeated, and `startups_repeatable` says what they leave as it was. They fail over texts with lone surrogates and over
users whose ids cannot be read (`startups_failing`).
-/

namespace ParticipantDirectory

open Action Transaction

/-! ## Startups one after the other -/

/-- The name and the password of a first user. -/
structure FirstUser where
  name : Text.Loose
  password : Text.Loose

/-- The name and the password as credentials, if both are whole. -/
def FirstUser.credentials? (u : FirstUser) : Option Credentials := do
  return ⟨← u.name.whole?, ← u.password.whole?⟩

namespace Settings

/-- The first user, if there are a name and a password and neither is empty. -/
def firstUser? (s : Settings) : Option FirstUser :=
  match s.bootstrapName, s.bootstrapPassword with
  | some name, some password => if name = "" ∨ password = "" then none else some ⟨name, password⟩
  | _, _ => none

/-- The first user, if the name and the password are whole. -/
def credentials? (s : Settings) : Option Credentials :=
  s.firstUser?.bind FirstUser.credentials?

/-- What a startup does for the first user. -/
def startUp (rounds : Nat) (s : Settings) : Action Database Unit :=
  Directory.ensureBootstrapUser rounds s.bootstrapName s.bootstrapPassword

/-- The rows that a startup adds to those of the users: that of the first user, if no user has the name. It fails if the
name has no bytes, if the id of the user who has the name cannot be read, and if nobody has the name and the password has
no bytes. -/
def newcomers (rounds : Nat) (w : World Database) (rows : List UserRow) (s : Settings) :
    Except Accident (List UserRow) :=
  match s.firstUser? with
  | none => .ok []
  | some ⟨.broken b, _⟩ => .error (.ofBroken b)
  | some ⟨.whole name, password⟩ =>
    match rows.find? (·.loginName == name) with
    | some row => row.id.readFault?.elim (.ok []) .error
    | none =>
      match password with
      | .broken b => .error (.ofBroken b)
      | .whole password => .ok [Users.newRow rounds name password w]

/-- The rows that a startup adds; none if it fails. -/
def added (rounds : Nat) (w : World Database) (rows : List UserRow) (s : Settings) : List UserRow :=
  match s.newcomers rounds w rows with
  | .ok new => new
  | .error _ => []

end Settings

/-- The answers to startups one after the other, and the world after them. -/
def World.startUps (rounds : Nat) (w : World Database) :
    List Settings → List (Except Failure Unit) × World Database
  | [] => ([], w)
  | s :: rest =>
    let (answer, w₁) := (s.startUp rounds).runOn w
    let (answers, w₂) := w₁.startUps rounds rest
    (answer :: answers, w₂)

/-- A database has these users, the constraints of its users are those of the schema, and the numbers to be issued are
new. -/
structure World.Enrolling (w : World Database) (rows : List UserRow) : Prop where
  users : w.state.users = some rows
  constraints : w.state.constraints.users = Database.fresh.constraints.users
  numbered : ∀ row ∈ rows, ∀ n, row.id = .issued n → n < w.issued

/-- The row has the name that is presented, its stored password is the one presented, and its id can be read. -/
structure UserRow.Accepts (rounds : Nat) (row : UserRow) (c : Credentials) : Prop where
  name : row.loginName = c.userName
  password : Password.verify rounds c.password row.passwordHash = true
  readable : row.id.readFault? = none

variable {w : World Database} {rows : List UserRow} {rounds : Nat} {c : Credentials}

/-! ## The users of a table -/

theorem find?_name_iff {name : String} :
    rows.find? (·.loginName == name) = none ↔ name ∉ rows.map UserRow.loginName := by
  simp

theorem Users.newRow_accepts (rounds : Nat) (name password : String) (w : World Database) :
    (newRow rounds name password w).Accepts rounds ⟨name, password⟩ :=
  ⟨rfl, Password.verify_hash_self rounds _ password, rfl⟩

namespace Users

/-- The user who is found under a name, whichever other tables there are. -/
theorem find?_users (hw : w.state.users = some rows) (name : String) :
    ∃ w', (find? name).runOn w = (match rows.find? (·.loginName == name) with
        | none => .ok none
        | some row => row.id.readFault?.elim (.ok (some row.toUser)) fun a => .error (.accident a), w') ∧
      w.Agrees w' := by
  obtain ⟨w', e, a⟩ := session_reads ((readOnly_findRow name).bind fun row => readOnly_pure (row.map UserRow.toUser)) w
  refine ⟨w', e.trans (congrArg (·, w') ?_), a⟩
  rw [answer, outcome, run_bind, run_findRow hw]
  cases rows.find? (·.loginName == name) with
  | none => rfl
  | some row =>
    dsimp only
    cases row.id.readFault? <;> rfl

/-- A name without bytes is not looked up. -/
theorem find?_broken (hw : w.state.users = some rows) (b : Text.Broken) :
    ∃ w', (find? (.broken b)).runOn w = (.error (.accident (.ofBroken b)), w') ∧ w.Agrees w' := by
  obtain ⟨w', e, a⟩ :=
    session_reads ((readOnly_findRow (.broken b)).bind fun row => readOnly_pure (row.map UserRow.toUser)) w
  refine ⟨w', e.trans (congrArg (·, w') ?_), a⟩
  rw [answer, outcome, run_bind, findRow, unsent, run_bind, Transaction.users, run_rows, hw]
  rfl

/-- Who presents what the row of the name accepts is the user of the row. -/
theorem authenticate_accepts (hw : w.state.users = some rows) {row : UserRow}
    (hf : rows.find? (·.loginName == c.userName) = some row) (ha : row.Accepts rounds c) :
    ((authenticate rounds (some c)).runOn w).1 = .ok row.toUser := by
  obtain ⟨w', e, -⟩ := reads_authenticate rounds (some c) w
  have hrow : (namedRow c.userName).answer w.state = .ok row := by
    rw [answer_of_run (run_namedRow hw), hf]
    dsimp only
    rw [ha.readable]
    rfl
  rw [e]
  show (identified rounds w.state (some c)) = _
  rw [identified, hrow]
  exact if_pos ha.password

/-- Authentication depends on the row that is found under the name only. -/
theorem authenticate_congr {w' : World Database} {rows' : List UserRow} (hw : w.state.users = some rows)
    (hw' : w'.state.users = some rows')
    (hf : rows'.find? (·.loginName == c.userName) = rows.find? (·.loginName == c.userName)) :
    ((authenticate rounds (some c)).runOn w').1 = ((authenticate rounds (some c)).runOn w).1 := by
  obtain ⟨v, e, -⟩ := reads_authenticate rounds (some c) w
  obtain ⟨v', e', -⟩ := reads_authenticate rounds (some c) w'
  have hrow : (namedRow c.userName).answer w'.state = (namedRow c.userName).answer w.state := by
    rw [answer_of_run (run_namedRow hw), answer_of_run (run_namedRow hw'), hf]
    cases rows.find? (·.loginName == c.userName) with
    | none => rfl
    | some row =>
      dsimp only
      cases row.id.readFault? <;> rfl
  rw [e, e']
  show identified rounds w'.state (some c) = identified rounds w.state (some c)
  rw [identified, identified, hrow]

end Users

/-! ## One startup -/

namespace World.Enrolling

variable {name : String}

/-- A row with the next number and a name that nobody has is not refused. -/
theorem not_refused (h : w.Enrolling rows) (hn : name ∉ rows.map UserRow.loginName) (rounds : Nat) (password : String) :
    w.state.constraints.users.refuse UserRow.cell rows (Users.newRow rounds name password w) = false := by
  have hid : ∀ row ∈ rows, row.id ≠ .issued w.issued := fun row hm he =>
    Nat.lt_irrefl _ (h.numbered row hm w.issued he)
  have hname : ∀ row ∈ rows, row.loginName ≠ name := fun row hm he =>
    hn (List.mem_map.2 ⟨row, hm, he⟩)
  have hkeys : Database.fresh.constraints.users.keys = ["id", "login_name"] := by decide
  rw [h.constraints, TableConstraints.refuse_eq (lacks_user _), hkeys, conflicts, List.any_eq_false]
  intro key hkey
  rw [Bool.and_eq_true, List.any_eq_true]
  rintro ⟨-, row, hm, he⟩
  have he := eq_of_beq he
  rcases List.mem_cons.1 hkey with rfl | hkey
  · exact hid row hm (by simpa [UserRow.cell, Users.newRow] using he)
  · obtain rfl := List.mem_singleton.1 hkey
    exact hname row hm (by simpa [UserRow.cell, Users.newRow] using he)

theorem agrees {w' : World Database} (h : w.Enrolling rows) (a : w.Agrees w') : w'.Enrolling rows :=
  ⟨a.state ▸ h.users, a.state ▸ h.constraints, a.issued ▸ h.numbered⟩

/-- Numbers may be left out. -/
theorem skip (h : w.Enrolling rows) : ({ w with issued := w.issued + 1 } : World Database).Enrolling rows :=
  ⟨h.users, h.constraints, fun row hm n he => Nat.lt_succ_of_lt (h.numbered row hm n he)⟩

/-- The world with one user more. -/
theorem add (h : w.Enrolling rows) (name password : String) :
    let row := Users.newRow rounds name password w
    ({ w with state := { w.state with users := some (rows ++ [row]) }, issued := w.issued + 1 } :
      World Database).Enrolling (rows ++ [row]) := by
  refine ⟨rfl, h.constraints, fun row hm n he => ?_⟩
  rcases List.mem_append.1 hm with hm | hm
  · exact Nat.lt_succ_of_lt (h.numbered row hm n he)
  · obtain rfl := List.mem_singleton.1 hm
    cases he
    exact Nat.lt_succ_self _

/-- Nobody who has the name of a new user is in the way of it. -/
theorem create (h : w.Enrolling rows) (hn : name ∉ rows.map UserRow.loginName) (rounds : Nat) (password : String) :
    let row := Users.newRow rounds name password w
    ∃ w', (Users.create rounds name password).runOn w = (.ok row.toUser, w') ∧
      ({ w with state := { w.state with users := some (rows ++ [row]) }, issued := w.issued + 1 } :
        World Database).Agrees w' := by
  intro row
  obtain ⟨w', e, a⟩ := Users.runOn_create rounds name password w
  have ho : (Users.insertRow row).outcome w.state = .ok ((), { w.state with users := some (rows ++ [row]) }) := by
    rw [outcome_of_run (Users.run_insertRow row w.state), h.users]
    dsimp only
    rw [h.not_refused hn rounds]
    rfl
  rw [ho] at e a
  exact ⟨w', e, a⟩

end World.Enrolling

/-- Looks for a user, and creates the one who is not there. -/
def Directory.enrol (rounds : Nat) (u : FirstUser) : Action Database Unit := do
  if (← Users.find? u.name).isSome then return ()
  let user ← Users.create rounds u.name u.password
  Action.note
    { logger, level := .info, message := "Bootstrap user '" ++ user.name ++ "' created",
      context := { userName := .str user.name } }

theorem startUp_firstUser (rounds : Nat) (s : Settings) :
    s.startUp rounds = s.firstUser?.elim (pure ()) (Directory.enrol rounds) := by
  rw [Settings.startUp, Settings.firstUser?, Directory.ensureBootstrapUser]
  cases s.bootstrapName with
  | none => exact if_pos (.inl rfl)
  | some name =>
    cases s.bootstrapPassword with
    | none => exact if_pos (.inr rfl)
    | some password =>
      dsimp only [Option.getD]
      by_cases h : name = "" ∨ password = ""
      · rw [if_pos h, if_pos h]
        rfl
      · rw [if_neg h, if_neg h]
        rfl

/-- Creates the user whom nobody was found to be. -/
theorem runOn_enrol {u : FirstUser} {w₁ w₂ : World Database} {r : Except Failure User}
    (e : (Users.find? u.name).runOn w = (.ok none, w₁))
    (e' : (Users.create rounds u.name u.password).runOn w₁ = (r, w₂)) :
    ∃ w', (Directory.enrol rounds u).runOn w = (r.map fun _ => (), w') ∧ w₂.Agrees w' := by
  rw [Directory.enrol, runOn_bind, e]
  show ∃ w', Action.runOn (Users.create rounds u.name u.password >>= _) w₁ = _ ∧ _
  rw [runOn_bind, e']
  cases r with
  | error f => exact ⟨w₂, rfl, .refl w₂⟩
  | ok user => exact reads_note _ w₂

/-- A startup adds the rows of newcomers, or fails over their accident, and changes nothing else. -/
theorem startUp_adds (h : w.Enrolling rows) (rounds : Nat) (s : Settings) :
    ∃ w', (s.startUp rounds).runOn w =
        (((s.newcomers rounds w rows).map fun _ => ()).mapError .accident, w') ∧
      w'.state = { w.state with users := some (rows ++ s.added rounds w rows) } ∧
      w'.Enrolling (rows ++ s.added rounds w rows) := by
  -- Where no row is added, the world agrees with the one before but for the numbers that were drawn.
  have hsame : ∀ {w' : World Database}, w'.state = w.state → w'.Enrolling rows →
      w'.state = { w.state with users := some (rows ++ []) } ∧ w'.Enrolling (rows ++ []) := fun hs h' => by
    rw [List.append_nil, ← h.users]
    exact ⟨hs, h'⟩
  rw [startUp_firstUser, Settings.added, Settings.newcomers]
  cases s.firstUser? with
  | none => exact ⟨w, rfl, hsame rfl h⟩
  | some u =>
    obtain ⟨name, password⟩ := u
    dsimp only [Option.elim]
    cases name with
    | broken b =>
      obtain ⟨w₁, e₁, a₁⟩ := Users.find?_broken h.users b
      refine ⟨w₁, ?_, hsame a₁.state (h.agrees a₁)⟩
      rw [Directory.enrol, runOn_bind, e₁]
      rfl
    | whole name =>
      obtain ⟨w₁, e₁, a₁⟩ := Users.find?_users h.users name
      dsimp only
      cases hf : rows.find? (·.loginName == name) with
      | some row =>
        rw [hf] at e₁
        refine ⟨w₁, ?_, ?_⟩
        · rw [Directory.enrol, runOn_bind, e₁]
          dsimp only
          cases row.id.readFault? <;> rfl
        · dsimp only
          cases row.id.readFault? <;> exact hsame a₁.state (h.agrees a₁)
      | none =>
        rw [hf] at e₁
        dsimp only at e₁ ⊢
        have h₁ := h.agrees a₁
        cases password with
        | broken b =>
          obtain ⟨w', e, a⟩ := runOn_enrol (u := ⟨name, .broken b⟩) e₁
            (show (Users.create rounds name (.broken b)).runOn w₁ =
              (.error (.accident (.ofBroken b)), { w₁ with issued := w₁.issued + 1 }) from rfl)
          exact ⟨w', e, hsame (a.state.trans a₁.state) (h₁.skip.agrees a)⟩
        | whole password =>
          have hnew : Users.newRow rounds name password w₁ = Users.newRow rounds name password w := by
            rw [Users.newRow, Users.newRow, a₁.issued, a₁.salts]
          obtain ⟨w₂, e₂, a₂⟩ := h₁.create (find?_name_iff.1 hf) rounds password
          obtain ⟨w', e, a⟩ := runOn_enrol (u := ⟨name, password⟩) e₁ e₂
          have h₂ := ((h₁.add name password).agrees a₂).agrees a
          rw [hnew] at a₂ h₂
          refine ⟨w', e, ?_, h₂⟩
          rw [a.state, ← a₁.state]
          exact a₂.state

/-- A startup where these users are ends with an answer and leaves the database of a world as it is or as that of
another: it adds the row of its first user, who authenticates then, if nobody has the name. It fails over a name without
bytes, over a user of the name whose id cannot be read, and, if nobody has the name, over a password without bytes. -/
def Settings.StartsUp (rounds : Nat) (rows : List UserRow) (w : World Database) (answer : Except Failure Unit)
    (w' : World Database) (s : Settings) : Prop :=
  match s.firstUser? with
  | none => answer = .ok () ∧ w'.state = w.state
  | some ⟨.broken b, _⟩ => answer = .error (.accident (.ofBroken b)) ∧ w'.state = w.state
  | some ⟨.whole name, password⟩ =>
    match rows.find? (·.loginName == name), password with
    | some row, _ => answer = row.id.readFault?.elim (.ok ()) (fun a => .error (.accident a)) ∧ w'.state = w.state
    | none, .broken b => answer = .error (.accident (.ofBroken b)) ∧ w'.state = w.state
    | none, .whole password =>
      answer = .ok () ∧ ∃ row : UserRow, row.loginName = name ∧ row.id ∉ rows.map UserRow.id ∧
        w'.state = { w.state with users := some (rows ++ [row]) } ∧
        ((Users.authenticate rounds (some ⟨name, password⟩)).runOn w').1 = .ok row.toUser

theorem startUp_once (h : w.Enrolling rows) (rounds : Nat) (s : Settings) :
    s.StartsUp rounds rows w ((s.startUp rounds).runOn w).1 ((s.startUp rounds).runOn w).2 := by
  obtain ⟨w', e, hw', h'⟩ := startUp_adds h rounds s
  rw [e]
  have hsame : s.added rounds w rows = [] → w'.state = w.state := fun hnone => by
    rw [hw', hnone, List.append_nil, ← h.users]
  rw [Settings.added] at hsame hw' h'
  rw [Settings.newcomers] at hsame hw' h' ⊢
  rw [Settings.StartsUp]
  cases hc : s.firstUser? with
  | none => exact ⟨rfl, hsame (by rw [hc])⟩
  | some u =>
    rw [hc] at hsame hw' h'
    obtain ⟨_ | b, password⟩ := u
    · rename_i name
      dsimp only at hsame hw' h' ⊢
      cases hf : rows.find? (·.loginName == name) with
      | some row =>
        rw [hf] at hsame
        dsimp only at hsame ⊢
        cases hread : row.id.readFault? with
        | none => exact ⟨rfl, hsame (by rw [hread]; rfl)⟩
        | some a => exact ⟨rfl, hsame (by rw [hread]; rfl)⟩
      | none =>
        rw [hf] at hsame hw' h'
        cases password with
        | broken b => exact ⟨rfl, hsame rfl⟩
        | whole password =>
          have haccepts := Users.newRow_accepts rounds name password w
          refine ⟨rfl, Users.newRow rounds name password w, rfl, fun hid => ?_, hw',
            Users.authenticate_accepts h'.users ?_ haccepts⟩
          · obtain ⟨row, hm, he⟩ := List.mem_map.1 hid
            exact Nat.lt_irrefl _ (h.numbered row hm _ he)
          · rw [List.find?_append, hf, Option.none_or]
            exact List.find?_cons_of_pos (beq_self_eq_true _)
    · exact ⟨rfl, hsame rfl⟩

/-- The rows that a startup adds can be read. -/
theorem readable_added (rounds : Nat) (w : World Database) (rows : List UserRow) (s : Settings) :
    ∀ row ∈ s.added rounds w rows, row.id.readFault? = none := by
  rw [Settings.added, Settings.newcomers]
  split
  · rename_i new hnew
    split at hnew
    · cases hnew
      exact fun _ hm => by cases hm
    · cases hnew
    · split at hnew
      · rename_i row _
        cases hr : row.id.readFault? <;> rw [hr] at hnew <;> cases hnew
        exact fun _ hm => by cases hm
      · split at hnew <;> cases hnew
        exact fun row hm => List.mem_singleton.1 hm ▸ rfl
  · exact fun _ hm => by cases hm

/-- Among the rows that a startup adds, the one of a name that nobody has is that of the first user, if that has the
name and can be created. -/
theorem added_find {name : String} (hn : name ∉ rows.map UserRow.loginName) (rounds : Nat) (w : World Database)
    (s : Settings) :
    Option.Rel (UserRow.Accepts rounds) ((s.added rounds w rows).find? (·.loginName == name))
      (s.credentials?.filter (·.userName == name)) := by
  rw [Settings.added, Settings.newcomers, Settings.credentials?]
  cases s.firstUser? with
  | none => exact .none
  | some u =>
    obtain ⟨_ | b, password⟩ := u
    · rename_i name'
      dsimp only [Option.bind]
      by_cases hname : name' = name
      · subst hname
        rw [find?_name_iff.2 hn]
        cases password with
        | broken b => exact .none
        | whole password =>
          have hrow : [Users.newRow rounds name' password w].find? (·.loginName == name') =
              some (Users.newRow rounds name' password w) := by simp [Users.newRow]
          have hself : (some (⟨name', password⟩ : Credentials)).filter (·.userName == name') =
              some ⟨name', password⟩ := by simp
          show Option.Rel _ ([Users.newRow rounds name' password w].find? _)
            ((some (⟨name', password⟩ : Credentials)).filter _)
          rw [hrow, hself]
          exact .some (Users.newRow_accepts rounds name' password w)
      · have hother : ((⟨.whole name', password⟩ : FirstUser).credentials?).filter (·.userName == name) = none := by
          cases password <;> simp [FirstUser.credentials?, Text.Loose.whole?, hname]
        rw [hother]
        split
        · rename_i new hnew
          split at hnew
          · rename_i row _
            cases hr : row.id.readFault? <;> rw [hr] at hnew <;> cases hnew
            exact .none
          · split at hnew <;> cases hnew
            simp [Users.newRow, hname]
        · exact .none
    · exact .none

/-! ## All startups -/

theorem find?_credentials (s : Settings) (rest : List Settings) (p : Credentials → Bool) :
    ((s :: rest).filterMap Settings.credentials?).find? p =
      (s.credentials?.filter p).or ((rest.filterMap Settings.credentials?).find? p) := by
  cases hs : s.credentials? with
  | none => rw [List.filterMap_cons_none hs]; rfl
  | some c =>
    rw [List.filterMap_cons_some hs, List.find?_cons, Option.filter]
    cases p c <;> rfl

/-- What startups add in turn comes last, and it can be read. A name that no user had belongs to the first user whom a
startup could give it, if there is one, and else still to nobody. By induction over the startups that are to come. -/
theorem startUps_add (h : w.Enrolling rows) (rounds : Nat) (startups : List Settings) :
    ∃ added, (w.startUps rounds startups).2.state = { w.state with users := some (rows ++ added) } ∧
      (w.startUps rounds startups).2.Enrolling (rows ++ added) ∧ (∀ row ∈ added, row.id.readFault? = none) ∧
      ∀ name ∉ rows.map UserRow.loginName,
        Option.Rel (UserRow.Accepts rounds) (added.find? (·.loginName == name))
          ((startups.filterMap Settings.credentials?).find? (·.userName == name)) := by
  induction startups generalizing w rows with
  | nil =>
    refine ⟨[], ?_, (List.append_nil rows).symm ▸ h, List.forall_mem_nil _, fun _ _ => .none⟩
    rw [List.append_nil, ← h.users]
    rfl
  | cons s rest ih =>
    obtain ⟨w₁, e, hstate, h₁⟩ := startUp_adds h rounds s
    obtain ⟨added, hstate', h₂, hread, hfound⟩ := ih h₁
    show ∃ added, (((s.startUp rounds).runOn w).2.startUps rounds rest).2.state = _ ∧
      (((s.startUp rounds).runOn w).2.startUps rounds rest).2.Enrolling _ ∧ _
    rw [e]
    refine ⟨s.added rounds w rows ++ added, ?_, ?_, List.forall_mem_append.2 ⟨readable_added rounds w rows s, hread⟩,
      fun name hn => ?_⟩
    · rw [hstate', hstate, List.append_assoc]
    · rwa [← List.append_assoc]
    · rw [find?_credentials, List.find?_append]
      have hnew := added_find hn rounds w s
      generalize hr : (s.added rounds w rows).find? (·.loginName == name) = found at hnew ⊢
      generalize s.credentials?.filter (·.userName == name) = first at hnew ⊢
      cases hnew with
      | some haccepts => exact .some haccepts
      | none =>
        refine hfound name fun hm => ?_
        rcases List.mem_append.1 (List.map_append ▸ hm) with hm | hm
        · exact hn hm
        · exact find?_name_iff.1 hr hm

theorem startUps_concat (rounds : Nat) (w : World Database) (startups : List Settings) (s : Settings) :
    w.startUps rounds (startups ++ [s]) =
      let (answers, w₁) := w.startUps rounds startups
      let (answer, w₂) := (s.startUp rounds).runOn w₁
      (answers ++ [answer], w₂) := by
  induction startups generalizing w with
  | nil => rfl
  | cons first rest ih =>
    show (((first.startUp rounds).runOn w).1 :: (((first.startUp rounds).runOn w).2.startUps rounds (rest ++ [s])).1,
      (((first.startUp rounds).runOn w).2.startUps rounds (rest ++ [s])).2) = _
    rw [ih]
    rfl

/-- No startup fails where the ids of all users can be read, if the names and the passwords have bytes. By induction over
the startups that are to come. -/
theorem startUps_answers (h : w.Enrolling rows) (hread : ∀ row ∈ rows, row.id.readFault? = none)
    {startups : List Settings} (hs : ∀ s ∈ startups, ∀ u, s.firstUser? = some u → u.credentials?.isSome) (rounds : Nat) :
    (w.startUps rounds startups).1 = startups.map fun _ => .ok () := by
  induction startups generalizing w rows with
  | nil => rfl
  | cons s rest ih =>
    obtain ⟨hs, hrest⟩ := List.forall_mem_cons.1 hs
    obtain ⟨w₁, e, -, h₁⟩ := startUp_adds h rounds s
    have hanswers := ih h₁ (List.forall_mem_append.2 ⟨hread, readable_added rounds w rows s⟩) hrest
    have hok : ∃ new, s.newcomers rounds w rows = .ok new := by
      rw [Settings.newcomers]
      cases hc : s.firstUser? with
      | none => exact ⟨_, rfl⟩
      | some u =>
        have hwhole := hs u hc
        obtain ⟨_ | b, password⟩ := u
        · rename_i name
          dsimp only
          cases hf : rows.find? (·.loginName == name) with
          | some row =>
            dsimp only
            rw [hread row (List.mem_of_find?_eq_some hf)]
            exact ⟨_, rfl⟩
          | none =>
            cases password with
            | whole password => exact ⟨_, rfl⟩
            | broken b => cases hwhole
        · cases hwhole
    obtain ⟨new, hnew⟩ := hok
    show ((s.startUp rounds).runOn w).1 :: (((s.startUp rounds).runOn w).2.startUps rounds rest).1 = _
    rw [e, hnew]
    exact congrArg _ hanswers

/-- The first user of a startup that has been has a row, if the user could be created. -/
theorem taken_of_mem {startups : List Settings} {added : List UserRow}
    (hfound : ∀ name ∉ rows.map UserRow.loginName,
      Option.Rel (UserRow.Accepts rounds) (added.find? (·.loginName == name))
        ((startups.filterMap Settings.credentials?).find? (·.userName == name)))
    {s : Settings} (hs : s ∈ startups) (hc : s.credentials? = some c) :
    c.userName ∈ (rows ++ added).map UserRow.loginName := by
  rw [List.map_append, List.mem_append]
  by_cases hn : c.userName ∈ rows.map UserRow.loginName
  · exact .inl hn
  · refine .inr (Decidable.byContradiction fun hadded => ?_)
    have hrel := hfound c.userName hn
    rw [find?_name_iff.2 hadded] at hrel
    revert hrel
    cases hf : (startups.filterMap Settings.credentials?).find? (·.userName == c.userName) with
    | none => exact fun _ => List.find?_eq_none.1 hf c (List.mem_filterMap.2 ⟨s, hs, hc⟩) (beq_self_eq_true _)
    | some d => rintro ⟨⟩

/-- A startup changes nothing if its first user, where that can be created, has a row. -/
theorem Settings.StartsUp.state_eq {s : Settings} {answer : Except Failure Unit} {w' : World Database}
    (h : s.StartsUp rounds rows w answer w')
    (ht : ∀ c, s.credentials? = some c → c.userName ∈ rows.map UserRow.loginName) : w'.state = w.state := by
  rw [StartsUp] at h
  split at h
  · exact h.2
  · exact h.2
  · rename_i name password hfirst
    split at h
    · exact h.2
    · exact h.2
    · rename_i password hf
      exact absurd (ht ⟨name, password⟩ (by rw [credentials?, hfirst]; rfl)) (find?_name_iff.1 hf)

/-! ## Main statement -/

/-- In a database with a table of users, whatever other tables it has, startups add users behind those who were there,
whether they fail or not: no row is changed or removed, nothing else in the database changes, and who was a user
authenticates as before. Whoever was not is a user with the password of the first startup that named the user with a name
and a password that have bytes. No startup fails if all names and passwords have bytes and all ids can be read. One more
startup adds the row of its first user, who authenticates then, exactly if nobody has the name and both are whole, and it
fails exactly over a name without bytes, an id that cannot be read of a user who has the name, and a password without
bytes for a name that nobody has. A startup that repeats one before leaves the database as it is. -/
theorem startups_repeatable (h : w.Enrolling rows) (rounds : Nat) (startups : List Settings) :
    let (answers, w₁) := w.startUps rounds startups
    let authenticate := fun (w : World Database) c => ((Users.authenticate rounds (some c)).runOn w).1
    ∃ added,
      w₁.state = { w.state with users := some (rows ++ added) } ∧
      (∀ row ∈ rows, ∀ attempt,
        authenticate w₁ ⟨row.loginName, attempt⟩ = authenticate w ⟨row.loginName, attempt⟩) ∧
      (∀ c, c.userName ∉ rows.map UserRow.loginName →
        (startups.filterMap Settings.credentials?).find? (·.userName == c.userName) = some c →
        ∃ row ∈ added, row.loginName = c.userName ∧ authenticate w₁ c = .ok row.toUser) ∧
      ((∀ row ∈ rows, row.id.readFault? = none) →
        (∀ s ∈ startups, ∀ u, s.firstUser? = some u → u.credentials?.isSome) →
        answers = startups.map fun _ => .ok ()) ∧
      ∀ s : Settings,
        let (answer, w₂) := (s.startUp rounds).runOn w₁
        w.startUps rounds (startups ++ [s]) = (answers ++ [answer], w₂) ∧
          s.StartsUp rounds (rows ++ added) w₁ answer w₂ ∧ (s ∈ startups → w₂.state = w₁.state) := by
  obtain ⟨added, hstate, h₁, -, hfound⟩ := startUps_add h rounds startups
  have husers : (w.startUps rounds startups).2.state.users = some (rows ++ added) := h₁.users
  refine ⟨added, hstate, fun row hm attempt => ?_, fun c hn hc => ?_,
    fun hread hs => startUps_answers h hread hs rounds, fun s => ?_⟩
  · refine Users.authenticate_congr h.users husers ?_
    dsimp only
    rw [List.find?_append, Option.or_of_isSome]
    exact List.find?_isSome.2 ⟨row, hm, beq_self_eq_true _⟩
  · have hrel := hfound c.userName hn
    rw [hc] at hrel
    revert hrel
    cases hr : added.find? (·.loginName == c.userName) with
    | none => rintro ⟨⟩
    | some row =>
      rintro ⟨haccepts⟩
      refine ⟨row, List.mem_of_find?_eq_some hr, haccepts.name, Users.authenticate_accepts husers ?_ haccepts⟩
      rw [List.find?_append, find?_name_iff.2 hn, Option.none_or, hr]
  · have honce := startUp_once h₁ rounds s
    exact ⟨startUps_concat rounds w startups s, honce, fun hs => honce.state_eq fun c hc => taken_of_mem hfound hs hc⟩

/-- The settings that name a first user. -/
def Settings.naming (name password : Text.Loose) : Settings :=
  { Settings.default with bootstrapName := some name, bootstrapPassword := some password }

/-- Anna is the first user, bert is there already, and later startups with another password for anna, or with one
without bytes, do not matter. -/
theorem startups_repeatable_of_anna :
    let rows : List UserRow := [⟨.external "8f14e45f-ceea-467f-a0e6-8b5d3c2a1f00", "bert", "5a$17"⟩]
    let w : World Database := { state := { Database.fresh with users := some rows, groups := none } }
    let startups : List Settings := [.naming "anna" "secret", .naming "bert" "other", .naming "anna" "other"]
    let (answers, w₁) := w.startUps 1 startups
    let (answer, w₂) := ((Settings.naming "anna" "secret").startUp 1).runOn w₁
    w.Enrolling rows ∧ answers = [.ok (), .ok (), .ok ()] ∧ (∃ added, w₁.state.users = some (rows ++ added)) ∧
      (∃ u, ((Users.authenticate 1 (some ⟨"anna", "secret"⟩)).runOn w₁).1 = .ok u) ∧
      w.startUps 1 (startups ++ [.naming "anna" "secret"]) = (answers ++ [answer], w₂) ∧ w₂.state = w₁.state := by
  intro rows w startups
  have h : w.Enrolling rows := ⟨rfl, rfl, fun row hm n he => by
    obtain rfl := List.mem_singleton.1 hm
    cases he⟩
  have hread : ∀ row ∈ rows, row.id.readFault? = none := List.forall_mem_singleton.2 (by decide +kernel)
  obtain ⟨added, hstate, -, hfirst, hanswers, hmore⟩ := startups_repeatable h 1 startups
  obtain ⟨row, -, -, hauth⟩ := hfirst ⟨"anna", "secret"⟩ (by decide) (by decide)
  obtain ⟨hnext, -, hsame⟩ := hmore (.naming "anna" "secret")
  exact ⟨h, hanswers hread (by decide), ⟨added, congrArg Database.users hstate⟩, ⟨row.toUser, hauth⟩, hnext,
    hsame (List.mem_cons_self ..)⟩

/-- A startup whose first user has a name that nobody has fails and adds nobody if the password has no bytes, and one for
a user who is there fails if the id of the user is kept as a number. -/
theorem startups_failing :
    let w : World Database := { state := .fresh }
    let w' : World Database :=
      { state := { Database.fresh with users := some [⟨.external "7", "bert", "5a$17"⟩] } }
    let broken : Text.Broken := ⟨"", 0, []⟩
    (((Settings.naming "anna" (.broken broken)).startUp 1).runOn w =
        (.error (.accident (.ofBroken broken)), { w with issued := 1 })) ∧
      ∃ a, (((Settings.naming "bert" "secret").startUp 1).runOn w').1 = .error (.accident a) :=
  ⟨rfl, _, rfl⟩

end ParticipantDirectory
