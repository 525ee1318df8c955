import ParticipantDirectory.Proofs.Framework.Matching
import ParticipantDirectory.Proofs.Service.Incidents

/-!
# What passwords decide

A password is used to verify it, and to make what is stored of it. Two passwords for which the verdict is the same
(`Database.SameVerdict`) are presented to the same effect: authentication ends alike (`matches_authenticate`), and in
every operation it is the only part that looks at them (`matches_perform`). Of a user who is created nothing but the
stored password depends on the password: the worlds are the same but for what is stored (`World.concealed`). If the
database fails at the statement that was to store it, the last record has what the driver says of that statement, which
may depend on the password, and nothing else does (`Apart`, `Users.apart_create`, `Directory.apart_ensureBootstrapUser`).
-/

namespace ParticipantDirectory

open Action Transaction

/-! ## The verdict -/

/-- Both passwords verify against what is stored for the user of a name, or neither does, or there is no such user. -/
def Database.SameVerdict (db : Database) (rounds : Nat) (name password password' : String) : Prop :=
  ∀ row, db.userNamed name = some row →
    Password.verify rounds password row.passwordHash = Password.verify rounds password' row.passwordHash

/-- The world has this database. -/
def Has (db : Database) (w : World Database) : Prop :=
  w.state = db

/-- What only reads leaves a world its database. -/
theorem matches_of_reads {α : Type} {db : Database} {a : Action Database α} {f : Database → Except Failure α}
    (ha : a.Reads f) : Matches (Same (Has db)) (Same (Has db)) a a :=
  (ha.preserves fun _ _ h agrees => agrees.state.trans h).matches

namespace Users

variable {db : Database} {rounds : Nat} {name password password' : String}

/-- A row that is found under a name is that of the user of the name. -/
theorem namedRow_ok {row : UserRow} (h : (namedRow name).answer db = .ok row) : db.userNamed name = some row := by
  obtain ⟨⟨r, db'⟩, ho, rfl⟩ := ok_of_map h
  have hr := ok_of_mapError ho
  rw [Database.userNamed]
  cases ht : db.users with
  | none =>
    rw [namedRow, findRow, run_bind, run_bind, Transaction.users, run_rows, ht] at hr
    cases hr
  | some rows =>
    rw [run_namedRow ht] at hr
    rw [Option.bind_some]
    cases hf : rows.find? (·.loginName == name) with
    | none =>
      rw [hf] at hr
      cases hr
    | some r =>
      rw [hf] at hr
      dsimp only at hr
      split at hr
      · cases hr
        rfl
      · cases hr

/-- Passwords with the same verdict authenticate alike. -/
theorem matches_authenticate (h : db.SameVerdict rounds name password password') :
    Matches (Same (Has db)) Eq (authenticate rounds (some ⟨name, password⟩))
      (authenticate rounds (some ⟨name, password'⟩)) := by
  refine matches_same_iff.2 ?_
  rintro w rfl
  obtain ⟨w₁, e, -⟩ := session_reads (readOnly_namedRow name) w
  -- Whatever is attempted, the row is looked up first, and the attempt is used for the verdict alone.
  have hrun : ∀ attempt, (authenticate rounds (some ⟨name, attempt⟩)).runOn w =
      match (namedRow name).answer w.state with
      | .ok row => (if Password.verify rounds attempt row.passwordHash then pure row.toUser
          else Action.fail (.unauthorized ("Illegal password provided for user '" ++ name ++ "'") "UNAUTHORIZED") :
            Action Database User).runOn w₁
      | .error f => (.error f, w₁) := by
    intro attempt
    show (session (namedRow name) >>= _).runOn w = _
    rw [runOn_bind, e]
    cases (namedRow name).answer w.state <;> rfl
  show (authenticate rounds (some ⟨name, password⟩)).runOn w = (authenticate rounds (some ⟨name, password'⟩)).runOn w
  rw [hrun, hrun]
  cases ha : (namedRow name).answer w.state with
  | error f => rfl
  | ok row =>
    dsimp only
    rw [h row (namedRow_ok ha)]

end Users

/-! ## Calls -/

/-- The call with credentials in the place of those that it presents. -/
def Call.presenting (c : Credentials) : Call → Call
  | getGroup id => getGroup id
  | createGroup id _ extension => createGroup id (some c) extension
  | deleteGroup id _ => deleteGroup id (some c)
  | getCard id => getCard id
  | createCard id payload _ => createCard id payload (some c)
  | deleteCard id _ => deleteCard id (some c)

namespace Directory

variable {d : Directory} {db : Database} {name password password' : String}

section

variable (h : db.SameVerdict d.rounds name password password') (uri : Option String)
include h

theorem matches_requireOwner (p : Identifier) :
    Matches (Same (Has db)) Eq ((d.collaborators uri).requireOwner p (some ⟨name, password⟩))
      ((d.collaborators uri).requireOwner p (some ⟨name, password'⟩)) :=
  (Users.matches_authenticate h).bind_same _

theorem matches_createGroup (id : String) (extension : Option String) :
    Matches (Same (Has db)) Eq (GroupService.create (d.collaborators uri) id (some ⟨name, password⟩) extension)
      (GroupService.create (d.collaborators uri) id (some ⟨name, password'⟩) extension) := by
  refine (matches_of_reads (reads_beginGroup _ _)).seq_same fun _ => (matches_block _ ?_).bind_same _
  exact (matches_of_reads (d.reads_parse uri id)).seq_same fun _ => (Users.matches_authenticate h).bind_same _

theorem matches_deleteGroup (id : String) :
    Matches (Same (Has db)) Eq (GroupService.delete (d.collaborators uri) id (some ⟨name, password⟩))
      (GroupService.delete (d.collaborators uri) id (some ⟨name, password'⟩)) := by
  refine (matches_of_reads (reads_beginGroup _ _)).seq_same fun _ => (matches_block _ ?_).bind_same _
  exact (matches_of_reads (d.reads_parse uri id)).seq_same fun p => (matches_requireOwner h uri p).bind_same _

theorem matches_createCard (id : String) (payload : CardPayload) :
    Matches (Same (Has db)) Eq (CardService.create (d.collaborators uri) id payload (some ⟨name, password⟩))
      (CardService.create (d.collaborators uri) id payload (some ⟨name, password'⟩)) := by
  refine (matches_of_reads (reads_beginCard _ _ _)).seq_same fun _ => (matches_block _ ?_).bind_same _
  refine (matches_of_reads (d.reads_parse uri id)).seq_same fun p => ?_
  refine (matches_of_reads (d.reads_requireSameParticipant uri p payload)).seq_same fun _ => ?_
  refine (matches_of_reads (d.reads_requireGroup uri id p)).seq_same fun _ => ?_
  exact (matches_requireOwner h uri p).bind_same _

theorem matches_deleteCard (id : String) :
    Matches (Same (Has db)) Eq (CardService.delete (d.collaborators uri) id (some ⟨name, password⟩))
      (CardService.delete (d.collaborators uri) id (some ⟨name, password'⟩)) := by
  refine (matches_of_reads (reads_beginCard _ _ _)).seq_same fun _ => (matches_block _ ?_).bind_same _
  exact (matches_of_reads (d.reads_parse uri id)).seq_same fun p => (matches_requireOwner h uri p).bind_same _

/-- Passwords with the same verdict are presented to the same effect. -/
theorem matches_perform (call : Call) :
    Matches (Same (Has db)) Eq ((call.presenting ⟨name, password⟩).perform (d.collaborators uri))
      ((call.presenting ⟨name, password'⟩).perform (d.collaborators uri)) := by
  cases call with
  | getGroup id | getCard id => exact matches_same_iff.2 fun _ _ => rfl
  | createGroup id _ extension => exact matches_map _ (matches_createGroup h uri id extension)
  | deleteGroup id _ => exact matches_map _ (matches_deleteGroup h uri id)
  | createCard id payload _ => exact matches_map _ (matches_createCard h uri id payload)
  | deleteCard id _ => exact matches_map _ (matches_deleteCard h uri id)

end

end Directory

/-! ## Creating users -/

/-- The row without what is stored of the password. -/
def UserRow.concealed (r : UserRow) : UserRow :=
  { r with passwordHash := "" }

/-- The database without what is stored of passwords. -/
def Database.concealed (db : Database) : Database :=
  { db with users := db.users.map fun rows => rows.map UserRow.concealed }

/-- The world without what is stored of passwords. -/
def World.concealed (w : World Database) : World Database :=
  { w with state := w.state.concealed }

/-- The worlds are the same but for what is stored of passwords. -/
def Concealed (w w' : World Database) : Prop :=
  w.concealed = w'.concealed

/-- The world with a record more. -/
def World.noting (w : World Database) (r : Record) : World Database :=
  { w with journal := w.journal ++ [r] }

/-- In the table of users, what is stored of passwords is no key. -/
def Unkeyed (w : World Database) : Prop :=
  "password_hash" ∉ w.state.constraints.users.keys

/-- The ends of two runs, each with a statement that was to store a password, of which the driver says this and that in
case of an error of a kind. The runs end alike, in worlds that are the same but for what is stored of the passwords; or
the database failed at both statements, and the worlds are the same but for what the driver says in the last record. -/
inductive Apart {α : Type} (said said' : String → String) :
    Except Failure α × World Database → Except Failure α × World Database → Prop
  | stored (answer : Except Failure α) {w w' : World Database} (h : Concealed w w') :
    Apart said said' (answer, w) (answer, w')
  | refused (f : Failure) (kind operation : String) (w : World Database) :
    Apart said said' (.error f, w.noting (databaseRecord kind operation (said kind)))
      (.error f, w.noting (databaseRecord kind operation (said' kind)))

/-- The world after a session whose transaction was aborted. -/
def Abort.noted (w : World Database) : Abort → World Database
  | .integrity s => w.noting (databaseRecord "IntegrityError" "commit" (w.explain "IntegrityError" s))
  | .unavailable s => w.noting (databaseRecord "OperationalError" "execute" (w.explain "OperationalError" s))
  | .failure _ => w

theorem runOn_session {α : Type} (t : Transaction α) (w : World Database) : (session t).runOn w =
    match t.run w.state with
    | .ok (a, db) => (.ok a, { w with state := db })
    | .error e => (.error e.reported, e.noted w) := by
  rw [session, runOn_bind, runOn_get]
  dsimp only
  cases t.run w.state with
  | ok p => rfl
  | error e => cases e <;> rfl

theorem matches_note (r : Record) : Matches Concealed Concealed (note r) (note r) := by
  intro w w' h
  have hnoted : w.concealed.noting r = w'.concealed.noting r := congrArg (·.noting r) h
  exact ⟨rfl, hnoted⟩

/-- What follows the statements goes on alike. -/
theorem Apart.bind {α β : Type} {said said' : String → String} {a a' : Action Database α} {w w' : World Database}
    (h : Apart said said' (a.runOn w) (a'.runOn w')) {f : α → Action Database β}
    (hf : ∀ x, Matches Concealed Concealed (f x) (f x)) :
    Apart said said' ((a >>= f).runOn w) ((a' >>= f).runOn w') := by
  rw [runOn_bind, runOn_bind]
  generalize a.runOn w = ended at h ⊢
  generalize a'.runOn w' = ended' at h ⊢
  cases h with
  | refused f kind operation v => exact .refused f kind operation v
  | stored answer h =>
    rename_i v v'
    cases answer with
    | error f => exact .stored (.error f) h
    | ok x =>
      obtain ⟨hanswer, hworld⟩ := hf x v v' h
      show Apart said said' ((f x).runOn v) ((f x).runOn v')
      rw [show (f x).runOn v' = (((f x).runOn v).1, ((f x).runOn v').2) from Prod.ext hanswer.symm rfl]
      exact .stored _ hworld

namespace Users

theorem cell_concealed (r : UserRow) {k : String} (h : k ≠ "password_hash") : r.concealed.cell k = r.cell k := by
  unfold UserRow.cell
  split
  · rfl
  · rfl
  · exact absurd rfl h
  · rfl
  · rfl

/-- Where what is stored of the password is no key, it does not matter to the constraints. -/
theorem refuse_concealed {asked : TableConstraints} (hk : "password_hash" ∉ asked.keys) (rows : List UserRow)
    (id : UserId) (name stored stored' : String) :
    asked.refuse UserRow.cell rows ⟨id, name, stored⟩ = asked.refuse UserRow.cell rows ⟨id, name, stored'⟩ := by
  have hlacks : lacks asked.required UserRow.cell (⟨id, name, stored⟩ : UserRow) =
      lacks asked.required UserRow.cell (⟨id, name, stored'⟩ : UserRow) := by
    refine congrArg (List.any asked.required) (funext fun k => ?_)
    unfold UserRow.cell
    split <;> rfl
  have hcell : ∀ k ∈ asked.keys, (⟨id, name, stored⟩ : UserRow).cell k = (⟨id, name, stored'⟩ : UserRow).cell k := by
    intro k hm
    have hne : k ≠ "password_hash" := fun he => hk (he ▸ hm)
    rw [← cell_concealed _ hne, ← cell_concealed (⟨id, name, stored'⟩ : UserRow) hne]
    rfl
  rw [TableConstraints.refuse, TableConstraints.refuse, hlacks, conflicts, conflicts, Bool.eq_iff_iff, Bool.or_eq_true,
    Bool.or_eq_true, List.any_eq_true, List.any_eq_true]
  refine or_congr_right (exists_congr fun k => and_congr_right fun hm => ?_)
  rw [hcell k hm]

/-- What is stored of the password is not said to come from one, so that no key is derived when the rows are compared. -/
theorem apart_enter {w : World Database} (hw : Unkeyed w) (id : UserId) (name stored stored' : String) :
    Apart (w.explain · (.addUser id name stored)) (w.explain · (.addUser id name stored'))
      ((enter ⟨id, name, stored⟩).runOn w) ((enter ⟨id, name, stored'⟩).runOn w) := by
  refine Apart.bind ?_ fun _ => (matches_note _).bind (fun _ => matches_pure _) fun _ _ h => h
  rw [runOn_session, runOn_session, run_insertRow, run_insertRow]
  cases w.state.users with
  | none => exact .refused _ "OperationalError" "execute" w
  | some rows =>
    dsimp only
    rw [refuse_concealed hw rows id name stored stored']
    cases w.state.constraints.users.refuse UserRow.cell rows ⟨id, name, stored'⟩ with
    | true => exact .refused _ "IntegrityError" "commit" w
    | false =>
      refine .stored _ ?_
      rw [Concealed, World.concealed, World.concealed, Database.concealed, Database.concealed, Option.map_some,
        Option.map_some, List.map_append, List.map_append]
      rfl

/-- A name that cannot be sent is not looked at if there is no table; else the statement is not sent. -/
theorem apart_unsent (w : World Database) (b : Text.Broken) (s s' : Statement) :
    Apart (w.explain · s) (w.explain · s') ((session (unsent s b : Transaction User)).runOn w)
      ((session (unsent s' b : Transaction User)).runOn w) := by
  rw [runOn_session, runOn_session, unsent, unsent, run_bind, run_bind, Transaction.users, run_rows,
    run_rows]
  cases w.state.users with
  | none => exact .refused _ "OperationalError" "execute" w
  | some rows => exact .stored _ rfl

/-- The statement that is to add a new user. -/
def enrolment (rounds : Nat) (name : Text.Loose) (password : String) (w : World Database) : Statement :=
  .addUser (.issued w.issued) name (Password.hash rounds (w.salts w.issued) password)

theorem runOn_create_unsent (rounds : Nat) (b : Text.Broken) (password : String) (w : World Database) :
    (create rounds (.broken b) password).runOn w =
      (session (unsent (enrolment rounds (.broken b) password w) b)).runOn { w with issued := w.issued + 1 } := rfl

/-- Nothing but what is stored of the password, or what is said of the statement that was to store it, depends on the
password of a new user. -/
theorem apart_create {w : World Database} (hw : Unkeyed w) (rounds : Nat) (name : Text.Loose)
    (password password' : String) :
    Apart (w.explain · (enrolment rounds name password w)) (w.explain · (enrolment rounds name password' w))
      ((create rounds name password).runOn w) ((create rounds name password').runOn w) := by
  cases name with
  | whole name =>
    rw [runOn_create_enter, runOn_create_enter, newRow, newRow, enrolment, enrolment]
    exact apart_enter (w := { w with issued := w.issued + 1 }) hw _ name _ _
  | broken b =>
    rw [runOn_create_unsent, runOn_create_unsent]
    exact apart_unsent { w with issued := w.issued + 1 } b _ _

end Users

/-! ## Creating the first user -/

/-- What is found does not change the world. -/
theorem Users.runOn_find?_ok {name : Text.Loose} {w w' : World Database} {u : Option User}
    (h : (Users.find? name).runOn w = (.ok u, w')) : w' = w := by
  rw [Users.find?, runOn_session] at h
  split at h
  · rename_i found
    cases h
    rw [((Users.readOnly_findRow name).bind fun row => readOnly_pure (row.map UserRow.toUser)) _ _ _ found]
  · cases h

namespace Directory

variable {w : World Database}

theorem whole_ne_empty {text : String} (h : text ≠ "") : (text : Text.Loose) ≠ "" :=
  fun he => h (Text.Loose.whole.inj he)

/-- Nothing but what is stored of the password, or what is said of the statement that was to store it, depends on the
password of the first user, if there is one. -/
theorem apart_ensureBootstrapUser (hw : Unkeyed w) (rounds : Nat) (name : Option Text.Loose) {password password' : String}
    (hp : password ≠ "") (hp' : password' ≠ "") :
    Apart (w.explain · (Users.enrolment rounds (name.getD "") password w))
      (w.explain · (Users.enrolment rounds (name.getD "") password' w))
      ((ensureBootstrapUser rounds name (some ↑password)).runOn w)
      ((ensureBootstrapUser rounds name (some ↑password')).runOn w) := by
  unfold ensureBootstrapUser
  dsimp only [Option.getD_some]
  by_cases hn : name.getD "" = ""
  · rw [if_pos (.inl hn), if_pos (.inl hn)]
    exact .stored _ rfl
  rw [if_neg (not_or.2 ⟨hn, whole_ne_empty hp⟩), if_neg (not_or.2 ⟨hn, whole_ne_empty hp'⟩), runOn_bind, runOn_bind]
  rcases hfind : (Users.find? (name.getD "")).runOn w with ⟨f | _ | u, w₁⟩
  · exact .stored _ rfl
  · obtain rfl := Users.runOn_find?_ok hfind
    exact (Users.apart_create hw rounds (name.getD "") password password').bind fun _ => matches_note _
  · exact .stored _ rfl

/-- A password without bytes is as good as any other, unless the first user is to be created with it. -/
theorem ensureBootstrapUser_broken (rounds : Nat) (name : Option Text.Loose) (b : Text.Broken) (w : World Database) :
    (∀ password : String, password ≠ "" →
        (ensureBootstrapUser rounds name (some ↑password)).runOn w =
          (ensureBootstrapUser rounds name (some (.broken b))).runOn w) ∨
      (ensureBootstrapUser rounds name (some (.broken b))).runOn w =
        (.error (.accident (.ofBroken b)), { w with issued := w.issued + 1 }) := by
  unfold ensureBootstrapUser
  dsimp only [Option.getD_some]
  by_cases hn : name.getD "" = ""
  · refine .inl fun password _ => ?_
    rw [if_pos (.inl hn), if_pos (.inl hn)]
  rw [if_neg (not_or.2 ⟨hn, nofun⟩), runOn_bind]
  rcases hfind : (Users.find? (name.getD "")).runOn w with ⟨f | _ | u, w₁⟩
  · refine .inl fun password hp => ?_
    rw [if_neg (not_or.2 ⟨hn, whole_ne_empty hp⟩), runOn_bind, hfind]
  · obtain rfl := Users.runOn_find?_ok hfind
    exact .inr rfl
  · refine .inl fun password hp => ?_
    rw [if_neg (not_or.2 ⟨hn, whole_ne_empty hp⟩), runOn_bind, hfind]
    rfl

end Directory

end ParticipantDirectory
