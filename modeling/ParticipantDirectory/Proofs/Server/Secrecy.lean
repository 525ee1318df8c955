import ParticipantDirectory.Proofs.Digest.Rounds
import ParticipantDirectory.Proofs.Password
import ParticipantDirectory.Proofs.Server.Cards
import ParticipantDirectory.Proofs.Server.Registration
import ParticipantDirectory.Proofs.Service.Secrecy

/-!
# Passwords in requests

Two requests that differ in the password of their authorization (`Request.authorizing`) get the same response, and leave
the same server, if the verdict on both passwords is the same: the steps of answering them match (`matches_step`), for
the operations that they come to do.
-/

namespace ParticipantDirectory

open Action

namespace Http.Request

/-- The request with this authorization in the place of its own. -/
def authorizing (r : Request) (text : String) : Request :=
  { r with headers := ("authorization", text) :: r.headers }

variable (r : Request) (text : String)

theorem header_authorizing {name : String} (h : name ≠ "authorization") :
    (r.authorizing text).header name = r.header name := by
  have hne : ("authorization" == name) = false := beq_false_of_ne (Ne.symm h)
  rw [header, header, authorizing, List.find?_cons, hne]

theorem content_authorizing : (r.authorizing text).content = r.content := by
  rw [content, content, header_authorizing r text (by decide)]
  rfl

theorem addressOf_authorizing (path : String) : (r.authorizing text).addressOf path = r.addressOf path := by
  rw [addressOf, addressOf, host, host, header_authorizing r text (by decide)]
  rfl

theorem address_authorizing : (r.authorizing text).address = r.address :=
  r.addressOf_authorizing text r.path

end Http.Request

namespace Server

open Http (Request Response Target)

variable {α : Type}

theorem Step.matches_ofAction {R : World Database → World Database → Prop} {a b : Action Database α}
    (h : Matches R Eq a b) : Matches R Eq (Step.ofAction a) (Step.ofAction b) := by
  intro w w' hR
  obtain ⟨hr, hw⟩ := h w w' hR
  have hrun : (a.runOn w).1 = (b.runOn w').1 := hr
  rw [Step.run_ofAction, Step.run_ofAction, hrun]
  exact ⟨rfl, hw⟩

theorem readCredentials_of_presented {r : Request} {c : Credentials} (h : r.presented = .credentials c) :
    readCredentials r = pure (some c) := by
  rw [readCredentials, h]

theorem collaborators_authorizing (s : Server) (r : Request) (text : String) :
    s.collaborators (r.authorizing text) = s.collaborators r := by
  rw [collaborators, collaborators, r.address_authorizing]

theorem readContent_authorizing (r : Request) (text : String) : readContent (r.authorizing text) = readContent r := by
  rw [readContent, readContent, r.content_authorizing]

/-- What settles does so from every world, and leaves it. -/
theorem Step.Settles.matches {R : World Database → World Database → Prop} {kind : Refusal → Prop} {x : Step α}
    {o : Option α} (h : x.Settles kind o) : Matches R R x x := by
  cases o with
  | some a =>
    rw [show x = pure a from h]
    exact matches_pure a
  | none =>
    obtain ⟨refusal, rfl, -⟩ := h
    exact matches_throw refusal

section

variable {P : World Database → Prop} (s : Server) (r : Request)

theorem matches_withDirectory {k k' : Collaborators Database → Action Database α}
    (hk : ∀ d : Directory, s.directory = some d →
      Matches (Same P) Eq (k (d.collaborators (some r.address))) (k' (d.collaborators (some r.address)))) :
    Matches (Same P) Eq (s.collaborators r >>= k) (s.collaborators r >>= k') := by
  rw [collaborators_eq]
  cases hd : s.directory with
  | some d => exact hk d hd
  | none => exact matches_same_iff.2 fun _ _ => rfl

theorem Step.matches_withDirectory {k k' : Collaborators Database → Step α}
    (hk : ∀ d : Directory, s.directory = some d →
      Matches (Same P) Eq (k (d.collaborators (some r.address))) (k' (d.collaborators (some r.address)))) :
    Matches (Same P) Eq (Step.ofAction (s.collaborators r) >>= k) (Step.ofAction (s.collaborators r) >>= k') := by
  rw [collaborators_eq]
  cases hd : s.directory with
  | some d => exact hk d hd
  | none => exact matches_same_iff.2 fun _ _ => rfl

end

/-! ## Steps -/

theorem rel_ite {β γ : Type} {R : β → γ → Prop} {p : Prop} [Decidable p] {x x' : Option β} {y y' : Option γ}
    (h : Option.Rel R x y) (h' : Option.Rel R x' y') :
    Option.Rel R (if p then x else x') (if p then y else y') := by
  split
  · exact h
  · exact h'

section

variable {s : Server} {db : Database} {r : Request} {name password password' text text' : String}
  (hv : ∀ d, s.directory = some d → db.SameVerdict d.rounds name password password')
  (ht : (r.authorizing text).presented = .credentials ⟨name, password⟩)
  (ht' : (r.authorizing text').presented = .credentials ⟨name, password'⟩)
include hv ht ht'

theorem matches_putGroup (id : String) :
    Matches (Same (Has db)) Eq (s.putGroup (r.authorizing text) id) (s.putGroup (r.authorizing text') id) := by
  simp only [putGroup, readContent_authorizing, collaborators_authorizing, readCredentials_of_presented ht,
    readCredentials_of_presented ht', pure_bind]
  refine (settles_readContent (fun _ _ => trivial) r).matches.seq_same fun content => ?_
  refine Step.matches_withDirectory s r fun d hd => ?_
  refine (settles_groupExtension (fun _ _ => trivial) content).matches.seq_same fun extension => ?_
  exact Step.matches_ofAction ((Directory.matches_createGroup (hv d hd) _ id extension).bind_same _)

theorem matches_deleteGroup (id : String) :
    Matches (Same (Has db)) Eq (s.deleteGroup (r.authorizing text) id) (s.deleteGroup (r.authorizing text') id) := by
  simp only [deleteGroup, collaborators_authorizing, readCredentials_of_presented ht,
    readCredentials_of_presented ht', pure_bind]
  exact Step.matches_ofAction (matches_withDirectory s r fun d hd =>
    (Directory.matches_deleteGroup (hv d hd) _ id).bind_same _)

theorem matches_putCard (id : String) :
    Matches (Same (Has db)) Eq (s.putCard (r.authorizing text) id) (s.putCard (r.authorizing text') id) := by
  simp only [putCard, readContent_authorizing, collaborators_authorizing, readCredentials_of_presented ht,
    readCredentials_of_presented ht', pure_bind]
  refine (settles_readContent (fun _ _ => trivial) r).matches.seq_same fun content => ?_
  refine Step.matches_withDirectory s r fun d hd => ?_
  refine (settles_cardPayload (fun _ _ => trivial) content).matches.seq_same fun payload => ?_
  exact Step.matches_ofAction ((Directory.matches_createCard (hv d hd) _ id payload).bind_same _)

theorem matches_deleteCard (id : String) :
    Matches (Same (Has db)) Eq (s.deleteCard (r.authorizing text) id) (s.deleteCard (r.authorizing text') id) := by
  simp only [deleteCard, collaborators_authorizing, readCredentials_of_presented ht,
    readCredentials_of_presented ht', pure_bind]
  exact Step.matches_ofAction (matches_withDirectory s r fun d hd =>
    (Directory.matches_deleteCard (hv d hd) _ id).bind_same _)

/-- A resource has both steps or neither, and they match. -/
theorem matches_step (target : Target) :
    Option.Rel (Matches (Same (Has db)) Eq) (s.step? (r.authorizing text) target)
      (s.step? (r.authorizing text') target) := by
  cases target with
  | liveness => exact rel_ite (.some (matches_same_iff.2 fun _ _ => rfl)) .none
  | readiness => exact rel_ite (.some (matches_same_iff.2 fun _ _ => rfl)) .none
  | status => exact rel_ite (.some (matches_same_iff.2 fun _ _ => rfl)) .none
  | statistics => exact rel_ite (.some (matches_same_iff.2 fun _ _ => rfl)) .none
  | cardStatistics => exact rel_ite (.some (matches_same_iff.2 fun _ _ => rfl)) .none
  | group id =>
    have hget : s.getGroup (r.authorizing text) id = s.getGroup (r.authorizing text') id := by
      simp only [getGroup, collaborators_authorizing]
    refine rel_ite (.some (matches_same_iff.2 fun _ _ => by rw [hget])) (rel_ite (.some ?_) (rel_ite (.some ?_) .none))
    · exact matches_putGroup hv ht ht' id
    · exact matches_deleteGroup hv ht ht' id
  | card id =>
    have hget : s.getCard (r.authorizing text) id = s.getCard (r.authorizing text') id := by
      simp only [getCard, collaborators_authorizing]
    refine rel_ite (.some (matches_same_iff.2 fun _ _ => by rw [hget])) (rel_ite (.some ?_) (rel_ite (.some ?_) .none))
    · exact matches_putCard hv ht ht' id
    · exact matches_deleteCard hv ht ht' id

end

/-- Nothing that is answered or noted when a request is refused depends on its authorization. -/
theorem refuse_authorizing (now : String) (r : Request) (text : String) (refusal : Refusal) :
    refuse now (r.authorizing text) refusal = refuse now r refusal := by
  cases refusal with
  | settled response => rfl
  | violations details => rfl
  | failed f => cases f <;> rfl

/-- Requests that present passwords with the same verdict are answered alike, and leave the same server. -/
theorem handle_sameVerdict (s : Server) (now : String) {r : Request} {name password password' text text' : String}
    (hv : ∀ d, s.directory = some d → s.world.state.SameVerdict d.rounds name password password')
    (ht : (r.authorizing text).presented = .credentials ⟨name, password⟩)
    (ht' : (r.authorizing text').presented = .credentials ⟨name, password'⟩) :
    s.handle now (r.authorizing text) = s.handle now (r.authorizing text') := by
  have hrespond : (s.respond now (r.authorizing text)).run s.world =
      (s.respond now (r.authorizing text')).run s.world := by
    cases htarget : Target.ofPath? r.path with
    | none =>
      have htext := show Target.ofPath? (r.authorizing text).path = none from htarget
      have htext' := show Target.ofPath? (r.authorizing text').path = none from htarget
      simp only [respond, htext, htext', r.addressOf_authorizing]
      rfl
    | some target =>
      have htext := show Target.ofPath? (r.authorizing text).path = some target from htarget
      have htext' := show Target.ofPath? (r.authorizing text').path = some target from htarget
      have hrel := matches_step hv ht ht' target
      cases hs : s.step? (r.authorizing text) target with
      | none =>
        cases hs' : s.step? (r.authorizing text') target with
        | none => simp only [respond, htext, htext', hs, hs']
        | some step' =>
          rw [hs, hs'] at hrel
          cases hrel
      | some step =>
        cases hs' : s.step? (r.authorizing text') target with
        | none =>
          rw [hs, hs'] at hrel
          cases hrel
        | some step' =>
          rw [hs, hs'] at hrel
          obtain ⟨hm⟩ := hrel
          rw [respond_of_step htext hs, respond_of_step htext' hs', matches_same_iff.1 hm s.world rfl]
          simp only [refuse_authorizing]
  rw [handle, handle, hrespond]

end Server

/-- In the table of users of a server, what is stored of passwords is no key. -/
theorem Reached.unkeyed {w : World Database} (h : Reached w) : Unkeyed w := by
  rcases h.tables with hw | ⟨t, hw, -⟩
  · rw [Unkeyed, hw]
    decide
  · rw [Unkeyed, hw]
    show "password_hash" ∉ Database.fresh.constraints.users.keys
    decide

/-- A password decides nothing but whether it is verified. From every world, calls that present two passwords with the
same verdict end alike and leave the same world, with the same records, counters and tables, and so a server answers
requests alike and is left the same. Where what is stored of passwords is no key, as in every world of a server, creating
a user ends alike for any two passwords, and so does creating the first user for any two that are not empty: the worlds
are the same but for what is stored of the passwords, unless the database fails at the statement that was to store it;
then they are the same but for what the driver says of the statement in the last record. Without a password no first user
is created, and nothing is noted. With a password that holds a lone surrogate creating a user fails before anything is
noted, and so does creating the first user if it comes to that. -/
theorem passwords_only_verified :
    (∀ (d : Directory) (uri : Option String) (call : Call) (w : World Database) (name password password' : String),
      w.state.SameVerdict d.rounds name password password' →
        ((call.presenting ⟨name, password⟩).perform (d.collaborators uri)).runOn w =
          ((call.presenting ⟨name, password'⟩).perform (d.collaborators uri)).runOn w) ∧
    (∀ (s : Server) (now : String) (r : Http.Request) (name password password' text text' : String),
      (∀ d, s.directory = some d → s.world.state.SameVerdict d.rounds name password password') →
      (r.authorizing text).presented = .credentials ⟨name, password⟩ →
      (r.authorizing text').presented = .credentials ⟨name, password'⟩ →
        s.handle now (r.authorizing text) = s.handle now (r.authorizing text')) ∧
    (∀ w : World Database, Reached w → Unkeyed w) ∧
    (∀ (rounds : Nat) (name : Text.Loose) (password password' : String) (w : World Database), Unkeyed w →
      Apart (w.explain · (Users.enrolment rounds name password w)) (w.explain · (Users.enrolment rounds name password' w))
        ((Users.create rounds name password).runOn w) ((Users.create rounds name password').runOn w)) ∧
    (∀ (rounds : Nat) (name : Option Text.Loose) (password password' : String) (w : World Database), Unkeyed w →
      password ≠ "" → password' ≠ "" →
      Apart (w.explain · (Users.enrolment rounds (name.getD "") password w))
        (w.explain · (Users.enrolment rounds (name.getD "") password' w))
        ((Directory.ensureBootstrapUser rounds name (some ↑password)).runOn w)
        ((Directory.ensureBootstrapUser rounds name (some ↑password')).runOn w)) ∧
    (∀ (rounds : Nat) (name password : Option Text.Loose) (w : World Database), password.getD "" = "" →
      (Directory.ensureBootstrapUser rounds name password).runOn w = (.ok (), w)) ∧
    ∀ (rounds : Nat) (b : Text.Broken) (w : World Database),
      let failed := { w with issued := w.issued + 1 }
      (∀ name, (Users.create rounds name (.broken b)).runOn w = (.error (.accident (.ofBroken b)), failed)) ∧
        ∀ name, (∀ password : String, password ≠ "" →
            (Directory.ensureBootstrapUser rounds name (some ↑password)).runOn w =
              (Directory.ensureBootstrapUser rounds name (some (.broken b))).runOn w) ∨
          (Directory.ensureBootstrapUser rounds name (some (.broken b))).runOn w =
            (.error (.accident (.ofBroken b)), failed) := by
  refine ⟨?_, ?_, fun _ h => h.unkeyed, ?_, ?_, ?_, ?_⟩
  · intro d uri call w name password password' h
    exact matches_same_iff.1 (Directory.matches_perform h uri call) w rfl
  · intro s now r name password password' text text' hv ht ht'
    exact s.handle_sameVerdict now hv ht ht'
  · intro rounds name password password' w hw
    exact Users.apart_create hw rounds name password password'
  · intro rounds name password password' w hw hp hp'
    exact Directory.apart_ensureBootstrapUser hw rounds name hp hp'
  · intro rounds name password w hp
    rw [Directory.ensureBootstrapUser, if_pos (.inr hp)]
    rfl
  · intro rounds b w failed
    exact ⟨fun name => rfl, fun name => Directory.ensureBootstrapUser_broken rounds name b w⟩

/-- Zeros at the end of a password do not change the block that it fills, so the user is known by both passwords. Another
anna is not created, whatever the password. -/
theorem passwords_only_verified_of_anna :
    let w := Server.annasServer.world
    Server.annasServer.handle "" ((Server.annasRequest "a::b").authorizing "Basic YW5uYTpzZWNyZXQ=") =
        Server.annasServer.handle "" ((Server.annasRequest "a::b").authorizing "Basic YW5uYTpzZWNyZXQA") ∧
      Apart (w.explain · (Users.enrolment 1 "anna" "one" w)) (w.explain · (Users.enrolment 1 "anna" "two" w))
        ((Users.create 1 "anna" "one").runOn w) ((Users.create 1 "anna" "two").runOn w) := by
  have hv : ∀ d, Server.annasServer.directory = some d →
      Server.annasServer.world.state.SameVerdict d.rounds "anna" "secret" "secret\x00" :=
    fun d _ row _ => Password.verify_of_block (by decide +kernel) d.rounds row.passwordHash
  have ht : ((Server.annasRequest "a::b").authorizing "Basic YW5uYTpzZWNyZXQ=").presented =
      .credentials ⟨"anna", "secret"⟩ := by decide +kernel
  have ht' : ((Server.annasRequest "a::b").authorizing "Basic YW5uYTpzZWNyZXQA").presented =
      .credentials ⟨"anna", "secret\x00"⟩ := by decide +kernel
  have hw : Unkeyed Server.annasServer.world := passwords_only_verified.2.2.1 _ Server.reached_annasServer
  exact ⟨passwords_only_verified.2.1 Server.annasServer "" (Server.annasRequest "a::b") _ _ _ _ _ hv ht ht',
    passwords_only_verified.2.2.2.1 1 "anna" "one" "two" Server.annasServer.world hw⟩

/-- A world in which anna is a user, and the driver quotes what a statement that failed was to store of a password. -/
def World.quoting : World Database where
  state := { Database.fresh with users := some [⟨.issued 0, "anna", ""⟩] }
  issued := 1
  explain := fun _ s =>
    match s with
    | .addUser _ _ stored => stored
    | _ => ""

/-- What is noted of another anna is what was to be stored. -/
theorem journal_enter_quoting (stored : String) :
    ((Users.enter ⟨.issued 1, "anna", stored⟩).runOn { World.quoting with issued := 2 }).2.journal =
      [databaseRecord "IntegrityError" "commit" stored] := rfl

theorem databaseRecord_inj {kind operation text text' : String}
    (h : databaseRecord kind operation text = databaseRecord kind operation text') : text = text' := by
  have hm : "DB " ++ operation ++ " error (" ++ kind ++ "): " ++ text =
      "DB " ++ operation ++ " error (" ++ kind ++ "): " ++ text' := congrArg Record.message h
  exact String.append_right_inj _ |>.1 hm

/-- Two passwords with different keys. -/
theorem hash_one_ne_hash_two :
    Password.hash 1 (List.replicate 16 0) "one" ≠ Password.hash 1 (List.replicate 16 0) "two" := by
  refine mt Password.hash_eq_iff.1 ?_
  simp only [Digest.deriveKey, Digest.MacKey.mac, Digest.MacKey.ofBytes, Digest.Sha256.finish,
    Digest.Sha256.mix_eq_mixOver, Digest.Sha256.mixWords_eq_mixWordsOver]
  decide +kernel

/-- Whether the first user is created, and noted, does depend on whether there is a password. Where the driver quotes the
statement that failed, the record of a user who is not created differs with the password. A password without bytes makes
nobody a user. -/
theorem records_with_passwords :
    let ensured := fun password : String =>
      ((Directory.ensureBootstrapUser 1 (some "anna") (some ↑password)).runOn { state := .fresh }).2.journal
    let refused := fun password : String => ((Users.create 1 "anna" password).runOn World.quoting).2.journal
    let answer := fun password : Text.Loose => ((Users.create 1 "anna" password).runOn { state := .fresh }).1
    ensured "" ≠ ensured "secret" ∧ refused "one" ≠ refused "two" ∧
      (answer "one").isOk = true ∧ (answer (.broken ⟨"", 0, []⟩)).isOk = false := by
  intro ensured refused answer
  have hrefused : ∀ password, refused password =
      [databaseRecord "IntegrityError" "commit" (Password.hash 1 (List.replicate 16 0) password)] :=
    fun password => journal_enter_quoting (Password.hash 1 (List.replicate 16 0) password)
  refine ⟨fun h => ?_, ?_, rfl, rfl⟩
  · exact absurd (congrArg List.length h) (by decide)
  · rw [hrefused, hrefused]
    exact fun h => hash_one_ne_hash_two (databaseRecord_inj (List.cons.inj h).1)

end ParticipantDirectory
