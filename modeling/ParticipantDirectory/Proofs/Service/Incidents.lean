import ParticipantDirectory.Proofs.Framework.Invariant
import ParticipantDirectory.Proofs.Service.ReadBack
import ParticipantDirectory.Store.Engine

/-!
# Incidents

What happens to the database of directories: calls are made, users are created, be it as the first user of a new
directory, tables are dropped, and the missing ones are created. A run gives the calls that were served and the world
afterwards (`World.through`); `World.through_invariant` is the induction over a run.
-/

namespace ParticipantDirectory

open Action Transaction

/-- What happens to a database: a call is made of a directory, a user is created, or the first user, tables are dropped,
or the missing tables are created. -/
inductive Incident where
  | call (d : Directory) (uri : Option String) (c : Call)
  | user (rounds : Nat) (name password : Text.Loose)
  | bootstrap (rounds : Nat) (name password : Option Text.Loose)
  | loss (l : Database.Loss)
  | schema

namespace Incident

/-- A card that is stored has come as an accepted document. -/
def Accepted : Incident → Prop
  | call _ _ c => c.Accepted
  | user .. | bootstrap .. | loss _ | schema => True

/-- What is served when something happens, and the world afterwards. -/
def occur (w : World Database) : Incident → List Served × World Database
  | call d uri c =>
    let (answer, w') := (c.perform (d.collaborators uri)).runOn w
    ([⟨c, answer⟩], w')
  | user rounds name password => ([], ((Users.create rounds name password).runOn w).2)
  | bootstrap rounds name password => ([], ((Directory.ensureBootstrapUser rounds name password).runOn w).2)
  | loss l => ([], { w with state := w.state.lose l })
  | schema => ([], (createSchema.runOn w).2)

end Incident

/-- What is served while one thing happens after the other, and the world afterwards. -/
def World.through (w : World Database) : List Incident → List Served × World Database
  | [] => ([], w)
  | i :: rest =>
    let (served, w₁) := i.occur w
    let (served', w₂) := w₁.through rest
    (served ++ served', w₂)

theorem World.through_call {w w' : World Database} {d : Directory} {uri : Option String} {call : Call}
    {answer : Except Failure Answer} (h : (call.perform (d.collaborators uri)).runOn w = (answer, w'))
    (rest : List Incident) : w.through (.call d uri call :: rest) =
      (⟨call, answer⟩ :: (w'.through rest).1, (w'.through rest).2) := by
  rw [World.through, Incident.occur, h]
  rfl

theorem World.through_loss (w : World Database) (l : Database.Loss) (rest : List Incident) :
    w.through (.loss l :: rest) = ({ w with state := w.state.lose l } : World Database).through rest := rfl

/-- What holds of the calls served so far and the world, and is preserved by everything that happens, holds after a
run. -/
theorem World.through_invariant {P : List Served → World Database → Prop} (incidents : List Incident)
    (done : List Served) {w : World Database} (h : P done w)
    (step : ∀ i ∈ incidents, ∀ done w, P done w → P (done ++ (i.occur w).1) (i.occur w).2) :
    P (done ++ (w.through incidents).1) (w.through incidents).2 := by
  induction incidents generalizing done w with
  | nil =>
    show P (done ++ []) w
    rw [List.append_nil]
    exact h
  | cons i rest ih =>
    have hrest := ih _ (step i (List.mem_cons_self ..) done w h) fun j hj => step j (List.mem_cons_of_mem _ hj)
    rwa [List.append_assoc] at hrest

/-- What creating users preserves, and what does not tell worlds that agree from each other, is preserved when the first
user is created. -/
theorem Directory.preserves_ensureBootstrapUser {I : World Database → Prop} {rounds : Nat}
    (hI : ∀ w w', I w → w.Agrees w' → I w')
    (hc : ∀ name password, (Users.create rounds name password).Preserves I) (name password : Option Text.Loose) :
    (Directory.ensureBootstrapUser rounds name password).Preserves I := by
  have hfind : ∀ name, (Users.find? name).Preserves I := fun name =>
    (session_reads ((Users.readOnly_findRow name).bind fun _ => readOnly_pure _)).preserves hI
  exact .ite (preserves_pure ()) ((hfind _).bind fun _ =>
    .ite (preserves_pure ()) ((hc _ _).bind fun _ => (reads_note _).preserves hI))

end ParticipantDirectory
