import ParticipantDirectory.Proofs.Service.Calls

/-!
# Deeds

What is done with the database of a directory: a user is created, or a call is made. One deed follows the other,
and each call may come from another directory over the same database, under another rule and with or without
cards. `Deed.runOn_perform` says what a deed makes of the world, and `World.after_invariant` is the induction
over a run of deeds.
-/

namespace ParticipantDirectory

open Action Transaction

/-- A user is created, or a call is made of a directory. -/
inductive Deed where
  | createUser (rounds : Nat) (name password : Text.Loose)
  | call (d : Directory) (uri : Option String) (c : Call)

namespace Deed

/-- Does a deed. -/
def perform : Deed → Action Database Answer
  | createUser rounds name password => .user <$> Users.create rounds name password
  | call d uri c => c.perform (d.collaborators uri)

/-- What a deed makes of the database of a world: its answer and the new database, or a failure. -/
def effect (w : World Database) : Deed → Except Failure (Answer × Database)
  | createUser rounds name password => (Users.created rounds name password w).map fun q => (.user q.1, q.2)
  | call d uri c => d.effect uri w.issued w.state c

/-- How many numbers a deed draws when it ends with an answer. -/
def drawn : Deed → Nat
  | createUser .. => 1
  | call _ _ c => c.drawn

/-- From every world a deed ends as `effect` says; the database is as it was if that is a failure. -/
theorem runOn_perform (deed : Deed) (w : World Database) :
    ∃ w', deed.perform.runOn w = ((deed.effect w).map Prod.fst, w') ∧
      w'.state = (w.settle (deed.effect w)).state ∧ w'.salts = w.salts ∧ w.issued ≤ w'.issued ∧
      ((deed.effect w).isOk → w'.issued = w.issued + deed.drawn) := by
  cases deed with
  | createUser rounds name password =>
    obtain ⟨w', e, a⟩ := Users.runOn_created rounds name password w
    refine ⟨w', ?_, ?_, ?_, ?_, fun _ => ?_⟩
    · rw [perform, runOn_map, e, effect]
      cases Users.created rounds name password w <;> rfl
    · rw [a.state, effect]
      cases Users.created rounds name password w <;> rfl
    · rw [a.salts]
      cases Users.created rounds name password w <;> rfl
    all_goals
      have i : w'.issued = w.issued + 1 := by
        rw [a.issued]
        cases Users.created rounds name password w <;> rfl
      rw [i]
    · exact Nat.le_succ _
    · rfl
  | call d uri c => exact d.runOn_perform uri c w

end Deed

/-- The world after deeds, done one after the other. -/
def World.after (w : World Database) : List Deed → World Database
  | [] => w
  | deed :: rest => (deed.perform.runOn w).2.after rest

/-- What holds of the deeds done so far and the world, and is preserved by every further deed, holds after a run. -/
theorem World.after_invariant {P : List Deed → World Database → Prop} (deeds : List Deed) {done : List Deed}
    {w : World Database} (h : P done w)
    (step : ∀ done deed w, P done w → P (done ++ [deed]) (deed.perform.runOn w).2) :
    P (done ++ deeds) (w.after deeds) := by
  induction deeds generalizing done w with
  | nil =>
    rw [List.append_nil]
    exact h
  | cons deed rest ih =>
    have hrest := ih (step done deed w h)
    rwa [List.append_assoc] at hrest

end ParticipantDirectory
