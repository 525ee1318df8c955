import ParticipantDirectory.Proofs.Server.Preserved
import ParticipantDirectory.Proofs.Service.Steps

/-!
# The worlds of a server

A server works on a database without tables, or with its four tables. Whatever requests it answers, its database is
one that a run of deeds leads to after tables were created, between which it has only noted and counted (`Reached`): a
request is answered by at most one deed. So its answers (`reached_handle`) and its start (`reached_start`) lead from
reached worlds to reached worlds. In every reached world the four tables are there and have integrity, or there are no
tables at all (`Reached.tables`); without tables no deed is done (`Deed.effect_blank`).
-/

namespace ParticipantDirectory

open Action Transaction

/-! ## Without tables -/

namespace Directory

theorem identified_blank (rounds : Nat) (credentials : Option Credentials) {user : User} :
    Users.identified rounds .blank credentials ≠ .ok user := by
  intro h
  cases credentials <;> cases h

theorem groupOf_blank (id : String) (p : Identifier) {group : ServiceGroup} : groupOf id p .blank ≠ .ok group := by
  intro h
  cases h

theorem ownerOf_blank (d : Directory) (p : Identifier) (credentials : Option Credentials) {user : User} :
    d.ownerOf p credentials .blank ≠ .ok user := by
  intro h
  obtain ⟨user', hu, -⟩ := ok_of_bind h
  exact identified_blank _ _ hu

/-- Every call looks for a user or for a group, and there is no table of either. -/
theorem effect_blank (d : Directory) (uri : Option String) (n : Nat) (call : Call) {q : Answer × Database} :
    d.effect uri n .blank call ≠ .ok q := by
  intro h
  cases call with
  | getGroup id =>
    obtain ⟨group, hg, -⟩ := ok_of_map h
    obtain ⟨p, -, hg⟩ := ok_of_bind (ok_of_mapError hg)
    exact groupOf_blank _ _ hg
  | createGroup id credentials extension =>
    obtain ⟨r, hr, -⟩ := ok_of_map h
    obtain ⟨p, -, hr⟩ := ok_of_bind (ok_of_mapError hr)
    obtain ⟨user, hu, -⟩ := ok_of_bind hr
    exact identified_blank _ _ hu
  | deleteGroup id credentials | deleteCard id credentials =>
    obtain ⟨r, hr, -⟩ := ok_of_map h
    obtain ⟨p, -, hr⟩ := ok_of_bind (ok_of_mapError hr)
    obtain ⟨user, hu, -⟩ := ok_of_bind hr
    exact ownerOf_blank _ _ _ hu
  | getCard id =>
    obtain ⟨payload, hc, -⟩ := ok_of_map h
    obtain ⟨card, hc, -⟩ := ok_of_bind hc
    obtain ⟨p, -, hc⟩ := ok_of_bind (ok_of_mapError hc)
    obtain ⟨group, hg, -⟩ := ok_of_bind hc
    exact groupOf_blank _ _ hg
  | createCard id payload credentials =>
    obtain ⟨group, hs, -⟩ := ok_of_bind h
    obtain ⟨p, -, hs⟩ := ok_of_bind (ok_of_mapError hs)
    obtain ⟨-, -, hs⟩ := ok_of_bind hs
    obtain ⟨group', hg, -⟩ := ok_of_bind hs
    exact groupOf_blank _ _ hg

end Directory

theorem Deed.effect_blank (deed : Deed) {w : World Database} (hw : w.state = .blank) :
    ∃ f, deed.effect w = .error f := by
  cases hr : deed.effect w with
  | error f => exact ⟨f, rfl⟩
  | ok q =>
    exfalso
    cases deed with
    | createUser rounds name password =>
      obtain ⟨q', hq, -⟩ := ok_of_map hr
      obtain ⟨_, _, -, -, ho, -⟩ := Users.created_ok hq
      rw [hw] at ho
      cases ho
    | call d uri c =>
      rw [effect, hw] at hr
      exact d.effect_blank uri _ c hr

/-! ## Reached worlds -/

/-- The worlds that a server may be in: from a database without tables on, tables are created, deeds are done, and
things are noted and counted. -/
inductive Reached : World Database → Prop where
  | blank (w : World Database) : Reached { w with state := .blank }
  | created {w : World Database} (h : Reached w) : Reached { w with state := w.state.createTables }
  | deed {w : World Database} (h : Reached w) (deed : Deed) : Reached (deed.perform.runOn w).2
  | noted {w w' : World Database} (h : Reached w) (ha : w.Agrees w') : Reached w'

namespace Reached

theorem fresh (w : World Database) : Reached { w with state := .fresh } :=
  (Reached.blank w).created

theorem after {w : World Database} (h : Reached w) (deeds : List Deed) : Reached (w.after deeds) := by
  induction deeds generalizing w with
  | nil => exact h
  | cons deed rest ih => exact ih (h.deed deed)

/-- By induction over how the world is reached. -/
theorem tables {w : World Database} (h : Reached w) :
    w.state = .blank ∨ ∃ t : Tables, w.state = t.database ∧ t.Integrity ∧ t.Numbered w.issued := by
  induction h with
  | blank w => exact .inl rfl
  | @created w _ ih =>
    rcases ih with hw | ⟨t, hw, h⟩
    · have hempty : w.state.createTables = Tables.empty.database := by
        rw [hw]
        rfl
      exact .inr ⟨.empty, hempty, Tables.integrity_empty, Tables.numbered_empty _⟩
    · have hsame : w.state.createTables = t.database := by
        rw [hw]
        rfl
      exact .inr ⟨t, hsame, h⟩
  | @deed w _ deed ih =>
    rcases ih with hw | ⟨t, hw, hi, hn⟩
    · obtain ⟨w', e, s, -⟩ := deed.runOn_perform w
      obtain ⟨f, hf⟩ := deed.effect_blank hw
      rw [hf] at s
      rw [e]
      exact .inl (s.trans hw)
    · obtain ⟨t', w', e, hw', hn', hs⟩ := deed.run_database hw hi.toLinked hn
      rw [e]
      refine .inr ⟨t', hw', ?_, hn'⟩
      cases hr : (deed.perform.runOn w).1 with
      | error f =>
        rw [hr] at hs
        cases hs
        exact hi
      | ok a =>
        rw [hr] at hs
        exact hs.integrity hi
  | noted _ ha ih =>
    refine ih.imp ha.state.trans fun ⟨t, hw, hi, hn⟩ => ?_
    exact ⟨t, ha.state.trans hw, hi, ha.issued ▸ hn⟩

end Reached

/-- Whatever deeds a server does, it stays in reached worlds. -/
theorem upheld_reached : Upheld Reached where
  noted := fun _ _ => .noted
  created := fun _ => .created
  deed := fun deed _ _ h => h.deed deed

namespace Server

open Http (Request)

/-- From a reached world, a request leads to a reached world. -/
theorem reached_handle {s : Server} (h : Reached s.world) (now : String) (r : Request) :
    Reached (s.handle now r).2.world :=
  upheld_reached.handle h now r

/-- On a reached world a server starts in a reached world. -/
theorem reached_start {s : Settings} {rounds : Nat} {w : World Database} {server : Server} (hw : Reached w)
    (h : start s rounds w = .ok server) : Reached server.world :=
  upheld_reached.start hw h

end Server

end ParticipantDirectory
