import ParticipantDirectory.Proofs.Server.Reached
import ParticipantDirectory.Proofs.Store.Alike

/-!
# Worlds with accepted cards

A server stores no cards but accepted documents, so it stays in the worlds that are reached in this way (`Stocked`).
There, either no tables exist, or the tables are sound and the entities of every card stand in the table in the order
and in the form in which they were stored (`Tables.Written`, `Settled`). Then storing once more what a card has changes
nothing but the ids of its entities (`Tables.Written.alike_putCard`).
-/

namespace ParticipantDirectory

/-! ## The rows of entities -/

/-- The rows of the entities of every key are those that were written for some entities. -/
def Tables.Written (t : Tables) : Prop :=
  ∀ key, ∃ entities, (t.share key).entities = Cards.newRows key entities

variable {t t' : Tables} {n : Nat}

namespace Tables

theorem written_of_share {key : String} (h : t.Written) (hs : (t'.share key).entities = (t.share key).entities) :
    ∃ entities, (t'.share key).entities = Cards.newRows key entities := by
  rw [hs]
  exact h key

theorem written_of_none {key : String} (hs : (t'.share key).entities = []) :
    ∃ entities, (t'.share key).entities = Cards.newRows key entities :=
  ⟨[], hs⟩

/-- The rows of a card's entities are those that are written for its contents. -/
theorem Written.anonymous_rows (h : t.Written) (key : String) {entities : List StoredEntity}
    (he : entities.map (·.content) = t.contents key) :
    (Cards.newRows key entities).map EntityRow.anonymous = ((t.share key).entities).map EntityRow.anonymous := by
  obtain ⟨stored, hs⟩ := h key
  have hrows : t.entitiesOf key = Cards.newRows key stored := by
    show (t.share key).entities.foldr Cards.insertByPosition [] = _
    rw [hs]
    exact Cards.sort_of_sorted (Cards.newRows_sorted key stored)
  have hcontents : t.contents key = stored.map (·.content) := by
    have hstored := congrArg (List.map StoredEntity.content) (Cards.toStored_newRows key stored)
    rw [List.map_map] at hstored
    rw [contents, hrows]
    exact hstored
  rw [hs]
  exact Cards.newRows_anonymous key (he.trans hcontents)

/-- Storing again what a card has makes alike tables. -/
theorem Written.alike_putCard (h : t.Written) {group : ServiceGroup} {entities : List StoredEntity}
    (hc : (t.card? group.id).isSome) (he : entities.map (·.content) = t.contents group.id) :
    t.Alike (t.putCard group entities) := by
  refine alike_of_shares rfl fun key => ?_
  by_cases hk : group.id = key
  · subst hk
    rw [share_putCard, if_pos hc, List.append_nil, Share.anonymous, Share.anonymous, h.anonymous_rows group.id he]
  · rw [share_putCard_of_ne entities hk]

end Tables

theorem Directory.Does.written {d : Directory} {call : Call} {a : Answer} (h : d.Does n t call a t') (hw : t.Written) :
    t'.Written := by
  intro key
  cases h with
  | asks | createGroup => exact hw key
  | @deleteGroup id credentials p u g =>
    by_cases hk : p.key = key
    · subst hk
      exact Tables.written_of_none (congrArg Share.entities Tables.share_dropGroup)
    · exact Tables.written_of_share hw (congrArg Share.entities (Tables.share_dropGroup_of_ne hk))
  | @createCard id payload credentials p u g =>
    by_cases hk : g.toGroup.id = key
    · subst hk
      exact ⟨_, congrArg Share.entities (Tables.share_putCard _ _)⟩
    · exact Tables.written_of_share hw (congrArg Share.entities (Tables.share_putCard_of_ne _ hk))
  | @deleteCard id credentials p u g =>
    by_cases hk : p.key = key
    · subst hk
      exact Tables.written_of_none (congrArg Share.entities Tables.share_dropCard)
    · exact Tables.written_of_share hw (congrArg Share.entities (Tables.share_dropCard_of_ne hk))

/-! ## Settled tables -/

/-- Sound tables with the rows of entities as they were written. -/
structure Settled (w : World Database) (t : Tables) : Prop extends Sound w t where
  written : t.Written

variable {w : World Database}

/-- An accepted deed leads from settled tables to settled tables, in one step or, if it fails, in none. -/
theorem settled_step (h : Settled w t) {deed : Deed} (ha : deed.Accepted) :
    ∃ t', Settled (deed.perform.runOn w).2 t' ∧
      match (deed.perform.runOn w).1 with
      | .ok a => deed.Step w.issued t a t'
      | .error _ => t' = t := by
  obtain ⟨t', hsound⟩ := sound_step h.toSound ha
  obtain ⟨t₁, w', e, hw, hn, hs⟩ := deed.run_database h.state h.linked h.numbered
  obtain rfl : t₁ = t' := Tables.database_injective (hw.symm.trans (e ▸ hsound.state))
  refine ⟨t₁, ⟨hsound, ?_⟩, hs⟩
  cases hr : (deed.perform.runOn w).1 with
  | error f =>
    rw [hr] at hs
    obtain rfl : t₁ = t := hs
    exact h.written
  | ok a =>
    rw [hr] at hs
    cases hs with
    | createUser => exact h.written
    | call hs => exact hs.written h.written

theorem Settled.agrees {w' : World Database} (h : Settled w t) (ha : w.Agrees w') : Settled w' t :=
  { h with
    state := ha.state.trans h.state
    numbered := ha.issued ▸ h.numbered }

theorem settled_empty (w : World Database) (hw : w.state = Tables.empty.database) : Settled w .empty where
  state := hw
  linked := Tables.integrity_empty.toLinked
  numbered := Tables.numbered_empty _
  groups := fun _ _ _ h => by cases h
  cards := fun _ _ _ h => by cases h
  written := fun _ => ⟨[], rfl⟩

/-! ## Stocked worlds -/

/-- The worlds that a server may be in: as `Reached`, but the cards that are stored have come as accepted documents. -/
inductive Stocked : World Database → Prop where
  | blank (w : World Database) : Stocked { w with state := .blank }
  | created {w : World Database} (h : Stocked w) : Stocked { w with state := w.state.createTables }
  | deed {w : World Database} (h : Stocked w) {deed : Deed} (ha : deed.Accepted) : Stocked (deed.perform.runOn w).2
  | noted {w w' : World Database} (h : Stocked w) (ha : w.Agrees w') : Stocked w'

/-- Whatever accepted deeds a server does, it stays in stocked worlds. -/
theorem upheld_stocked : Upheld Stocked where
  noted := fun _ _ => .noted
  created := fun _ => .created
  deed := fun _ _ ha h => h.deed ha

/-- By induction over how the world is reached. -/
theorem Stocked.tables (h : Stocked w) : w.state = .blank ∨ ∃ t, Settled w t := by
  induction h with
  | blank w => exact .inl rfl
  | @created w _ ih =>
    rcases ih with hw | ⟨t, h⟩
    · exact .inr ⟨.empty, settled_empty _ (by rw [hw]; rfl)⟩
    · have hsame : w.state.createTables = t.database := by
        rw [h.state]
        rfl
      exact .inr ⟨t, { h with state := hsame }⟩
  | @deed w _ deed ha ih =>
    rcases ih with hw | ⟨t, h⟩
    · obtain ⟨w', e, s, -⟩ := deed.runOn_perform w
      obtain ⟨f, hf⟩ := deed.effect_blank hw
      rw [hf] at s
      rw [e]
      exact .inl (s.trans hw)
    · obtain ⟨t', h', -⟩ := settled_step h ha
      exact .inr ⟨t', h'⟩
  | noted _ ha ih => exact ih.imp ha.state.trans fun ⟨t, h⟩ => ⟨t, h.agrees ha⟩

namespace Server

open Http (Request)

/-- From a stocked world, a request leads to a stocked world. -/
theorem stocked_handle {s : Server} (h : Stocked s.world) (now : String) (r : Request) :
    Stocked (s.handle now r).2.world :=
  upheld_stocked.handle h now r

/-- On a stocked world a server starts in a stocked world. -/
theorem stocked_start {s : Settings} {rounds : Nat} {w : World Database} {server : Server} (hw : Stocked w)
    (h : start s rounds w = .ok server) : Stocked server.world :=
  upheld_stocked.start hw h

end Server

end ParticipantDirectory
