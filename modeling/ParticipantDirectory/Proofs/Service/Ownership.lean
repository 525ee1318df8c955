import ParticipantDirectory.Proofs.Identifier.Key
import ParticipantDirectory.Proofs.Service.Integrity

/-!
# Only the owner changes anything

In every reachable state a call changes at most the rows of the one participant that its id names, and it changes
them only for a user who has presented the right password: to register a participant that had no group, or as the
owner of the group, who then remains its owner (`only_owner_changes`). No call changes a user, and to ask for
something changes nothing.
-/

namespace ParticipantDirectory

/-- The rows of a participant in the tables of service groups, cards and entities. -/
structure Holdings where
  groups : Option (List GroupRow)
  cards : Option (List CardRow)
  entities : Option (List EntityRow)

namespace Database

variable (db : Database) (p : Identifier)

/-- The rows of a participant. -/
def holdings : Holdings where
  groups := db.groups.map (·.filter (·.id == p.key))
  cards := db.cards.map (·.filter (·.id == p.key))
  entities := db.entities.map (·.filter (·.cardId == p.key))

/-- The service group of a participant. -/
def groupNamed : Option GroupRow :=
  db.groups.bind fun rows => rows.find? (·.id == p.key)

end Database

/-- A call that registers a participant. -/
def Call.Registers : Call → Prop
  | .createGroup .. => True
  | .getGroup _ | .deleteGroup .. | .getCard _ | .createCard .. | .deleteCard .. => False

variable {t t' : Tables} {n : Nat} {d : Directory} {call : Call} {a : Answer} {p : Identifier}

theorem Tables.holdings_of_share (h : t'.share p.key = t.share p.key) :
    t'.database.holdings p = t.database.holdings p :=
  congrArg (fun s : Share => (⟨some s.groups, some s.cards, some s.entities⟩ : Holdings)) h

namespace Directory.Does

/-- To ask for something changes nothing. -/
theorem eq_of_asks (h : d.Does n t call a t') (ha : call.Asks) : t' = t := by
  cases h with
  | asks => rfl
  | createGroup | deleteGroup | createCard | deleteCard => exact ha.elim

/-- Whose rows a call has changed, is the participant that it names. -/
theorem names_changed (h : d.Does n t call a t') (hp : p.Canonical)
    (hc : t'.database.holdings p ≠ t.database.holdings p) : d.addressing.parse? call.id = some p := by
  refine Decidable.byContradiction fun hne => hc (Tables.holdings_of_share (h.share_of_ne fun q hq hk => hne ?_))
  rw [hq, Identifier.key_injective ⟨_, _, hq⟩ hp hk]

/-- A call that does not only ask for something was made by someone who may register a participant without a group,
or who owns the group and remains its owner. -/
theorem entitled (h : d.Does n t call a t') (hp : d.addressing.parse? call.id = some p) (ha : ¬call.Asks) :
    ∃ u, t.database.Identifies d.rounds call.credentials u ∧
      (t.group? p.key = none ∧ call.Registers ∧ (∃ g, t'.group? p.key = some g ∧ g.owner = u.id) ∨
        ∃ g, t.group? p.key = some g ∧ g.owner = u.id ∧ ∀ g', t'.group? p.key = some g' → g'.owner = u.id) := by
  cases h with
  | asks h => exact absurd h ha
  | @createGroup id credentials extension q u hq hu hg =>
    cases hq.symm.trans hp
    exact ⟨u, hu, .inl ⟨hg, trivial, _, Tables.group?_addGroup hg, rfl⟩⟩
  | @deleteGroup id credentials q u g hq hu hg ho =>
    cases hq.symm.trans hp
    exact ⟨u, hu, .inr ⟨g, hg, ho, fun g' hg' => by rw [Tables.group?_dropGroup] at hg'; cases hg'⟩⟩
  | @createCard id payload credentials q u g hq _ hu hg ho =>
    cases hq.symm.trans hp
    exact ⟨u, hu, .inr ⟨g, hg, ho, fun g' hg' => by cases hg.symm.trans hg'; exact ho⟩⟩
  | @deleteCard id credentials q u g hq hu hg ho =>
    cases hq.symm.trans hp
    exact ⟨u, hu, .inr ⟨g, hg, ho, fun g' hg' => by cases hg.symm.trans hg'; exact ho⟩⟩

end Directory.Does

/-- In every state that a run of deeds reaches from the empty schema, no call changes a user, and one that asks for
something changes no row. If the rows of a participant are others after a call, then the call does not ask, its id
names that participant, and its credentials are those of a user who either has registered the participant, which
had no group, or owns its group and still does if there is one. -/
theorem only_owner_changes (deeds : List Deed) (w₀ : World Database) (d : Directory) (uri : Option String)
    (call : Call) :
    let w := ({ w₀ with state := Database.fresh } : World Database).after deeds
    let w' := ((call.perform (d.collaborators uri)).runOn w).2
    w'.state.users = w.state.users ∧ (call.Asks → w'.state = w.state) ∧
      ∀ q : Identifier, q.Canonical → w'.state.holdings q ≠ w.state.holdings q →
        ¬call.Asks ∧ d.addressing.parse? call.id = some q ∧
          ∃ u, w.state.Identifies d.rounds call.credentials u ∧
            (w.state.groupNamed q = none ∧ call.Registers ∧
                (∃ g, w'.state.groupNamed q = some g ∧ g.owner = u.id) ∨
              ∃ g, w.state.groupNamed q = some g ∧ g.owner = u.id ∧
                ∀ g', w'.state.groupNamed q = some g' → g'.owner = u.id) := by
  intro w w'
  obtain ⟨t, h⟩ := kept_after deeds w₀
  obtain ⟨t', w₁, e, hw, -, hs⟩ := (Deed.call d uri call).run_database h.state h.integrity.toLinked h.numbered
  have hw' : w'.state = t'.database := (congrArg World.state e).trans hw
  rw [hw', show w.state = t.database from h.state]
  cases hr : ((Deed.call d uri call).perform.runOn w).1 with
  | error f =>
    rw [show ((Deed.call d uri call).perform.runOn _).1 = _ from hr] at hs
    obtain rfl : t' = t := hs
    exact ⟨rfl, fun _ => rfl, fun q _ hc => absurd rfl hc⟩
  | ok a =>
    rw [show ((Deed.call d uri call).perform.runOn _).1 = _ from hr] at hs
    cases hs with
    | call hs =>
      refine ⟨congrArg some hs.users, fun ha => by rw [hs.eq_of_asks ha], fun q hq hc => ?_⟩
      have ha : ¬call.Asks := fun ha => hc (by rw [hs.eq_of_asks ha])
      have hp := hs.names_changed hq hc
      exact ⟨ha, hp, hs.entitled hp ha⟩

end ParticipantDirectory
