import ParticipantDirectory.Proofs.Service.ReadBack

/-!
# Reachable tables

Any users may be created and any calls made, of directories under any rules, as long as the cards that are stored
have come as accepted documents. Then the four tables are there, they are linked, the group under a participant's key
is the group of this participant, and every card can be read (`Sound`): `sound_step` is one deed, `sound_after` the
induction over a run from the empty schema.
-/

namespace ParticipantDirectory

/-- A deed that stores no card but one that has come as an accepted document. -/
def Deed.Accepted : Deed → Prop
  | createUser .. => True
  | call _ _ c => c.Accepted

/-- Every card can be read. -/
def Tables.CardsReadable (t : Tables) : Prop :=
  ∀ p : Identifier, p.Canonical → ∀ payload, t.payloadAt p.key = some payload → payload.Readable

/-- Full and linked tables, in which groups are found under their own keys and cards can be read. -/
structure Sound (w : World Database) (t : Tables) : Prop where
  state : w.state = t.database
  linked : t.Linked
  numbered : t.Numbered w.issued
  groups : ∀ p : Identifier, p.Canonical → ∀ g, t.groupAt p.key = some g → g.participant = p
  cards : t.CardsReadable

variable {w : World Database} {t : Tables}

theorem Sound.participant (h : Sound w t) {p : Identifier} (hp : p.Canonical) {g : GroupRow}
    (hg : t.group? p.key = some g) : (⟨g.scheme, g.value⟩ : Identifier) = p :=
  h.groups p hp g.toGroup (by rw [Tables.groupAt, hg]; rfl)

theorem sound_step (h : Sound w t) {deed : Deed} (ha : deed.Accepted) :
    ∃ t', Sound (deed.perform.runOn w).2 t' := by
  obtain ⟨t', w', e, hw, hn, hs⟩ := deed.run_database h.state h.linked h.numbered
  refine ⟨t', ?_⟩
  rw [e]
  cases hr : (deed.perform.runOn w).1 with
  | error f =>
    rw [hr] at hs
    obtain rfl : t' = t := hs
    exact ⟨hw, h.linked, hn, h.groups, h.cards⟩
  | ok a =>
    rw [hr] at hs
    have hl := hs.linked h.linked
    cases hs with
    | createUser => exact ⟨hw, hl, hn, h.groups, h.cards⟩
    | @call d uri c a t' hs =>
      refine ⟨hw, hl, hn, fun p hp g hg => ?_, fun p hp payload hc => ?_⟩
      · rw [hs.group_after hp] at hg
        cases hreg : Served.registration? d.addressing t.users p ⟨c, .ok a⟩ with
        | none =>
          rw [hreg] at hg
          exact h.groups p hp g hg
        | some r =>
          rw [hreg] at hg
          cases hg
          exact Served.participant_of_registration hreg
      · rw [hs.payload_after h.linked hp fun g hg => h.participant hp hg] at hc
        cases hsub : Served.submission? d.addressing p ⟨c, .ok a⟩ with
        | none =>
          rw [hsub] at hc
          exact h.cards p hp payload hc
        | some r =>
          rw [hsub] at hc
          cases hc
          exact hs.readable ha hsub

/-- By induction over the run. -/
theorem sound_after {deeds : List Deed} (ha : ∀ deed ∈ deeds, deed.Accepted) (w : World Database) :
    ∃ t, Sound (({ w with state := Database.fresh } : World Database).after deeds) t := by
  have hstart : Sound ({ w with state := Database.fresh } : World Database) .empty :=
    { state := Tables.database_empty.symm
      linked := Tables.integrity_empty.toLinked
      numbered := Tables.numbered_empty _
      groups := fun _ _ _ h => by cases h
      cards := fun _ _ _ h => by cases h }
  have hrun : (∀ deed ∈ [] ++ deeds, deed.Accepted) → ∃ t, Sound (World.after _ deeds) t :=
    World.after_invariant (P := fun done w => (∀ deed ∈ done, deed.Accepted) → ∃ t, Sound w t) deeds
      (fun _ => ⟨_, hstart⟩) fun done deed w h ha => by
        obtain ⟨t, ht⟩ := h fun deed hd => ha deed (List.mem_append_left _ hd)
        exact sound_step ht (ha deed (List.mem_append_right _ (List.mem_singleton_self deed)))
  exact hrun ha

end ParticipantDirectory
