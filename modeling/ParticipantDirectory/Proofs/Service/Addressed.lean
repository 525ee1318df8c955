import ParticipantDirectory.Proofs.Identifier.Separable
import ParticipantDirectory.Proofs.Service.Presentable

/-!
# Groups that are reached under a key

A group is looked up, and its owner verified, in the row under the key of its participant (`Groups.row_of_find?`,
`Groups.row_of_verifyOwner`), and it is deleted with the rows under this key and no other
(`Groups.share_delete_of_ne`), whichever tables are missing. So nothing that is done under an identifier with a scheme
that can be separated reaches the group of another one (`separable_identifiers_addressed`). An identifier with another
scheme can have the key of someone else's group and reaches this group then (`key_of_another`).
-/

namespace ParticipantDirectory

open Transaction

/-- The rows of a key, of the tables that are there. -/
def Database.share (db : Database) (key : String) : Share where
  groups := db.groupRows.filter (·.id == key)
  cards := db.cardRows.filter (·.id == key)
  entities := db.entityRows.filter (·.cardId == key)

/-- Dropping the rows of one key from a table leaves those of another. -/
theorem Database.filter_drop_of_ne {ρ : Type} (table : Option (List ρ)) (k : ρ → String) {key other : String}
    (h : key ≠ other) : ((table.map (·.filter (k · != key))).getD []).filter (k · == other) =
      (table.getD []).filter (k · == other) := by
  cases table with
  | none => rfl
  | some rows => exact Tables.filter_drop_of_ne h

theorem Cards.keeps_share_deleteRows {key other : String} (h : key ≠ other) (s : Share) :
    (deleteRows key).Keeps fun db => db.share other = s := by
  refine (readOnly_findRows key).keeps.bind fun found => ?_
  cases found with
  | none => exact (readOnly_pure _).keeps
  | some found =>
    refine (keeps_modify fun db hs => ?_).bind fun _ => ?_
    · rw [← hs]
      exact congrArg (Share.mk _ · _) (Database.filter_drop_of_ne db.cards CardRow.id h)
    cases found.2.isEmpty with
    | true => exact (readOnly_pure _).keeps
    | false =>
      refine (keeps_modify fun db hs => ?_).bind fun _ => (readOnly_pure _).keeps
      rw [← hs]
      exact congrArg (Share.mk _ _ ·) (Database.filter_drop_of_ne db.entities EntityRow.cardId h)

namespace Groups

/-- A group that is found is read from a row under the key. -/
theorem row_of_find? {p : Identifier} {w : World Database} {group : ServiceGroup}
    (h : ((find? p).runOn w).1 = .ok (some group)) : ∃ row ∈ w.state.groupRows, row.id = p.key ∧ group = row.toGroup := by
  obtain ⟨w', hrun, -⟩ := reads_find? p w
  rw [hrun] at h
  obtain ⟨⟨found, db⟩, hr, rfl⟩ := ok_of_map h
  have hr := ok_of_mapError hr
  rw [lookup, run_bind] at hr
  cases hf : (findRow p.key).run w.state with
  | error e => rw [hf] at hr; cases hr
  | ok q =>
    obtain ⟨row?, db'⟩ := q
    rw [hf] at hr
    obtain ⟨row, rfl, rfl⟩ := Option.map_eq_some_iff.1 (congrArg Prod.fst (Except.ok.inj hr))
    obtain ⟨hm, hid⟩ := mem_of_findRow hf
    exact ⟨row, hm, hid, rfl⟩

/-- The owner of a group is verified by a row under the key. -/
theorem row_of_verifyOwner {p : Identifier} {user : User} {w : World Database}
    (h : ((verifyOwner p user).runOn w).1 = .ok ()) :
    ∃ row ∈ w.state.groupRows, row.id = p.key ∧ row.owner = user.id := by
  obtain ⟨w', hrun, -⟩ := reads_verifyOwner p user w
  rw [hrun] at h
  obtain ⟨⟨_, db⟩, hr, -⟩ := ok_of_map h
  have hr := ok_of_mapError hr
  rw [ownerCheck, run_bind] at hr
  cases hf : (findRow p.key).run w.state with
  | error e => rw [hf] at hr; cases hr
  | ok q =>
    obtain ⟨row?, db'⟩ := q
    rw [hf] at hr
    cases row? with
    | none => cases hr
    | some row =>
      obtain ⟨hm, hid⟩ := mem_of_findRow hf
      refine ⟨row, hm, hid, ?_⟩
      by_contra hne
      dsimp only at hr
      rw [if_pos hne] at hr
      cases hr

theorem keeps_share_deleteRow {key other : String} (h : key ≠ other) (s : Share) :
    (deleteRow key).Keeps fun db => db.share other = s := by
  refine (readOnly_findRow key).keeps.bind fun found => ?_
  cases found with
  | none => exact (readOnly_pure _).keeps
  | some row =>
    refine (Cards.keeps_share_deleteRows h s).bind fun _ =>
      (keeps_modify fun db hs => ?_).bind fun _ => (readOnly_pure _).keeps
    rw [← hs]
    exact congrArg (Share.mk · _ _) (Database.filter_drop_of_ne db.groups GroupRow.id h)

/-- Deleting a group leaves the rows of every other key. -/
theorem share_delete_of_ne {p : Identifier} {key : String} (h : p.key ≠ key) (w : World Database) :
    ((delete p).runOn w).2.state.share key = w.state.share key := by
  obtain ⟨w', hrun, hstate⟩ := changes_delete p w
  rw [hrun, hstate.state]
  cases hr : (deleteRow p.key).outcome w.state with
  | error e => rfl
  | ok q => exact (keeps_share_deleteRow h _).outcome rfl hr

end Groups

open Addressing
open Identifier (Separable)

/-- The simple rule makes an identifier of any two texts that are not empty, and the key of the identifier names it
exactly if its scheme can be separated. Different identifiers with such schemes have different keys, and what is done
with the service group of one never reaches the group of the other: looking it up and verifying its owner read a row
under another key, and deleting it leaves all rows of the other. -/
theorem separable_identifiers_addressed :
    (∀ (scheme value : String) (p : Identifier),
      simple.create? scheme value = some p ↔ scheme ≠ "" ∧ value ≠ "" ∧ p = ⟨scheme, value⟩) ∧
    (∀ (scheme value : String) (p : Identifier), simple.create? scheme value = some p →
      (simple.parse? p.key = some p ↔ Separable p.scheme)) ∧
    (∀ (scheme value scheme' value' : String) (p q : Identifier), simple.create? scheme value = some p →
      simple.create? scheme' value' = some q → Separable p.scheme → Separable q.scheme → p ≠ q →
      p.key ≠ q.key ∧ ∀ w : World Database,
        (∀ group, ((Groups.find? p).runOn w).1 = .ok (some group) → group.id = p.key ∧ group.id ≠ q.key) ∧
        (∀ user, ((Groups.verifyOwner p user).runOn w).1 = .ok () →
          ∃ row ∈ w.state.groupRows, row.id = p.key ∧ row.id ≠ q.key ∧ row.owner = user.id) ∧
        ((Groups.delete p).runOn w).2.state.share q.key = w.state.share q.key) := by
  refine ⟨simple_create?_iff, fun scheme value p => simple_parse?_key_iff,
    fun scheme value scheme' value' p q hp hq hsp hsq hne => ?_⟩
  have hkey : p.key ≠ q.key := fun he =>
    hne (Identifier.key_injective (canonical_of_separable hp hsp) (canonical_of_separable hq hsq) he)
  refine ⟨hkey, fun w => ⟨fun group h => ?_, fun user h => ?_, Groups.share_delete_of_ne hkey w⟩⟩
  · obtain ⟨row, -, hid, rfl⟩ := Groups.row_of_find? h
    exact ⟨hid, fun he => hkey (hid.symm.trans he)⟩
  · obtain ⟨row, hm, hid, howner⟩ := Groups.row_of_verifyOwner h
    exact ⟨row, hm, hid, fun he => hkey (hid.symm.trans he), howner⟩

/-- A colon that a scheme begins with does no harm, and neither does one within it. What is deleted under the key of one
of these identifiers leaves the group of the other. -/
theorem separable_identifiers_addressed_of_single_colons :
    let p : Identifier := ⟨":a", "b"⟩
    let q : Identifier := ⟨":a:c", ":b"⟩
    let w : World Database := { state := { Database.fresh with groups := some [⟨q.key, q.scheme, q.value, .issued 0, none⟩] } }
    simple.create? ":a" "b" = some p ∧ simple.create? ":a:c" ":b" = some q ∧ Separable p.scheme ∧ Separable q.scheme ∧
      p ≠ q ∧ p.key ≠ q.key ∧ ((Groups.delete p).runOn w).2.state.share q.key = w.state.share q.key := by
  intro p q w
  have hp : simple.create? ":a" "b" = some p := by decide +kernel
  have hq : simple.create? ":a:c" ":b" = some q := by decide +kernel
  have hsp : Separable p.scheme := ((separable_identifiers_addressed.2.1 _ _ p) hp).1 (by decide +kernel)
  have hsq : Separable q.scheme := ((separable_identifiers_addressed.2.1 _ _ q) hq).1 (by decide +kernel)
  have hne : p ≠ q := by decide
  obtain ⟨hkey, hreach⟩ := separable_identifiers_addressed.2.2 _ _ _ _ p q hp hq hsp hsq hne
  exact ⟨hp, hq, hsp, hsq, hne, hkey, (hreach w).2.2⟩

/-- The key of an identifier whose scheme has a separator names another identifier. Whoever looks up the group of the
one finds that of the other, its owner is verified as the owner, and it is what is deleted. -/
theorem key_of_another :
    let p : Identifier := ⟨"a::b", "c"⟩
    let q : Identifier := ⟨"a", "b::c"⟩
    let w : World Database := { state := { Database.fresh with groups := some [⟨q.key, q.scheme, q.value, .issued 0, none⟩] } }
    simple.create? "a::b" "c" = some p ∧ simple.create? "a" "b::c" = some q ∧ p ≠ q ∧ p.key = q.key ∧
      simple.parse? p.key = some q ∧
      ((Groups.find? p).runOn w).1 = .ok (some ⟨q.key, q, .issued 0, none⟩) ∧
      ((Groups.verifyOwner p ⟨.issued 0, "anna"⟩).runOn w).1 = .ok () ∧
      ((Groups.delete p).runOn w).2.state.groups = some [] := by
  refine ⟨by decide +kernel, by decide +kernel, by decide, by decide, by decide +kernel, ?_, ?_, ?_⟩
  · rfl
  · rfl
  · rfl

end ParticipantDirectory
