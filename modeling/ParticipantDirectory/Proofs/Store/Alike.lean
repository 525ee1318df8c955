import Mathlib.Data.List.Count
import ParticipantDirectory.Proofs.Store.Tables

/-!
# Tables alike

Tables are alike if they have the same users and, in some order, the same groups, cards and entities, whatever the ids
of the entities are (`Tables.Alike`). Rows are told apart by their keys, so tables are alike if they have the same users
and under every key the same rows but for the ids of entities (`Tables.alike_of_shares`).
-/

namespace ParticipantDirectory

/-- The row of an entity without its id. -/
def EntityRow.anonymous (r : EntityRow) : EntityRow :=
  { r with id := .absent }

/-- The rows of a key without the ids of its entities. -/
def Share.anonymous (s : Share) : Share :=
  { s with entities := s.entities.map EntityRow.anonymous }

namespace Tables

/-- The same rows, in whatever order and but for the ids of entities. -/
structure Alike (t t' : Tables) : Prop where
  users : t'.users = t.users
  groups : t'.groups.Perm t.groups
  cards : t'.cards.Perm t.cards
  entities : (t'.entities.map EntityRow.anonymous).Perm (t.entities.map EntityRow.anonymous)

/-- Lists are permutations of each other if they have the same elements under every key. -/
theorem perm_of_filter {ρ : Type} {k : ρ → String} {rows rows' : List ρ}
    (h : ∀ key, rows'.filter (k · == key) = rows.filter (k · == key)) : rows'.Perm rows := by
  classical
  refine List.perm_iff_count.2 fun r => ?_
  have hr : ∀ l : List ρ, (l.filter (k · == k r)).count r = l.count r := fun l =>
    List.count_filter (beq_self_eq_true (k r))
  rw [← hr rows', h, hr]

theorem map_anonymous_filter (rows : List EntityRow) (key : String) :
    (rows.map EntityRow.anonymous).filter (·.cardId == key) =
      (rows.filter (·.cardId == key)).map EntityRow.anonymous :=
  List.filter_map

theorem alike_of_shares {t t' : Tables} (hu : t'.users = t.users)
    (h : ∀ key, (t'.share key).anonymous = (t.share key).anonymous) : Alike t t' where
  users := hu
  groups := perm_of_filter (k := GroupRow.id) fun key => congrArg Share.groups (h key)
  cards := perm_of_filter (k := CardRow.id) fun key => congrArg Share.cards (h key)
  entities := perm_of_filter (k := EntityRow.cardId) fun key => by
    rw [map_anonymous_filter, map_anonymous_filter]
    exact congrArg Share.entities (h key)

end Tables

/-- The rows of a card's new entities depend, but for the ids, on the contents alone. -/
theorem Cards.newRows_anonymous (id : String) {entities entities' : List StoredEntity}
    (h : entities'.map (·.content) = entities.map (·.content)) :
    (newRows id entities').map EntityRow.anonymous = (newRows id entities).map EntityRow.anonymous := by
  have hrows : ∀ es : List StoredEntity, (newRows id es).map EntityRow.anonymous =
      (es.map (·.content)).mapIdx fun i content => EntityRow.ofStored id i ⟨.absent, content⟩ := by
    intro es
    apply List.ext_getElem
    · rw [List.length_map, length_newRows, List.length_mapIdx, List.length_map]
    · intro i _ _
      rw [List.getElem_map, List.getElem_mapIdx, List.getElem_map]
      simp only [newRows, List.getElem_mapIdx, EntityRow.anonymous, EntityRow.ofStored]
  rw [hrows, hrows, h]

end ParticipantDirectory
