import ParticipantDirectory.Group
import ParticipantDirectory.Proofs.Store.Entities

/-!
# Full tables

The database of a directory that has its four tables (`Tables.database`), the rows that are looked up in them, and
the five writes of a directory as functions of the tables. The rows of a key are its share of the tables. A write
acts on the share of one key (`share_addGroup_of_ne` and the like) and says what that is afterwards
(`share_addGroup`, `share_putCard`, `share_dropCard`, `share_dropGroup`); what is looked up under a key depends on
its share.
-/

namespace ParticipantDirectory

/-- The rows of the four tables of a directory. -/
structure Tables where
  users : List UserRow
  groups : List GroupRow
  cards : List CardRow
  entities : List EntityRow

/-- The rows of one key: those of its service group, of its card and of its entities. -/
structure Share where
  groups : List GroupRow
  cards : List CardRow
  entities : List EntityRow

namespace Tables

variable (t : Tables)

/-- The database that has the four tables, with the constraints that their definitions give them. -/
def database : Database where
  users := some t.users
  groups := some t.groups
  cards := some t.cards
  entities := some t.entities
  constraints := Database.fresh.constraints

/-- The tables of a new directory. -/
def empty : Tables := ⟨[], [], [], []⟩

/-- The row of a login name. -/
def user? (name : String) : Option UserRow :=
  t.users.find? (·.loginName == name)

/-- The row of a service group. -/
def group? (key : String) : Option GroupRow :=
  t.groups.find? (·.id == key)

/-- The row of a card. -/
def card? (key : String) : Option CardRow :=
  t.cards.find? (·.id == key)

/-- The rows of the entities of a card, in the order of their positions. -/
def entitiesOf (key : String) : List EntityRow :=
  Cards.entitiesOf key t.entities

/-- The rows of a key. -/
def share (key : String) : Share where
  groups := t.groups.filter (·.id == key)
  cards := t.cards.filter (·.id == key)
  entities := t.entities.filter (·.cardId == key)

/-- The tables with a new user. -/
def addUser (row : UserRow) : Tables :=
  { t with users := t.users ++ [row] }

/-- The tables with a new service group. -/
def addGroup (row : GroupRow) : Tables :=
  { t with groups := t.groups ++ [row] }

/-- The row of a group's card. -/
def cardRow (group : ServiceGroup) : CardRow :=
  ⟨group.id, group.participant.scheme, group.participant.value⟩

/-- The tables in which the card of a group has the given entities instead of those that it had. -/
def putCard (group : ServiceGroup) (entities : List StoredEntity) : Tables :=
  { t with
    cards := if (t.card? group.id).isSome then t.cards else t.cards ++ [cardRow group]
    entities := t.entities.filter (·.cardId != group.id) ++ Cards.newRows group.id entities }

/-- The tables without a card and its entities. -/
def dropCard (key : String) : Tables :=
  { t with
    cards := t.cards.filter (·.id != key)
    entities := t.entities.filter (·.cardId != key) }

/-- The tables without a service group, its card and its entities. -/
def dropGroup (key : String) : Tables :=
  { t.dropCard key with groups := t.groups.filter (·.id != key) }

/-- The database with its four tables empty. -/
theorem database_empty : empty.database = Database.fresh := rfl

variable {t} {t' : Tables} {key other : String}

theorem database_injective (h : t.database = t'.database) : t = t' := by
  obtain ⟨users, groups, cards, entities⟩ := t
  obtain ⟨users', groups', cards', entities'⟩ := t'
  cases h
  rfl

/-! ## What is looked up under a key -/

theorem mem_of_group? {row : GroupRow} (h : t.group? key = some row) : row ∈ t.groups ∧ row.id = key := by
  have hid := List.find?_some h
  exact ⟨List.mem_of_find?_eq_some h, eq_of_beq hid⟩

theorem mem_of_card? {row : CardRow} (h : t.card? key = some row) : row ∈ t.cards ∧ row.id = key := by
  have hid := List.find?_some h
  exact ⟨List.mem_of_find?_eq_some h, eq_of_beq hid⟩

theorem mem_of_user? {name : String} {row : UserRow} (h : t.user? name = some row) :
    row ∈ t.users ∧ row.loginName = name := by
  have hid := List.find?_some h
  exact ⟨List.mem_of_find?_eq_some h, eq_of_beq hid⟩

theorem no_group_of_group? (h : t.group? key = none) : ∀ g ∈ t.groups, g.id ≠ key := by
  intro g hg he
  exact List.find?_eq_none.1 h g hg (beq_iff_eq.2 he)

theorem no_card_of_card? (h : t.card? key = none) : ∀ c ∈ t.cards, c.id ≠ key := by
  intro c hc he
  exact List.find?_eq_none.1 h c hc (beq_iff_eq.2 he)

theorem group?_of_share (h : t'.share key = t.share key) : t'.group? key = t.group? key := by
  rw [group?, group?, ← List.head?_filter, ← List.head?_filter]
  exact congrArg (fun s => s.groups.head?) h

theorem card?_of_share (h : t'.share key = t.share key) : t'.card? key = t.card? key := by
  rw [card?, card?, ← List.head?_filter, ← List.head?_filter]
  exact congrArg (fun s => s.cards.head?) h

theorem entitiesOf_of_share (h : t'.share key = t.share key) : t'.entitiesOf key = t.entitiesOf key :=
  congrArg (fun s => s.entities.foldr Cards.insertByPosition []) h

/-! ## What a write leaves alone -/

section keyed

variable {ρ : Type} {k : ρ → String} {rows : List ρ}

theorem filter_concat_of_ne {row : ρ} (h : k row ≠ key) :
    (rows ++ [row]).filter (k · == key) = rows.filter (k · == key) := by
  rw [List.filter_append, List.filter_cons_of_neg (by rw [beq_iff_eq]; exact h), List.filter_nil, List.append_nil]

/-- Rows of one key are not among those that are left after a key is dropped. -/
theorem filter_drop_self : (rows.filter (k · != key)).filter (k · == key) = [] := by
  rw [List.filter_filter, List.filter_eq_nil_iff]
  intro r _ h
  obtain ⟨h₁, h₂⟩ := (Bool.and_eq_true _ _).mp h
  exact (bne_iff_ne.1 h₂) (eq_of_beq h₁)

theorem filter_drop_of_ne (h : key ≠ other) :
    (rows.filter (k · != key)).filter (k · == other) = rows.filter (k · == other) := by
  rw [List.filter_filter]
  refine List.filter_congr fun r _ => ?_
  by_cases he : k r = other
  · rw [beq_iff_eq.2 he, Bool.true_and, bne_iff_ne.2 fun hk => h (hk.symm.trans he)]
  · rw [beq_eq_false_iff_ne.2 he, Bool.false_and]

theorem filter_drop_of_absent (h : ∀ r ∈ rows, k r ≠ key) : rows.filter (k · != key) = rows :=
  List.filter_eq_self.2 fun r hr => bne_iff_ne.2 (h r hr)

theorem filter_of_absent (h : ∀ r ∈ rows, k r ≠ key) : rows.filter (k · == key) = [] :=
  List.filter_eq_nil_iff.2 fun r hr he => h r hr (eq_of_beq he)

end keyed

/-- Where a card has no entities, dropping them changes nothing. -/
theorem entities_drop_of_none (h : t.entitiesOf key = []) : t.entities.filter (·.cardId != key) = t.entities := by
  refine filter_drop_of_absent fun e he hk => ?_
  have hm : e ∈ t.entitiesOf key := Cards.mem_entitiesOf.2 ⟨he, hk⟩
  rw [h] at hm
  cases hm

theorem share_addGroup_of_ne {row : GroupRow} (h : row.id ≠ key) : (t.addGroup row).share key = t.share key := by
  simp only [share, addGroup, filter_concat_of_ne h]

theorem share_putCard_of_ne {group : ServiceGroup} (entities : List StoredEntity) (h : group.id ≠ key) :
    (t.putCard group entities).share key = t.share key := by
  have hc : (if (t.card? group.id).isSome then t.cards else t.cards ++ [cardRow group]).filter (·.id == key) =
      t.cards.filter (·.id == key) := by
    split
    · rfl
    · exact filter_concat_of_ne h
  have he : (Cards.newRows group.id entities).filter (·.cardId == key) = [] :=
    filter_of_absent fun r hr hk => h ((Cards.cardId_of_mem_newRows hr).symm.trans hk)
  simp only [share, putCard, hc, List.filter_append, filter_drop_of_ne h, he, List.append_nil]

theorem share_dropCard_of_ne (h : key ≠ other) : (t.dropCard key).share other = t.share other := by
  simp only [share, dropCard, filter_drop_of_ne h]

theorem share_dropGroup_of_ne (h : key ≠ other) : (t.dropGroup key).share other = t.share other := by
  simp only [share, dropGroup, dropCard, filter_drop_of_ne h]

/-! ## What a write makes of its key -/

theorem share_addGroup {row : GroupRow} (h : t.group? row.id = none) :
    (t.addGroup row).share row.id = { t.share row.id with groups := [row] } := by
  have hg : t.groups.filter (·.id == row.id) = [] := filter_of_absent (no_group_of_group? h)
  have hr : [row].filter (·.id == row.id) = [row] :=
    List.filter_eq_self.2 fun r hr => beq_iff_eq.2 (congrArg GroupRow.id (List.mem_singleton.1 hr))
  simp only [share, addGroup, List.filter_append, hg, hr, List.nil_append]

theorem share_dropCard : (t.dropCard key).share key = { t.share key with cards := [], entities := [] } := by
  simp only [share, dropCard, filter_drop_self]

theorem share_dropGroup : (t.dropGroup key).share key = ⟨[], [], []⟩ := by
  simp only [share, dropGroup, dropCard, filter_drop_self]

theorem group?_addGroup {row : GroupRow} (h : t.group? row.id = none) : (t.addGroup row).group? row.id = some row := by
  rw [group?, ← List.head?_filter]
  exact congrArg (fun s => s.groups.head?) (share_addGroup h)

theorem group?_dropGroup : (t.dropGroup key).group? key = none := by
  rw [group?, ← List.head?_filter]
  exact congrArg (fun s => s.groups.head?) share_dropGroup

theorem card?_dropCard : (t.dropCard key).card? key = none := by
  rw [card?, ← List.head?_filter]
  exact congrArg (fun s => s.cards.head?) share_dropCard

theorem card?_putCard (group : ServiceGroup) (entities : List StoredEntity) :
    (t.putCard group entities).card? group.id = some ((t.card? group.id).getD (cardRow group)) := by
  rw [card?, putCard]
  cases hc : t.card? group.id with
  | none =>
    dsimp only [Option.isSome]
    rw [if_neg Bool.false_ne_true, List.find?_append, show t.cards.find? (·.id == group.id) = none from hc]
    rw [Option.none_or, Option.getD_none]
    exact List.find?_cons_of_pos (beq_self_eq_true group.id)
  | some card =>
    dsimp only [Option.isSome]
    rw [if_pos rfl]
    exact hc

theorem entities_putCard (group : ServiceGroup) (entities : List StoredEntity) :
    (t.putCard group entities).entities.filter (·.cardId == group.id) = Cards.newRows group.id entities := by
  rw [putCard, List.filter_append, filter_drop_self, List.nil_append]
  exact List.filter_eq_self.2 fun r hr => beq_iff_eq.2 (Cards.cardId_of_mem_newRows hr)

theorem share_putCard (group : ServiceGroup) (entities : List StoredEntity) :
    (t.putCard group entities).share group.id =
      { t.share group.id with
        cards := (t.share group.id).cards ++ if (t.card? group.id).isSome then [] else [cardRow group]
        entities := Cards.newRows group.id entities } := by
  have hc : (if (t.card? group.id).isSome then t.cards else t.cards ++ [cardRow group]).filter (·.id == group.id) =
      t.cards.filter (·.id == group.id) ++ if (t.card? group.id).isSome then [] else [cardRow group] := by
    split
    · rw [List.append_nil]
    · rw [List.filter_append, show [cardRow group].filter (·.id == group.id) = [cardRow group] from
        List.filter_cons_of_pos (beq_self_eq_true group.id)]
  rw [share, entities_putCard]
  exact congrArg (Share.mk (t.share group.id).groups · _) hc

/-- The entities of a card are read as they were put. -/
theorem entitiesOf_putCard (group : ServiceGroup) (entities : List StoredEntity) :
    (t.putCard group entities).entitiesOf group.id = Cards.newRows group.id entities :=
  Cards.entitiesOf_newRows (fun _ hr => bne_iff_ne.1 (List.mem_filter.1 hr).2) entities

end Tables

end ParticipantDirectory
