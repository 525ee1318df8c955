import ParticipantDirectory.Proofs.Service.Counters
import ParticipantDirectory.Proofs.Service.History
import ParticipantDirectory.Proofs.Store.Alike

/-!
# Calls on different participants

What a call answers depends on the users and on the rows of its own participant (`Directory.answer_of_agree`), and so
does what it makes of these rows, but for the ids of entities (`Directory.Does.share_anonymous`); it touches no rows of
other participants (`Directory.Does.share_of_ne`). So calls on different participants commute: in both orders they give
the same answers, alike tables and the same counts (`calls_commute`).
-/

namespace ParticipantDirectory

open Transaction

/-- Linked tables, whose entities are numbered below `n` and below `n'`, that have the same users and the same rows of
a key. -/
structure Tables.Agree (t : Tables) (n : Nat) (t' : Tables) (n' : Nat) (key : String) : Prop where
  users : t'.users = t.users
  share : t'.share key = t.share key
  linked : t.Linked
  linked' : t'.Linked
  numbered : t.Numbered n
  numbered' : t'.Numbered n'

variable {d : Directory} {t t' : Tables} {n n' : Nat} {p : Identifier}

namespace Tables.Agree

variable {key : String} (h : t.Agree n t' n' key)
include h

theorem owners : ∀ g ∈ t.groups, g.owner.Storable :=
  fun _ hg => h.linked.owner_storable h.numbered hg

theorem owners' : ∀ g ∈ t'.groups, g.owner.Storable :=
  fun _ hg => h.linked'.owner_storable h.numbered' hg

theorem group? : t'.group? key = t.group? key :=
  group?_of_share h.share

theorem findCard : (Cards.findCard key).answer t'.database = (Cards.findCard key).answer t.database := by
  rw [Cards.findCard_answer, Cards.findCard_answer, card?_of_share h.share, entitiesOf_of_share h.share]

theorem identified (rounds : Nat) (credentials : Option Credentials) :
    Users.identified rounds t'.database credentials = Users.identified rounds t.database credentials := by
  cases credentials with
  | none => rfl
  | some c =>
    rw [Users.identified_database h.numbered'.users, Users.identified_database h.numbered.users, user?, user?, h.users]

end Tables.Agree

/-! ## Answers -/

namespace Directory

theorem named_bind {α : Type} {id : String} (hp : d.addressing.parse? id = some p) (f : Identifier → Except Failure α) :
    d.named id >>= f = f p := by
  rw [named, hp]
  rfl

section

variable (h : t.Agree n t' n' p.key)
include h

theorem groupOf_of_agree (id : String) : groupOf id p t'.database = groupOf id p t.database := by
  rw [groupOf, groupOf, Groups.lookup_answer h.owners', Groups.lookup_answer h.owners, h.group?]

theorem ownerOf_of_agree (credentials : Option Credentials) :
    d.ownerOf p credentials t'.database = d.ownerOf p credentials t.database := by
  rw [ownerOf, ownerOf, h.identified]
  refine bind_congr fun user => ?_
  rw [Groups.ownerCheck_database h.owners', Groups.ownerCheck_database h.owners, h.group?]

variable (id : String) (hp : d.addressing.parse? id = some p)
include hp

theorem readGroup_of_agree : d.readGroup id t'.database = d.readGroup id t.database := by
  simp only [readGroup, named_bind hp]
  exact groupOf_of_agree h id

/-- What is registered, apart from where. -/
theorem registerGroup_of_agree (credentials : Option Credentials) (extension : Option String) :
    (d.registerGroup id credentials extension t'.database).map Prod.fst =
      (d.registerGroup id credentials extension t.database).map Prod.fst := by
  simp only [registerGroup, named_bind hp, h.identified]
  cases hi : Users.identified d.rounds t.database credentials with
  | error e => rfl
  | ok user =>
    obtain ⟨u, hu, rfl⟩ := Users.identified_ok hi
    have hs : u.id.Storable := h.numbered.users u hu.mem
    show (((Groups.register p u.toUser extension).outcome t'.database).map _).map _ =
      (((Groups.register p u.toUser extension).outcome t.database).map _).map _
    rw [Groups.register_database h.owners' hs, Groups.register_database h.owners hs, h.group?]
    cases t.group? p.key <;> rfl

theorem removeGroup_of_agree (credentials : Option Credentials) :
    (d.removeGroup id credentials t'.database).map Prod.fst =
      (d.removeGroup id credentials t.database).map Prod.fst := by
  simp only [removeGroup, named_bind hp, ownerOf_of_agree h, except_map_bind]
  refine bind_congr fun user => ?_
  rw [Groups.deleteRow_database h.owners' h.linked', Groups.deleteRow_database h.owners h.linked, h.group?]
  cases t.group? p.key <;> rfl

theorem readCard_of_agree : d.readCard id t'.database = d.readCard id t.database := by
  simp only [readCard, named_bind hp, groupOf_of_agree h]
  cases hg : groupOf id p t.database with
  | error e => rfl
  | ok group =>
    obtain ⟨g, hgroup, rfl⟩ := groupOf_ok h.owners hg
    show (d.enabled >>= fun _ => (Cards.findCard g.toGroup.id).answer t'.database >>= _) =
      (d.enabled >>= fun _ => (Cards.findCard g.toGroup.id).answer t.database >>= _)
    rw [show g.toGroup.id = p.key from (Tables.mem_of_group? hgroup).2, h.findCard]

theorem storeChecks_of_agree (payload : CardPayload) (credentials : Option Credentials) :
    d.storeChecks id payload credentials t'.database = d.storeChecks id payload credentials t.database := by
  simp only [storeChecks, named_bind hp, groupOf_of_agree h, ownerOf_of_agree h]

theorem removeCard_of_agree (credentials : Option Credentials) :
    (d.removeCard id credentials t'.database).map Prod.fst =
      (d.removeCard id credentials t.database).map Prod.fst := by
  simp only [removeCard, named_bind hp, ownerOf_of_agree h, h.findCard, except_map_bind]
  refine bind_congr fun user => bind_congr fun _ => bind_congr fun found => bind_congr fun card => ?_
  rw [outcome_of_run (Cards.run_deleteRows h.linked' card.id), outcome_of_run (Cards.run_deleteRows h.linked card.id)]
  rfl

end

/-- The answer of an operation that ends with an answer and a database. -/
theorem answer_reported {α : Type} (x : Except Failure (α × Database)) (report : Failure → Failure) (f : α → Answer) :
    ((x.mapError report).map fun q => (f q.1, q.2)).map Prod.fst = ((x.map Prod.fst).mapError report).map f := by
  cases x <;> rfl

/-- The answer of an operation that leaves the database alone. -/
theorem answer_read {α : Type} (x : Except Failure α) (f : α → Answer) (db : Database) :
    (x.map fun a => (f a, db)).map Prod.fst = x.map f := by
  cases x <;> rfl

/-- What a call answers depends on the users and on the rows of its participant. -/
theorem answer_of_agree (h : t.Agree n t' n' p.key) (uri : Option String) {call : Call}
    (hp : d.addressing.parse? call.id = some p) :
    (d.effect uri n' t'.database call).map Prod.fst = (d.effect uri n t.database call).map Prod.fst := by
  cases call with
  | getGroup id => rw [effect, effect, answer_read, answer_read, readGroup_of_agree h id hp]
  | createGroup id credentials extension =>
    rw [effect, effect, answer_reported, answer_reported, registerGroup_of_agree h id hp]
  | deleteGroup id credentials =>
    rw [effect, effect, answer_reported _ _ fun _ => .outcome .success, answer_reported _ _ fun _ => .outcome .success,
      removeGroup_of_agree h id hp]
  | getCard id => rw [effect, effect, answer_read, answer_read, readCard_of_agree h id hp]
  | createCard id payload credentials =>
    rw [effect, effect, storeChecks_of_agree h id hp, except_map_bind, except_map_bind]
    refine bind_congr fun group => ?_
    obtain ⟨card, hcard⟩ := Cards.stored_numbered h.linked h.numbered group payload.entities
    obtain ⟨card', hcard'⟩ := Cards.stored_numbered h.linked' h.numbered' group payload.entities
    rw [hcard, hcard']
    rfl
  | deleteCard id credentials =>
    rw [effect, effect, answer_reported _ _ fun _ => .outcome .success, answer_reported _ _ fun _ => .outcome .success,
      removeCard_of_agree h id hp]

/-! ## Rows -/

/-- What a call makes of the rows of its participant depends on these rows and on its answer, but for the ids of
entities. -/
theorem Does.share_anonymous {call : Call} {a a' : Answer} {s s' : Tables} (h : d.Does n t call a s)
    (h' : d.Does n' t' call a' s') (ha : a' = a) (hp : d.addressing.parse? call.id = some p)
    (hs : t'.share p.key = t.share p.key) : (s'.share p.key).anonymous = (s.share p.key).anonymous := by
  cases h with
  | asks hask =>
    cases h' with
    | asks => rw [hs]
    | createGroup | deleteGroup | createCard | deleteCard => exact hask.elim
  | @createGroup id credentials extension q u hq hu hg =>
    cases h' with
    | asks hask => exact hask.elim
    | @createGroup _ _ _ q' u' hq' hu' hg' =>
      cases hq.symm.trans hp
      cases hq'.symm.trans hp
      have howner : u'.id = u.id := congrArg ServiceGroup.owner (Answer.group.inj ha)
      rw [howner]
      have hrow : ∀ {t : Tables}, t.group? p.key = none →
          (t.addGroup ⟨p.key, p.scheme, p.value, u.id, extension⟩).share p.key =
            { t.share p.key with groups := [⟨p.key, p.scheme, p.value, u.id, extension⟩] } :=
        fun hg => Tables.share_addGroup hg
      rw [hrow hg, hrow hg', hs]
  | deleteGroup hq =>
    cases h' with
    | asks hask => exact hask.elim
    | deleteGroup hq' =>
      cases hq.symm.trans hp
      cases hq'.symm.trans hp
      rw [Tables.share_dropGroup, Tables.share_dropGroup]
  | @createCard id payload credentials q u g hq _ hu hg =>
    cases h' with
    | asks hask => exact hask.elim
    | @createCard _ _ _ q' u' g' hq' _ hu' hg' =>
      cases hq.symm.trans hp
      cases hq'.symm.trans hp
      obtain rfl : g' = g := Option.some.inj (hg'.symm.trans ((Tables.group?_of_share hs).trans hg))
      have hid : p.key = g'.toGroup.id := (Tables.mem_of_group? hg).2.symm
      rw [hid] at hs ⊢
      rw [Tables.share_putCard, Tables.share_putCard, Tables.card?_of_share hs, hs, Share.anonymous, Share.anonymous,
        Cards.newRows_anonymous _ ((numbered_contents n' _).trans (numbered_contents n _).symm)]
  | deleteCard hq =>
    cases h' with
    | asks hask => exact hask.elim
    | deleteCard hq' =>
      cases hq.symm.trans hp
      cases hq'.symm.trans hp
      rw [Tables.share_dropCard, Tables.share_dropCard, hs]

end Directory

/-! ## Calls in either order -/

/-- A call of a directory takes a world with linked tables to another, with this answer. -/
structure Directory.Takes (d : Directory) (call : Call) (w : World Database) (t : Tables)
    (answer : Except Failure Answer) (w' : World Database) (t' : Tables) : Prop where
  state : w.state = t.database
  linked : t.Linked
  numbered : t.Numbered w.issued
  state' : w'.state = t'.database
  linked' : t'.Linked
  numbered' : t'.Numbered w'.issued
  does : match answer with
    | .ok a => d.Does w.issued t call a t'
    | .error _ => t' = t

theorem Directory.takes (d : Directory) (uri : Option String) (call : Call) {w : World Database}
    (hw : w.state = t.database) (hl : t.Linked) (hn : t.Numbered w.issued) :
    ∃ t', d.Takes call w t ((call.perform (d.collaborators uri)).runOn w).1
      ((call.perform (d.collaborators uri)).runOn w).2 t' := by
  obtain ⟨t', w', e, hw', hn', hs⟩ := d.run_database uri call hw hl hn
  rw [e]
  refine ⟨t', hw, hl, hn, hw', ?_, hn', hs⟩
  cases hr : ((call.perform (d.collaborators uri)).runOn w).1 with
  | error f =>
    rw [hr] at hs
    exact hs ▸ hl
  | ok a =>
    rw [hr] at hs
    exact hs.linked hl

namespace Directory.Takes

variable {call : Call} {w w' : World Database} {answer : Except Failure Answer}

theorem users (h : d.Takes call w t answer w' t') : t'.users = t.users := by
  have hd := h.does
  cases answer with
  | error f => exact congrArg Tables.users hd
  | ok a => exact hd.users

theorem share_of_ne (h : d.Takes call w t answer w' t') (hp : d.addressing.parse? call.id = some p) {key : String}
    (hne : p.key ≠ key) : t'.share key = t.share key := by
  have hd := h.does
  cases answer with
  | error f => exact congrArg (·.share key) hd
  | ok a =>
    exact hd.share_of_ne fun q hq => by
      cases hq.symm.trans hp
      exact hne

/-- The same answer makes the same of the same rows. -/
theorem share_anonymous {w₁ w₁' : World Database} {t₁ t₁' : Tables} {answer' : Except Failure Answer}
    (h : d.Takes call w t answer w' t') (h₁ : d.Takes call w₁ t₁ answer' w₁' t₁') (ha : answer' = answer)
    (hp : d.addressing.parse? call.id = some p) (hs : t₁.share p.key = t.share p.key) :
    (t₁'.share p.key).anonymous = (t'.share p.key).anonymous := by
  subst ha
  have hd := h.does
  have hd₁ := h₁.does
  cases answer' with
  | error f => rw [show t' = t from hd, show t₁' = t₁ from hd₁, hs]
  | ok a => exact hd.share_anonymous hd₁ rfl hp hs

/-- What a call leaves alone is the same for calls on another participant. -/
theorem agree (h : d.Takes call w t answer w' t') {q : Identifier} (hq : d.addressing.parse? call.id = some q)
    (hne : q.key ≠ p.key) : t.Agree w.issued t' w'.issued p.key :=
  ⟨h.users, h.share_of_ne hq hne, h.linked, h.linked', h.numbered, h.numbered'⟩

end Directory.Takes

/-- Where the users and the rows of its participant are the same, a call has the same answer. -/
theorem Directory.answer_of_worlds (uri : Option String) {call : Call} {w w' : World Database}
    (hp : d.addressing.parse? call.id = some p) (hw : w.state = t.database) (hw' : w'.state = t'.database)
    (h : t.Agree w.issued t' w'.issued p.key) :
    ((call.perform (d.collaborators uri)).runOn w').1 = ((call.perform (d.collaborators uri)).runOn w).1 := by
  obtain ⟨_, e, -⟩ := d.runOn_perform uri call w
  obtain ⟨_, e', -⟩ := d.runOn_perform uri call w'
  rw [e, e', hw, hw']
  exact answer_of_agree h uri hp

/-- In every state that a run of deeds reaches from the empty schema, two calls on different participants commute, be
they of one directory or of two over the same database. Either call has the same answer, whether it is made first or
second; in the end the users, the groups, the cards and the entities are the same in both orders, but for the ids of
entities and the order in which rows were added, and so is every count. -/
theorem calls_commute (deeds : List Deed) (w₀ : World Database) (d₁ d₂ : Directory) (uri₁ uri₂ : Option String)
    (call₁ call₂ : Call) (p₁ p₂ : Identifier) (h₁ : d₁.addressing.parse? call₁.id = some p₁)
    (h₂ : d₂.addressing.parse? call₂.id = some p₂) (hne : p₁ ≠ p₂) :
    let w := ({ w₀ with state := Database.fresh } : World Database).after deeds
    let first := call₁.perform (d₁.collaborators uri₁)
    let second := call₂.perform (d₂.collaborators uri₂)
    let one := second.runOn (first.runOn w).2
    let other := first.runOn (second.runOn w).2
    other.1 = (first.runOn w).1 ∧ one.1 = (second.runOn w).1 ∧
      (∃ t t' : Tables, one.2.state = t.database ∧ other.2.state = t'.database ∧ t.Alike t') ∧
      ∀ name key, other.2.tally.count name key = one.2.tally.count name key := by
  intro w first second one other
  obtain ⟨t, hk⟩ := kept_after deeds w₀
  have hl := hk.integrity.toLinked
  have hkey : p₁.key ≠ p₂.key := fun h => hne (Identifier.key_injective ⟨_, _, h₁⟩ ⟨_, _, h₂⟩ h)
  obtain ⟨t₁, s₁⟩ := d₁.takes uri₁ call₁ hk.state hl hk.numbered
  obtain ⟨t₁₂, s₁₂⟩ := d₂.takes uri₂ call₂ s₁.state' s₁.linked' s₁.numbered'
  obtain ⟨t₂, s₂⟩ := d₂.takes uri₂ call₂ hk.state hl hk.numbered
  obtain ⟨t₂₁, s₂₁⟩ := d₁.takes uri₁ call₁ s₂.state' s₂.linked' s₂.numbered'
  have ha₁ : other.1 = (first.runOn w).1 :=
    Directory.answer_of_worlds uri₁ h₁ hk.state s₂.state' (s₂.agree h₂ hkey.symm)
  have ha₂ : one.1 = (second.runOn w).1 :=
    Directory.answer_of_worlds uri₂ h₂ hk.state s₁.state' (s₁.agree h₁ hkey)
  refine ⟨ha₁, ha₂, ⟨t₁₂, t₂₁, s₁₂.state', s₂₁.state', Tables.alike_of_shares ?_ fun key => ?_⟩, fun name key => ?_⟩
  · rw [s₂₁.users, s₂.users, s₁₂.users, s₁.users]
  · by_cases hk₁ : p₁.key = key
    · subst hk₁
      rw [s₁₂.share_of_ne h₂ hkey.symm]
      exact s₁.share_anonymous s₂₁ ha₁ h₁ (s₂.share_of_ne h₂ hkey.symm)
    by_cases hk₂ : p₂.key = key
    · subst hk₂
      rw [s₂₁.share_of_ne h₁ hkey]
      exact s₁₂.share_anonymous s₂ ha₂.symm h₂ (s₁.share_of_ne h₁ hkey).symm
    · rw [s₂₁.share_of_ne h₁ hk₁, s₂.share_of_ne h₂ hk₂, s₁₂.share_of_ne h₂ hk₂, s₁.share_of_ne h₁ hk₁]
  · show (first.runOn (second.runOn w).2).2.tally.count name key =
      (second.runOn (first.runOn w).2).2.tally.count name key
    rw [d₁.counts_perform uri₁ call₁, d₂.counts_perform uri₂ call₂, d₂.counts_perform uri₂ call₂,
      d₁.counts_perform uri₁ call₁, Tally.count_tick, Tally.count_tick, Tally.count_tick, Tally.count_tick, ha₁, ha₂]
    exact Int.add_right_comm _ _ _

/-- Anna registers two participants, in either order. -/
theorem calls_commute_of_registrations :
    let deeds := [Deed.createUser 1 "anna" "secret"]
    let d : Directory := ⟨.simple, true, 1⟩
    let w₀ : World Database := { state := Database.fresh }
    let call₁ := Call.createGroup "a::b" (some ⟨"anna", "secret"⟩) none
    let call₂ := Call.createGroup "c::d" (some ⟨"anna", "secret"⟩) none
    let w := ({ w₀ with state := Database.fresh } : World Database).after deeds
    let first := call₁.perform (d.collaborators none)
    let second := call₂.perform (d.collaborators none)
    let one := second.runOn (first.runOn w).2
    let other := first.runOn (second.runOn w).2
    other.1 = (first.runOn w).1 ∧ one.1 = (second.runOn w).1 ∧
      (∃ t t' : Tables, one.2.state = t.database ∧ other.2.state = t'.database ∧ t.Alike t') ∧
      ∀ name key, other.2.tally.count name key = one.2.tally.count name key := by
  intro deeds d w₀ call₁ call₂
  have h₁ : d.addressing.parse? "a::b" = some ⟨"a", "b"⟩ := by decide +kernel
  have h₂ : d.addressing.parse? "c::d" = some ⟨"c", "d"⟩ := by decide +kernel
  have hne : (⟨"a", "b"⟩ : Identifier) ≠ ⟨"c", "d"⟩ := by decide
  exact calls_commute deeds w₀ d d none none call₁ call₂ _ _ h₁ h₂ hne

end ParticipantDirectory
