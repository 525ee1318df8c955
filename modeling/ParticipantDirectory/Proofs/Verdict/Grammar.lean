import ParticipantDirectory.Verdict.Decode

/-!
# Grammars of documents

A grammar says which values are right, and what is wrong with every other value, place by place. A reader *obeys* a
grammar (`Grammar.Obeys`) if it accepts exactly the right values, and of every other value reports exactly what is
wrong, each place once and in order: fields in the order in which they are declared, items in the order of their
indices, and what is wrong with a part where the part stands.

Readers are made of parts, and so are grammars: `obeys_list`, `obeys_nonemptyList`, `obeys_nullable` and `obeys_object`
say that a composite reader obeys the composite grammar. What they have in common is said of verdicts
(`Verdict.Accounts`): the verdict on two parts accounts for both, if what is wrong with the first comes before what is
wrong with the second (`Accounts.seq`).
-/

namespace ParticipantDirectory

/-- What is wrong with a part, as something that is wrong with the whole. -/
def Violation.within (step : PathStep) (w : Violation) : Violation :=
  ⟨step :: w.path, w.kind⟩

/-- One step from a value comes before another: `names` are the fields in the order of their declaration. -/
inductive PathStep.Before (names : List String) : PathStep → PathStep → Prop
  | field {a b : String} (h : [a, b].Sublist names) : Before names (.field a) (.field b)
  | item {i j : Nat} (h : i < j) : Before names (.item i) (.item j)

/-- The place of one violation comes before that of another: the first step in which the two differ decides. -/
def Violation.Before (names : List String) (w w' : Violation) : Prop :=
  List.Lex (PathStep.Before names) w.path w'.path

theorem Violation.Before.within {names : List String} {w w' : Violation} (h : w.Before names w') (step : PathStep) :
    (w.within step).Before names (w'.within step) :=
  .cons h

theorem Violation.before_of_steps {names : List String} {step step' : PathStep} (h : step.Before names step')
    (w w' : Violation) : (w.within step).Before names (w'.within step') :=
  .rel h

theorem PathStep.not_before_self {names : List String} (h : names.Nodup) (step : PathStep) : ¬step.Before names step := by
  intro hb
  cases hb with
  | field hs => simpa using h.sublist hs
  | item hlt => exact Nat.lt_irrefl _ hlt

/-- Places of which one comes before the other are different, if no field is declared twice. -/
theorem Violation.Before.path_ne {names : List String} (h : names.Nodup) {w w' : Violation} (hb : w.Before names w') :
    w.path ≠ w'.path := by
  have hlex : ∀ path : List PathStep, ¬List.Lex (PathStep.Before names) path path := by
    intro path
    induction path with
    | nil => exact fun hl => by cases hl
    | cons step rest ih =>
      intro hl
      cases hl with
      | rel hs => exact PathStep.not_before_self h step hs
      | cons hl => exact ih hl
  intro he
  rw [Violation.Before, he] at hb
  exact hlex _ hb

namespace Verdict

variable {α β : Type}

/-! ## What verdicts account for -/

/-- The verdict accepts if the value is `right`, and lists what is `wrong` with it otherwise: all of it and nothing
else, in order. -/
structure Accounts (names : List String) (x : Verdict α) (right : Prop) (wrong : Violation → Prop) : Prop where
  accepts : (∃ a, x = .accepted a) ↔ right
  sorted : x.violations.Pairwise (Violation.Before names)
  lists : ∀ w, w ∈ x.violations ↔ wrong w
  refuses : x.violations = [] → ∃ a, x = .accepted a

theorem violations_map (f : α → β) (x : Verdict α) : (f <$> x).violations = x.violations := by
  cases x <;> rfl

theorem violations_seq (f : Verdict (α → β)) (x : Verdict α) :
    (f <*> x).violations = f.violations ++ x.violations := by
  cases f with
  | accepted g => cases x <;> rfl
  | refused vs =>
    cases x with
    | accepted a => exact (List.append_nil vs).symm
    | refused ws => rfl

theorem violations_under (step : PathStep) (x : Verdict α) :
    (x.under step).violations = x.violations.map (Violation.within step) := by
  cases x <;> rfl

theorem map_accepts_iff (f : α → β) (x : Verdict α) : (∃ b, f <$> x = .accepted b) ↔ ∃ a, x = .accepted a := by
  cases x with
  | accepted a => exact ⟨fun _ => ⟨a, rfl⟩, fun _ => ⟨f a, rfl⟩⟩
  | refused vs => constructor <;> rintro ⟨_, h⟩ <;> cases h

theorem seq_accepts_iff (f : Verdict (α → β)) (x : Verdict α) :
    (∃ b, f <*> x = .accepted b) ↔ (∃ g, f = .accepted g) ∧ ∃ a, x = .accepted a := by
  constructor
  · rintro ⟨b, h⟩
    cases f with
    | accepted g =>
      cases x with
      | accepted a => exact ⟨⟨g, rfl⟩, a, rfl⟩
      | refused vs => cases h
    | refused vs => cases x <;> cases h
  · rintro ⟨⟨g, rfl⟩, a, rfl⟩
    exact ⟨g a, rfl⟩

theorem under_accepts_iff (step : PathStep) (x : Verdict α) :
    (∃ a, x.under step = .accepted a) ↔ ∃ a, x = .accepted a := by
  cases x with
  | accepted a => exact Iff.rfl
  | refused vs => constructor <;> rintro ⟨_, h⟩ <;> cases h

section accounts

variable {names : List String} {right right' : Prop} {wrong wrong' : Violation → Prop} {x : Verdict α}

theorem Accounts.congr (h : x.Accounts names right wrong) (hr : right' ↔ right) (hw : ∀ w, wrong' w ↔ wrong w) :
    x.Accounts names right' wrong' :=
  ⟨h.accepts.trans hr.symm, h.sorted, fun w => (h.lists w).trans (hw w).symm, h.refuses⟩

/-- What is listed is all at different places. -/
theorem Accounts.distinct (h : x.Accounts names right wrong) (hn : names.Nodup) :
    (x.violations.map (·.path)).Nodup := by
  rw [List.Nodup, List.pairwise_map]
  exact h.sorted.imp fun hb => hb.path_ne hn

/-- Nothing is wrong with what is right, and something with everything else. -/
theorem Accounts.right_iff (h : x.Accounts names right wrong) : right ↔ ∀ w, ¬wrong w := by
  rw [← h.accepts]
  constructor
  · rintro ⟨a, rfl⟩ w hw
    cases (h.lists w).2 hw
  · exact fun hw => h.refuses (List.eq_nil_iff_forall_not_mem.2 fun w hm => hw w ((h.lists w).1 hm))

/-- Nothing is wrong with a value that is accepted. -/
theorem accounts_accepted {a : α} (hr : right) (hw : ∀ w, ¬wrong w) :
    (accepted a : Verdict α).Accounts names right wrong :=
  ⟨⟨fun _ => hr, fun _ => ⟨a, rfl⟩⟩, .nil, fun w => iff_of_false (by simp [violations]) (hw w), fun _ => ⟨a, rfl⟩⟩

/-- One thing is wrong with a value that is refused for it. -/
theorem accounts_refused {v : Violation} (hr : ¬right) (hw : ∀ w, wrong w ↔ w = v) :
    (refused [v] : Verdict α).Accounts names right wrong := by
  refine ⟨⟨?_, fun h => absurd h hr⟩, List.pairwise_singleton _ _, fun w => ?_, fun h => ?_⟩
  · rintro ⟨_, h⟩
    cases h
  · rw [hw]
    exact List.mem_singleton
  · cases h

theorem Accounts.map (f : α → β) (h : x.Accounts names right wrong) : (f <$> x).Accounts names right wrong := by
  refine ⟨(map_accepts_iff f x).trans h.accepts, ?_, ?_, ?_⟩
  all_goals rw [violations_map]
  · exact h.sorted
  · exact h.lists
  · exact fun he => (map_accepts_iff f x).2 (h.refuses he)

/-- The verdict on two parts accounts for both. -/
theorem Accounts.seq {f : Verdict (α → β)} (hf : f.Accounts names right wrong) (hx : x.Accounts names right' wrong')
    (hb : ∀ w w', wrong w → wrong' w' → w.Before names w') :
    (f <*> x).Accounts names (right ∧ right') fun w => wrong w ∨ wrong' w := by
  refine ⟨(seq_accepts_iff f x).trans (and_congr hf.accepts hx.accepts), ?_, ?_, ?_⟩
  all_goals rw [violations_seq]
  · rw [List.pairwise_append]
    exact ⟨hf.sorted, hx.sorted, fun w hw w' hw' => hb w w' ((hf.lists w).1 hw) ((hx.lists w').1 hw')⟩
  · intro w
    rw [List.mem_append, hf.lists, hx.lists]
  · intro he
    obtain ⟨hfe, hxe⟩ := List.append_eq_nil_iff.1 he
    exact (seq_accepts_iff f x).2 ⟨hf.refuses hfe, hx.refuses hxe⟩

/-- The verdict on a part accounts for it where it stands. -/
theorem Accounts.under (step : PathStep) (h : x.Accounts names right wrong) :
    (x.under step).Accounts names right fun w => ∃ w', wrong w' ∧ w = w'.within step := by
  refine ⟨(under_accepts_iff step x).trans h.accepts, ?_, ?_, ?_⟩
  all_goals rw [violations_under]
  · rw [List.pairwise_map]
    exact h.sorted.imp fun hb => hb.within step
  · intro w
    rw [List.mem_map]
    exact exists_congr fun w' => and_congr (h.lists w') eq_comm
  · intro he
    exact (under_accepts_iff step x).2 (h.refuses (List.map_eq_nil_iff.1 he))

end accounts

end Verdict

/-! ## Grammars -/

/-- Which values are right, and what is wrong with the others. -/
structure Grammar where
  right : Json → Prop
  wrong : Json → Violation → Prop

namespace Grammar

/-- A field of an object. One that is not required may be absent. -/
structure Field where
  name : String
  needed : Bool
  grammar : Grammar

namespace Field

/-- The members of an object are right as far as the field is concerned. -/
def Right (f : Field) (members : List (String × Json)) : Prop :=
  match Json.findMember? f.name members with
  | some v => f.grammar.right v
  | none => f.needed = false

/-- What is wrong with the members of an object as far as the field is concerned. -/
inductive Wrong (f : Field) (members : List (String × Json)) : Violation → Prop
  | missing (h : Json.findMember? f.name members = none) (hn : f.needed = true) :
    Wrong f members ⟨[.field f.name], .missing⟩
  | value {v : Json} {w : Violation} (h : Json.findMember? f.name members = some v) (hw : f.grammar.wrong v w) :
    Wrong f members (w.within (.field f.name))

/-- Whatever is wrong with a field stands within it. -/
theorem Wrong.exists_within {f : Field} {members : List (String × Json)} {w : Violation} (h : f.Wrong members w) :
    ∃ w' : Violation, w = w'.within (.field f.name) := by
  cases h with
  | missing => exact ⟨⟨[], .missing⟩, rfl⟩
  | value _ _ => exact ⟨_, rfl⟩

end Field

/-- A value that is to be seen as a whole, in which one thing at most can be wrong. -/
def plain (right : Json → Prop) (wrong : Json → ViolationKind → Prop) : Grammar where
  right := right
  wrong v w := w.path = [] ∧ wrong v w.kind

/-- A value that may be null. -/
def nullable (g : Grammar) : Grammar where
  right v := v = .null ∨ g.right v
  wrong v w := v ≠ .null ∧ g.wrong v w

/-- What is wrong with a list: that it is none, or something within one of its items. -/
inductive WrongList (g : Grammar) : Json → Violation → Prop
  | kind {v : Json} (h : ∀ vs, v ≠ .arr vs) : WrongList g v ⟨[], .notList⟩
  | item {vs : List Json} {i : Nat} {v : Json} {w : Violation} (h : vs[i]? = some v) (hw : g.wrong v w) :
    WrongList g (.arr vs) (w.within (.item i))

/-- A list of values of a grammar. -/
def listOf (g : Grammar) : Grammar where
  right v := ∃ vs, v = .arr vs ∧ ∀ u ∈ vs, g.right u
  wrong := WrongList g

/-- A list of values of a grammar that must not be empty. -/
def nonemptyListOf (g : Grammar) : Grammar where
  right v := ∃ vs, v = .arr vs ∧ vs ≠ [] ∧ ∀ u ∈ vs, g.right u
  wrong v w := v = .arr [] ∧ w = ⟨[], .listTooShort 1 0⟩ ∨ WrongList g v w

/-- What is wrong with an object: that it is none, or something about one of its fields. -/
inductive WrongObject (model : String) (fields : List Field) : Json → Violation → Prop
  | kind {v : Json} (h : ∀ members, v ≠ .obj members) : WrongObject model fields v ⟨[], .notObject model⟩
  | field {members : List (String × Json)} {f : Field} {w : Violation} (hf : f ∈ fields) (hw : f.Wrong members w) :
    WrongObject model fields (.obj members) w

/-- An object that describes a value of the named model. What else the object has does not matter. -/
def object (model : String) (fields : List Field) : Grammar where
  right v := ∃ members, v = .obj members ∧ ∀ f ∈ fields, f.Right members
  wrong := WrongObject model fields

/-- The reader accepts exactly the right values, and of every other reports exactly what is wrong, each place once and
in order. -/
def Obeys {α : Type} (names : List String) (read : Json → Verdict α) (g : Grammar) : Prop :=
  ∀ v, (read v).Accounts names (g.right v) (g.wrong v)

open Verdict

variable {α : Type} {names : List String} {read : Json → Verdict α} {g : Grammar}

/-! ## Values and lists -/

section plain

variable {right : Json → Prop} {wrong : Json → ViolationKind → Prop} {v : Json}

theorem accounts_plain_accepted {a : α} (hr : right v) (hw : ∀ k, ¬wrong v k) :
    (accepted a : Verdict α).Accounts names ((plain right wrong).right v) ((plain right wrong).wrong v) :=
  accounts_accepted hr fun w h => hw w.kind h.2

theorem accounts_plain_refused {k : ViolationKind} (hr : ¬right v) (hw : ∀ k', wrong v k' ↔ k' = k) :
    (refuse k : Verdict α).Accounts names ((plain right wrong).right v) ((plain right wrong).wrong v) := by
  refine accounts_refused hr fun ⟨path, k'⟩ => ?_
  show path = [] ∧ wrong v k' ↔ _
  rw [hw, Violation.mk.injEq]

end plain

/-- Verdicts on the items of a list account for all of them. -/
theorem accounts_itemsFrom (h : g.Obeys names read) (i : Nat) (vs : List Json) :
    (itemsFrom read i vs).Accounts names (∀ v ∈ vs, g.right v)
      fun w => ∃ (j : Nat) (v : Json) (w' : Violation),
        vs[j]? = some v ∧ g.wrong v w' ∧ w = w'.within (.item (i + j)) := by
  -- The items behind the first are read from the next index on, so the induction is over every first index.
  induction vs generalizing i with
  | nil => exact accounts_accepted (List.forall_mem_nil _) fun w ⟨j, v, w', hj, _⟩ => by cases hj
  | cons v rest ih =>
    refine ((((h v).under (.item i)).map List.cons).seq (ih (i + 1)) ?_).congr List.forall_mem_cons fun w => ?_
    · rintro _ _ ⟨w, -, rfl⟩ ⟨j, -, w', -, -, rfl⟩
      exact Violation.before_of_steps (.item (by omega)) w w'
    · constructor
      · rintro ⟨_ | j, u, w', hj, hw', rfl⟩
        · cases hj
          exact .inl ⟨w', hw', rfl⟩
        · exact .inr ⟨j, u, w', hj, hw', by rw [Nat.add_right_comm, Nat.add_assoc]⟩
      · rintro (⟨w', hw', rfl⟩ | ⟨j, u, w', hj, hw', rfl⟩)
        · exact ⟨0, v, w', rfl, hw', rfl⟩
        · exact ⟨j + 1, u, w', hj, hw', by rw [Nat.add_right_comm, Nat.add_assoc]⟩

theorem accounts_items (h : g.Obeys names read) (vs : List Json) :
    (items read vs).Accounts names ((listOf g).right (.arr vs)) ((listOf g).wrong (.arr vs)) := by
  refine (accounts_itemsFrom h 0 vs).congr ⟨?_, fun hr => ⟨vs, rfl, hr⟩⟩ fun w => ⟨?_, ?_⟩
  · rintro ⟨_, ⟨⟩, hr⟩
    exact hr
  · rintro (⟨hk⟩ | ⟨hj, hw⟩)
    · exact absurd rfl (hk vs)
    · exact ⟨_, _, _, hj, hw, by rw [Nat.zero_add]⟩
  · rintro ⟨j, v, w', hj, hw, rfl⟩
    rw [Nat.zero_add]
    exact .item hj hw

/-- What is no list is refused as that. -/
theorem accounts_notList {v : Json} (hv : ∀ vs, v ≠ .arr vs) :
    (refuse .notList : Verdict α).Accounts names ((listOf g).right v) ((listOf g).wrong v) := by
  refine accounts_refused (fun ⟨vs, he, _⟩ => hv vs he) fun w => ⟨?_, ?_⟩
  · rintro (⟨-⟩ | ⟨-, -⟩)
    · rfl
    · exact absurd rfl (hv _)
  · rintro rfl
    exact .kind hv

theorem obeys_list (h : g.Obeys names read) : (listOf g).Obeys names (list read) := by
  intro v
  cases v with
  | arr vs => exact accounts_items h vs
  | null | bool b | int n | real x | str s | broken b | obj ms => exact accounts_notList fun _ he => by cases he

theorem obeys_nonemptyList (h : g.Obeys names read) : (nonemptyListOf g).Obeys names (nonemptyList read) := by
  intro v
  by_cases hv : v = .arr []
  · subst hv
    refine accounts_refused ?_ fun w => ⟨?_, fun hw => .inl ⟨rfl, hw⟩⟩
    · rintro ⟨_, ⟨⟩, hne, -⟩
      exact hne rfl
    · rintro (⟨-, hw⟩ | hw)
      · exact hw
      · cases hw with
        | kind hk => exact absurd rfl (hk [])
        | item hi _ => cases hi
  · -- A value that is not the empty list is read as a list is.
    have hread : nonemptyList read v = list read v := by
      rw [nonemptyList]
      exact fun he => hv he
    rw [hread]
    refine (obeys_list h v).congr ⟨?_, ?_⟩ fun w => ⟨?_, .inr⟩
    · rintro ⟨vs, he, -, hr⟩
      exact ⟨vs, he, hr⟩
    · rintro ⟨vs, rfl, hr⟩
      exact ⟨vs, rfl, fun he => hv (by rw [he]), hr⟩
    · rintro (⟨he, -⟩ | hw)
      · exact absurd he hv
      · exact hw

/-! ## Objects -/

/-- What is wrong with one field comes before what is wrong with a field that is declared later. -/
theorem Field.Wrong.before {f f' : Field} {members : List (String × Json)} {w w' : Violation}
    (hw : f.Wrong members w) (hw' : f'.Wrong members w') (h : [f.name, f'.name].Sublist names) :
    w.Before names w' := by
  obtain ⟨u, rfl⟩ := hw.exists_within
  obtain ⟨u', rfl⟩ := hw'.exists_within
  exact Violation.before_of_steps (.field h) u u'

/-- The verdict on a member accounts for its field. -/
def AccountsField (names : List String) (read : List (String × Json) → Verdict α) (f : Field) : Prop :=
  ∀ members, (read members).Accounts names (f.Right members) (f.Wrong members)

/-- The verdict on the members of an object accounts for the fields. -/
def AccountsFields (names : List String) (read : List (String × Json) → Verdict α) (fields : List Field) : Prop :=
  ∀ members, (read members).Accounts names (∀ f ∈ fields, f.Right members)
    fun w => ∃ f ∈ fields, f.Wrong members w

theorem accounts_field_value {x : Verdict α} {name : String} {members : List (String × Json)} {v : Json}
    (needed : Bool) (h : x.Accounts names (g.right v) (g.wrong v)) (hf : Json.findMember? name members = some v) :
    (x.under (.field name)).Accounts names (Field.Right ⟨name, needed, g⟩ members)
      (Field.Wrong ⟨name, needed, g⟩ members) := by
  refine (h.under (.field name)).congr ?_ fun w => ⟨?_, ?_⟩
  · simp only [Field.Right, hf]
  · rintro (⟨hnone, -⟩ | ⟨hsome, hw⟩)
    · cases hf.symm.trans hnone
    · cases hf.symm.trans hsome
      exact ⟨_, hw, rfl⟩
  · rintro ⟨w', hw, rfl⟩
    exact .value hf hw

theorem accounts_required (h : g.Obeys names read) (name : String) :
    AccountsField names (required name read) ⟨name, true, g⟩ := by
  intro members
  rw [Verdict.required]
  cases hf : Json.findMember? name members with
  | some v => exact accounts_field_value true (h v) hf
  | none =>
    refine accounts_refused ?_ fun w => ⟨?_, ?_⟩
    · simp [Field.Right, hf]
    · rintro (⟨-, -⟩ | ⟨hsome, -⟩)
      · rfl
      · cases hf.symm.trans hsome
    · rintro rfl
      exact .missing hf rfl

theorem accounts_optional (h : g.Obeys names read) (name : String) (default : α) :
    AccountsField names (optional name default read) ⟨name, false, g⟩ := by
  intro members
  rw [Verdict.optional]
  cases hf : Json.findMember? name members with
  | some v => exact accounts_field_value false (h v) hf
  | none =>
    refine accounts_accepted ?_ ?_
    · simp [Field.Right, hf]
    · rintro w (⟨-, ⟨⟩⟩ | ⟨hsome, -⟩)
      cases hf.symm.trans hsome

section fields

variable {β : Type} {members : List (String × Json)} {fields : List Field} {f : Field} {x : Verdict α}

/-- The first field of an object. -/
theorem accounts_first (h : x.Accounts names (f.Right members) (f.Wrong members)) (make : α → β) :
    (make <$> x).Accounts names (∀ f' ∈ [f], f'.Right members) fun w => ∃ f' ∈ [f], f'.Wrong members w :=
  (h.map make).congr List.forall_mem_singleton fun _ => by simp only [List.mem_singleton, exists_eq_left]

/-- A further field, which is declared after those before. -/
theorem accounts_next {y : Verdict (α → β)}
    (h : y.Accounts names (∀ f' ∈ fields, f'.Right members) fun w => ∃ f' ∈ fields, f'.Wrong members w)
    (h' : x.Accounts names (f.Right members) (f.Wrong members))
    (hlast : ∀ f' ∈ fields, [f'.name, f.name].Sublist names) :
    (y <*> x).Accounts names (∀ f' ∈ fields ++ [f], f'.Right members)
      fun w => ∃ f' ∈ fields ++ [f], f'.Wrong members w := by
  refine (h.seq h' ?_).congr ?_ fun w => ?_
  · rintro w w' ⟨f', hf', hw⟩ hw'
    exact hw.before hw' (hlast f' hf')
  · rw [List.forall_mem_append, List.forall_mem_singleton]
  · simp only [List.mem_append, List.mem_singleton, or_and_right, exists_or, exists_eq_left]

/-- The verdict on all fields is one on the object. -/
theorem accounts_object (h : x.Accounts names (∀ f ∈ fields, f.Right members) fun w => ∃ f ∈ fields, f.Wrong members w)
    (model : String) :
    x.Accounts names ((object model fields).right (.obj members)) ((object model fields).wrong (.obj members)) := by
  refine h.congr ⟨?_, fun hr => ⟨members, rfl, hr⟩⟩ fun w => ⟨?_, fun ⟨f, hf, hw⟩ => .field hf hw⟩
  · rintro ⟨_, ⟨⟩, hr⟩
    exact hr
  · rintro (⟨hk⟩ | ⟨hf, hw⟩)
    · exact absurd rfl (hk members)
    · exact ⟨_, hf, hw⟩

end fields

theorem AccountsField.first {β : Type} {read : List (String × Json) → Verdict α} {f : Field}
    (h : AccountsField names read f) (make : α → β) : AccountsFields names (fun ms => make <$> read ms) [f] :=
  fun members => accounts_first (h members) make

theorem AccountsFields.next {β : Type} {read : List (String × Json) → Verdict (α → β)}
    {read' : List (String × Json) → Verdict α} {fields : List Field} {f : Field}
    (h : AccountsFields names read fields) (h' : AccountsField names read' f)
    (hlast : ∀ f' ∈ fields, [f'.name, f.name].Sublist names) :
    AccountsFields names (fun ms => read ms <*> read' ms) (fields ++ [f]) :=
  fun members => accounts_next (h members) (h' members) hlast

theorem obeys_object {read : List (String × Json) → Verdict α} {fields : List Field}
    (h : AccountsFields names read fields) (model : String) :
    (object model fields).Obeys names (Verdict.object model read) := by
  intro v
  cases v with
  | obj members => exact accounts_object (h members) model
  | null | bool b | int n | real x | str s | broken b | arr vs =>
    refine accounts_refused (fun ⟨_, he, _⟩ => by cases he) fun w => ⟨?_, ?_⟩
    · rintro (⟨-⟩ | ⟨-, -⟩)
      rfl
    · rintro rfl
      exact .kind fun _ he => by cases he

end Grammar

end ParticipantDirectory
