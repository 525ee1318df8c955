import ParticipantDirectory.Proofs.Service.Incidents
import ParticipantDirectory.Proofs.Service.Presentable

/-!
# Counters after a run

The tally after a run is the one before with the marks of the calls that were served (`tally_through`). No card is found
that cannot be presented (`regular_through`), so every call ends as a success, as a failure that is an answer, or
without an answer, and the counters say how many did (`counters_after`).
-/

namespace ParticipantDirectory

open Action

namespace Served

/-- What is counted for a served call. -/
def marks (s : Served) : List Mark :=
  s.call.marks s.answer

/-- The answer is a failure. -/
def failed (s : Served) : Bool :=
  match s.answer with
  | .ok (.outcome .failure) => true
  | _ => false

/-- There is no answer. -/
def raised (s : Served) : Bool :=
  match s.answer with
  | .error _ => true
  | .ok _ => false

end Served

/-! ## The tally is what was served -/

theorem silent_ensureBootstrapUser (rounds : Nat) (name password : Option Text.Loose) :
    (Directory.ensureBootstrapUser rounds name password).Silent := by
  unfold Directory.ensureBootstrapUser
  dsimp only
  split
  · exact silent_pure _
  · refine (silent_session _).bind fun found => ?_
    split
    · exact silent_pure _
    · exact (Users.silent_create _ _ _).bind fun _ => silent_note _

theorem tally_occur (w : World Database) (i : Incident) :
    (i.occur w).2.tally = w.tally.tick ((i.occur w).1.flatMap Served.marks) := by
  cases i with
  | call d uri c =>
    show ((c.perform (d.collaborators uri)).runOn w).2.tally =
      w.tally.tick ([⟨c, ((c.perform (d.collaborators uri)).runOn w).1⟩].flatMap Served.marks)
    rw [d.counts_perform uri c w, List.flatMap_singleton]
    rfl
  | user rounds name password => exact Users.silent_create rounds name password w
  | bootstrap rounds name password => exact silent_ensureBootstrapUser rounds name password w
  | loss l | schema => rfl

/-- By induction over what happens. -/
theorem tally_through (w : World Database) (incidents : List Incident) :
    (w.through incidents).2.tally = w.tally.tick ((w.through incidents).1.flatMap Served.marks) := by
  refine World.through_invariant (P := fun done w' => w'.tally = w.tally.tick (done.flatMap Served.marks)) incidents
    [] rfl fun i _ done w' h => ?_
  rw [tally_occur, h, List.flatMap_append, Tally.tick_append]

/-! ## Every call ends in one of three ways -/

/-- A call that reads a card does not end with violations, and only one that stores a card has a failure as its
answer. -/
structure Served.Regular (s : Served) : Prop where
  presented : ∀ id vs, s.call = .getCard id → s.answer ≠ .error (.invalid vs)
  failing : s.failed = true → s.call.kind = .card .create

theorem Directory.regular_effect {d : Directory} {uri : Option String} {n : Nat} {db : Database} (hi : db.Presentable)
    (call : Call) : Served.Regular ⟨call, (d.effect uri n db call).map Prod.fst⟩ where
  presented := by
    rintro id vs rfl
    exact no_violation_getCard hi id vs
  failing := by
    intro h
    cases call with
    | createCard => rfl
    | getGroup | createGroup | deleteGroup | getCard | deleteCard =>
      cases he : d.effect uri n db _ with
      | error e => rw [he] at h; cases h
      | ok q =>
        obtain ⟨x, -, rfl⟩ := ok_of_map he
        rw [he] at h
        cases h

theorem preserves_create_presentable (rounds : Nat) (name password : Text.Loose) :
    (Users.create rounds name password).Preserves fun w => w.state.Presentable := by
  intro w hw
  obtain ⟨w', e, a⟩ := Users.runOn_created rounds name password w
  rw [e]
  dsimp only
  rw [a.state]
  cases hc : Users.created rounds name password w with
  | error f => exact hw
  | ok q =>
    obtain ⟨_, _, -, -, ho, -⟩ := Users.created_ok hc
    exact (Users.keeps_insertRow _).outcome hw ho

/-- Whatever happens, cards can be presented afterwards, and the call that was served ended in one of three ways. -/
theorem presentable_occur {w : World Database} {i : Incident} (ha : i.Accepted) (hi : w.state.Presentable) :
    (i.occur w).2.state.Presentable ∧ ∀ s ∈ (i.occur w).1, s.Regular := by
  cases i with
  | call d uri c =>
    obtain ⟨w', e, hs, -⟩ := d.runOn_perform uri c w
    show ((c.perform (d.collaborators uri)).runOn w).2.state.Presentable ∧
      ∀ s ∈ [(⟨c, ((c.perform (d.collaborators uri)).runOn w).1⟩ : Served)], s.Regular
    rw [e]
    refine ⟨?_, fun s hm => List.mem_singleton.1 hm ▸ d.regular_effect hi c⟩
    dsimp only
    rw [hs]
    cases hr : d.effect uri w.issued w.state c with
    | error e => exact hi
    | ok q => exact d.presentable_effect hi ha hr
  | user rounds name password =>
    exact ⟨preserves_create_presentable rounds name password w hi, fun _ hs => by cases hs⟩
  | bootstrap rounds name password =>
    exact ⟨Directory.preserves_ensureBootstrapUser (fun _ _ h a => a.state ▸ h) (preserves_create_presentable rounds)
      name password w hi, fun _ hs => by cases hs⟩
  | loss l =>
    refine ⟨?_, fun _ hs => by cases hs⟩
    cases l with
    | users => exact ⟨hi.groups, hi.cards, hi.entities⟩
    | entities => exact ⟨hi.groups, hi.cards, fun _ hr => by cases hr⟩
    | cards => exact ⟨hi.groups, (fun _ hc => by cases hc), fun _ hr => by cases hr⟩
    | all => exact ⟨(fun _ hg => by cases hg), (fun _ hc => by cases hc), fun _ hr => by cases hr⟩
  | schema => exact ⟨⟨hi.groups, hi.cards, hi.entities⟩, fun _ hs => by cases hs⟩

/-- By induction over what happens. -/
theorem regular_through {w : World Database} (hi : w.state.Presentable) {incidents : List Incident}
    (ha : ∀ i ∈ incidents, i.Accepted) : ∀ s ∈ (w.through incidents).1, s.Regular := by
  have h := World.through_invariant (P := fun done w => w.state.Presentable ∧ ∀ s ∈ done, s.Regular) incidents
    [] ⟨hi, fun _ hs => by cases hs⟩ fun i hm done w ⟨hi, hr⟩ => by
      obtain ⟨hi', hr'⟩ := presentable_occur (ha i hm) hi
      exact ⟨hi', fun s hs => (List.mem_append.1 hs).elim (hr s) (hr' s)⟩
  exact h.2

/-! ## Marks of different operations -/

theorem GroupOperation.name_injective {k k' : GroupOperation} (h : k.name = k'.name) : k = k' := by
  cases k <;> cases k' <;> first | rfl | exact absurd h (by decide)

theorem CardOperation.name_injective {k k' : CardOperation} (h : k.name = k'.name) : k = k' := by
  cases k <;> cases k' <;> first | rfl | exact absurd h (by decide)

namespace Operation

theorem callMark_injective {k k' : Operation} (h : k.callMark = k'.callMark) : k = k' := by
  rcases k with k | k <;> rcases k' with k' | k'
  · exact congrArg group (GroupOperation.name_injective (Prod.mk.inj h).2)
  · exact absurd (Prod.mk.inj h).1 (by decide)
  · exact absurd (Prod.mk.inj h).1 (by decide)
  · exact congrArg card (CardOperation.name_injective (Prod.mk.inj h).2)

theorem successMark_injective {k k' : Operation} (h : k.successMark = k'.successMark) : k = k' := by
  rcases k with k | k <;> rcases k' with k' | k'
  · exact congrArg group (GroupOperation.name_injective (Prod.mk.inj h).2)
  · exact absurd (Prod.mk.inj h).1 (by decide)
  · exact absurd (Prod.mk.inj h).1 (by decide)
  · exact congrArg card (CardOperation.name_injective (Prod.mk.inj h).2)

theorem callMark_ne_successMark (k k' : Operation) : k.callMark ≠ k'.successMark := by
  intro h
  rcases k with k | k <;> rcases k' with k' | k' <;> exact absurd (Prod.mk.inj h).1 (by decide)

/-- Only the errors of operations on cards are counted, in a counter of their own. -/
theorem of_mem_errorMarks {k : Operation} {m : Mark} (h : m ∈ k.errorMarks) : m.1 = CardService.errorCounter := by
  cases k with
  | group k => cases h
  | card k => exact congrArg Prod.fst (List.mem_singleton.1 h)

theorem callMark_not_mem_errorMarks (k k' : Operation) : k.callMark ∉ k'.errorMarks := by
  intro h
  have hc := of_mem_errorMarks h
  cases k with
  | group k => exact absurd hc (show GroupService.callCounter ≠ CardService.errorCounter by decide)
  | card k => exact absurd hc (show CardService.callCounter ≠ CardService.errorCounter by decide)

theorem successMark_not_mem_errorMarks (k k' : Operation) : k.successMark ∉ k'.errorMarks := by
  intro h
  have hc := of_mem_errorMarks h
  cases k with
  | group k => exact absurd hc (show GroupService.successCounter ≠ CardService.errorCounter by decide)
  | card k => exact absurd hc (show CardService.successCounter ≠ CardService.errorCounter by decide)

end Operation

/-! ## What the counters say -/

namespace Served

variable {s : Served}

/-- An operation is called. -/
def calls (k : Operation) (s : Served) : Bool :=
  s.call.kind = k

theorem count_singleton_mark {κ : Type} [DecidableEq κ] {f : κ → Mark} (hf : ∀ {k k'}, f k = f k' → k = k') (k k' : κ) :
    [f k'].count (f k) = (decide (k' = k)).toNat := by
  rw [List.count_singleton]
  by_cases h : k' = k
  · rw [h, if_pos (beq_self_eq_true _), decide_eq_true rfl]
    rfl
  · rw [if_neg fun he => h (hf (eq_of_beq he)), decide_eq_false h]
    rfl

/-- A call is counted once as a call. -/
theorem count_callMark (k : Operation) (s : Served) : s.marks.count k.callMark = (s.calls k).toNat := by
  have hend : (s.call.endMarks s.answer).count k.callMark = 0 := by
    refine List.count_eq_zero.2 fun hm => ?_
    have hm := s.call.endMarks_subset s.answer hm
    rcases List.mem_cons.1 hm with hm | hm
    · exact k.callMark_ne_successMark _ hm
    · exact k.callMark_not_mem_errorMarks _ hm
  rw [marks, Call.marks, ← List.singleton_append, List.count_append, hend, Nat.add_zero]
  exact count_singleton_mark Operation.callMark_injective k _

theorem count_of_end {m : Mark} (h : ∀ k : Operation, k.callMark ≠ m) :
    s.marks.count m = (s.call.endMarks s.answer).count m := by
  rw [marks, Call.marks, List.count_cons, if_neg fun he => h _ (eq_of_beq he), Nat.add_zero]

/-- A call is counted once as a success if it ended as one. -/
theorem count_successMark (hs : s.Regular) (k : Operation) :
    s.marks.count k.successMark = (s.succeeded && s.calls k).toNat := by
  rw [count_of_end fun k' => k'.callMark_ne_successMark k]
  obtain ⟨call, answer⟩ := s
  have herror : call.kind.errorMarks.count k.successMark = 0 :=
    List.count_eq_zero.2 (k.successMark_not_mem_errorMarks _)
  have hone := count_singleton_mark Operation.successMark_injective k call.kind
  rcases answer with (_ | vs | _) | (_ | _ | _ | _ | _)
  · rfl
  · exact congrArg (List.count k.successMark) (Call.endMarks_error (fun id hc => hs.presented id vs hc rfl) _)
  · rfl
  · exact hone
  · exact hone
  · exact hone
  · exact hone
  · exact herror

theorem endMarks_of_not_failed (hf : s.failed = false) : s.call.endMarks s.answer ⊆ [s.call.kind.successMark] := by
  obtain ⟨call, answer⟩ := s
  rcases answer with (_ | vs | _) | (_ | _ | _ | _ | _)
  · exact List.nil_subset _
  · show (if call.kind = .card .get then [call.kind.successMark] else []) ⊆ _
    split
    · exact List.Subset.refl _
    · exact List.nil_subset _
  · exact List.nil_subset _
  · exact List.Subset.refl _
  · exact List.Subset.refl _
  · exact List.Subset.refl _
  · exact List.Subset.refl _
  · cases hf

theorem endMarks_of_failed (hf : s.failed = true) : s.call.endMarks s.answer = s.call.kind.errorMarks := by
  obtain ⟨call, answer⟩ := s
  rcases answer with _ | (_ | _ | _ | _ | _)
  · cases hf
  · cases hf
  · cases hf
  · cases hf
  · cases hf
  · rfl

/-- A call is counted once as an error if it ended as one. -/
theorem count_errorMark (hs : s.Regular) (k : CardOperation) :
    s.marks.count (CardService.errorCounter, k.name) = (s.failed && s.calls (.card k)).toNat := by
  have hm : (CardService.errorCounter, k.name) ∈ (Operation.card k).errorMarks := List.mem_singleton_self _
  rw [count_of_end fun k' he => k'.callMark_not_mem_errorMarks _ (he ▸ hm)]
  cases hf : s.failed with
  | true =>
    have hc : s.calls (.card k) = decide (CardOperation.create = k) := by
      rw [calls, hs.failing hf]
      simp only [Operation.card.injEq]
    rw [endMarks_of_failed hf, hs.failing hf, hc]
    exact count_singleton_mark (f := fun k : CardOperation => (CardService.errorCounter, k.name))
      (fun h => CardOperation.name_injective (Prod.mk.inj h).2) k .create
  | false =>
    refine List.count_eq_zero.2 fun he => ?_
    rw [List.mem_singleton.1 (endMarks_of_not_failed hf he)] at hm
    exact Operation.successMark_not_mem_errorMarks _ _ hm

end Served

/-- What is counted once for each call of a kind has been counted as often as there were such calls. -/
theorem count_flatMap_marks {history : List Served} {m : Mark} {P : Served → Bool}
    (h : ∀ s ∈ history, s.marks.count m = (P s).toNat) : (history.flatMap Served.marks).count m = history.countP P := by
  induction history with
  | nil => rfl
  | cons s rest ih =>
    rw [List.flatMap_cons, List.count_append, h s (List.mem_cons_self ..),
      ih fun s hs => h s (List.mem_cons_of_mem _ hs), List.countP_cons]
    cases P s
    · exact Nat.zero_add _
    · exact Nat.add_comm _ _

/-- A call ends as a success, as a failure that is an answer, or without an answer. -/
theorem length_eq_outcomes (history : List Served) :
    history.length = history.countP Served.succeeded + history.countP Served.failed + history.countP Served.raised := by
  induction history with
  | nil => rfl
  | cons s rest ih =>
    have h : (if s.succeeded then 1 else 0) + (if s.failed then 1 else 0) + (if s.raised then 1 else 0) = 1 := by
      obtain ⟨call, answer⟩ := s
      rcases answer with _ | (_ | _ | _ | _ | _) <;> rfl
    rw [List.length_cons, List.countP_cons, List.countP_cons, List.countP_cons]
    omega

/-! ## Runs -/

section run

variable {w : World Database} {incidents : List Incident}

/-- From counters at zero, a count is the number of times that its mark is among those of the served calls. -/
theorem count_through (hz : ∀ name key, w.tally.count name key = 0) (m : Mark) :
    (w.through incidents).2.tally.count m.1 m.2 = ((w.through incidents).1.flatMap Served.marks).count m := by
  rw [tally_through, Tally.count_tick, hz, Int.zero_add]

/-- Calls are counted as they are made. -/
theorem callCount_through (hz : ∀ name key, w.tally.count name key = 0) (k : Operation) :
    (w.through incidents).2.tally.count k.callMark.1 k.callMark.2 =
      ((w.through incidents).1.filter (Served.calls k)).length := by
  rw [count_through hz, count_flatMap_marks fun s _ => s.count_callMark k, List.countP_eq_length_filter]

variable (hz : ∀ name key, w.tally.count name key = 0) (hr : ∀ s ∈ (w.through incidents).1, s.Regular)
include hz hr

/-- Successes are counted as calls succeed. -/
theorem successCount_through (k : Operation) :
    (w.through incidents).2.tally.count k.successMark.1 k.successMark.2 =
      ((w.through incidents).1.filter (Served.calls k)).countP Served.succeeded := by
  rw [count_through hz, count_flatMap_marks fun s hs => Served.count_successMark (hr s hs) k, List.countP_filter]

/-- Errors are counted as calls are answered with a failure. -/
theorem errorCount_through (k : CardOperation) :
    (w.through incidents).2.tally.count CardService.errorCounter k.name =
      ((w.through incidents).1.filter (Served.calls (.card k))).countP Served.failed := by
  have h : (w.through incidents).2.tally.count CardService.errorCounter k.name =
      ((w.through incidents).1.flatMap Served.marks).count (CardService.errorCounter, k.name) :=
    count_through hz (CardService.errorCounter, k.name)
  rw [h, count_flatMap_marks fun s hs => Served.count_errorMark (hr s hs) k, List.countP_filter]

omit hz in
/-- Only calls to store a card are answered with a failure. -/
theorem failures_through {k : Operation} (hk : k ≠ .card .create) :
    ((w.through incidents).1.filter (Served.calls k)).countP Served.failed = 0 := by
  refine List.countP_eq_zero.2 fun s hs hf => hk ?_
  obtain ⟨hs, hc⟩ := List.mem_filter.1 hs
  exact (of_decide_eq_true hc).symm.trans ((hr s hs).failing hf)

omit hz in
/-- A call of an operation on groups succeeds if it returns. -/
theorem successes_through (k : GroupOperation) :
    ((w.through incidents).1.filter (Served.calls (.group k))).countP Served.succeeded =
      ((w.through incidents).1.filter (Served.calls (.group k))).countP (!·.raised) := by
  refine List.countP_congr fun s hs => ?_
  obtain ⟨hs, hc⟩ := List.mem_filter.1 hs
  have hf : s.failed ≠ true := fun hf => by
    have hk := (of_decide_eq_true hc).symm.trans ((hr s hs).failing hf)
    cases hk
  obtain ⟨call, answer⟩ := s
  rcases answer with _ | (_ | _ | _ | _ | _)
  · exact Iff.rfl
  · exact Iff.rfl
  · exact Iff.rfl
  · exact Iff.rfl
  · exact Iff.rfl
  · exact absurd rfl hf

end run

/-- A call changes no count but those of its own operation. -/
theorem count_perform_of_not_mem (d : Directory) (uri : Option String) (call : Call) (w : World Database)
    {name key : String} (h : (name, key) ∉ call.kind.marks) :
    ((call.perform (d.collaborators uri)).runOn w).2.tally.count name key = w.tally.count name key := by
  rw [d.counts_perform uri call w, Tally.count_tick, List.count_eq_zero.2 fun hm => h (call.marks_subset _ hm)]
  exact Int.add_zero _

/-- Calls are made from counters at zero, of directories over a database whose groups are registered and that has no
cards; users may be created in between, and tables dropped and created. The cards that are to be stored are accepted
documents, whether or not they are stored. Whatever becomes of the calls, the counters of an operation on cards say how
often it was called, how often it succeeded and how often its answer was a failure, which happens to no operation but
storing; all other calls have ended without an answer. Those of an operation on groups say how often it was called and
how often it returned. A call changes no count but those of its own operation. -/
theorem counters_after (incidents : List Incident) (ha : ∀ i ∈ incidents, i.Accepted) (w : World Database)
    (hg : ∀ g ∈ w.state.groupRows, g.Registered) (hc : w.state.cardRows = []) (he : w.state.entityRows = [])
    (hz : ∀ name key, w.tally.count name key = 0) :
    let served := (w.through incidents).1
    let tally := (w.through incidents).2.tally
    (∀ k : CardOperation,
      let calls := served.filter (Served.calls (.card k))
      tally.count CardService.callCounter k.name = calls.length ∧
      tally.count CardService.successCounter k.name = calls.countP Served.succeeded ∧
      tally.count CardService.errorCounter k.name = calls.countP Served.failed ∧
      (k ≠ .create → tally.count CardService.errorCounter k.name = 0) ∧
      tally.count CardService.callCounter k.name = tally.count CardService.successCounter k.name +
        tally.count CardService.errorCounter k.name + calls.countP Served.raised) ∧
    (∀ k : GroupOperation,
      let calls := served.filter (Served.calls (.group k))
      tally.count GroupService.callCounter k.name = calls.length ∧
      tally.count GroupService.successCounter k.name = calls.countP (!·.raised)) ∧
    ∀ (d : Directory) (uri : Option String) (call : Call) (w : World Database) (name key : String),
      (name, key) ∉ call.kind.marks →
        ((call.perform (d.collaborators uri)).runOn w).2.tally.count name key = w.tally.count name key := by
  intro served tally
  have hi : w.state.Presentable :=
    ⟨hg, (fun c hm => by rw [hc] at hm; cases hm), fun r hm => by rw [he] at hm; cases hm⟩
  have hr := regular_through hi ha
  refine ⟨fun k => ?_, fun k => ?_, fun d uri call w name key h => count_perform_of_not_mem d uri call w h⟩
  · intro calls
    have hcalls : tally.count CardService.callCounter k.name = calls.length := callCount_through hz (.card k)
    have hsuccesses : tally.count CardService.successCounter k.name = calls.countP Served.succeeded :=
      successCount_through hz hr (.card k)
    have herrors : tally.count CardService.errorCounter k.name = calls.countP Served.failed :=
      errorCount_through hz hr k
    refine ⟨hcalls, hsuccesses, herrors, fun hk => ?_, ?_⟩
    · have hzero : calls.countP Served.failed = 0 := failures_through hr fun h => hk (Operation.card.inj h)
      rw [herrors, hzero]
      rfl
    · rw [hcalls, hsuccesses, herrors, length_eq_outcomes calls]
      push_cast
      rfl
  · intro calls
    have hsuccesses : tally.count GroupService.successCounter k.name = calls.countP Served.succeeded :=
      successCount_through hz hr (.group k)
    have hreturned : calls.countP Served.succeeded = calls.countP (!·.raised) := successes_through hr k
    exact ⟨callCount_through hz (.group k), by rw [hsuccesses, hreturned]⟩

/-- Without their table no card is read. -/
theorem Directory.getCard_lost {w : World Database} (hc : w.state.cards = none) (d : Directory) (uri : Option String)
    (id : String) : ∃ f w', ((Call.getCard id).perform (d.collaborators uri)).runOn w = (.error f, w') := by
  obtain ⟨w', e, -⟩ := d.runOn_perform uri (.getCard id) w
  rw [e]
  cases hr : d.effect uri w.issued w.state (.getCard id) with
  | error f => exact ⟨f, w', rfl⟩
  | ok q =>
    obtain ⟨payload, hpayload, -⟩ := ok_of_map hr
    obtain ⟨card, hread, -⟩ := ok_of_bind hpayload
    obtain ⟨p, -, hread⟩ := ok_of_bind (ok_of_mapError hread)
    obtain ⟨group, -, hread⟩ := ok_of_bind hread
    obtain ⟨⟨⟩, -, hread⟩ := ok_of_bind hread
    obtain ⟨found, hfound, -⟩ := ok_of_bind hread
    rw [Transaction.answer, Transaction.outcome, Cards.findCard, Transaction.run_bind, Cards.run_findRows, hc] at hfound
    cases hfound

/-- Anna registers a participant and stores its card, which is read once before the tables of cards are lost and once
afterwards. -/
theorem counters_after_lost_tables :
    let payload : CardPayload := ⟨⟨"a", "b"⟩, [⟨[⟨"Acme", none⟩], "DE", none, [], [], [], none, none⟩]⟩
    let d : Directory := ⟨.simple, true, 1⟩
    let incidents : List Incident :=
      [.call d none (.createGroup "a::b" (some ⟨"anna", "secret"⟩) none),
        .call d none (.createCard "a::b" payload (some ⟨"anna", "secret"⟩)), .call d none (.getCard "a::b"),
        .loss .cards, .call d none (.getCard "a::b")]
    let w : World Database :=
      { state := { Database.fresh with users := some [⟨.issued 0, "anna", Password.hash 1 [] "secret"⟩] } }
    ∃ served w', w.through incidents = (served, w') ∧ served.map Served.succeeded = [true, true, true, false] ∧
      w'.tally.count GroupService.successCounter GroupOperation.create.name = 1 ∧
      w'.tally.count CardService.successCounter CardOperation.create.name = 1 ∧
      w'.tally.count CardService.callCounter CardOperation.get.name = 2 ∧
      w'.tally.count CardService.successCounter CardOperation.get.name = 1 ∧
      w'.tally.count CardService.errorCounter CardOperation.get.name = 0 := by
  have hverified := Password.verify_hash_self 1 [] "secret"
  -- What is stored of the password is not computed.
  generalize Password.hash 1 [] "secret" = stored at hverified ⊢
  intro payload d incidents w
  have hpayload : ∃ v, CardPayload.decode v = .accepted payload :=
    ⟨.obj [("participant_identifier", .obj [("scheme", "a"), ("value", "b")]),
      ("business_entities", .arr [.obj [("names", .arr [.obj [("name", "Acme")]]), ("country_code", "DE")]])], rfl⟩
  have ha : ∀ i ∈ incidents, i.Accepted := by
    intro i hi
    simp only [incidents, List.mem_cons, List.not_mem_nil, or_false] at hi
    rcases hi with rfl | rfl | rfl | rfl | rfl
    · intro id payload' credentials he
      cases he
    · intro id payload' credentials he
      cases he
      exact hpayload
    · intro id payload' credentials he
      cases he
    · trivial
    · intro id payload' credentials he
      cases he
  have hp : d.addressing.parse? "a::b" = some ⟨"a", "b"⟩ := by decide +kernel
  have hq : d.addressing.create? "a" "b" = some ⟨"a", "b"⟩ := by decide +kernel
  obtain ⟨w₁, w₂, e₁, e₂, s₂, hl, hn, hcard⟩ := d.runOn_registered_sole hverified w rfl hp payload hq none none
  obtain ⟨w₃, e₃⟩ : ∃ w₃, ((Call.getCard "a::b").perform (d.collaborators none)).runOn w₂ =
      (.ok (.card payload), w₃) := by
    obtain ⟨v, hv⟩ := hpayload
    have hread := getCard_answer (d := d) rfl hl hn s₂ none hp fun payload' h =>
      Option.some.inj (hcard.symm.trans h) ▸ CardPayload.readable_of_accepted hv hq
    rw [hcard] at hread
    exact ⟨_, Prod.ext hread rfl⟩
  obtain ⟨f, w₅, e₅⟩ := Directory.getCard_lost (w := { w₃ with state := w₃.state.lose .cards }) rfl d none "a::b"
  have hthrough := World.through_call e₁ incidents.tail
  rw [show incidents.tail = [_, _, _, _] from rfl, World.through_call e₂, World.through_call e₃, World.through_loss,
    World.through_call e₅, World.through] at hthrough
  have h := counters_after incidents ha w (fun _ hg => by cases hg) rfl rfl fun _ _ => rfl
  rw [show w.through incidents = _ from hthrough] at h
  obtain ⟨hcards, hgroups, -⟩ := h
  exact ⟨_, _, hthrough, rfl, (hgroups .create).2, (hcards .create).2.1, (hcards .get).1, (hcards .get).2.1,
    (hcards .get).2.2.1⟩

end ParticipantDirectory
