import Mathlib.Algebra.Order.BigOperators.Group.List
import Mathlib.Algebra.Ring.Int.Defs
import Mathlib.Data.List.Induction
import Mathlib.Data.List.Nodup
import ParticipantDirectory.Proofs.Tally

/-!
# The history of a tally

What is asked of a tally, step by step: to know a name, to count a key under it, and to give its counts. A history of
steps says which names were asked for, which keys were counted, and how often (`Tally.asked`, `Tally.keysOf`,
`Tally.total`), and a tally that began empty is what its history says (`Tally.run_eq_ofHistory`): one step is
`Tally.perform_ofHistory`, which rests on what a keyed list becomes when a key is given a value
(`update_mapped`).
-/

namespace ParticipantDirectory

/-! ## Keyed lists -/

section keyed

variable {β : Type} {key : String} {ns : List String}

/-- The keys in the order in which they occur first, after one more. -/
theorem eraseDups_concat (ns : List String) (key : String) :
    (ns ++ [key]).eraseDups = if key ∈ ns then ns.eraseDups else ns.eraseDups ++ [key] := by
  rw [List.eraseDups_append, List.removeAll]
  by_cases h : key ∈ ns
  · rw [if_pos h, List.filter_cons_of_neg (by simp [h])]
    exact List.append_nil _
  · rw [if_neg h, List.filter_cons_of_pos (by simp [h])]
    rfl

theorem nodup_eraseDups (ns : List String) : ns.eraseDups.Nodup := by
  induction ns using List.reverseRecOn with
  | nil => exact .nil
  | append_singleton ns key ih =>
    rw [eraseDups_concat]
    split
    · exact ih
    · rename_i h
      exact List.nodup_append.2 ⟨ih, List.nodup_singleton key, fun a ha b hb he =>
        h (List.mem_eraseDups.1 (List.mem_singleton.1 hb ▸ he ▸ ha))⟩

/-- What is found under a key in a list that has a value for each of its keys. -/
theorem find?_mapped (ns : List String) (g : String → β) (key : String) :
    (ns.map fun n => (n, g n)).find? (·.1 == key) = if key ∈ ns then some (key, g key) else none := by
  induction ns with
  | nil => rfl
  | cons n rest ih =>
    rw [List.map_cons]
    by_cases h : n = key
    · rw [find?_hit h, h, if_pos (List.mem_cons_self ..)]
    · rw [find?_miss h, ih]
      simp only [List.mem_cons, Ne.symm h, false_or]

/-- Giving a key a value in such a list changes the value of the key, which comes last if it is new. -/
theorem update_mapped {b : β} {f : List (String × β) → List (String × β)} (hnil : f [] = [(key, b)])
    (hcons : ∀ e rest, f (e :: rest) = if e.1 = key then (key, b) :: rest else e :: f rest) (hn : ns.Nodup)
    (g : String → β) :
    f (ns.map fun n => (n, g n)) =
      (if key ∈ ns then ns else ns ++ [key]).map fun n => (n, if n = key then b else g n) := by
  have hrest : ∀ {rest : List String}, key ∉ rest →
      (rest.map fun n => (n, if n = key then b else g n)) = rest.map fun n => (n, g n) := fun hk =>
    List.map_congr_left fun n hm => by rw [if_neg fun he : n = key => hk (he ▸ hm)]
  induction ns with
  | nil => rw [List.map_nil, hnil, if_neg List.not_mem_nil, List.nil_append, List.map_singleton, if_pos rfl]
  | cons n rest ih =>
    obtain ⟨hnew, hn⟩ := List.nodup_cons.1 hn
    rw [List.map_cons, hcons]
    by_cases h : n = key
    · subst h
      rw [if_pos rfl, if_pos (List.mem_cons_self ..), List.map_cons, if_pos rfl, hrest hnew]
    · rw [if_neg h, ih hn]
      by_cases hk : key ∈ rest
      · rw [if_pos hk, if_pos (List.mem_cons_of_mem n hk), List.map_cons, if_neg h]
      · rw [if_neg hk, if_neg fun hm => (List.mem_cons.1 hm).elim (fun he => h he.symm) hk, List.cons_append,
          List.map_cons, if_neg h]

end keyed

namespace Tally

/-! ## Steps -/

/-- What is asked of a tally: to know a name, to count a key under a name `n` times more, for the count of a key, for
the counts of a name, or for those of all names. -/
inductive Step where
  | request (name : String)
  | increment (name key : String) (n : Int)
  | count (name key : String)
  | snapshot (name : String)
  | all

/-- What a step is answered with. A counter is the one at a place among all counters. -/
inductive Answer where
  | counter (place : Nat)
  | counted (outcome : Except String Int)
  | count (n : Int)
  | counts (entries : List (String × Int))
  | all (entries : List (String × List (String × Int)))

/-- The place of the counter of a name. -/
def place (t : Tally) (name : String) : Nat :=
  t.counters.findIdx (·.1 == name)

/-- The answer to a step, and the tally after it. Whatever is asked of the counter of a name, the name is known then. -/
def perform (t : Tally) : Step → Answer × Tally
  | .request name => (.counter ((t.request name).place name), t.request name)
  | .increment name key n => (.counted (t.increment name key n).1, (t.increment name key n).2)
  | .count name key => (.count (t.count name key), t.request name)
  | .snapshot name => (.counts (t.snapshot name), t.request name)
  | .all => (.all t.all, t)

/-- The answers to steps that are taken one after the other, and the tally after them. -/
def run (t : Tally) : List Step → List Answer × Tally
  | [] => ([], t)
  | s :: rest =>
    let (answer, t₁) := t.perform s
    let (answers, t₂) := t₁.run rest
    (answer :: answers, t₂)

theorem run_append (t : Tally) (steps more : List Step) :
    t.run (steps ++ more) = ((t.run steps).1 ++ ((t.run steps).2.run more).1, ((t.run steps).2.run more).2) := by
  induction steps generalizing t with
  | nil => rfl
  | cons s rest ih =>
    show ((t.perform s).1 :: ((t.perform s).2.run (rest ++ more)).1, ((t.perform s).2.run (rest ++ more)).2) = _
    rw [ih]
    rfl

/-! ## What a history says -/

namespace Step

/-- The name that is asked for. -/
def name? : Step → Option String
  | request name | increment name _ _ | count name _ | snapshot name => some name
  | all => none

/-- What is counted, and how many times more; nothing that is counted fewer than zero times more is. -/
def increase? : Step → Option (Mark × Int)
  | increment name key n => if n < 0 then none else some ((name, key), n)
  | request _ | count .. | snapshot _ | all => none

/-- The key that is counted under a name. -/
def keyOf? (name : String) (s : Step) : Option String :=
  s.increase?.bind fun i => if i.1.1 = name then some i.1.2 else none

/-- How many times more a mark is counted. -/
def amount (m : Mark) (s : Step) : Int :=
  (s.increase?.map fun i => if i.1 = m then i.2 else 0).getD 0

end Step

variable (steps : List Step)

/-- The names that were asked for, in the order in which they were first. -/
def asked : List String :=
  (steps.filterMap Step.name?).eraseDups

/-- The keys that were counted under a name, in the order in which they were first. -/
def keysOf (name : String) : List String :=
  (steps.filterMap (Step.keyOf? name)).eraseDups

/-- How often a mark was counted in all. -/
def total (m : Mark) : Int :=
  (steps.map (Step.amount m)).sum

/-- The counts of a name by key. -/
def recorded (name : String) : List (String × Int) :=
  (keysOf steps name).map fun key => (key, total steps (name, key))

/-- The tally of a history. -/
def ofHistory : Tally :=
  ⟨(asked steps).map fun name => (name, ⟨recorded steps name⟩)⟩

variable {steps} {s : Step} {name key : String}

/-! ### One step more -/

theorem asked_concat (hs : s.name? = some name) :
    asked (steps ++ [s]) = if name ∈ asked steps then asked steps else asked steps ++ [name] := by
  simp only [asked, List.filterMap_append, List.filterMap_cons, hs, List.filterMap_nil, eraseDups_concat,
    List.mem_eraseDups]

theorem keysOf_concat (hs : s.keyOf? name = some key) :
    keysOf (steps ++ [s]) name = if key ∈ keysOf steps name then keysOf steps name else keysOf steps name ++ [key] := by
  simp only [keysOf, List.filterMap_append, List.filterMap_cons, hs, List.filterMap_nil, eraseDups_concat,
    List.mem_eraseDups]

/-- A step that does not count a key under a name adds nothing to its count. -/
theorem amount_of_uncounted (h : s.keyOf? name ≠ some key) : s.amount (name, key) = 0 := by
  cases hi : s.increase? with
  | none => simp [Step.amount, hi]
  | some i =>
    have hne : i.1 ≠ (name, key) := fun he => h (by simp [Step.keyOf?, hi, he])
    simp [Step.amount, hi, hne]

theorem total_concat (m : Mark) : total (steps ++ [s]) m = total steps m + s.amount m := by
  simp only [total, List.map_append, List.map_singleton, List.sum_append_int, List.sum_singleton]

/-- A step that counts nothing under a name leaves the counts of the name as they are. -/
theorem recorded_concat (hs : s.keyOf? name = none) : recorded (steps ++ [s]) name = recorded steps name := by
  have hkeys : keysOf (steps ++ [s]) name = keysOf steps name := by
    simp only [keysOf, List.filterMap_append, List.filterMap_cons, hs, List.filterMap_nil, List.append_nil]
  have hamount : ∀ key, s.amount (name, key) = 0 := fun key => amount_of_uncounted (by simp [hs])
  simp only [recorded, hkeys, total_concat, hamount, Int.add_zero]

/-! ### What a history does not say -/

theorem name?_of_keyOf? (hs : s.keyOf? name = some key) : s.name? = some name := by
  cases s with
  | increment name' key' n =>
    obtain ⟨i, hi, hk⟩ := Option.bind_eq_some_iff.1 hs
    simp only [Step.increase?] at hi
    split at hi
    · cases hi
    · cases hi
      split at hk
      · rename_i h
        exact congrArg some h
      · cases hk
  | request | count | snapshot | all => cases hs

/-- Nothing is counted under a name that was not asked for. -/
theorem recorded_of_unasked (h : name ∉ asked steps) : recorded steps name = [] := by
  have hk : steps.filterMap (Step.keyOf? name) = [] := by
    refine List.filterMap_eq_nil_iff.2 fun s hs => ?_
    cases hkey : s.keyOf? name with
    | none => rfl
    | some key => exact absurd (List.mem_eraseDups.2 (List.mem_filterMap.2 ⟨s, hs, name?_of_keyOf? hkey⟩)) h
  rw [recorded, keysOf, hk]
  rfl

/-- A key that was not counted under a name has no count. -/
theorem total_of_uncounted (h : key ∉ keysOf steps name) : total steps (name, key) = 0 := by
  have hzero : ∀ n ∈ steps.map (Step.amount (name, key)), n = 0 := by
    intro n hn
    obtain ⟨s, hs, rfl⟩ := List.mem_map.1 hn
    exact amount_of_uncounted fun hkey => h (List.mem_eraseDups.2 (List.mem_filterMap.2 ⟨s, hs, hkey⟩))
  rw [total, List.eq_replicate_of_mem hzero]
  simp

/-! ## A tally is what its history says -/

theorem counter_ofHistory (steps : List Step) (name : String) :
    (ofHistory steps).counter name = ⟨recorded steps name⟩ := by
  rw [counter, ofHistory, find?_mapped]
  by_cases h : name ∈ asked steps
  · rw [if_pos h]
    rfl
  · rw [if_neg h, recorded_of_unasked h]
    rfl

theorem count_ofHistory (steps : List Step) (name key : String) :
    (ofHistory steps).count name key = total steps (name, key) := by
  rw [count, counter_ofHistory, Counter.count, recorded, find?_mapped]
  by_cases h : key ∈ keysOf steps name
  · rw [if_pos h]
    rfl
  · rw [if_neg h, total_of_uncounted h]
    rfl

/-- The counter of a name is given counts, and those of all other names stay. -/
theorem setCounter_ofHistory (hs : s.name? = some name) {c : Counter} (hc : c = ⟨recorded (steps ++ [s]) name⟩)
    (ho : ∀ other, other ≠ name → recorded (steps ++ [s]) other = recorded steps other) :
    (⟨setCounter name c (ofHistory steps).counters⟩ : Tally) = ofHistory (steps ++ [s]) := by
  have hset := update_mapped (f := setCounter name c) rfl (fun _ _ => rfl)
    (nodup_eraseDups (steps.filterMap Step.name?))
    fun other => (⟨recorded steps other⟩ : Counter)
  refine congrArg Tally.mk (hset.trans ?_)
  show _ = (asked (steps ++ [s])).map fun other => (other, (⟨recorded (steps ++ [s]) other⟩ : Counter))
  rw [asked_concat hs]
  refine List.map_congr_left fun other _ => ?_
  by_cases h : other = name
  · rw [if_pos h, hc, h]
  · rw [if_neg h, ho other h]

/-- A step that asks for a name and counts nothing. -/
theorem request_ofHistory (hs : s.name? = some name) (hk : ∀ other, s.keyOf? other = none) :
    (ofHistory steps).request name = ofHistory (steps ++ [s]) :=
  setCounter_ofHistory hs (by rw [counter_ofHistory, recorded_concat (hk name)]) fun other _ =>
    recorded_concat (hk other)

/-- A step that counts a key under a name. -/
theorem add_ofHistory {n : Int} (hn : ¬n < 0) :
    (ofHistory steps).add name key n = ofHistory (steps ++ [.increment name key n]) := by
  have hi : (Step.increment name key n).increase? = some ((name, key), n) := if_neg hn
  have hk : (Step.increment name key n).keyOf? name = some key := by simp [Step.keyOf?, hi]
  refine setCounter_ofHistory rfl ?_ fun other ho => recorded_concat (by simp [Step.keyOf?, hi, Ne.symm ho])
  have hset := update_mapped (f := Counter.setEntry key (total steps (name, key) + n)) rfl (fun _ _ => rfl)
    (nodup_eraseDups (steps.filterMap (Step.keyOf? name))) fun key' => total steps (name, key')
  rw [Counter.add, show (((ofHistory steps).counter name).count key) = total steps (name, key) from
    count_ofHistory steps name key, counter_ofHistory]
  refine congrArg Counter.mk (hset.trans ?_)
  show _ = (keysOf (steps ++ [.increment name key n]) name).map fun key' => (key', total _ (name, key'))
  rw [keysOf_concat hk]
  refine List.map_congr_left fun key' _ => ?_
  rw [total_concat, Step.amount, hi]
  by_cases h : key' = key
  · simp [h]
  · simp [h, Ne.symm h]

theorem perform_ofHistory (steps : List Step) (s : Step) :
    ((ofHistory steps).perform s).2 = ofHistory (steps ++ [s]) := by
  cases s with
  | request | count | snapshot => exact request_ofHistory rfl fun _ => rfl
  | increment name key n =>
    show ((ofHistory steps).increment name key n).2 = _
    rw [increment]
    by_cases hn : n < 0
    · rw [if_pos hn]
      exact request_ofHistory rfl fun other => by simp [Step.keyOf?, Step.increase?, hn]
    · rw [if_neg hn]
      exact add_ofHistory hn
  | all =>
    have hname : Step.all.name? = none := rfl
    have hasked : asked (steps ++ [.all]) = asked steps := by
      simp only [asked, List.filterMap_append, List.filterMap_cons_none hname, List.filterMap_nil, List.append_nil]
    have hrecorded : ∀ name, recorded (steps ++ [.all]) name = recorded steps name := fun _ => recorded_concat rfl
    show ofHistory steps = _
    simp only [ofHistory, hasked, hrecorded]

/-- By induction over the steps that are still to be taken. -/
theorem run_ofHistory (done steps : List Step) : ((ofHistory done).run steps).2 = ofHistory (done ++ steps) := by
  induction steps generalizing done with
  | nil => rw [List.append_nil]; rfl
  | cons s rest ih =>
    show (((ofHistory done).perform s).2.run rest).2 = _
    rw [perform_ofHistory, ih, List.append_assoc]
    rfl

/-- A tally that began empty is what its history says. -/
theorem run_eq_ofHistory (steps : List Step) : (empty.run steps).2 = ofHistory steps :=
  run_ofHistory [] steps

/-! ## What is counted and what is known -/

theorem snapshot_ofHistory (steps : List Step) (name : String) :
    (ofHistory steps).snapshot name = recorded steps name :=
  congrArg Counter.entries (counter_ofHistory steps name)

/-- All counters are those of the names that were asked for, in the order of the names. -/
theorem all_ofHistory (steps : List Step) :
    (ofHistory steps).all.Perm ((asked steps).map fun name => (name, recorded steps name)) ∧
      ((ofHistory steps).all.map Prod.fst).Pairwise (· ≤ ·) := by
  constructor
  · have h := (List.mergeSort_perm (ofHistory steps).counters fun a b => decide (a.1 ≤ b.1)).map
      fun c => (c.1, c.2.entries)
    rwa [show (ofHistory steps).counters.map (fun c => (c.1, c.2.entries)) =
      (asked steps).map fun name => (name, recorded steps name) from List.map_map] at h
  · let ordered : String × Counter → String × Counter → Bool := fun a b => decide (a.1 ≤ b.1)
    have htrans : ∀ a b c, ordered a b → ordered b c → ordered a c := fun a b c hab hbc =>
      decide_eq_true (String.le_trans (of_decide_eq_true hab) (of_decide_eq_true hbc))
    have htotal : ∀ a b, ordered a b || ordered b a := fun a b => by
      simpa [ordered] using String.le_total a.1 b.1
    rw [all, List.map_map]
    exact List.pairwise_map.2 ((List.pairwise_mergeSort htrans htotal _).imp of_decide_eq_true)

theorem total_append (steps more : List Step) (m : Mark) : total (steps ++ more) m = total steps m + total more m := by
  simp only [total, List.map_append, List.sum_append_int]

/-- Nothing is counted fewer than zero times more. -/
theorem amount_nonneg (m : Mark) (s : Step) : 0 ≤ s.amount m := by
  cases s with
  | increment name key n =>
    by_cases h : n < 0
    · simp [Step.amount, Step.increase?, h]
    · by_cases hm : (name, key) = m
      · have counted : 0 ≤ n := by omega
        simpa [Step.amount, Step.increase?, h, hm] using counted
      · simp [Step.amount, Step.increase?, h, hm]
  | request | count | snapshot | all => exact Int.le_refl 0

theorem total_nonneg (steps : List Step) (m : Mark) : 0 ≤ total steps m :=
  List.sum_nonneg (List.forall_mem_map.2 fun s _ => amount_nonneg m s)

theorem place_ofHistory (steps : List Step) (name : String) :
    (ofHistory steps).place name = (asked steps).idxOf name :=
  List.findIdx_map _ _ _

/-- Names that were asked for come before those that are asked for later. -/
theorem asked_prefix (steps more : List Step) : asked steps <+: asked (steps ++ more) := by
  rw [asked, asked, List.filterMap_append, List.eraseDups_append]
  exact List.prefix_append _ _

/-- A name has the same place from when it is first asked for, and no other name has it. -/
theorem place_run_iff (more : List Step) (h : name ∈ asked steps) (other : String) :
    (ofHistory (steps ++ more)).place other = (ofHistory steps).place name ↔ other = name := by
  obtain ⟨later, hlater⟩ := asked_prefix steps more
  have hkept : (asked (steps ++ more)).idxOf name = (asked steps).idxOf name :=
    hlater ▸ List.idxOf_append_of_mem h
  rw [place_ofHistory, place_ofHistory, ← hkept, eq_comm,
    List.idxOf_inj (hlater ▸ List.mem_append_left later h), eq_comm]

/-! ## Main statement -/

/-- After any steps from the empty tally, a count is the sum of the amounts, none of them negative, by which its key was
counted under its name. The counts of a name are those of the keys that were counted under it, be it zero times more, in
the order in which they were first; all counters are those of the names that were asked for, once each. Counting a key a
negative number of times more is refused and changes no counts; otherwise the answer is the new count, and no other
count changes. Whatever steps follow, they do not change what was answered before, no count goes down, and a name that
was asked for keeps its own counter. -/
theorem history_recorded (steps : List Step) :
    let t := (empty.run steps).2
    (∀ name key, t.count name key = total steps (name, key)) ∧
      (∀ name, t.snapshot name = (keysOf steps name).map fun key => (key, total steps (name, key))) ∧
      t.all.Perm ((asked steps).map fun name => (name, t.snapshot name)) ∧ (asked steps).Nodup ∧
      (t.all.map Prod.fst).Pairwise (· ≤ ·) ∧
      (∀ name key n,
        let (answer, t') := t.increment name key n
        if n < 0 then answer = .error negativeStep ∧ ∀ other, t'.snapshot other = t.snapshot other
        else
          answer = .ok (t.count name key + n) ∧
            ∀ m : Mark, t'.count m.1 m.2 = t.count m.1 m.2 + if (name, key) = m then n else 0) ∧
      ∀ more,
        let t' := (t.run more).2
        (empty.run (steps ++ more)).1 = (empty.run steps).1 ++ (t.run more).1 ∧
          (∀ name key, t.count name key ≤ t'.count name key) ∧
          ∀ name ∈ asked steps, ∀ other, t'.place other = t.place name ↔ other = name := by
  intro t
  have ht : t = ofHistory steps := run_eq_ofHistory steps
  have hsnapshot : ∀ name, t.snapshot name = recorded steps name := ht ▸ snapshot_ofHistory steps
  obtain ⟨hperm, hsorted⟩ := all_ofHistory steps
  refine ⟨fun name key => ht ▸ count_ofHistory steps name key, hsnapshot, ?_, nodup_eraseDups _, ht ▸ hsorted,
    fun name key n => ?_, fun more => ⟨?_, fun name key => ?_, fun name hm other => ?_⟩⟩
  · simp only [hsnapshot]
    exact ht ▸ hperm
  · have hstep := perform_ofHistory steps (.increment name key n)
    show if n < 0 then (t.increment name key n).1 = _ ∧ ∀ other, (t.increment name key n).2.snapshot other = _
      else (t.increment name key n).1 = _ ∧ ∀ m : Mark, (t.increment name key n).2.count m.1 m.2 = _
    split
    · rename_i hn
      refine ⟨by rw [increment, if_pos hn], fun other => ?_⟩
      have hk : (Step.increment name key n).keyOf? other = none := by simp [Step.keyOf?, Step.increase?, hn]
      rw [hsnapshot, ht, show ((ofHistory steps).increment name key n).2 = _ from hstep, snapshot_ofHistory,
        recorded_concat hk]
    · rename_i hn
      rw [increment, if_neg hn]
      refine ⟨?_, fun m => ?_⟩
      · show Except.ok ((t.add name key n).count name key) = _
        rw [count_add, if_pos rfl]
      · exact count_add t name key m.1 m.2 n
  · rw [run_append]
  · rw [ht, run_ofHistory, count_ofHistory, count_ofHistory, total_append]
    have := total_nonneg more (name, key)
    omega
  · rw [ht, run_ofHistory]
    exact place_run_iff more hm other

end Tally

end ParticipantDirectory
