import ParticipantDirectory.Tally

/-!
# Counting

A mark is the name and the key under which something is counted. Counting a mark changes the count of this mark
alone (`Tally.count_add`), so after marks that are counted one by one every count has grown by the number of times
that its mark is among them (`Tally.count_tick`).
-/

namespace ParticipantDirectory

/-- The name of a counter and the key that is counted under it. -/
abbrev Mark : Type :=
  String × String

section keyed

variable {β : Type} {key other : String}

theorem find?_hit {e : String × β} (h : e.1 = other) (rest : List (String × β)) :
    (e :: rest).find? (·.1 == other) = some e :=
  List.find?_cons_of_pos (beq_iff_eq.2 h)

theorem find?_miss {e : String × β} (h : e.1 ≠ other) (rest : List (String × β)) :
    (e :: rest).find? (·.1 == other) = rest.find? (·.1 == other) :=
  List.find?_cons_of_neg fun he => h (eq_of_beq he)

/-- Giving a key a value in a list of pairs, in its place or at the end, changes what is found under this key only. -/
theorem find?_of_update {b : β} {f : List (String × β) → List (String × β)} (hnil : f [] = [(key, b)])
    (hcons : ∀ e rest, f (e :: rest) = if e.1 = key then (key, b) :: rest else e :: f rest)
    (entries : List (String × β)) (other : String) :
    (f entries).find? (·.1 == other) = if other = key then some (key, b) else entries.find? (·.1 == other) := by
  induction entries with
  | nil =>
    rw [hnil]
    by_cases h : other = key
    · rw [if_pos h, find?_hit h.symm]
    · rw [if_neg h, find?_miss (Ne.symm h)]
  | cons e rest ih =>
    rw [hcons]
    by_cases hk : e.1 = key
    · rw [if_pos hk]
      by_cases h : other = key
      · rw [if_pos h, find?_hit h.symm]
      · rw [if_neg h, find?_miss (Ne.symm h), find?_miss fun he => h (he.symm.trans hk)]
    · rw [if_neg hk]
      by_cases he : e.1 = other
      · rw [find?_hit he, find?_hit he, if_neg fun h => hk (he.trans h)]
      · rw [find?_miss he, find?_miss he, ih]

end keyed

/-- Counting a key changes its count and no other. -/
theorem Counter.count_add (c : Counter) (key other : String) (n : Int) :
    (c.add key n).count other = c.count other + if other = key then n else 0 := by
  have h := find?_of_update (f := setEntry key (c.count key + n)) rfl (fun _ _ => rfl) c.entries other
  rw [count, add, h]
  by_cases he : other = key
  · rw [if_pos he, if_pos he, he]
    rfl
  · rw [if_neg he, if_neg he, Int.add_zero]
    rfl

namespace Tally

theorem counter_add (t : Tally) (name key other : String) (n : Int) :
    (t.add name key n).counter other = if other = name then (t.counter name).add key n else t.counter other := by
  have h := find?_of_update (f := setCounter name ((t.counter name).add key n)) rfl (fun _ _ => rfl) t.counters other
  rw [counter, add, h]
  by_cases he : other = name
  · rw [if_pos he, if_pos he]
    rfl
  · rw [if_neg he, if_neg he]
    rfl

/-- Counting a mark changes its count and no other. -/
theorem count_add (t : Tally) (name key name' key' : String) (n : Int) :
    (t.add name key n).count name' key' = t.count name' key' + if (name, key) = (name', key') then n else 0 := by
  rw [count, counter_add]
  by_cases hn : name' = name
  · rw [if_pos hn, Counter.count_add, hn]
    by_cases hk : key' = key
    · rw [if_pos hk, hk, if_pos rfl]
      rfl
    · rw [if_neg hk, if_neg fun h => hk (Prod.mk.inj h).2.symm]
      rfl
  · rw [if_neg hn, if_neg fun h => hn (Prod.mk.inj h).1.symm, Int.add_zero]
    rfl

/-- The tally after marks are counted, each once more. -/
def tick (t : Tally) : List Mark → Tally
  | [] => t
  | m :: rest => (t.add m.1 m.2 1).tick rest

theorem tick_append (t : Tally) (ms ms' : List Mark) : t.tick (ms ++ ms') = (t.tick ms).tick ms' := by
  induction ms generalizing t with
  | nil => rfl
  | cons m rest ih => exact ih _

/-- A count has grown by the number of times that its mark was counted. -/
theorem count_tick (t : Tally) (ms : List Mark) (name key : String) :
    (t.tick ms).count name key = t.count name key + ms.count (name, key) := by
  induction ms generalizing t with
  | nil => exact (Int.add_zero _).symm
  | cons m rest ih =>
    rw [tick, ih, count_add, List.count_cons]
    by_cases h : m = (name, key)
    · rw [if_pos h, if_pos (beq_iff_eq.2 h)]
      omega
    · rw [if_neg h, if_neg fun he => h (eq_of_beq he)]
      omega

end Tally

end ParticipantDirectory
