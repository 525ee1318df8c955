import ParticipantDirectory.Verdict.Decode

/-!
# Accepted documents

A verdict on parts accepts only if it accepts every part: the lemmas here take an accepted value apart into what
its readers have accepted (`map_accepted`, `seq_accepted`, `required_accepted`, `list_accepted`). A text that was
read under a rule keeps that rule (`TextRule.decode_accepted`).
-/

namespace ParticipantDirectory

namespace Verdict

variable {α β : Type}

theorem map_accepted {f : α → β} {x : Verdict α} {b : β} (h : f <$> x = .accepted b) :
    ∃ a, x = .accepted a ∧ f a = b := by
  cases x with
  | accepted a => cases h; exact ⟨a, rfl, rfl⟩
  | refused vs => cases h

theorem seq_accepted {f : Verdict (α → β)} {x : Verdict α} {b : β} (h : f <*> x = .accepted b) :
    ∃ g a, f = .accepted g ∧ x = .accepted a ∧ g a = b := by
  cases f with
  | accepted g =>
    cases x with
    | accepted a => cases h; exact ⟨g, a, rfl, rfl, rfl⟩
    | refused vs => cases h
  | refused vs => cases x <;> cases h

theorem under_accepted {step : PathStep} {x : Verdict α} {a : α} (h : x.under step = .accepted a) :
    x = .accepted a := by
  cases x with
  | accepted b => cases h; rfl
  | refused vs => cases h

section read

variable {read : Json → Verdict α}

theorem required_accepted {name : String} {members : List (String × Json)} {a : α}
    (h : required name read members = .accepted a) : ∃ v, read v = .accepted a := by
  rw [required] at h
  cases hf : Json.findMember? name members with
  | some v => rw [hf] at h; exact ⟨v, under_accepted h⟩
  | none => rw [hf] at h; cases h

theorem optional_accepted {name : String} {default a : α} {members : List (String × Json)}
    (h : optional name default read members = .accepted a) : a = default ∨ ∃ v, read v = .accepted a := by
  rw [optional] at h
  cases hf : Json.findMember? name members with
  | some v => rw [hf] at h; exact .inr ⟨v, under_accepted h⟩
  | none => rw [hf] at h; cases h; exact .inl rfl

theorem object_accepted {model : String} {read : List (String × Json) → Verdict α} {v : Json} {a : α}
    (h : object model read v = .accepted a) : ∃ members, read members = .accepted a := by
  cases v with
  | obj members => exact ⟨members, h⟩
  | null | bool b | int n | real x | str s | broken b | arr vs => cases h

/-- Accepted items are those of an equally long list, each accepted on its own. -/
theorem itemsFrom_accepted {i : Nat} {vs : List Json} {as : List α} (h : itemsFrom read i vs = .accepted as) :
    as.length = vs.length ∧ ∀ a ∈ as, ∃ v, read v = .accepted a := by
  induction vs generalizing i as with
  | nil =>
    cases h
    exact ⟨rfl, fun _ ha => by cases ha⟩
  | cons v rest ih =>
    obtain ⟨g, as', hg, hrest, rfl⟩ := seq_accepted h
    obtain ⟨a, ha, rfl⟩ := map_accepted hg
    obtain ⟨hl, hm⟩ := ih hrest
    refine ⟨congrArg (· + 1) hl, fun b hb => ?_⟩
    rcases List.mem_cons.1 hb with rfl | hb
    · exact ⟨v, under_accepted ha⟩
    · exact hm b hb

theorem list_accepted {v : Json} {as : List α} (h : list read v = .accepted as) :
    ∀ a ∈ as, ∃ v, read v = .accepted a := by
  cases v with
  | arr vs => exact (itemsFrom_accepted h).2
  | null | bool b | int n | real x | str s | broken b | obj ms => cases h

theorem nonemptyList_accepted {v : Json} {as : List α} (h : nonemptyList read v = .accepted as) :
    as ≠ [] ∧ ∀ a ∈ as, ∃ v, read v = .accepted a := by
  cases v with
  | arr vs =>
    cases vs with
    | nil => cases h
    | cons v rest =>
      obtain ⟨hl, hm⟩ := itemsFrom_accepted (i := 0) h
      refine ⟨fun he => ?_, hm⟩
      rw [he] at hl
      cases hl
  | null | bool b | int n | real x | str s | broken b | obj ms => cases h

end read

end Verdict

namespace TextRule

variable {r : TextRule} {s : String}

/-- A rule accepts a text as it is or not at all. -/
theorem check_accepted {s' : String} (h : r.check s = .accepted s') : s' = s ∧ r.check s = .accepted s := by
  rw [check] at h ⊢
  cases hv : r.violation? s with
  | none => rw [hv] at h; cases h; exact ⟨rfl, rfl⟩
  | some k => rw [hv] at h; cases h

theorem check_eq_accepted (h : r.violation? s = none) : r.check s = .accepted s := by
  rw [check, h]

theorem violation?_of_accepted (h : r.check s = .accepted s) : r.violation? s = none := by
  rw [check] at h
  cases hv : r.violation? s with
  | none => rfl
  | some k => rw [hv] at h; cases h

theorem decode_accepted {v : Json} (h : r.decode v = .accepted s) : r.check s = .accepted s := by
  cases v with
  | str s' =>
    obtain ⟨rfl, h⟩ := check_accepted h
    exact h
  | null | bool b | int n | real x | broken b | arr vs | obj ms => cases h

theorem check?_some (h : r.check s = .accepted s) : r.check? (some s) = .accepted (some s) := by
  rw [check?, h]
  rfl

theorem decode?_accepted {v : Json} {o : Option String} (h : r.decode? v = .accepted o) :
    r.check? o = .accepted o := by
  cases v with
  | null => cases h; rfl
  | str s =>
    obtain ⟨s', hs, rfl⟩ := Verdict.map_accepted h
    exact check?_some (decode_accepted hs)
  | bool b | int n | real x | broken b | arr vs | obj ms => cases h

/-- A text of 1 to `n` characters keeps the rule for such texts. -/
theorem filled_accepted {n : Nat} (h : 1 ≤ s.length) (h' : s.length ≤ n) : (filled n).check s = .accepted s := by
  apply check_eq_accepted
  rw [violation?, if_neg, if_neg]
  · rfl
  · exact Nat.not_lt.2 h
  · exact fun hlt => absurd (of_decide_eq_true hlt) (Nat.not_lt.2 h')

theorem length_of_filled {n : Nat} (h : (filled n).check s = .accepted s) : 1 ≤ s.length ∧ s.length ≤ n := by
  have hv := violation?_of_accepted h
  rw [violation?] at hv
  split at hv
  · cases hv
  · rename_i hmost
    split at hv
    · cases hv
    · rename_i hleast
      exact ⟨Nat.not_lt.1 hleast, Nat.not_lt.1 fun hlt => hmost (decide_eq_true hlt)⟩

end TextRule

end ParticipantDirectory
