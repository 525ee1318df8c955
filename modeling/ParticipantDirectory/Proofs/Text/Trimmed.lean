import Mathlib.Data.List.TakeWhile
import ParticipantDirectory.Text.Blank

/-!
# Trimmed texts

Trimming a trimmed text changes nothing (`strip_strip`), and no text gets longer by it (`length_strip_le`). Nothing is
left of a text that is blank throughout, and of no other (`strip_eq_nil_iff`).
-/

namespace ParticipantDirectory.Text

variable {p : Char → Bool}

theorem head_stripLeft (s : List Char) : ∀ c ∈ (stripLeft p s).head?, p c = false := by
  intro c hc
  rw [stripLeft] at hc
  have h := List.head?_dropWhile_not p s
  rw [Option.mem_def.1 hc] at h
  exact h

theorem last_stripRight (s : List Char) : ∀ c ∈ (stripRight p s).getLast?, p c = false := by
  intro c hc
  rw [stripRight, List.getLast?_reverse] at hc
  exact head_stripLeft s.reverse c hc

/-- What is stripped on the right keeps its head, if anything is left of it. -/
theorem head_stripRight {s : List Char} {c : Char} (hc : c ∈ (stripRight p s).head?) : c ∈ s.head? := by
  have h : stripRight p s <+: s := by
    rw [stripRight, ← List.reverse_suffix, List.reverse_reverse]
    exact List.dropWhile_suffix p
  obtain ⟨t, ht⟩ := h
  rw [← ht, Option.mem_def, List.head?_append, Option.mem_def.1 hc]
  rfl

/-- A trimmed text is trimmed. -/
theorem strip_strip (s : List Char) : strip (strip s) = strip s := by
  refine strip_eq_self (fun c hc => ?_) (fun c hc => last_stripRight _ c hc)
  exact head_stripLeft s c (head_stripRight hc)

theorem trim_trim (s : String) : trim (trim s) = trim s := by
  rw [trim, trim, String.toList_ofList, strip_strip]

theorem length_strip_le (s : List Char) : (strip s).length ≤ s.length := by
  rw [strip, stripWhere, stripRight, List.length_reverse]
  refine Nat.le_trans (List.dropWhile_sublist _).length_le ?_
  rw [List.length_reverse]
  exact (List.dropWhile_sublist _).length_le

theorem length_trim_le (s : String) : (trim s).length ≤ s.length := by
  rw [trim, String.length_ofList, ← String.length_toList]
  exact length_strip_le s.toList

/-- A text is blank throughout if nothing is left of it. -/
theorem strip_eq_nil_iff (s : List Char) : strip s = [] ↔ ∀ c ∈ s, isBlank c = true := by
  have hleft : (∀ c ∈ s.dropWhile isBlank, isBlank c = true) ↔ ∀ c ∈ s, isBlank c = true := by
    refine ⟨fun h c hc => ?_, fun h c hc => h c ((List.dropWhile_sublist _).subset hc)⟩
    rw [← List.takeWhile_append_dropWhile (p := isBlank) (l := s), List.mem_append] at hc
    exact hc.elim List.mem_takeWhile_imp (h c)
  rw [strip, stripWhere, stripRight, stripLeft, List.reverse_eq_nil_iff, List.dropWhile_eq_nil_iff, ← hleft]
  simp only [List.mem_reverse]

theorem trim_eq_empty_iff (s : String) : trim s = "" ↔ ∀ c ∈ s.toList, isBlank c = true := by
  rw [trim, String.ofList_eq_empty_iff, strip_eq_nil_iff]

end ParticipantDirectory.Text
