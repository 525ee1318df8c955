import ParticipantDirectory.Proofs.Text.Lowered

/-!
# Upper-case texts

A text in upper case has no small ASCII letter, whatever characters it was made of (`isLower_of_mem_upper`). The ASCII
letters are checked one by one; of the other characters, the images of the runs and of the expansions of the table
avoid the small letters (`CaseRun.avoids`), and one that has no image stands for itself.
-/

namespace ParticipantDirectory.Text

/-- The code points of the small ASCII letters. -/
def smallLetters : CaseRun := ⟨0x61, 0x7A, 1, 0⟩

theorem covers_smallLetters (n : Nat) : smallLetters.covers n = true ↔ 0x61 ≤ n ∧ n ≤ 0x7A := by
  simp only [CaseRun.covers, Bool.and_eq_true, decide_eq_true_eq]
  simp [smallLetters, Nat.mod_one]

theorem isLower_eq_covers (c : Char) : c.isLower = smallLetters.covers c.toNat := by
  rw [Bool.eq_iff_iff, covers_smallLetters]
  delta Char.isLower
  simp [UInt32.le_iff_toNat_le, ← Char.toNat_val]

/-! ## Code points -/

theorem upperRuns_avoid_small : (upperRuns.all fun r => r.avoids smallLetters) = true := by
  decide +kernel

theorem upperExpansions_avoid_small :
    (upperExpansions.all fun e => e.images.all fun m => !smallLetters.covers m) = true := by
  decide +kernel

/-- An image of a code point is no small letter, unless the code point is one. -/
theorem not_covers_of_mem_caseImages {n m : Nat} (hn : smallLetters.covers n = false)
    (h : m ∈ caseImages upperRuns upperExpansions n) : smallLetters.covers m = false := by
  rw [caseImages] at h
  cases hr : upperRuns.find? (·.covers n) with
  | some r =>
    rw [hr] at h
    obtain rfl := List.mem_singleton.1 h
    have ha := List.all_eq_true.1 upperRuns_avoid_small r (List.mem_of_find?_eq_some hr)
    have hcovers := List.find?_some hr
    exact CaseRun.not_covers_image ha hcovers
  | none =>
    rw [hr] at h
    cases he : upperExpansions.find? (·.point == n) with
    | some e =>
      rw [he] at h
      have ha := List.all_eq_true.1 upperExpansions_avoid_small e (List.mem_of_find?_eq_some he)
      simpa using List.all_eq_true.1 ha m h
    | none =>
      rw [he] at h
      obtain rfl := List.mem_singleton.1 h
      exact hn

/-! ## Characters -/

/-- A code point that is no small letter is not read as one, whether or not it is a character. -/
theorem isLower_ofNat {n : Nat} (h : smallLetters.covers n = false) : (Char.ofNat n).isLower = false := by
  by_cases hn : n.isValidChar
  · rw [isLower_eq_covers, Char.ofNat, dif_pos hn]
    exact h
  · rw [Char.ofNat, dif_neg hn]
    decide

theorem isLower_toUpper {c : Char} (h : c.toNat < 0x80) : c.toUpper.isLower = false := by
  have hall : ∀ n < 0x80, (Char.ofNat n).toUpper.isLower = false := by decide
  have hc := hall c.toNat h
  rwa [Char.ofNat_toNat] at hc

/-- A character of an upper-case form is no small letter. -/
theorem isLower_of_mem_upperForms {c m : Char} (h : m ∈ upperForms c) : m.isLower = false := by
  rw [upperForms] at h
  split at h
  · rename_i hc
    obtain rfl := List.mem_singleton.1 h
    exact isLower_toUpper hc
  · rename_i hc
    obtain ⟨k, hk, rfl⟩ := List.mem_map.1 h
    have hsmall : smallLetters.covers c.toNat = false := by
      rw [Bool.eq_false_iff, Ne, covers_smallLetters]
      omega
    exact isLower_ofNat (not_covers_of_mem_caseImages hsmall hk)

/-! ## Texts -/

/-- A text in upper case has no small letters. -/
theorem isLower_of_mem_upper {s : List Char} {m : Char} (h : m ∈ upper s) : m.isLower = false := by
  obtain ⟨c, -, hm⟩ := List.mem_flatMap.1 h
  exact isLower_of_mem_upperForms hm

theorem isLower_of_mem_toUpper {s : String} {m : Char} (h : m ∈ (toUpper s).toList) : m.isLower = false := by
  rw [toUpper, String.toList_ofList] at h
  exact isLower_of_mem_upper h

end ParticipantDirectory.Text
