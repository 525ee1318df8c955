import ParticipantDirectory.Text.Casing

/-!
# Lower-case texts

Lowering a text again changes nothing, whatever the neighbours of its sigmas (`lower_lower`). No character but the
colon becomes a colon, and none becomes nothing. A text without a capital sigma is lowered character by character
(`lower_eq_flatMap`); one with any sigma still has a sigma afterwards (`exists_sigma_mem_lower`).

All of it rests on one fact about the table: the images of its runs avoid the code points in `unproduced`, which are
those that have a lower-case form of their own, the colon, the capital sigma, and what is no character. Two runs are
compared as a whole, by their ends and their parity (`CaseRun.avoids`).
-/

namespace ParticipantDirectory.Text

/-! ## Images of runs -/

/-- Whether no image of the run `r` is covered by `s`: the images lie below or above `s`, or they are all of the other
parity than what `s` covers. -/
def CaseRun.avoids (r s : CaseRun) : Bool :=
  (r.image r.last).blt s.first || s.last.blt (r.image r.first) ||
    (s.step == 2 && (r.step == 2 || r.first == r.last) && 0 ≤ r.first + r.shift &&
      (r.image r.first + s.first) % 2 == 1)

theorem CaseRun.not_covers_image {r s : CaseRun} {n : Nat} (h : r.avoids s = true) (hn : r.covers n = true) :
    s.covers (r.image n) = false := by
  simp only [covers, Bool.and_eq_true, decide_eq_true_eq, beq_iff_eq] at hn
  obtain ⟨⟨hf, hl⟩, hstep⟩ := hn
  rw [Bool.eq_false_iff]
  intro hs
  simp only [covers, Bool.and_eq_true, decide_eq_true_eq, beq_iff_eq] at hs
  obtain ⟨⟨hsf, hsl⟩, hsstep⟩ := hs
  simp only [avoids, image, Bool.or_eq_true, Bool.and_eq_true, Nat.blt_eq, decide_eq_true_eq, beq_iff_eq]
    at h hsf hsl hsstep
  rcases h with (h | h) | ⟨⟨⟨h2, hr⟩, h0⟩, hp⟩
  · omega
  · omega
  · rw [h2] at hsstep
    rcases hr with hr | hr
    · rw [hr] at hstep
      omega
    · omega

/-- A run of one code point. -/
def CaseRun.point (n : Nat) : CaseRun := ⟨n, n, 1, 0⟩

theorem CaseRun.covers_point (n : Nat) : (point n).covers n = true := by
  simp [covers, point]

/-- What lowering never produces: the code points that it changes, the colon, the capital sigma, and the code points
that are no characters. -/
def unproduced : List CaseRun :=
  lowerRuns ++ (lowerExpansions.map fun e => .point e.point) ++ [.point 0x3A, .point 0x3A3, ⟨0xD800, 0xDFFF, 1, 0⟩]

/-- A code point that lowering may produce. -/
structure Produced (n : Nat) : Prop where
  lt : n < 0x110000
  not_covers : ∀ s ∈ unproduced, s.covers n = false

theorem lowerRuns_avoid :
    (lowerRuns.all fun r => (r.image r.last).blt 0x110000 && unproduced.all r.avoids) = true := by
  decide +kernel

theorem lowerExpansions_avoid :
    (lowerExpansions.all fun e => e.images.all fun m =>
      m.blt 0x110000 && unproduced.all fun s => !s.covers m) = true := by
  decide +kernel

theorem produced_image {r : CaseRun} {n : Nat} (hr : r ∈ lowerRuns) (hn : r.covers n = true) :
    Produced (r.image n) := by
  have h := List.all_eq_true.1 lowerRuns_avoid r hr
  simp only [Bool.and_eq_true, Nat.blt_eq, List.all_eq_true] at h
  refine ⟨?_, fun s hs => CaseRun.not_covers_image (h.2 s hs) hn⟩
  have hl := h.1
  simp only [CaseRun.covers, Bool.and_eq_true, decide_eq_true_eq] at hn
  simp only [CaseRun.image] at hl ⊢
  omega

theorem produced_expansion {e : CaseExpansion} {m : Nat} (he : e ∈ lowerExpansions) (hm : m ∈ e.images) :
    Produced m := by
  have h := List.all_eq_true.1 (List.all_eq_true.1 lowerExpansions_avoid e he) m hm
  simp only [Bool.and_eq_true, Nat.blt_eq, List.all_eq_true, Bool.not_eq_true'] at h
  exact ⟨h.1, h.2⟩

/-! ## Code points -/

/-- An image is produced by lowering, or it is a code point that has no lower-case form of its own. -/
theorem produced_of_mem_caseImages {n m : Nat} (h : m ∈ caseImages lowerRuns lowerExpansions n) :
    Produced m ∨ m = n ∧ caseImages lowerRuns lowerExpansions n = [n] := by
  rw [caseImages] at h ⊢
  cases hr : lowerRuns.find? (·.covers n) with
  | some r =>
    rw [hr] at h
    obtain rfl := List.mem_singleton.1 h
    have hn := List.find?_some hr
    exact .inl (produced_image (List.mem_of_find?_eq_some hr) hn)
  | none =>
    rw [hr] at h
    cases he : lowerExpansions.find? (·.point == n) with
    | some e =>
      rw [he] at h
      exact .inl (produced_expansion (List.mem_of_find?_eq_some he) h)
    | none =>
      rw [he] at h
      exact .inr ⟨List.mem_singleton.1 h, rfl⟩

namespace Produced

variable {n m : Nat}

theorem ne_of_point (h : Produced n) (hm : CaseRun.point m ∈ unproduced) : n ≠ m := by
  rintro rfl
  have hc := h.not_covers _ hm
  rw [CaseRun.covers_point] at hc
  cases hc

/-- What lowering produces, it does not change. -/
theorem caseImages_eq (h : Produced n) : caseImages lowerRuns lowerExpansions n = [n] := by
  have hr : lowerRuns.find? (·.covers n) = none := by
    refine List.find?_eq_none.2 fun r hr => ?_
    rw [h.not_covers r (by simp [unproduced, hr])]
    exact Bool.false_ne_true
  have he : lowerExpansions.find? (·.point == n) = none := by
    refine List.find?_eq_none.2 fun e he hn => ?_
    have hm : CaseRun.point e.point ∈ unproduced :=
      List.mem_append_left _ (List.mem_append_right _ (List.mem_map_of_mem he))
    exact h.ne_of_point hm (eq_of_beq hn).symm
  rw [caseImages, hr, he]

/-- What lowering produces are characters. -/
theorem toNat_ofNat (h : Produced n) : (Char.ofNat n).toNat = n := by
  have hs := h.not_covers ⟨0xD800, 0xDFFF, 1, 0⟩ (by simp [unproduced])
  have hl := h.lt
  simp [CaseRun.covers, Nat.mod_one] at hs
  rw [Char.ofNat, dif_pos (by simp only [Nat.isValidChar]; omega)]
  rfl

end Produced

/-! ## Characters -/

/-- The run of the ASCII letters. -/
theorem ascii_mem_lowerRuns : ⟨0x41, 0x5A, 1, 32⟩ ∈ lowerRuns :=
  List.mem_cons_self ..

theorem toNat_toLower (c : Char) :
    c.toLower.toNat = if 0x41 ≤ c.toNat ∧ c.toNat ≤ 0x5A then c.toNat + 32 else c.toNat := by
  have hc : c.val.toNat = c.toNat := rfl
  delta Char.toLower
  split
  · rename_i h
    have h₁ := UInt32.le_iff_toNat_le.1 h.1
    have h₂ := UInt32.le_iff_toNat_le.1 h.2
    rw [if_pos ⟨h₁, h₂⟩]
    show (c.val + 32).toNat = c.toNat + 32
    rw [UInt32.toNat_add, hc]
    have h₃ : c.toNat ≤ 90 := h₂
    simp only [UInt32.reduceToNat]
    omega
  · rename_i h
    rw [if_neg fun hn => h ⟨UInt32.le_iff_toNat_le.2 hn.1, UInt32.le_iff_toNat_le.2 hn.2⟩]

/-- A character of a lower-case form is produced by lowering, or it is a character that has no lower-case form of its
own. -/
theorem produced_of_mem_lowerForms {c m : Char} (h : m ∈ lowerForms c) :
    Produced m.toNat ∨ m = c ∧ lowerForms c = [c] := by
  rw [lowerForms] at h ⊢
  split at h
  · rename_i hc
    obtain rfl := List.mem_singleton.1 h
    rw [if_pos hc]
    have ht := toNat_toLower c
    split at ht
    · rename_i hu
      refine .inl ?_
      rw [ht]
      exact produced_image ascii_mem_lowerRuns (by simp [CaseRun.covers, hu, Nat.mod_one])
    · have he : c.toLower = c := Char.toNat_inj.1 ht
      exact .inr ⟨he, by rw [he]⟩
  · rename_i hc
    rw [if_neg hc]
    obtain ⟨k, hk, rfl⟩ := List.mem_map.1 h
    rcases produced_of_mem_caseImages hk with hp | ⟨rfl, he⟩
    · refine .inl ?_
      rw [hp.toNat_ofNat]
      exact hp
    · rw [he, Char.ofNat_toNat]
      exact .inr ⟨rfl, by rw [List.map_singleton, Char.ofNat_toNat]⟩

theorem Produced.lowerForms_eq {m : Char} (h : Produced m.toNat) : lowerForms m = [m] := by
  rw [lowerForms]
  split
  · have ha := h.not_covers _ (List.mem_append_left _ (List.mem_append_left _ ascii_mem_lowerRuns))
    simp [CaseRun.covers, Nat.mod_one] at ha
    have ht := toNat_toLower m
    rw [if_neg (by omega)] at ht
    rw [Char.toNat_inj.1 ht]
  · rw [h.caseImages_eq, List.map_singleton, Char.ofNat_toNat]

/-- A lower-case form is left alone. -/
theorem lowerForms_of_mem {c m : Char} (h : m ∈ lowerForms c) : lowerForms m = [m] := by
  rcases produced_of_mem_lowerForms h with hp | ⟨rfl, he⟩
  · exact hp.lowerForms_eq
  · exact he

/-- What lowering does not produce is in the lower-case form of itself at most. -/
theorem eq_of_mem_lowerForms {c m : Char} (hm : CaseRun.point m.toNat ∈ unproduced) (h : m ∈ lowerForms c) : c = m := by
  rcases produced_of_mem_lowerForms h with hp | ⟨he, -⟩
  · exact absurd rfl (hp.ne_of_point hm)
  · exact he.symm

theorem eq_of_colon_mem {c : Char} (h : ':' ∈ lowerForms c) : c = ':' :=
  eq_of_mem_lowerForms (List.mem_append_right _ (List.mem_cons_self ..)) h

theorem eq_of_sigma_mem {c : Char} (h : 'Σ' ∈ lowerForms c) : c = 'Σ' :=
  eq_of_mem_lowerForms (List.mem_append_right _ (List.mem_cons_of_mem _ (List.mem_cons_self ..))) h

theorem lowerForms_colon : lowerForms ':' = [':'] := by decide

theorem lowerExpansions_images_ne_nil : ∀ e ∈ lowerExpansions, e.images ≠ [] := by decide

theorem lowerForms_ne_nil (c : Char) : lowerForms c ≠ [] := by
  rw [lowerForms]
  split
  · exact List.cons_ne_nil _ _
  · rw [Ne, List.map_eq_nil_iff, caseImages]
    split
    · exact List.cons_ne_nil _ _
    · split
      · rename_i e he
        exact lowerExpansions_images_ne_nil e (List.mem_of_find?_eq_some he)
      · exact List.cons_ne_nil _ _

/-! ## Texts -/

/-- A character that lowering leaves alone wherever it stands. -/
def Settled (c : Char) : Prop :=
  c ≠ 'Σ' ∧ lowerForms c = [c]

/-- The characters that may stand for `c` in a lowered text. -/
def lowerImages (c : Char) : List Char :=
  if c = 'Σ' then ['σ', 'ς'] else lowerForms c

theorem lowerImages_of_ne {c : Char} (h : c ≠ 'Σ') : lowerImages c = lowerForms c :=
  if_neg h

theorem lowerSigma_mem (before after : List Char) : lowerSigma before after ∈ lowerImages 'Σ' := by
  rw [lowerSigma]
  split
  · decide
  · decide

theorem settled_of_mem_lowerImages {c m : Char} (h : m ∈ lowerImages c) : Settled m := by
  by_cases hc : c = 'Σ'
  · subst hc
    have hm : m = 'σ' ∨ m = 'ς' := by simpa [lowerImages] using h
    rcases hm with rfl | rfl
    · exact ⟨by decide, by decide +kernel⟩
    · exact ⟨by decide, by decide +kernel⟩
  · rw [lowerImages_of_ne hc] at h
    refine ⟨?_, lowerForms_of_mem h⟩
    rintro rfl
    exact hc (eq_of_sigma_mem h)

/-- Every character of a lowered text stands for one of the text. -/
theorem exists_of_mem_lowerAfter {before s : List Char} {m : Char} (h : m ∈ lowerAfter before s) :
    ∃ c ∈ s, m ∈ lowerImages c := by
  induction s generalizing before with
  | nil => cases h
  | cons d rest ih =>
    rw [lowerAfter] at h
    split at h
    · rename_i hd
      subst hd
      rcases List.mem_cons.1 h with rfl | h
      · exact ⟨'Σ', List.mem_cons_self .., lowerSigma_mem before rest⟩
      · obtain ⟨c, hc, hm⟩ := ih h
        exact ⟨c, List.mem_cons_of_mem _ hc, hm⟩
    · rename_i hd
      rcases List.mem_append.1 h with h | h
      · exact ⟨d, List.mem_cons_self .., by rwa [lowerImages_of_ne hd]⟩
      · obtain ⟨c, hc, hm⟩ := ih h
        exact ⟨c, List.mem_cons_of_mem _ hc, hm⟩

/-- Something stands for every character of a text when it is lowered. -/
theorem exists_mem_lowerAfter {s : List Char} {c : Char} (h : c ∈ s) (before : List Char) :
    ∃ m ∈ lowerAfter before s, m ∈ lowerImages c := by
  induction s generalizing before with
  | nil => cases h
  | cons d rest ih =>
    rw [lowerAfter]
    split
    · rename_i hd
      subst hd
      rcases List.mem_cons.1 h with rfl | h
      · exact ⟨_, List.mem_cons_self .., lowerSigma_mem before rest⟩
      · obtain ⟨m, hm, hc⟩ := ih h ('Σ' :: before)
        exact ⟨m, List.mem_cons_of_mem _ hm, hc⟩
    · rename_i hd
      rcases List.mem_cons.1 h with rfl | h
      · obtain ⟨m, hm⟩ := List.exists_mem_of_ne_nil _ (lowerForms_ne_nil c)
        exact ⟨m, List.mem_append_left _ hm, by rwa [lowerImages_of_ne hd]⟩
      · obtain ⟨m, hm, hc⟩ := ih h (d :: before)
        exact ⟨m, List.mem_append_right _ hm, hc⟩

theorem lowerAfter_of_settled {s : List Char} (h : ∀ c ∈ s, Settled c) (before : List Char) :
    lowerAfter before s = s := by
  induction s generalizing before with
  | nil => rfl
  | cons c rest ih =>
    obtain ⟨hc, hf⟩ := h c (List.mem_cons_self ..)
    rw [lowerAfter, if_neg hc, hf, ih fun d hd => h d (List.mem_cons_of_mem _ hd)]
    rfl

/-- Lowering a text again changes nothing. -/
theorem lower_lower (s : List Char) : lower (lower s) = lower s := by
  refine lowerAfter_of_settled (fun m hm => ?_) []
  obtain ⟨c, -, hc⟩ := exists_of_mem_lowerAfter hm
  exact settled_of_mem_lowerImages hc

theorem toLower_toLower (s : String) : toLower (toLower s) = toLower s := by
  rw [toLower, toLower, String.toList_ofList, lower_lower]

theorem lowerAfter_eq_flatMap {s : List Char} (h : 'Σ' ∉ s) (before : List Char) :
    lowerAfter before s = s.flatMap lowerForms := by
  induction s generalizing before with
  | nil => rfl
  | cons c rest ih =>
    have hc : c ≠ 'Σ' := fun he => h (he ▸ List.mem_cons_self ..)
    rw [lowerAfter, if_neg hc, ih fun hm => h (List.mem_cons_of_mem _ hm), List.flatMap_cons]

theorem lower_eq_flatMap {s : List Char} (h : 'Σ' ∉ s) : lower s = s.flatMap lowerForms :=
  lowerAfter_eq_flatMap h []

theorem colon_mem_lower {s : List Char} (h : ':' ∈ s) : ':' ∈ lower s := by
  obtain ⟨m, hm, hc⟩ := exists_mem_lowerAfter h []
  have hcolon : m = ':' := List.mem_singleton.1 hc
  rwa [hcolon] at hm

/-! ## Sigmas -/

/-- The capital sigma and its two lower-case forms. -/
def sigmas : List Char :=
  ['Σ', 'σ', 'ς']

theorem sigmas_lowered : (sigmas.all fun c => (lowerImages c).all sigmas.contains) = true := by
  decide +kernel

theorem mem_sigmas_of_mem_lowerImages {c m : Char} (hc : c ∈ sigmas) (hm : m ∈ lowerImages c) : m ∈ sigmas := by
  have h := List.all_eq_true.1 (List.all_eq_true.1 sigmas_lowered c hc) m hm
  exact List.contains_iff_mem.1 h

/-- A text with a sigma has one when it is lowered. -/
theorem exists_sigma_mem_lower {s : List Char} (h : ∃ c ∈ s, c ∈ sigmas) : ∃ m ∈ lower s, m ∈ sigmas := by
  obtain ⟨c, hc, hs⟩ := h
  obtain ⟨m, hm, hi⟩ := exists_mem_lowerAfter hc []
  exact ⟨m, hm, mem_sigmas_of_mem_lowerImages hs hi⟩

end ParticipantDirectory.Text
