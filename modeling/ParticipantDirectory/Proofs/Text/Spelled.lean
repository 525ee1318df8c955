import Mathlib.Data.List.Forall2
import ParticipantDirectory.Proofs.Password

/-!
# Texts that spell bytes

Bytes are read of exactly the texts that spell them (`decode_iff`): pairs of digits of either case, with white space
before, between and after the pairs but not inside one. So a text that spells bytes can be continued (`decode_append`),
has two digits for each byte, and keeps what it spells if the case of its digits is changed (`Spells.same`).
-/

namespace ParticipantDirectory.Text.Hex

/-- The character is a digit, of either case, of the value. -/
def IsDigit (c : Char) (v : Nat) : Prop :=
  (v < 10 ∧ c.toNat = '0'.toNat + v) ∨
    (10 ≤ v ∧ v < 16 ∧ (c.toNat = 'a'.toNat + (v - 10) ∨ c.toNat = 'A'.toNat + (v - 10)))

/-- The character is ASCII white space. -/
def IsSpace (c : Char) : Prop :=
  c ∈ [' ', '\t', '\n', '\x0b', '\x0c', '\r']

/-- The text spells the bytes: each is a pair of digits, of which the first counts for sixteen, and white space may stand
before, between and after the pairs. -/
inductive Spells : List Char → List UInt8 → Prop
  | nil : Spells [] []
  | space {c : Char} {s : List Char} {bs : List UInt8} (hc : IsSpace c) (h : Spells s bs) : Spells (c :: s) bs
  | pair {c d : Char} {high low : Nat} {s : List Char} {bs : List UInt8} (hc : IsDigit c high) (hd : IsDigit d low)
      (h : Spells s bs) : Spells (c :: d :: s) (UInt8.ofNat (16 * high + low) :: bs)

/-! ## Characters -/

theorem isSpace_iff (c : Char) : IsSpace c ↔ c.toNat = 0x20 ∨ (0x09 ≤ c.toNat ∧ c.toNat ≤ 0x0D) := by
  have hcode (d : Char) : c = d ↔ c.toNat = d.toNat := Char.toNat_inj.symm
  simp only [IsSpace, List.mem_cons, List.not_mem_nil, or_false, hcode, Char.reduceToNat]
  omega

theorem isGap_iff (c : Char) : isGap c = true ↔ IsSpace c := by
  rw [isSpace_iff, isGap, Bool.or_eq_true, Bool.and_eq_true, decide_eq_true_eq, decide_eq_true_eq, beq_iff_eq,
    ← Char.toNat_inj]
  rfl

theorem digitValue?_iff (c : Char) (v : Nat) : digitValue? c = some v ↔ IsDigit c v := by
  have hle (a b : Char) : a ≤ b ↔ a.toNat ≤ b.toNat := Iff.rfl
  simp only [digitValue?, IsDigit, hle, Char.reduceToNat]
  split
  · rw [Option.some.injEq]
    omega
  split
  · rw [Option.some.injEq]
    omega
  split
  · rw [Option.some.injEq]
    omega
  · simp only [reduceCtorEq, false_iff]
    omega

theorem IsDigit.not_space {c : Char} {v : Nat} (h : IsDigit c v) : ¬ IsSpace c := by
  rw [isSpace_iff]
  simp only [IsDigit, Char.reduceToNat] at h
  omega

/-! ## Reading -/

theorem decode_space {c : Char} (h : IsSpace c) (s : List Char) : decode (c :: s) = decode s := by
  have hgap := (isGap_iff c).2 h
  cases s with
  | nil => exact if_pos hgap
  | cons d rest => rw [decode, if_pos hgap]

theorem decode_pair {c d : Char} {high low : Nat} (hc : IsDigit c high) (hd : IsDigit d low) (s : List Char) :
    decode (c :: d :: s) = (decode s).map (UInt8.ofNat (16 * high + low) :: ·) := by
  have hgap : ¬ isGap c = true := fun h => hc.not_space ((isGap_iff c).1 h)
  rw [decode, if_neg hgap, (digitValue?_iff c high).2 hc, (digitValue?_iff d low).2 hd]

/-- What follows a text that spells bytes is read behind them. -/
theorem Spells.decode_append {s : List Char} {bs : List UInt8} (h : Spells s bs) (t : List Char) :
    decode (s ++ t) = (decode t).map (bs ++ ·) := by
  induction h with
  | nil => exact Option.map_id'.symm
  | space hc _ ih => rw [List.cons_append, decode_space hc, ih]
  | pair hc hd _ ih =>
    rw [List.cons_append, List.cons_append, decode_pair hc hd, ih, Option.map_map]
    rfl

theorem spells_of_decode {s : List Char} {bs : List UInt8} (h : decode s = some bs) : Spells s bs := by
  fun_induction decode s generalizing bs with
  | case1 =>
    cases h
    exact .nil
  | case2 c hgap =>
    cases h
    exact .space ((isGap_iff c).1 hgap) .nil
  | case3 => cases h
  | case4 c d rest hgap ih => exact .space ((isGap_iff c).1 hgap) (ih h)
  | case5 c d rest hgap high hc low hd ih =>
    obtain ⟨more, hm, rfl⟩ := Option.map_eq_some_iff.1 h
    exact .pair ((digitValue?_iff c _).1 ‹_›) ((digitValue?_iff d _).1 ‹_›) (ih hm)
  | case6 => cases h

/-- Bytes are read of the texts that spell them. -/
theorem decode_iff (s : List Char) (bs : List UInt8) : decode s = some bs ↔ Spells s bs := by
  refine ⟨spells_of_decode, fun h => ?_⟩
  have hs := h.decode_append []
  rwa [List.append_nil, decode, Option.map_some, List.append_nil] at hs

/-! ## What a text that spells bytes is made of -/

/-- White space spells nothing. -/
theorem spells_spaces {s : List Char} (h : ∀ c ∈ s, IsSpace c) : Spells s [] := by
  induction s with
  | nil => exact .nil
  | cons c rest ih =>
    obtain ⟨hc, hrest⟩ := List.forall_mem_cons.1 h
    exact .space hc (ih hrest)

theorem Spells.chars {s : List Char} {bs : List UInt8} (h : Spells s bs) {c : Char} (hc : c ∈ s) :
    IsSpace c ∨ ∃ v, IsDigit c v := by
  induction h with
  | nil => cases hc
  | space hspace _ ih =>
    rcases List.mem_cons.1 hc with rfl | hc
    · exact .inl hspace
    · exact ih hc
  | pair hd he _ ih =>
    rcases List.mem_cons.1 hc with rfl | hc
    · exact .inr ⟨_, hd⟩
    rcases List.mem_cons.1 hc with rfl | hc
    · exact .inr ⟨_, he⟩
    · exact ih hc

/-- Whether the character is a digit. -/
def isDigit (c : Char) : Bool :=
  (digitValue? c).isSome

theorem isDigit_iff (c : Char) : isDigit c = true ↔ ∃ v, IsDigit c v := by
  simp only [isDigit, Option.isSome_iff_exists, digitValue?_iff]

/-- A text that spells bytes has two digits for each of them. -/
theorem Spells.countP_isDigit {s : List Char} {bs : List UInt8} (h : Spells s bs) :
    s.countP isDigit = 2 * bs.length := by
  induction h with
  | nil => rfl
  | space hc _ ih =>
    have hno : ¬ isDigit _ = true := fun hd => ((isDigit_iff _).1 hd).elim fun _ hv => hv.not_space hc
    rw [List.countP_cons_of_neg hno, ih]
  | pair hc hd _ ih =>
    rw [List.countP_cons_of_pos ((isDigit_iff _).2 ⟨_, hc⟩), List.countP_cons_of_pos ((isDigit_iff _).2 ⟨_, hd⟩), ih,
      List.length_cons, Nat.mul_succ]

/-- The characters are the same, or digits of the same value. -/
def SameDigit (c d : Char) : Prop :=
  c = d ∨ ∃ v, IsDigit c v ∧ IsDigit d v

theorem IsDigit.value_unique {c : Char} {v v' : Nat} (h : IsDigit c v) (h' : IsDigit c v') : v = v' := by
  rw [← digitValue?_iff] at h h'
  exact Option.some.inj (h.symm.trans h')

theorem SameDigit.isDigit {c d : Char} {v : Nat} (h : SameDigit c d) (hc : IsDigit c v) : IsDigit d v := by
  rcases h with rfl | ⟨v', hc', hd⟩
  · exact hc
  · exact hc.value_unique hc' ▸ hd

theorem SameDigit.isSpace {c d : Char} (h : SameDigit c d) (hc : IsSpace c) : IsSpace d := by
  rcases h with rfl | ⟨v, hv, -⟩
  · exact hc
  · exact absurd hc hv.not_space

theorem SameDigit.symm {c d : Char} (h : SameDigit c d) : SameDigit d c :=
  h.imp Eq.symm fun ⟨v, hc, hd⟩ => ⟨v, hd, hc⟩

/-- What a text spells does not depend on the case of its digits. -/
theorem Spells.same {s t : List Char} {bs : List UInt8} (h : Spells s bs) (hs : List.Forall₂ SameDigit s t) :
    Spells t bs := by
  induction h generalizing t with
  | nil =>
    cases hs
    exact .nil
  | space hc _ ih =>
    obtain ⟨d, rest, hd, hrest, rfl⟩ := List.forall₂_cons_left_iff.1 hs
    exact .space (hd.isSpace hc) (ih hrest)
  | pair hc hd _ ih =>
    obtain ⟨c', rest, hc', hrest, rfl⟩ := List.forall₂_cons_left_iff.1 hs
    obtain ⟨d', more, hd', hmore, rfl⟩ := List.forall₂_cons_left_iff.1 hrest
    exact .pair (hc'.isDigit hc) (hd'.isDigit hd) (ih hmore)

end ParticipantDirectory.Text.Hex
