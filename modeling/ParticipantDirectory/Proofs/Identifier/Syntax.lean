import ParticipantDirectory.Proofs.Identifier.Normal
import ParticipantDirectory.Proofs.Text.Trimmed

/-!
# The syntax of PEPPOL identifiers

Under the PEPPOL rule a scheme is three runs of letters and digits joined by single hyphens (`Addressing.IsScheme`) and
a value is a short Latin-1 text without blanks at its ends (`Addressing.IsValue`), both looked at after they are
lowered. Texts are cut at their hyphens into the parts from which they are joined (`of_hyphenParts`,
`hyphenParts_append`), so the rule accepts three runs, but it lets one line feed follow them (`isSchemeText_iff`).
`peppol_identifiers` says what is accepted and that the line feed is all that is let in besides;
`accepts_line_feed` is a scheme of that kind.

A raw text is read at its first separator (`Identifier.IsFirstSplit`), whatever the rule.
-/

namespace ParticipantDirectory

namespace Identifier

/-- The two texts are the parts of a text before and after its first separator: they make the text with a separator
between them, and no other separator stands before that one. -/
def IsFirstSplit (raw before after : String) : Prop :=
  raw = join before after ∧ ∀ before' after', raw = join before' after' → before.length ≤ before'.length

end Identifier

namespace Addressing

/-- The text is a run of letters and digits. -/
def IsRun (s : List Char) : Prop :=
  s ≠ [] ∧ ∀ c ∈ s, ('a' ≤ c ∧ c ≤ 'z') ∨ ('0' ≤ c ∧ c ≤ '9')

/-- The text is three runs joined by single hyphens. -/
def IsScheme (s : List Char) : Prop :=
  ∃ a b c, s = a ++ '-' :: (b ++ '-' :: c) ∧ IsRun a ∧ IsRun b ∧ IsRun c

/-- The text is a value of at most 50 Latin-1 characters with no blank at its ends. -/
structure IsValue (s : List Char) : Prop where
  length : 1 ≤ s.length ∧ s.length ≤ 50
  latin : ∀ c ∈ s, c.toNat ≤ 0xFF
  first : ∀ c ∈ s.head?, Text.isBlank c = false
  last : ∀ c ∈ s.getLast?, Text.isBlank c = false

/-- The control characters. -/
def IsControl (c : Char) : Prop :=
  c.toNat < 0x20 ∨ (0x7F ≤ c.toNat ∧ c.toNat ≤ 0x9F)

/-! ## Hyphens -/

theorem hyphenParts_append {a : List Char} (h : '-' ∉ a) (s : List Char) :
    hyphenParts (a ++ '-' :: s) = a :: hyphenParts s := by
  induction a with
  | nil => exact if_pos rfl
  | cons c rest ih =>
    have hc : c ≠ '-' := fun he => h (he ▸ List.mem_cons_self ..)
    rw [List.cons_append, hyphenParts, if_neg hc, ih fun hm => h (List.mem_cons_of_mem _ hm)]

theorem hyphenParts_self {a : List Char} (h : '-' ∉ a) : hyphenParts a = [a] := by
  induction a with
  | nil => rfl
  | cons c rest ih =>
    have hc : c ≠ '-' := fun he => h (he ▸ List.mem_cons_self ..)
    rw [hyphenParts, if_neg hc, ih fun hm => h (List.mem_cons_of_mem _ hm)]

/-- No text is without parts. -/
theorem hyphenParts_ne_nil (s : List Char) : hyphenParts s ≠ [] := by
  cases s with
  | nil => exact List.cons_ne_nil _ _
  | cons c rest =>
    rw [hyphenParts]
    split
    · exact List.cons_ne_nil _ _
    · split <;> exact List.cons_ne_nil _ _

/-- A text is its only part, or its first part, a hyphen and a text that has the other parts. -/
theorem of_hyphenParts {s part : List Char} {parts : List (List Char)} (h : hyphenParts s = part :: parts) :
    (parts = [] ∧ s = part) ∨ ∃ t, s = part ++ '-' :: t ∧ hyphenParts t = parts := by
  induction s generalizing part with
  | nil =>
    cases h
    exact .inl ⟨rfl, rfl⟩
  | cons c rest ih =>
    rw [hyphenParts] at h
    split at h
    · next hc =>
      subst hc
      cases h
      exact .inr ⟨rest, rfl, rfl⟩
    · split at h
      · next p ps hp =>
        cases h
        rcases ih hp with ⟨rfl, rfl⟩ | ⟨t, rfl, ht⟩
        · exact .inl ⟨rfl, rfl⟩
        · exact .inr ⟨t, rfl, ht⟩
      · next hp => exact absurd hp (hyphenParts_ne_nil rest)

theorem isRun_iff (s : List Char) : isRun s = true ↔ IsRun s := by
  rw [isRun, Bool.and_eq_true, Bool.not_eq_true', List.isEmpty_eq_false_iff, List.all_eq_true, IsRun]
  refine and_congr_right fun _ => forall₂_congr fun c _ => ?_
  rw [isRunChar, Bool.or_eq_true, Bool.and_eq_true, Bool.and_eq_true, decide_eq_true_eq, decide_eq_true_eq,
    decide_eq_true_eq, decide_eq_true_eq]

theorem IsRun.no_hyphen {s : List Char} (h : IsRun s) : '-' ∉ s :=
  fun hm => absurd (h.2 _ hm) (by decide)

/-- Three parts that are runs make a scheme, and a scheme has three parts. -/
theorem hyphenParts_iff (s : List Char) :
    ((hyphenParts s).length = 3 ∧ (hyphenParts s).all isRun = true) ↔ IsScheme s := by
  constructor
  · rintro ⟨hl, hall⟩
    obtain ⟨a, b, c, hparts⟩ : ∃ a b c, hyphenParts s = [a, b, c] := by
      match hp : hyphenParts s, hl with
      | [a, b, c], _ => exact ⟨a, b, c, rfl⟩
    rw [hparts] at hall
    simp only [List.all_cons, List.all_nil, Bool.and_true, Bool.and_eq_true, isRun_iff] at hall
    rcases of_hyphenParts hparts with ⟨⟨⟩, -⟩ | ⟨t, rfl, ht⟩
    rcases of_hyphenParts ht with ⟨⟨⟩, -⟩ | ⟨u, rfl, hu⟩
    rcases of_hyphenParts hu with ⟨-, rfl⟩ | ⟨v, -, hv⟩
    · exact ⟨a, b, u, rfl, hall⟩
    · exact absurd hv (hyphenParts_ne_nil v)
  · rintro ⟨a, b, c, rfl, ha, hb, hc⟩
    rw [hyphenParts_append ha.no_hyphen, hyphenParts_append hb.no_hyphen, hyphenParts_self hc.no_hyphen]
    simp [isRun_iff, ha, hb, hc]

/-! ## Schemes and values -/

theorem IsScheme.mem {s : List Char} (h : IsScheme s) {c : Char} (hc : c ∈ s) :
    (('a' ≤ c ∧ c ≤ 'z') ∨ ('0' ≤ c ∧ c ≤ '9')) ∨ c = '-' := by
  obtain ⟨x, y, z, rfl, hx, hy, hz⟩ := h
  simp only [List.mem_append, List.mem_cons] at hc
  rcases hc with hc | rfl | hc | rfl | hc
  · exact .inl (hx.2 c hc)
  · exact .inr rfl
  · exact .inl (hy.2 c hc)
  · exact .inr rfl
  · exact .inl (hz.2 c hc)

theorem IsScheme.no_line_feed {s : List Char} (h : IsScheme s) : '\n' ∉ s :=
  fun hm => absurd (h.mem hm) (by decide)

/-- What the rule takes for a scheme: a scheme, and a scheme with one line feed behind it. -/
theorem isSchemeText_iff (s : List Char) :
    isSchemeText s = true ↔ IsScheme s ∨ ∃ t, s = t ++ ['\n'] ∧ IsScheme t := by
  rw [isSchemeText, Bool.and_eq_true, beq_iff_eq, hyphenParts_iff, dropFinalNewline]
  split
  · next hlast =>
    obtain ⟨t, rfl⟩ := List.getLast?_eq_some_iff.1 hlast
    rw [List.dropLast_concat]
    -- A text that ends with a line feed is no scheme itself.
    refine ⟨fun h => .inr ⟨t, rfl, h⟩, ?_⟩
    rintro (h | ⟨t', he, h⟩)
    · exact absurd (List.mem_append_right _ (List.mem_singleton_self _)) h.no_line_feed
    · rwa [(List.append_inj' he rfl).1]
  · next hlast =>
    refine ⟨.inl, ?_⟩
    rintro (h | ⟨t, rfl, -⟩)
    · exact h
    · exact absurd (List.getLast?_concat ..) hlast

theorem acceptsScheme_iff (s : String) : peppol.acceptsScheme s = true ↔
    s.length ≤ 25 ∧ (IsScheme s.toList ∨ ∃ t, s.toList = t ++ ['\n'] ∧ IsScheme t) := by
  rw [acceptsScheme, Bool.and_eq_true, Bool.and_eq_true, decide_eq_true_eq, decide_eq_true_eq, isSchemeText_iff]
  refine ⟨fun ⟨⟨_, hl⟩, h⟩ => ⟨hl, h⟩, fun ⟨hl, h⟩ => ⟨⟨?_, hl⟩, h⟩⟩
  rintro rfl
  rcases h with ⟨a, b, c, he, -⟩ | ⟨t, he, -⟩
  · exact absurd he.symm (by simp)
  · exact absurd he.symm (by simp)

/-- A text is as it is when trimmed exactly if no blank stands at its ends. -/
theorem strip_eq_self_iff (s : List Char) : Text.strip s = s ↔
    (∀ c ∈ s.head?, Text.isBlank c = false) ∧ ∀ c ∈ s.getLast?, Text.isBlank c = false := by
  refine ⟨fun h => ⟨fun c hc => ?_, fun c hc => ?_⟩, fun h => Text.strip_eq_self h.1 h.2⟩
  · rw [← h] at hc
    exact Text.head_stripLeft s c (Text.head_stripRight hc)
  · rw [← h] at hc
    exact Text.last_stripRight _ c hc

theorem acceptsValue_iff (s : String) : peppol.acceptsValue s = true ↔ IsValue s.toList := by
  have hne : s ≠ "" ↔ 1 ≤ s.length := by
    rw [Nat.one_le_iff_ne_zero, ne_eq, ne_eq, String.length_eq_zero_iff]
  have hlatin : s.toList.all (·.toNat ≤ 0xFF) = true ↔ ∀ c ∈ s.toList, c.toNat ≤ 0xFF := by
    simp only [List.all_eq_true, decide_eq_true_eq]
  rw [acceptsValue, Bool.and_eq_true, Bool.and_eq_true, Bool.and_eq_true, decide_eq_true_eq, decide_eq_true_eq,
    beq_iff_eq, strip_eq_self_iff, hne, hlatin, ← String.length_toList]
  constructor
  · rintro ⟨⟨hl, hfirst, hlast⟩, hlatin⟩
    exact ⟨hl, hlatin, hfirst, hlast⟩
  · rintro ⟨hl, hlatin, hfirst, hlast⟩
    exact ⟨⟨hl, hfirst, hlast⟩, hlatin⟩

/-- What the rule makes of a scheme and a value, and of which it makes something. -/
theorem create?_iff (scheme value : String) (p : Identifier) : peppol.create? scheme value = some p ↔
    p = ⟨Text.toLower scheme, Text.toLower value⟩ ∧ peppol.acceptsScheme (Text.toLower scheme) = true ∧
      peppol.acceptsValue (Text.toLower value) = true := by
  refine ⟨fun h => ?_, ?_⟩
  · obtain ⟨rfl, hs, hv⟩ := Identifier.of_create? h
    exact ⟨rfl, hs, hv⟩
  · rintro ⟨rfl, hs, hv⟩
    rw [create?, if_pos]
    · rfl
    · exact (Bool.and_eq_true _ _).mpr ⟨hs, hv⟩

end Addressing

namespace Identifier

/-! ## Separators -/

/-- No separator stands before the one at which a text is split. -/
theorem length_le_of_splitChars {s a b : List Char} (h : splitChars s = some (a, b)) {a' b' : List Char}
    (h' : s = a' ++ ':' :: ':' :: b') : a.length ≤ a'.length := by
  fun_induction splitChars s generalizing a b a' with
  | case1 rest =>
    cases h
    exact Nat.zero_le _
  | case2 c rest hsep ih =>
    obtain ⟨parts, hp, he⟩ := Option.map_eq_some_iff.1 h
    obtain ⟨rfl, rfl⟩ := Prod.mk.inj he
    cases a' with
    | nil =>
      obtain ⟨rfl, rfl⟩ := List.cons.inj h'
      exact absurd rfl (hsep b' rfl)
    | cons d more =>
      obtain ⟨rfl, hrest⟩ := List.cons.inj h'
      exact Nat.succ_le_succ (ih hp hrest)
  | case3 => cases h

/-- A text that is not split has no separator. -/
theorem no_separator {s : List Char} (h : splitChars s = none) (a b : List Char) : s ≠ a ++ ':' :: ':' :: b := by
  fun_induction splitChars s generalizing a with
  | case1 => cases h
  | case2 c rest hsep ih =>
    intro he
    cases a with
    | nil =>
      obtain ⟨rfl, rfl⟩ := List.cons.inj he
      exact absurd rfl (hsep b rfl)
    | cons d more => exact ih (Option.map_eq_none_iff.1 h) more (List.cons.inj he).2
  | case3 => exact (List.append_ne_nil_of_right_ne_nil _ (List.cons_ne_nil _ _)).symm

theorem toList_join (before after : String) :
    (join before after).toList = before.toList ++ ':' :: ':' :: after.toList :=
  toList_key ⟨before, after⟩

/-- A text is split at its first separator, and not at all if it has none. -/
theorem split?_cases (raw : String) :
    (∃ before after, IsFirstSplit raw before after ∧ split? raw = some (before, after)) ∨
      ((∀ before after, raw ≠ join before after) ∧ split? raw = none) := by
  cases hs : splitChars raw.toList with
  | none =>
    refine .inr ⟨fun before after he => ?_, by rw [split?, hs, Option.map_none]⟩
    exact no_separator hs before.toList after.toList (by rw [he, toList_join])
  | some parts =>
    have hsplit : split? raw = some (String.ofList parts.1, String.ofList parts.2) := by
      rw [split?, hs, Option.map_some]
    refine .inl ⟨_, _, ⟨(key_of_split? hsplit).symm, fun before' after' he => ?_⟩, hsplit⟩
    rw [String.length_ofList, ← String.length_toList]
    exact length_le_of_splitChars hs (show raw.toList = _ ++ ':' :: ':' :: after'.toList by rw [he, toList_join])

end Identifier

namespace Addressing

/-- A text is read by what the rule makes of the parts around its first separator. -/
theorem parse?_cases (rule : Addressing) (raw : String) :
    (∃ before after, Identifier.IsFirstSplit raw before after ∧ rule.parse? raw = rule.create? before after) ∨
      ((∀ before after, raw ≠ Identifier.join before after) ∧ rule.parse? raw = none) := by
  rcases Identifier.split?_cases raw with ⟨before, after, hfirst, hs⟩ | ⟨hno, hs⟩
  · exact .inl ⟨before, after, hfirst, by rw [parse?, hs, Option.bind_some]⟩
  · exact .inr ⟨hno, by rw [parse?, hs, Option.bind_none]⟩

/-- The characters of a scheme are no blanks, no control characters and no colons. -/
theorem IsScheme.visible {s : List Char} (h : IsScheme s) {c : Char} (hc : c ∈ s) :
    Text.isBlank c = false ∧ ¬ IsControl c ∧ c ≠ ':' := by
  have hrange : (0x61 ≤ c.toNat ∧ c.toNat ≤ 0x7A) ∨ (0x30 ≤ c.toNat ∧ c.toNat ≤ 0x39) ∨ c.toNat = 0x2D := by
    rcases h.mem hc with (⟨h₁, h₂⟩ | ⟨h₁, h₂⟩) | rfl
    · exact .inl ⟨h₁, h₂⟩
    · exact .inr (.inl ⟨h₁, h₂⟩)
    · exact .inr (.inr rfl)
  refine ⟨?_, ?_, ?_⟩
  · simp only [Text.isBlank, Bool.or_eq_false_iff, Bool.and_eq_false_iff, decide_eq_false_iff_not, beq_eq_false_iff_ne]
    omega
  · rw [IsControl]
    omega
  · rintro rfl
    exact absurd hrange (by decide)

/-- The PEPPOL rule takes a scheme and a value that have the syntax once they are lowered, and lets one line feed
follow the scheme. What it makes of them is their lower-case form. A raw text is read as the parts around its first
separator. So the line feed is the only character of an accepted scheme that is a blank or a control character, and no
character of it is a colon. -/
theorem peppol_identifiers (scheme value raw : String) :
    (∀ p : Identifier, peppol.create? scheme value = some p ↔
      p = ⟨Text.toLower scheme, Text.toLower value⟩ ∧ p.scheme.length ≤ 25 ∧
        (IsScheme p.scheme.toList ∨ ∃ t, p.scheme.toList = t ++ ['\n'] ∧ IsScheme t) ∧ IsValue p.value.toList) ∧
    ('\n' ∉ (Text.toLower scheme).toList → ∀ p : Identifier,
      (peppol.create? scheme value = some p ↔ p = ⟨Text.toLower scheme, Text.toLower value⟩ ∧
        p.scheme.length ≤ 25 ∧ IsScheme p.scheme.toList ∧ IsValue p.value.toList)) ∧
    (∀ rule : Addressing,
      (∃ before after, Identifier.IsFirstSplit raw before after ∧ rule.parse? raw = rule.create? before after) ∨
        ((∀ before after, raw ≠ Identifier.join before after) ∧ rule.parse? raw = none)) ∧
    (∀ p : Identifier, peppol.create? scheme value = some p →
      ∃ t, (p.scheme.toList = t ∨ p.scheme.toList = t ++ ['\n']) ∧
        ∀ c ∈ t, Text.isBlank c = false ∧ ¬ IsControl c ∧ c ≠ ':') := by
  have hcreate (p : Identifier) : peppol.create? scheme value = some p ↔
      p = ⟨Text.toLower scheme, Text.toLower value⟩ ∧ p.scheme.length ≤ 25 ∧
        (IsScheme p.scheme.toList ∨ ∃ t, p.scheme.toList = t ++ ['\n'] ∧ IsScheme t) ∧ IsValue p.value.toList := by
    rw [create?_iff, acceptsScheme_iff, acceptsValue_iff]
    refine and_congr_right ?_
    rintro rfl
    exact and_assoc
  refine ⟨hcreate, fun hno p => ?_, fun rule => rule.parse?_cases raw, fun p h => ?_⟩
  · rw [hcreate]
    refine and_congr_right ?_
    rintro rfl
    refine and_congr_right fun _ => and_congr_left fun _ => ⟨?_, .inl⟩
    rintro (h | ⟨t, ht, -⟩)
    · exact h
    · exact absurd (ht ▸ List.mem_append_right t (List.mem_singleton_self _)) hno
  · obtain ⟨-, -, hs | ⟨t, ht, hs⟩, -⟩ := (hcreate p).1 h
    · exact ⟨_, .inl rfl, fun c hc => hs.visible hc⟩
    · exact ⟨t, .inr ht, fun c hc => hs.visible hc⟩

/-- The Kelvin sign and a capital letter of a value are lowered to what the syntax allows; the text is split at the first
of its separators. -/
theorem peppol_identifiers_of_kelvin :
    '\n' ∉ (Text.toLower "\u212a-B-3").toList ∧
    (IsScheme "k-b-3".toList ∧ IsValue "0088::åb".toList) ∧
    (peppol.create? "\u212a-B-3" "0088::ÅB" = some ⟨"k-b-3", "0088::åb"⟩ ∧
      ∃ t, ("k-b-3".toList = t ∨ "k-b-3".toList = t ++ ['\n']) ∧
        ∀ c ∈ t, Text.isBlank c = false ∧ ¬ IsControl c ∧ c ≠ ':') ∧
    peppol.parse? "\u212a-B-3::0088::ÅB" = some ⟨"k-b-3", "0088::åb"⟩ := by
  have hno : '\n' ∉ (Text.toLower "\u212a-B-3").toList := by decide +kernel
  have hp : peppol.create? "\u212a-B-3" "0088::ÅB" = some ⟨"k-b-3", "0088::åb"⟩ := by decide +kernel
  obtain ⟨-, haccepts, -, hvisible⟩ := peppol_identifiers "\u212a-B-3" "0088::ÅB" "\u212a-B-3::0088::ÅB"
  obtain ⟨-, -, hs, hv⟩ := (haccepts hno _).1 hp
  exact ⟨hno, ⟨hs, hv⟩, ⟨hp, hvisible _ hp⟩, by decide +kernel⟩

/-- A line feed behind a scheme is let in, although no scheme has one. -/
theorem accepts_line_feed :
    peppol.create? "a-b-c\n" "x" = some ⟨"a-b-c\n", "x"⟩ ∧ ¬ IsScheme "a-b-c\n".toList := by
  refine ⟨by decide +kernel, fun h => ?_⟩
  exact h.no_line_feed (by decide)

end Addressing

end ParticipantDirectory
