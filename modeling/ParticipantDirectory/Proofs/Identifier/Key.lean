import ParticipantDirectory.Identifier.Addressing

/-!
# Keys of participants

A canonical identifier is one that a raw text names under some rule. Its key splits into its scheme and its value
again (`split?_key`), so no two canonical identifiers have the same key (`key_injective`), whatever rules they come
from: under the simple rule the first separator of the raw text is that of the key, and a PEPPOL scheme has no
colon.
-/

namespace ParticipantDirectory

namespace Identifier

/-- Some raw text names the identifier under some rule. -/
def Canonical (p : Identifier) : Prop :=
  ∃ (rule : Addressing) (raw : String), rule.parse? raw = some p

/-- The first separator of a text stands behind any part of it that has no colon. -/
theorem splitChars_behind {a : List Char} (h : ':' ∉ a) (s : List Char) :
    splitChars (a ++ s) = (splitChars s).map fun parts => (a ++ parts.1, parts.2) := by
  induction a with
  | nil => exact Option.map_id'.symm
  | cons c rest ih =>
    have hc : c ≠ ':' := fun he => h (he ▸ List.mem_cons_self ..)
    rw [List.cons_append, splitChars, ih fun hm => h (List.mem_cons_of_mem _ hm), Option.map_map]
    · rfl
    · exact fun t he => absurd he hc

/-- A text without a colon before a separator. -/
theorem splitChars_append {a : List Char} (h : ':' ∉ a) (b : List Char) :
    splitChars (a ++ ':' :: ':' :: b) = some (a, b) := by
  rw [splitChars_behind h, splitChars, Option.map_some, List.append_nil]

theorem toList_key (p : Identifier) : p.key.toList = p.scheme.toList ++ ':' :: ':' :: p.value.toList := by
  rw [key, join, String.toList_append, String.toList_append, List.append_assoc]
  rfl

theorem split?_of_no_colon {p : Identifier} (h : ':' ∉ p.scheme.toList) : split? p.key = some (p.scheme, p.value) := by
  rw [split?, toList_key, splitChars_append h, Option.map_some, String.ofList_toList, String.ofList_toList]

/-- The key of the parts of a raw text is the raw text. -/
theorem key_of_split? {raw : String} {parts : String × String} (h : split? raw = some parts) :
    (⟨parts.1, parts.2⟩ : Identifier).key = raw := by
  obtain ⟨⟨a, b⟩, hs, rfl⟩ := Option.map_eq_some_iff.1 h
  apply String.toList_injective
  rw [toList_key, append_of_splitChars hs, String.toList_ofList, String.toList_ofList]

end Identifier

namespace Addressing

/-! ## PEPPOL schemes -/

/-- A character of a text is a hyphen or in a part between the hyphens. -/
theorem mem_hyphenParts {s : List Char} {c : Char} (h : c ∈ s) : c = '-' ∨ ∃ part ∈ hyphenParts s, c ∈ part := by
  induction s with
  | nil => cases h
  | cons d rest ih =>
    rw [hyphenParts]
    split
    · rename_i hd
      rcases List.mem_cons.1 h with rfl | h
      · exact .inl hd
      · refine (ih h).imp_right fun ⟨part, hp, hc⟩ => ⟨part, List.mem_cons_of_mem _ hp, hc⟩
    · cases hp : hyphenParts rest with
      | nil =>
        rw [hp] at ih
        rcases List.mem_cons.1 h with rfl | h
        · exact .inr ⟨[c], List.mem_cons_self .., List.mem_cons_self ..⟩
        · refine (ih h).imp_right fun ⟨_, hq, _⟩ => by cases hq
      | cons part parts =>
        rw [hp] at ih
        rcases List.mem_cons.1 h with rfl | h
        · exact .inr ⟨c :: part, List.mem_cons_self .., List.mem_cons_self ..⟩
        · refine (ih h).imp_right fun ⟨q, hq, hc⟩ => ?_
          rcases List.mem_cons.1 hq with rfl | hq
          · exact ⟨d :: q, List.mem_cons_self .., List.mem_cons_of_mem _ hc⟩
          · exact ⟨q, List.mem_cons_of_mem _ hq, hc⟩

/-- The characters of a PEPPOL scheme; the line feed is the one that may follow it. -/
theorem char_of_isSchemeText {s : List Char} (h : isSchemeText s = true) {c : Char} (hc : c ∈ s) :
    isRunChar c = true ∨ c = '-' ∨ c = '\n' := by
  obtain ⟨-, hall⟩ := (Bool.and_eq_true _ _).mp h
  have hd : ∀ d ∈ dropFinalNewline s, isRunChar d = true ∨ d = '-' := by
    intro d hd
    rcases mem_hyphenParts hd with he | ⟨part, hp, hm⟩
    · exact .inr he
    · obtain ⟨-, hrun⟩ := (Bool.and_eq_true _ _).mp (List.all_eq_true.1 hall part hp)
      exact .inl (List.all_eq_true.1 hrun d hm)
  rw [dropFinalNewline] at hd
  split at hd
  · rename_i hl
    obtain ⟨t, rfl⟩ := List.getLast?_eq_some_iff.1 hl
    rw [List.dropLast_concat] at hd
    rcases List.mem_append.1 hc with hc | hc
    · exact (hd c hc).imp_right .inl
    · exact .inr (.inr (List.mem_singleton.1 hc))
  · exact (hd c hc).imp_right .inl

theorem colon_not_mem_of_isSchemeText {s : List Char} (h : isSchemeText s = true) : ':' ∉ s := by
  intro hm
  rcases char_of_isSchemeText h hm with hr | hr | hr
  · exact absurd hr (by decide)
  · exact absurd hr (by decide)
  · exact absurd hr (by decide)

end Addressing

namespace Identifier

/-! ## Canonical identifiers -/

/-- The identifier that a rule makes of a scheme and a value. -/
theorem of_create? {rule : Addressing} {scheme value : String} {p : Identifier}
    (h : rule.create? scheme value = some p) :
    p = ⟨rule.normalize scheme, rule.normalize value⟩ ∧ rule.acceptsScheme p.scheme = true ∧
      rule.acceptsValue p.value = true := by
  rw [Addressing.create?] at h
  split at h
  · rename_i ha
    cases h
    exact ⟨rfl, (Bool.and_eq_true _ _).mp ha⟩
  · cases h

/-- The key of a canonical identifier splits into its scheme and its value. -/
theorem split?_key {p : Identifier} (h : p.Canonical) : split? p.key = some (p.scheme, p.value) := by
  obtain ⟨rule, raw, h⟩ := h
  obtain ⟨parts, hs, hc⟩ := Option.bind_eq_some_iff.1 h
  obtain ⟨rfl, ha, -⟩ := of_create? hc
  cases rule with
  | simple =>
    show split? (⟨parts.1, parts.2⟩ : Identifier).key = some parts
    rw [key_of_split? hs, hs]
  | peppol =>
    exact split?_of_no_colon
      (Addressing.colon_not_mem_of_isSchemeText ((Bool.and_eq_true _ _).mp ha).2)

/-- Canonical identifiers with the same key are the same. -/
theorem key_injective {p q : Identifier} (hp : p.Canonical) (hq : q.Canonical) (h : p.key = q.key) : p = q := by
  have hs : some (p.scheme, p.value) = some (q.scheme, q.value) := by
    rw [← split?_key hp, ← split?_key hq, h]
  obtain ⟨h₁, h₂⟩ := Prod.mk.inj (Option.some.inj hs)
  cases p
  cases q
  cases h₁
  cases h₂
  rfl

end Identifier

end ParticipantDirectory
