import ParticipantDirectory.Proofs.Identifier.Syntax

/-!
# Schemes that can be separated

A key joins a scheme and a value as they are and is read at its first separator. That is the one which was put into it
exactly if the scheme can be separated from what follows: it has no separator itself and does not end with half of one
(`Identifier.split?_key_iff`). The PEPPOL rule accepts such schemes only. The simple rule accepts any text that is not
empty (`Addressing.simple_create?_iff`), so the key of an identifier that it makes names this identifier exactly if the
scheme can be separated (`Addressing.simple_parse?_key_iff`), and those identifiers have keys of their own.
-/

namespace ParticipantDirectory

namespace Identifier

/-- No separator begins in the scheme, whatever follows it: none stands in it, and it does not end with a colon. -/
structure Separable (scheme : String) : Prop where
  unsplit : ∀ before after, scheme ≠ join before after
  last : ∀ before, scheme ≠ before ++ ":"

theorem length_join (before after : String) : (join before after).length = before.length + 2 + after.length := by
  rw [join, String.length_append, String.length_append]
  rfl

/-- Behind a scheme in which no separator begins the first separator of a key is the one that was put there. -/
theorem Separable.length_le {s v a b : List Char} (hunsplit : ∀ t u, s ≠ t ++ ':' :: ':' :: u)
    (hlast : ∀ t, s ≠ t ++ [':']) (h : s ++ ':' :: ':' :: v = a ++ ':' :: ':' :: b) : s.length ≤ a.length := by
  rcases List.append_eq_append_iff.1 h with ⟨t, rfl, -⟩ | ⟨t, rfl, ht⟩
  · rw [List.length_append]
    exact Nat.le_add_right _ _
  · cases t with
    | nil => exact Nat.le_of_eq (congrArg List.length (List.append_nil a))
    | cons c rest =>
      obtain ⟨rfl, hrest⟩ := List.cons.inj ht
      cases rest with
      | nil => exact absurd rfl (hlast a)
      | cons d rest =>
        obtain ⟨rfl, -⟩ := List.cons.inj hrest
        exact absurd rfl (hunsplit a rest)

/-- The key of an identifier is read as the identifier exactly if its scheme can be separated. -/
theorem split?_key_iff (p : Identifier) : split? p.key = some (p.scheme, p.value) ↔ Separable p.scheme := by
  constructor
  · intro h
    obtain ⟨before, after, hfirst, hs⟩ | ⟨-, hs⟩ := split?_cases p.key
    · cases hs.symm.trans h
      -- A separator within the scheme would come first, and so would one whose first colon is the last of the scheme.
      refine ⟨fun a b he => ?_, fun a he => ?_⟩
      · have hkey : p.key = join a (join b p.value) := by
          rw [key, he]
          simp only [join, String.append_assoc]
        have hle := hfirst.2 _ _ hkey
        have hlength := length_join a b
        rw [← he] at hlength
        omega
      · have hkey : p.key = join a (":" ++ p.value) := by
          apply String.toList_injective
          simp [toList_key, toList_join, he]
        have hle := hfirst.2 _ _ hkey
        have hlength : p.scheme.length = a.length + 1 := by
          rw [he, String.length_append]
          rfl
        omega
    · cases hs.symm.trans h
  · intro h
    obtain ⟨before, after, hfirst, hs⟩ | ⟨hno, -⟩ := split?_cases p.key
    · have hkey : p.scheme.toList ++ ':' :: ':' :: p.value.toList = before.toList ++ ':' :: ':' :: after.toList := by
        rw [← toList_key, ← toList_join, hfirst.1]
      have hge := hfirst.2 p.scheme p.value rfl
      have hle : p.scheme.toList.length ≤ before.toList.length := by
        refine Separable.length_le (fun t u he => ?_) (fun t he => ?_) hkey
        · refine h.unsplit (String.ofList t) (String.ofList u) (String.toList_injective ?_)
          rw [toList_join, String.toList_ofList, String.toList_ofList, he]
        · refine h.last (String.ofList t) (String.toList_injective ?_)
          rw [String.toList_append, String.toList_ofList, he]
          rfl
      rw [← String.length_toList, ← String.length_toList] at hge
      obtain ⟨hscheme, hvalue⟩ := List.append_inj hkey (Nat.le_antisymm hle hge)
      rw [hs, String.toList_injective hscheme, String.toList_injective (List.cons.inj (List.cons.inj hvalue).2).2]
    · exact absurd rfl (hno p.scheme p.value)

end Identifier

namespace Addressing

open Identifier (Separable)

/-- The simple rule makes an identifier of any two texts that are not empty, as they are. -/
theorem simple_create?_iff (scheme value : String) (p : Identifier) :
    simple.create? scheme value = some p ↔ scheme ≠ "" ∧ value ≠ "" ∧ p = ⟨scheme, value⟩ := by
  constructor
  · intro h
    obtain ⟨rfl, hs, hv⟩ := Identifier.of_create? h
    exact ⟨of_decide_eq_true hs, of_decide_eq_true hv, rfl⟩
  · rintro ⟨hs, hv, rfl⟩
    exact if_pos ((Bool.and_eq_true _ _).mpr ⟨decide_eq_true hs, decide_eq_true hv⟩)

/-- The key of an identifier that the simple rule has made names it exactly if its scheme can be separated. -/
theorem simple_parse?_key_iff {scheme value : String} {p : Identifier} (h : simple.create? scheme value = some p) :
    simple.parse? p.key = some p ↔ Separable p.scheme := by
  rw [← Identifier.split?_key_iff]
  refine ⟨fun hp => ?_, parse?_of_split? h⟩
  obtain ⟨parts, hs, hc⟩ := Option.bind_eq_some_iff.1 hp
  obtain ⟨-, -, rfl⟩ := (simple_create?_iff _ _ _).1 hc
  exact hs

/-- If a rule makes of a scheme and a value an identifier that it also reads from a text, the scheme can be separated. -/
theorem separable_of_create? {rule : Addressing} {raw scheme value : String} {p : Identifier}
    (hp : rule.parse? raw = some p) (h : rule.create? scheme value = some p) : Separable scheme := by
  have hsplit : Identifier.split? (Identifier.join scheme value) = some (scheme, value) := by
    cases rule with
    | simple =>
      obtain ⟨-, -, rfl⟩ := (simple_create?_iff _ _ _).1 h
      exact Identifier.split?_key (p := ⟨scheme, value⟩) ⟨simple, raw, hp⟩
    | peppol =>
      obtain ⟨rfl, hs, -⟩ := Identifier.of_create? h
      exact Identifier.split?_of_no_colon (p := ⟨scheme, value⟩) (colon_not_mem_of_accepted hs)
  exact (Identifier.split?_key_iff ⟨scheme, value⟩).1 hsplit

/-- A scheme that can be separated and a value are written as the key of an identifier only if they are its parts. -/
theorem create?_of_join {rule : Addressing} {raw scheme value : String} {p : Identifier} (hp : rule.parse? raw = some p)
    (hs : Separable scheme) (h : Identifier.join scheme value = p.key) : rule.create? scheme value = some p := by
  have hsplit : some (scheme, value) = some (p.scheme, p.value) := by
    rw [← (Identifier.split?_key_iff ⟨scheme, value⟩).2 hs, ← Identifier.split?_key ⟨rule, raw, hp⟩, ← h]
    rfl
  obtain ⟨rfl, rfl⟩ := Prod.mk.inj (Option.some.inj hsplit)
  obtain ⟨parts, -, hc⟩ := Option.bind_eq_some_iff.1 hp
  exact create?_self hc

/-- What is made of a scheme and a value, or what they are if nothing is made of them, has the key of an identifier that
it is not exactly if the two are written as this key. -/
theorem key_eq_iff {rule : Addressing} {raw scheme value : String} {p : Identifier} (hp : rule.parse? raw = some p)
    (hne : rule.create? scheme value ≠ some p) :
    ((rule.create? scheme value).getD ⟨scheme, value⟩).key = p.key ↔ Identifier.join scheme value = p.key := by
  cases hq : rule.create? scheme value with
  | none => exact Iff.rfl
  | some q =>
    rw [hq] at hne
    cases rule with
    | simple =>
      obtain ⟨-, -, rfl⟩ := (simple_create?_iff _ _ _).1 hq
      exact Iff.rfl
    | peppol =>
      refine iff_of_false (fun h => hne ?_) fun h => hne ?_
      · exact congrArg some (Identifier.key_injective (canonical_of_create? hq) ⟨peppol, raw, hp⟩ h)
      · rw [← (parse?_of_create? hq).2, h]
        exact parse?_key hp

theorem canonical_of_separable {scheme value : String} {p : Identifier} (h : simple.create? scheme value = some p)
    (hs : Separable p.scheme) : p.Canonical :=
  ⟨simple, p.key, (simple_parse?_key_iff h).2 hs⟩

end Addressing

end ParticipantDirectory
