import ParticipantDirectory.Proofs.Identifier.Key
import ParticipantDirectory.Proofs.Text.Lowered

/-!
# Normal forms of identifiers

The identifier that a rule makes is in normal form, so the rule makes it again of its own parts (`create?_self`), and
its key names it under the rule (`parse?_key`).

Under the PEPPOL rule a text and its lower-case form name the same participant (`parse?_toLower`). The separators of
the two stand at the same places, since no character but the colon is lowered to a colon and none to nothing, so
splitting commutes with lowering character by character (`splitChars_flatMap`). A capital sigma is not lowered
character by character, but a text with a sigma names nobody: what it is lowered to is no Latin-1 text.
-/

namespace ParticipantDirectory

namespace Addressing

theorem normalize_normalize (rule : Addressing) (s : String) :
    rule.normalize (rule.normalize s) = rule.normalize s := by
  cases rule with
  | simple => rfl
  | peppol => exact Text.toLower_toLower s

/-- What a rule makes of a scheme and a value depends on their normal forms only. -/
theorem create?_congr {rule : Addressing} {scheme scheme' value value' : String}
    (hs : rule.normalize scheme = rule.normalize scheme') (hv : rule.normalize value = rule.normalize value') :
    rule.create? scheme value = rule.create? scheme' value' := by
  simp only [create?, hs, hv]

/-- A rule makes an identifier again of the parts of the one it has made. -/
theorem create?_self {rule : Addressing} {scheme value : String} {p : Identifier}
    (h : rule.create? scheme value = some p) : rule.create? p.scheme p.value = some p := by
  obtain ⟨rfl, -, -⟩ := Identifier.of_create? h
  rw [← h]
  exact create?_congr (rule.normalize_normalize scheme) (rule.normalize_normalize value)

/-- The key of an identifier names it under the rule that made it, if it splits at the separator that was put into
it. -/
theorem parse?_of_split? {rule : Addressing} {scheme value : String} {p : Identifier}
    (h : rule.create? scheme value = some p) (hk : Identifier.split? p.key = some (p.scheme, p.value)) :
    rule.parse? p.key = some p := by
  rw [parse?, hk]
  exact create?_self h

/-- The key of an identifier that a raw text names is another name of it. -/
theorem parse?_key {rule : Addressing} {raw : String} {p : Identifier} (h : rule.parse? raw = some p) :
    rule.parse? p.key = some p := by
  have hk := Identifier.split?_key ⟨rule, raw, h⟩
  obtain ⟨parts, -, hc⟩ := Option.bind_eq_some_iff.1 h
  exact parse?_of_split? hc hk

/-- Under the simple rule the only name of an identifier is its key. -/
theorem key_eq_of_simple {raw : String} {p : Identifier} (h : simple.parse? raw = some p) : p.key = raw := by
  obtain ⟨parts, hs, hc⟩ := Option.bind_eq_some_iff.1 h
  obtain ⟨rfl, -, -⟩ := Identifier.of_create? hc
  exact Identifier.key_of_split? hs

/-! ## The PEPPOL rule -/

theorem isSchemeText_of_accepted {s : String} (h : peppol.acceptsScheme s = true) : isSchemeText s.toList = true :=
  ((Bool.and_eq_true _ _).mp h).2

/-- A scheme that the PEPPOL rule accepts once it is lowered has no colon. -/
theorem colon_not_mem_of_accepted {s : String} (h : peppol.acceptsScheme (Text.toLower s) = true) :
    ':' ∉ s.toList := by
  intro hm
  have hl := colon_not_mem_of_isSchemeText (isSchemeText_of_accepted h)
  rw [Text.toLower, String.toList_ofList] at hl
  exact hl (Text.colon_mem_lower hm)

/-- The identifier that the PEPPOL rule makes of a scheme and a value is named by its key, and by the text that joins
the two as they were given. -/
theorem parse?_of_create? {scheme value : String} {p : Identifier} (h : peppol.create? scheme value = some p) :
    peppol.parse? p.key = some p ∧ peppol.parse? (Identifier.join scheme value) = some p := by
  obtain ⟨rfl, hs, -⟩ := Identifier.of_create? h
  constructor
  · refine parse?_of_split? h (Identifier.split?_of_no_colon ?_)
    exact colon_not_mem_of_isSchemeText (isSchemeText_of_accepted hs)
  · have hj : Identifier.split? (Identifier.join scheme value) = some (scheme, value) :=
      Identifier.split?_of_no_colon (p := ⟨scheme, value⟩) (colon_not_mem_of_accepted hs)
    rw [parse?, hj]
    exact h

/-- The PEPPOL rule makes canonical identifiers. -/
theorem canonical_of_create? {scheme value : String} {p : Identifier} (h : peppol.create? scheme value = some p) :
    p.Canonical :=
  ⟨peppol, p.key, (parse?_of_create? h).1⟩

/-- A key names one participant: the identifier that has it, whether the identifier was read from a raw text or, under
the PEPPOL rule, made of a scheme and a value. -/
theorem keys_name_participants (rule : Addressing) :
    (∀ (raw : String) (p : Identifier), rule.parse? raw = some p →
      rule.parse? p.key = some p ∧ (rule = simple → p.key = raw)) ∧
    (∀ (raw raw' : String) (p q : Identifier), rule.parse? raw = some p → rule.parse? raw' = some q →
      p.key = q.key → p = q) ∧
    (∀ (scheme value : String) (p : Identifier), peppol.create? scheme value = some p →
      peppol.parse? p.key = some p ∧ peppol.parse? (Identifier.join scheme value) = some p) ∧
    (∀ (scheme value scheme' value' : String) (p q : Identifier), peppol.create? scheme value = some p →
      peppol.create? scheme' value' = some q → p.key = q.key → p = q) := by
  refine ⟨fun raw p h => ⟨parse?_key h, ?_⟩, fun raw raw' p q hp hq => ?_, fun scheme value p => parse?_of_create?,
    fun scheme value scheme' value' p q hp hq => ?_⟩
  · rintro rfl
    exact key_eq_of_simple h
  · exact Identifier.key_injective ⟨rule, raw, hp⟩ ⟨rule, raw', hq⟩
  · exact Identifier.key_injective (canonical_of_create? hp) (canonical_of_create? hq)

/-- The Kelvin sign is lowered to a letter of a PEPPOL scheme, one line feed may follow a scheme, and a value may begin
with colons; under the simple rule even the third of three colons is the value's. -/
theorem keys_name_participants_of_rare_texts :
    (peppol.parse? "\u212a-b-3\n::::\u0178:" = some ⟨"k-b-3\n", "::ÿ:"⟩ ∧
      peppol.parse? (⟨"k-b-3\n", "::ÿ:"⟩ : Identifier).key = some ⟨"k-b-3\n", "::ÿ:"⟩) ∧
    (simple.parse? "a:::b" = some ⟨"a", ":b"⟩ ∧ (⟨"a", ":b"⟩ : Identifier).key = "a:::b") := by
  have hp : peppol.parse? "\u212a-b-3\n::::\u0178:" = some ⟨"k-b-3\n", "::ÿ:"⟩ := by decide +kernel
  have hs : simple.parse? "a:::b" = some ⟨"a", ":b"⟩ := by decide +kernel
  exact ⟨⟨hp, ((keys_name_participants peppol).1 _ _ hp).1⟩, hs, ((keys_name_participants simple).1 _ _ hs).2 rfl⟩

end Addressing

/-! ## Texts that differ in case -/

namespace Identifier

/-- A text that does not begin with a colon does not do so when it is lowered. -/
theorem flatMap_ne_colon {s : List Char} (h : ∀ t, s ≠ ':' :: t) (t : List Char) :
    s.flatMap Text.lowerForms ≠ ':' :: t := by
  cases s with
  | nil => exact (List.cons_ne_nil _ _).symm
  | cons c rest =>
    rw [List.flatMap_cons]
    obtain ⟨m, ms, hm⟩ := List.exists_cons_of_ne_nil (Text.lowerForms_ne_nil c)
    have hmem : m ∈ Text.lowerForms c := hm ▸ List.mem_cons_self ..
    rw [hm, List.cons_append]
    intro he
    obtain ⟨rfl, -⟩ := List.cons.inj he
    exact h rest (by rw [Text.eq_of_colon_mem hmem])

/-- Splitting commutes with lowering character by character. -/
theorem splitChars_flatMap (s : List Char) :
    splitChars (s.flatMap Text.lowerForms) =
      (splitChars s).map fun parts => (parts.1.flatMap Text.lowerForms, parts.2.flatMap Text.lowerForms) := by
  fun_induction splitChars s with
  | case1 rest => rfl
  | case2 c rest hsep ih =>
    rw [List.flatMap_cons]
    by_cases hc : c = ':'
    · -- A colon that begins no separator: the text behind it does not begin with one.
      subst hc
      have hrest := flatMap_ne_colon fun t => hsep t rfl
      rw [Text.lowerForms_colon, List.singleton_append, splitChars, ih, Option.map_map, Option.map_map]
      · rfl
      · exact fun t _ => hrest t
    · have hno : ':' ∉ Text.lowerForms c := fun hm => hc (Text.eq_of_colon_mem hm)
      rw [splitChars_behind hno, ih, Option.map_map, Option.map_map]
      rfl
  | case3 => rfl

/-- The parts of a text without a capital sigma are lowered apart. -/
theorem split?_toLower {s : String} (h : 'Σ' ∉ s.toList) :
    split? (Text.toLower s) = (split? s).map fun parts => (Text.toLower parts.1, Text.toLower parts.2) := by
  rw [split?, split?, Text.toLower, String.toList_ofList, Text.lower_eq_flatMap h, splitChars_flatMap, Option.map_map,
    Option.map_map]
  refine Option.map_congr fun parts hp => ?_
  have hs := append_of_splitChars hp
  rw [hs] at h
  have h₁ : 'Σ' ∉ parts.1 := fun hm => h (List.mem_append_left _ hm)
  have h₂ : 'Σ' ∉ parts.2 := fun hm => h (by simp [hm])
  simp only [Function.comp_apply, Text.toLower, String.toList_ofList, Text.lower_eq_flatMap h₁,
    Text.lower_eq_flatMap h₂]

end Identifier

namespace Addressing

theorem toNat_le_of_isRunChar {c : Char} (h : isRunChar c = true) : c.toNat ≤ 0xFF := by
  simp only [isRunChar, Bool.or_eq_true, Bool.and_eq_true, decide_eq_true_eq, Char.le_def, UInt32.le_iff_toNat_le] at h
  show c.val.toNat ≤ 0xFF
  rcases h with ⟨-, h⟩ | ⟨-, h⟩
  · exact Nat.le_trans h (by decide)
  · exact Nat.le_trans h (by decide)

/-- The PEPPOL rule accepts Latin-1 schemes only. -/
theorem scheme_latin {s : String} (h : peppol.acceptsScheme s = true) : ∀ c ∈ s.toList, c.toNat ≤ 0xFF := by
  intro c hc
  rcases char_of_isSchemeText (isSchemeText_of_accepted h) hc with hr | rfl | rfl
  · exact toNat_le_of_isRunChar hr
  · decide
  · decide

/-- The PEPPOL rule accepts Latin-1 values only. -/
theorem value_latin {s : String} (h : peppol.acceptsValue s = true) : ∀ c ∈ s.toList, c.toNat ≤ 0xFF := by
  intro c hc
  obtain ⟨-, hall⟩ := (Bool.and_eq_true _ _).mp h
  exact of_decide_eq_true (List.all_eq_true.1 hall c hc)

theorem toNat_of_mem_sigmas {c : Char} (h : c ∈ Text.sigmas) : 0xFF < c.toNat := by
  simp only [Text.sigmas, List.mem_cons, List.not_mem_nil, or_false] at h
  rcases h with rfl | rfl | rfl <;> decide

/-- A text with a sigma has no Latin-1 lower-case form. -/
theorem not_latin_toLower {s : String} (h : ∃ c ∈ s.toList, c ∈ Text.sigmas) :
    ¬ ∀ c ∈ (Text.toLower s).toList, c.toNat ≤ 0xFF := by
  intro hl
  obtain ⟨m, hm, hs⟩ := Text.exists_sigma_mem_lower h
  rw [Text.toLower, String.toList_ofList] at hl
  exact absurd (hl m hm) (Nat.not_le_of_lt (toNat_of_mem_sigmas hs))

/-- Under the PEPPOL rule a text with a sigma names nobody. -/
theorem parse?_of_sigma {raw : String} (h : ∃ c ∈ raw.toList, c ∈ Text.sigmas) : peppol.parse? raw = none := by
  rw [Option.eq_none_iff_forall_ne_some]
  intro p hp
  obtain ⟨parts, hs, hc⟩ := Option.bind_eq_some_iff.1 hp
  obtain ⟨rfl, hsch, hval⟩ := Identifier.of_create? hc
  obtain ⟨c, hm, hc⟩ := h
  rw [← Identifier.key_of_split? hs, Identifier.toList_key] at hm
  have hcolon : c ≠ ':' := by
    rintro rfl
    exact absurd hc (by decide)
  rcases List.mem_append.1 hm with hm | hm
  · exact not_latin_toLower ⟨c, hm, hc⟩ (scheme_latin hsch)
  · have hm : c ∈ parts.2.toList := by simpa [hcolon] using hm
    exact not_latin_toLower ⟨c, hm, hc⟩ (value_latin hval)

/-- Under the PEPPOL rule a text and its lower-case form name the same participant, or both nobody. -/
theorem parse?_toLower (raw : String) : peppol.parse? (Text.toLower raw) = peppol.parse? raw := by
  by_cases h : 'Σ' ∈ raw.toList
  · have hsigma : ∃ c ∈ raw.toList, c ∈ Text.sigmas := ⟨'Σ', h, by decide⟩
    have hlower : ∃ c ∈ (Text.toLower raw).toList, c ∈ Text.sigmas := by
      rw [Text.toLower, String.toList_ofList]
      exact Text.exists_sigma_mem_lower hsigma
    rw [parse?_of_sigma hsigma, parse?_of_sigma hlower]
  · rw [parse?, parse?, Identifier.split?_toLower h, Option.bind_map]
    refine Option.bind_congr fun parts _ => ?_
    simp only [Function.comp_apply]
    have h₁ : peppol.normalize (Text.toLower parts.1) = peppol.normalize parts.1 := Text.toLower_toLower parts.1
    have h₂ : peppol.normalize (Text.toLower parts.2) = peppol.normalize parts.2 := Text.toLower_toLower parts.2
    rw [create?_congr h₁ h₂]

end Addressing

end ParticipantDirectory
