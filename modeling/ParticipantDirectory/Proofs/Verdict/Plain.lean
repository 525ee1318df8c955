import ParticipantDirectory.Card.Payload
import ParticipantDirectory.Proofs.Text.Trimmed
import ParticipantDirectory.Proofs.Verdict.Accepted
import ParticipantDirectory.Proofs.Verdict.Grammar

/-!
# Grammars of texts and dates

The values without parts: texts within limits of their length (`Grammar.text`), texts that are not blank
(`Grammar.visible`), pairs of letters (`Grammar.letterPair`), and dates (`Grammar.date`). Lengths are counted in
characters and before a text is trimmed. One thing at most is reported of such a value, and each definition says which:
of a text that is no pair of letters only that, of a text that is too long or too short not whether it is blank.
-/

namespace ParticipantDirectory

open Verdict

namespace Grammar

/-! ## Texts -/

/-- Any text, whole or not. -/
def anyText : Grammar :=
  plain (fun v => ∃ t, v.loose? = some t) fun v k => v.loose? = none ∧ k = .notText

/-- What is wrong with a value that is no whole text: it is a text with a lone surrogate, or no text at all. -/
inductive WrongKind : Json → ViolationKind → Prop
  | broken (b : Text.Broken) : WrongKind (.broken b) .brokenText
  | other {v : Json} (h : v.loose? = none) : WrongKind v .notText

/-- The value is a text of a length within limits. -/
def IsText (least most : Nat) (v : Json) : Prop :=
  ∃ s, v = .str s ∧ least ≤ s.length ∧ s.length ≤ most

/-- What is wrong with a value that is not a text of a length within limits. -/
inductive WrongText (least most : Nat) : Json → ViolationKind → Prop
  | kind {v : Json} {k : ViolationKind} (h : WrongKind v k) : WrongText least most v k
  | long {s : String} (h : most < s.length) : WrongText least most (.str s) (.textTooLong most)
  | short {s : String} (h : s.length ≤ most) (h' : s.length < least) :
    WrongText least most (.str s) (.textTooShort least)

/-- A text of a length within limits. -/
def text (least most : Nat) : Grammar :=
  plain (IsText least most) (WrongText least most)

/-- What is wrong with a value that is not a visible text of 1 to `most` characters. -/
inductive WrongVisible (most : Nat) : Json → ViolationKind → Prop
  | text {v : Json} {k : ViolationKind} (h : WrongText 1 most v k) : WrongVisible most v k
  | blank {s : String} (h : IsText 1 most (.str s)) (h' : ∀ c ∈ s.toList, Text.isBlank c = true) :
    WrongVisible most (.str s) .blankName

/-- A text of 1 to `most` characters, one of which at least is not blank. -/
def visible (most : Nat) : Grammar :=
  plain (fun v => IsText 1 most v ∧ ∃ s, v = .str s ∧ ∃ c ∈ s.toList, Text.isBlank c = false) (WrongVisible most)

/-- The value is a text of two characters from `first` to `last`. -/
def IsLetterPair (first last : Char) (v : Json) : Prop :=
  ∃ s a b, v = .str s ∧ s.toList = [a, b] ∧ (first ≤ a ∧ a ≤ last) ∧ first ≤ b ∧ b ≤ last

/-- What is wrong with a value that is not such a pair. -/
inductive WrongPair (first last : Char) (pattern : String) : Json → ViolationKind → Prop
  | kind {v : Json} {k : ViolationKind} (h : WrongKind v k) : WrongPair first last pattern v k
  | form {s : String} (h : ¬IsLetterPair first last (.str s)) :
    WrongPair first last pattern (.str s) (.textPattern pattern)

/-- A text of two characters from `first` to `last`; `pattern` says so in messages. -/
def letterPair (first last : Char) (pattern : String) : Grammar :=
  plain (IsLetterPair first last) (WrongPair first last pattern)

/-! ## Dates -/

/-- A text or a number as the date that it is read as, or as what is the matter with it as a date. A number beyond all
floating-point numbers is not read at all. -/
inductive Dated : Json → Except Calendar.DateProblem Calendar.Date → Prop
  | text (s : String) : Dated (.str s) (Calendar.Date.ofString s)
  | whole {n : Int} {r : Except Calendar.DateProblem Calendar.Date} (h : Calendar.Date.ofWhole? n = some r) :
    Dated (.int n) r
  | real (x : Float) : Dated (.real x) (Calendar.Date.ofReal x)

/-- What is wrong with a value that is not a date. A text with a lone surrogate is not read as one. -/
inductive WrongDate : Json → ViolationKind → Prop
  | broken (b : Text.Broken) : WrongDate (.broken b) .brokenText
  | kind {v : Json} (hb : ∀ b, v ≠ .broken b) (h : ∀ r, ¬Dated v r) : WrongDate v .notDate
  | problem {v : Json} {p : Calendar.DateProblem} (h : Dated v (.error p)) : WrongDate v (.date p)

/-- A text or a number that is read as a date. -/
def date : Grammar :=
  plain (fun v => ∃ d, Dated v (.ok d)) WrongDate

/-! ## Readers -/

variable {α : Type} {names : List String} {g : Grammar}

/-- A reader that accepts null, and otherwise obeys the grammar. -/
theorem obeys_nullable {read? : Json → Verdict α} (hnull : ∃ a, read? .null = .accepted a)
    (h : ∀ v, v ≠ .null → (read? v).Accounts names (g.right v) (g.wrong v)) : (nullable g).Obeys names read? := by
  intro v
  by_cases hv : v = .null
  · subst hv
    obtain ⟨a, ha⟩ := hnull
    rw [ha]
    exact accounts_accepted (.inl rfl) fun _ hw => hw.1 rfl
  · exact (h v hv).congr (or_iff_right hv) fun w => and_iff_right hv

/-- A text that may be null. -/
theorem obeys_decode? {r : TextRule} (h : g.Obeys names r.decode) : (nullable g).Obeys names r.decode? := by
  refine obeys_nullable ⟨none, rfl⟩ fun v hv => ?_
  rw [TextRule.decode?]
  · exact (h v).map some
  · exact hv

theorem exists_wrongKind {v : Json} (h : ∀ s, v ≠ .str s) : ∃ k, WrongKind v k := by
  cases v with
  | str s => exact absurd rfl (h s)
  | broken b => exact ⟨_, .broken b⟩
  | null | bool b | int n | real x | arr vs | obj ms => exact ⟨_, .other rfl⟩

namespace WrongKind

variable {v : Json} {k : ViolationKind}

theorem ne_str (h : WrongKind v k) (s : String) : v ≠ .str s := by
  rintro rfl
  cases h with
  | other hnone => cases hnone

theorem unique {k' : ViolationKind} (h : WrongKind v k) (h' : WrongKind v k') : k' = k := by
  cases h with
  | broken b =>
    cases h' with
    | broken => rfl
    | other hnone => cases hnone
  | other hnone =>
    cases h' with
    | broken b => cases hnone
    | other => rfl

theorem decode (h : WrongKind v k) (r : TextRule) : r.decode v = refuse k := by
  cases h with
  | broken b => rfl
  | other hnone =>
    cases v with
    | str s | broken b => cases hnone
    | null | bool b | int n | real x | arr vs | obj ms => rfl

end WrongKind

/-- A reader that wants a whole text, and refuses every other value as none. -/
theorem obeys_of_text {read : Json → Verdict α} {right : Json → Prop} {wrong : Json → ViolationKind → Prop}
    (hother : ∀ v k, WrongKind v k → read v = refuse k) (hr : ∀ v, right v → ∃ s, v = .str s)
    (hw : ∀ v, (∀ s, v ≠ .str s) → ∀ k, wrong v k ↔ WrongKind v k)
    (h : ∀ s, (read (.str s)).Accounts names ((plain right wrong).right (.str s)) ((plain right wrong).wrong (.str s))) :
    (plain right wrong).Obeys names read := by
  intro v
  by_cases hv : ∃ s, v = .str s
  · obtain ⟨s, rfl⟩ := hv
    exact h s
  · have hne : ∀ s, v ≠ .str s := fun s he => hv ⟨s, he⟩
    obtain ⟨k, hk⟩ := exists_wrongKind hne
    rw [hother v k hk]
    exact accounts_plain_refused (fun hright => hv (hr v hright)) fun k' =>
      (hw v hne k').trans ⟨hk.unique, fun he => he ▸ hk⟩

theorem obeys_anyText : anyText.Obeys names Verdict.anyText := by
  intro v
  rw [Verdict.anyText]
  cases hv : v.loose? with
  | some t => exact accounts_plain_accepted ⟨t, hv⟩ fun k ⟨hnone, _⟩ => by cases hv.symm.trans hnone
  | none =>
    exact accounts_plain_refused (fun ⟨t, ht⟩ => by cases hv.symm.trans ht) fun k => and_iff_right hv

theorem wrongText_iff_of_not_text {least most : Nat} {v : Json} (h : ∀ s, v ≠ .str s) (k : ViolationKind) :
    WrongText least most v k ↔ WrongKind v k := by
  refine ⟨?_, .kind⟩
  rintro (hk | ⟨-⟩ | ⟨-, -⟩)
  · exact hk
  · exact absurd rfl (h _)
  · exact absurd rfl (h _)

/-- The verdict on a text whose length is to be within limits. -/
theorem accounts_limits (least most : Nat) (s : String) : (TextRule.check ⟨least, some most, none⟩ s).Accounts names
    ((text least most).right (.str s)) ((text least most).wrong (.str s)) := by
  have hlength : IsText least most (.str s) ↔ least ≤ s.length ∧ s.length ≤ most :=
    ⟨fun ⟨_, he, hs⟩ => by cases he; exact hs, fun hs => ⟨s, rfl, hs⟩⟩
  simp only [TextRule.check, TextRule.violation?, Option.any_some, decide_eq_true_eq]
  by_cases hmost : most < s.length
  · rw [if_pos hmost]
    refine accounts_plain_refused (by rw [hlength]; omega) fun k => ⟨?_, ?_⟩
    · rintro (hk | ⟨-⟩ | ⟨hle, -⟩)
      · exact absurd rfl (hk.ne_str s)
      · rfl
      · exact absurd hle (Nat.not_le.2 hmost)
    · rintro rfl
      exact .long hmost
  rw [if_neg hmost]
  by_cases hleast : s.length < least
  · rw [if_pos hleast]
    refine accounts_plain_refused (by rw [hlength]; omega) fun k => ⟨?_, ?_⟩
    · rintro (hk | ⟨hlt⟩ | ⟨-, -⟩)
      · exact absurd rfl (hk.ne_str s)
      · exact absurd hlt hmost
      · rfl
    · rintro rfl
      exact .short (Nat.not_lt.1 hmost) hleast
  rw [if_neg hleast]
  refine accounts_plain_accepted (hlength.2 (by omega)) ?_
  rintro k (hk | ⟨hlt⟩ | ⟨-, hlt⟩)
  · exact hk.ne_str s rfl
  · exact hmost hlt
  · exact hleast hlt

theorem obeys_text (names : List String) (least most : Nat) :
    (text least most).Obeys names (TextRule.decode ⟨least, some most, none⟩) :=
  obeys_of_text (fun _ _ hk => hk.decode _) (fun _ ⟨s, he, _⟩ => ⟨s, he⟩)
    (fun _ hne => wrongText_iff_of_not_text hne) (accounts_limits least most)

/-- The verdict on a text that is trimmed after its length was looked at, and must not be blank. -/
theorem accounts_trimmed (most : Nat) (s : String) : (PartyName.trimmed ((TextRule.filled most).check s)).Accounts names
    ((visible most).right (.str s)) ((visible most).wrong (.str s)) := by
  have hlimits : ((TextRule.filled most).check s).Accounts names _ _ := accounts_limits 1 most s
  cases hc : (TextRule.filled most).check s with
  | refused vs =>
    -- The length is wrong, so it does not matter whether the text is blank.
    have hn : ¬IsText 1 most (.str s) := fun hr => by
      obtain ⟨_, ha⟩ := hlimits.accepts.2 hr
      cases hc.symm.trans ha
    rw [hc] at hlimits
    have hsame : ∀ k, WrongVisible most (.str s) k ↔ WrongText 1 most (.str s) k := fun k => by
      refine ⟨?_, .text⟩
      rintro (h | ⟨h, -⟩)
      · exact h
      · exact absurd h hn
    exact hlimits.congr ⟨fun hr => hr.1, fun hr => absurd hr hn⟩ fun w => and_congr_right fun _ => hsame w.kind
  | accepted s' =>
    obtain ⟨rfl, -⟩ := TextRule.check_accepted hc
    have hr : IsText 1 most (.str s') := hlimits.accepts.1 ⟨s', hc⟩
    have hw : ∀ k, ¬WrongText 1 most (.str s') k := fun k hk => by
      have hmem := (hlimits.lists ⟨[], k⟩).2 ⟨rfl, hk⟩
      rw [hc] at hmem
      cases hmem
    rw [PartyName.trimmed]
    by_cases hblank : ∀ c ∈ s'.toList, Text.isBlank c = true
    · rw [if_pos ((Text.trim_eq_empty_iff s').2 hblank)]
      refine accounts_plain_refused ?_ fun k => ⟨?_, ?_⟩
      · rintro ⟨-, _, ⟨⟩, c, hc, hseen⟩
        rw [hblank c hc] at hseen
        cases hseen
      · rintro (h | ⟨-, -⟩)
        · exact absurd h (hw k)
        · rfl
      · rintro rfl
        exact .blank hr hblank
    · rw [if_neg fun he => hblank ((Text.trim_eq_empty_iff s').1 he)]
      refine accounts_plain_accepted ⟨hr, s', rfl, ?_⟩ ?_
      · simpa using hblank
      · rintro k (h | ⟨-, h⟩)
        · exact hw k h
        · exact hblank h

theorem obeys_visible (names : List String) (most : Nat) :
    (visible most).Obeys names fun v => PartyName.trimmed ((TextRule.filled most).decode v) := by
  refine obeys_of_text (fun v k hk => ?_) (fun v ⟨_, s, he, _⟩ => ⟨s, he⟩)
    (fun v hne k => ⟨?_, fun hk => .text (.kind hk)⟩) fun s => ?_
  · rw [hk.decode]
    rfl
  · rintro (h | ⟨-, -⟩)
    · exact (wrongText_iff_of_not_text hne k).1 h
    · exact absurd rfl (hne _)
  · exact accounts_trimmed most s

/-! ## Pairs of letters -/

theorem matches_iff (f : TextForm) {first last : Char} (hf : ∀ c, f.allows c = true ↔ first ≤ c ∧ c ≤ last) (s : String) :
    f.matches s = true ↔ IsLetterPair first last (.str s) := by
  constructor
  · intro h
    rw [TextForm.matches] at h
    split at h
    · next a b hab =>
      rw [Bool.and_eq_true, hf, hf] at h
      exact ⟨s, a, b, rfl, hab, h⟩
    · cases h
  · rintro ⟨_, a, b, he, hab, h⟩
    cases he
    rw [TextForm.matches, hab]
    dsimp only
    rw [Bool.and_eq_true, hf, hf]
    exact h

theorem obeys_letterPair (names : List String) (f : TextForm) {first last : Char}
    (hf : ∀ c, f.allows c = true ↔ first ≤ c ∧ c ≤ last) :
    (letterPair first last f.pattern).Obeys names (TextRule.ofForm f).decode := by
  refine obeys_of_text (fun _ _ hk => hk.decode _) (fun _ ⟨s, _, _, he, _⟩ => ⟨s, he⟩)
    (fun v hne k => ⟨?_, .kind⟩) fun s => ?_
  · rintro (hk | ⟨-⟩)
    · exact hk
    · exact absurd rfl (hne _)
  · have hs := matches_iff f hf s
    show (TextRule.check _ s).Accounts names _ _
    cases hm : f.matches s with
    | true =>
      rw [TextRule.check_eq_accepted (by simp [TextRule.violation?, TextRule.ofForm, hm])]
      refine accounts_plain_accepted (hs.1 hm) ?_
      rintro k (hk | ⟨hn⟩)
      · exact hk.ne_str s rfl
      · exact hn (hs.1 hm)
    | false =>
      have hn : ¬IsLetterPair first last (.str s) := by
        rw [← hs, hm]
        exact Bool.false_ne_true
      have hv : (TextRule.ofForm f).violation? s = some (.textPattern f.pattern) := by
        simp [TextRule.violation?, TextRule.ofForm, Option.filter, hm]
      rw [TextRule.check, hv]
      refine accounts_plain_refused hn fun k => ⟨?_, ?_⟩
      · rintro (hk | ⟨-⟩)
        · exact absurd rfl (hk.ne_str s)
        · rfl
      · rintro rfl
        exact .form hn

/-! ## Dates -/

/-- The verdict on what was read as a date, or not as one. -/
theorem accounts_ofDate {v : Json} {r : Except Calendar.DateProblem Calendar.Date}
    (hb : ∀ b, v ≠ .broken b) (h : ∀ r', Dated v r' ↔ r' = r) :
    (date?.ofDate r).Accounts names (date.right v) (date.wrong v) := by
  cases r with
  | ok d =>
    refine accounts_plain_accepted ⟨d, (h _).2 rfl⟩ ?_
    rintro k (⟨b⟩ | ⟨-, hk⟩ | ⟨hp⟩)
    · exact hb b rfl
    · exact hk _ ((h _).2 rfl)
    · cases (h _).1 hp
  | error p =>
    refine accounts_plain_refused (fun ⟨d, hd⟩ => by cases (h _).1 hd) fun k => ⟨?_, ?_⟩
    · rintro (⟨b⟩ | ⟨-, hk⟩ | ⟨hp⟩)
      · exact absurd rfl (hb b)
      · exact absurd ((h _).2 rfl) (hk _)
      · cases (h _).1 hp
        rfl
    · rintro rfl
      exact .problem ((h _).2 rfl)

theorem accounts_notDate {v : Json} (hb : ∀ b, v ≠ .broken b) (h : ∀ r, ¬Dated v r) :
    (refuse .notDate : Verdict α).Accounts names (date.right v) (date.wrong v) := by
  refine accounts_plain_refused (fun ⟨d, hd⟩ => h _ hd) fun k => ⟨?_, ?_⟩
  · rintro (⟨b⟩ | ⟨-, -⟩ | ⟨hp⟩)
    · exact absurd rfl (hb b)
    · rfl
    · exact absurd hp (h _)
  · rintro rfl
    exact .kind hb h

theorem accounts_brokenDate (b : Text.Broken) :
    (refuse .brokenText : Verdict α).Accounts names (date.right (.broken b)) (date.wrong (.broken b)) := by
  refine accounts_plain_refused (fun ⟨d, hd⟩ => by cases hd) fun k => ⟨?_, ?_⟩
  · rintro (⟨-⟩ | ⟨hb, -⟩ | ⟨hp⟩)
    · rfl
    · exact absurd rfl (hb b)
    · cases hp
  · rintro rfl
    exact .broken b

theorem obeys_date? (names : List String) : (nullable date).Obeys names date? := by
  refine obeys_nullable ⟨none, rfl⟩ fun v hv => ?_
  cases v with
  | null => exact absurd rfl hv
  | broken b => exact accounts_brokenDate b
  | str s => exact accounts_ofDate nofun fun r => ⟨fun h => by cases h; rfl, fun h => h ▸ .text s⟩
  | real x => exact accounts_ofDate nofun fun r => ⟨fun h => by cases h; rfl, fun h => h ▸ .real x⟩
  | int n =>
    rw [date?]
    cases hn : Calendar.Date.ofWhole? n with
    | some r =>
      refine accounts_ofDate nofun fun r' => ⟨?_, fun h => h ▸ .whole hn⟩
      rintro ⟨⟩
      rename_i h
      exact Option.some.inj (h.symm.trans hn)
    | none =>
      refine accounts_notDate nofun ?_
      rintro r ⟨⟩
      rename_i h
      cases hn.symm.trans h
  | bool b | arr vs | obj ms => exact accounts_notDate nofun fun r hr => by cases hr

end Grammar

end ParticipantDirectory
