import ParticipantDirectory.Proofs.Digest.Derivation
import ParticipantDirectory.Proofs.Text.Spelled

/-!
# Stored texts that verify a password

A password is verified by exactly those texts that spell a salt before their first dollar sign and the whole key of the
password under this salt behind it (`verify_iff`). What is stored of a password is such a text. Others are the same text
in digits of another case (`verify_same`) and with more white space between two pairs of digits (`verify_insert`); a text
that has no dollar sign or two of them, any other character, or not the digits of whole bytes is none. A password with a
lone surrogate has no key: it is not stored, and there is no verdict on it once a salt and a key have been read
(`verdict_error_iff`).
-/

namespace ParticipantDirectory.Password

open Text.Hex

/-! ## The parts of a stored text -/

/-- A text is split at its first dollar sign. -/
theorem splitStored_iff (s a b : List Char) :
    splitStored s = some (a, b) ↔ s = a ++ '$' :: b ∧ '$' ∉ a := by
  refine ⟨fun h => ?_, fun ⟨he, ha⟩ => he ▸ splitStored_append ha b⟩
  induction s generalizing a with
  | nil => cases h
  | cons c rest ih =>
    rw [splitStored] at h
    split at h
    · next hc =>
      cases h
      exact ⟨congrArg (· :: b) hc, List.not_mem_nil⟩
    · next hc =>
      obtain ⟨⟨a', b'⟩, hp, he⟩ := Option.map_eq_some_iff.1 h
      cases he
      obtain ⟨rfl, ha⟩ := ih a' hp
      exact ⟨rfl, List.not_mem_cons_of_ne_of_not_mem (Ne.symm hc) ha⟩

/-- What has no dollar sign stands before that of a text. -/
theorem splitStored_behind {u : List Char} (h : '$' ∉ u) (s : List Char) :
    splitStored (u ++ s) = (splitStored s).map fun p => (u ++ p.1, p.2) := by
  induction u with
  | nil => exact Option.map_id'.symm
  | cons c rest ih =>
    have hc : c ≠ separator := (List.ne_of_not_mem_cons h).symm
    rw [List.cons_append, splitStored, if_neg hc, ih (List.not_mem_of_not_mem_cons h), Option.map_map]
    rfl

theorem no_separator_of_spells {s : List Char} {bs : List UInt8} (h : Spells s bs) : '$' ∉ s := by
  intro hm
  rcases h.chars hm with hs | hd
  · exact absurd ((isGap_iff '$').2 hs) (by decide)
  · exact absurd ((isDigit_iff '$').2 hd) (by decide)

/-- What is read of a text, as the parts of it are read. -/
theorem readStored_eq (stored : String) : readStored stored =
    (splitStored stored.toList).bind fun p => (decode p.1).bind fun salt => (decode p.2).map fun key => (salt, key) := by
  refine Option.bind_congr fun p _ => ?_
  refine Option.bind_congr fun salt _ => ?_
  exact Option.map_eq_bind.symm

/-- A salt and a key are read of the texts that spell them. -/
theorem readStored_iff (stored : String) (salt key : List UInt8) : readStored stored = some (salt, key) ↔
    ∃ a b, stored.toList = a ++ '$' :: b ∧ '$' ∉ a ∧ Spells a salt ∧ Spells b key := by
  simp only [readStored_eq, Option.bind_eq_some_iff, Option.map_eq_some_iff, Prod.exists, splitStored_iff, decode_iff,
    Prod.mk.injEq]
  constructor
  · rintro ⟨a, b, ⟨he, ha⟩, _, hsalt, _, hkey, rfl, rfl⟩
    exact ⟨a, b, he, ha, hsalt, hkey⟩
  · rintro ⟨a, b, he, ha, hsalt, hkey⟩
    exact ⟨a, b, ⟨he, ha⟩, salt, hsalt, key, hkey, rfl, rfl⟩

/-- A password is verified by the texts that spell a salt and the key of the password under it. -/
theorem verify_iff (rounds : Nat) (password stored : String) : verify rounds password stored = true ↔
    ∃ a b salt, stored.toList = a ++ '$' :: b ∧ '$' ∉ a ∧ Spells a salt ∧
      Spells b (Digest.deriveKey (bytesOf password) salt rounds) := by
  have hread : verify rounds password stored = true ↔
      ∃ salt, readStored stored = some (salt, Digest.deriveKey (bytesOf password) salt rounds) := by
    rw [verify]
    cases readStored stored with
    | none =>
      constructor
      · intro h
        cases h
      · rintro ⟨salt, h⟩
        cases h
    | some p =>
      constructor
      · intro h
        exact ⟨p.1, congrArg some (Prod.ext rfl (eq_of_beq h).symm)⟩
      · rintro ⟨salt, h⟩
        cases h
        exact beq_self_eq_true _
  simp only [hread, readStored_iff]
  constructor
  · rintro ⟨salt, a, b, h⟩
    exact ⟨a, b, salt, h⟩
  · rintro ⟨a, b, salt, h⟩
    exact ⟨salt, a, b, h⟩

/-! ## Texts that verify nothing -/

/-- A text that verifies a password has one dollar sign, between digits for whole bytes and digits for 32 bytes, and
nothing else but white space. -/
theorem form_of_verify {rounds : Nat} {password stored : String} (h : verify rounds password stored = true) :
    stored.toList.count '$' = 1 ∧
      (∀ c ∈ stored.toList, c = '$' ∨ IsSpace c ∨ ∃ v, IsDigit c v) ∧
      ∀ a b, stored.toList = a ++ '$' :: b → a.countP isDigit % 2 = 0 ∧ b.countP isDigit = 64 := by
  obtain ⟨a, b, salt, he, ha, hsalt, hkey⟩ := (verify_iff _ _ _).1 h
  have hb := no_separator_of_spells hkey
  refine ⟨?_, fun c hc => ?_, fun a' b' he' => ?_⟩
  · rw [he, List.count_append, List.count_cons_self, List.count_eq_zero.2 ha, List.count_eq_zero.2 hb]
  · rw [he] at hc
    rcases List.mem_append.1 hc with hc | hc
    · exact .inr (hsalt.chars hc)
    rcases List.mem_cons.1 hc with rfl | hc
    · exact .inl rfl
    · exact .inr (hkey.chars hc)
  · obtain ⟨rfl, -, rfl⟩ := (List.append_cons_inj_of_notMem ha hb).1 (he.symm.trans he')
    rw [hsalt.countP_isDigit, hkey.countP_isDigit, Digest.length_deriveKey]
    exact ⟨Nat.mul_mod_right 2 _, rfl⟩

/-! ## Other spellings -/

/-- The characters that are the same as a dollar sign. -/
theorem eq_separator_of_same {c : Char} (h : SameDigit '$' c) : c = '$' := by
  rcases h with rfl | ⟨v, hv, -⟩
  · rfl
  · exact absurd ((isDigit_iff '$').2 ⟨v, hv⟩) (by decide)

theorem forall₂_append_cons {s t : List Char} {c : Char} {u : List Char}
    (h : List.Forall₂ SameDigit (s ++ c :: t) u) :
    ∃ s' c' t', u = s' ++ c' :: t' ∧ List.Forall₂ SameDigit s s' ∧ SameDigit c c' ∧ List.Forall₂ SameDigit t t' := by
  induction s generalizing u with
  | nil =>
    obtain ⟨c', t', hc, ht, rfl⟩ := List.forall₂_cons_left_iff.1 h
    exact ⟨[], c', t', rfl, .nil, hc, ht⟩
  | cons d rest ih =>
    obtain ⟨d', u', hd, hu, rfl⟩ := List.forall₂_cons_left_iff.1 h
    obtain ⟨s', c', t', rfl, hs, hc, ht⟩ := ih hu
    exact ⟨d' :: s', c', t', rfl, .cons hd hs, hc, ht⟩

theorem verify_of_same {rounds : Nat} {password s t : String} (h : List.Forall₂ SameDigit s.toList t.toList)
    (hs : verify rounds password s = true) : verify rounds password t = true := by
  obtain ⟨a, b, salt, he, -, hsalt, hkey⟩ := (verify_iff _ _ _).1 hs
  rw [he] at h
  obtain ⟨a', c, b', ht, ha, hc, hb⟩ := forall₂_append_cons h
  obtain rfl := eq_separator_of_same hc
  have hsalt' := hsalt.same ha
  exact (verify_iff _ _ _).2 ⟨a', b', salt, ht, no_separator_of_spells hsalt', hsalt', hkey.same hb⟩

/-- Two texts whose characters are the same or digits of the same value verify the same passwords. -/
theorem verify_same (rounds : Nat) (password : String) {s t : String}
    (h : List.Forall₂ SameDigit s.toList t.toList) : verify rounds password s = verify rounds password t := by
  have hback : List.Forall₂ SameDigit t.toList s.toList := h.flip.imp fun _ _ => SameDigit.symm
  exact Bool.eq_iff_iff.2 ⟨verify_of_same h, verify_of_same hback⟩

/-- The text ends between two pairs of digits: what stands behind its last dollar sign spells bytes. -/
inductive EndsWhole : List Char → Prop
  | salt {part : List Char} {bs : List UInt8} (h : Spells part bs) : EndsWhole part
  | key {part : List Char} {bs : List UInt8} (before : List Char) (h : Spells part bs) :
      EndsWhole (before ++ '$' :: part)

theorem decode_insert {part spaces : List Char} {bs : List UInt8} (h : Spells part bs) (hs : ∀ c ∈ spaces, IsSpace c)
    (t : List Char) : decode (part ++ (spaces ++ t)) = decode (part ++ t) := by
  rw [h.decode_append, h.decode_append, (spells_spaces hs).decode_append]
  exact congrArg _ Option.map_id'

theorem decode_of_separator {s : List Char} (h : '$' ∈ s) : decode s = none := by
  rw [Option.eq_none_iff_forall_ne_some]
  exact fun bs hbs => no_separator_of_spells ((decode_iff s bs).1 hbs) h

/-- White space between two pairs of digits changes nothing of what is read. -/
theorem readStored_insert {x spaces : List Char} (hx : EndsWhole x) (hs : ∀ c ∈ spaces, IsSpace c) (y : List Char) :
    readStored (String.ofList (x ++ (spaces ++ y))) = readStored (String.ofList (x ++ y)) := by
  rw [readStored_eq, readStored_eq, String.toList_ofList, String.toList_ofList]
  cases hx with
  | salt h =>
    have hpart := no_separator_of_spells h
    have hspaces := no_separator_of_spells (spells_spaces hs)
    rw [splitStored_behind hpart, splitStored_behind hspaces, splitStored_behind hpart, Option.map_map, Option.bind_map,
      Option.bind_map]
    refine Option.bind_congr fun p _ => ?_
    simp only [Function.comp_apply, decode_insert h hs]
  | @key part bs before h =>
    rw [List.append_assoc, List.append_assoc, List.cons_append, List.cons_append]
    have hsplit {u : List Char} (hu : '$' ∉ u) (w : List Char) : splitStored (u ++ '$' :: w) = some (u, w) :=
      splitStored_append hu w
    by_cases hb : '$' ∈ before
    · -- A second dollar sign stands among the digits of the key, whatever follows.
      obtain ⟨u, v, rfl, hu⟩ := List.eq_append_cons_of_mem hb
      have hnone (w : List Char) : decode (v ++ '$' :: w) = none := decode_of_separator (by simp)
      rw [List.append_assoc, List.append_assoc, List.cons_append, List.cons_append, hsplit hu, hsplit hu]
      simp only [Option.bind_some, hnone, Option.map_none]
    · rw [hsplit hb, hsplit hb]
      simp only [Option.bind_some, decode_insert h hs]

theorem verify_insert (rounds : Nat) (password : String) {x spaces : List Char} (hx : EndsWhole x)
    (hs : ∀ c ∈ spaces, IsSpace c) (y : List Char) :
    verify rounds password (String.ofList (x ++ (spaces ++ y))) = verify rounds password (String.ofList (x ++ y)) := by
  rw [verify, verify, readStored_insert hx hs y]

/-! ## Verdicts -/

/-- The text spells a salt before its first dollar sign and a key behind it. -/
def Legible (s : String) : Prop :=
  ∃ a b salt key, s.toList = a ++ '$' :: b ∧ '$' ∉ a ∧ Spells a salt ∧ Spells b key

theorem legible_iff (s : String) : Legible s ↔ (readStored s).isSome = true := by
  rw [Option.isSome_iff_exists, Legible]
  constructor
  · rintro ⟨a, b, salt, key, h⟩
    exact ⟨(salt, key), (readStored_iff s salt key).2 ⟨a, b, h⟩⟩
  · rintro ⟨⟨salt, key⟩, h⟩
    obtain ⟨a, b, h⟩ := (readStored_iff s salt key).1 h
    exact ⟨a, b, salt, key, h⟩

/-- On whole texts the verdict is that of `verify`. -/
theorem verdict_whole (rounds : Nat) (password stored : String) :
    verdict rounds password stored = .ok (verify rounds password stored) := by
  rw [verdict, verify, Text.Loose.whole?, Option.bind_some]
  cases readStored stored <;> rfl

/-- There is no verdict on a password without bytes, but a text of which nothing is read verifies nothing. -/
theorem verdict_broken (rounds : Nat) (b : Text.Broken) (stored : String) :
    verdict rounds (.broken b) stored = if (readStored stored).isSome then .error b else .ok false := by
  rw [verdict, Text.Loose.whole?, Option.bind_some]
  cases readStored stored <;> rfl

/-- There is no verdict exactly on a password without bytes, if a salt and a key are read. -/
theorem verdict_error_iff (rounds : Nat) (password stored : Text.Loose) (b : Text.Broken) :
    verdict rounds password stored = .error b ↔ password = .broken b ∧ ∃ s, stored = .whole s ∧ Legible s := by
  cases stored with
  | broken b' => exact ⟨nofun, fun ⟨_, _, h, _⟩ => nomatch h⟩
  | whole s =>
    have hs : (∃ s', Text.Loose.whole s = .whole s' ∧ Legible s') ↔ (readStored s).isSome = true := by
      rw [← legible_iff]
      exact ⟨fun ⟨_, he, h⟩ => Text.Loose.whole.inj he ▸ h, fun h => ⟨s, rfl, h⟩⟩
    rw [hs]
    cases password with
    | whole p =>
      rw [verdict_whole]
      exact ⟨nofun, fun h => nomatch h.1⟩
    | broken b' =>
      rw [verdict_broken]
      by_cases h : (readStored s).isSome = true
      · rw [if_pos h]
        simp [h]
      · rw [if_neg h]
        exact ⟨nofun, fun hs => absurd hs.2 h⟩

/-- A password is verified only if it and the stored text are whole. -/
theorem verdict_true_iff (rounds : Nat) (password stored : Text.Loose) :
    verdict rounds password stored = .ok true ↔
      ∃ p s : String, password = p ∧ stored = s ∧ verify rounds p s = true := by
  constructor
  · intro h
    cases stored with
    | broken b => cases h
    | whole s =>
      cases password with
      | whole p =>
        rw [verdict_whole] at h
        exact ⟨p, s, rfl, rfl, Except.ok.inj h⟩
      | broken b =>
        rw [verdict_broken] at h
        split at h <;> cases h
  · rintro ⟨p, s, rfl, rfl, h⟩
    rw [verdict_whole, h]

/-- Texts of which the same is read get the same verdicts. -/
theorem verdict_congr {rounds : Nat} {s t : String} (hread : (readStored s).isSome = (readStored t).isSome)
    (hverify : ∀ p, verify rounds p s = verify rounds p t) (password : Text.Loose) :
    verdict rounds password s = verdict rounds password t := by
  cases password with
  | whole p => rw [verdict_whole, verdict_whole, hverify]
  | broken b => rw [verdict_broken, verdict_broken, hread]

theorem legible_of_same {s t : String} (h : List.Forall₂ SameDigit s.toList t.toList) (hs : Legible s) : Legible t := by
  obtain ⟨a, b, salt, key, he, -, hsalt, hkey⟩ := hs
  rw [he] at h
  obtain ⟨a', c, b', ht, ha, hc, hb⟩ := forall₂_append_cons h
  obtain rfl := eq_separator_of_same hc
  have hsalt' := hsalt.same ha
  exact ⟨a', b', salt, key, ht, no_separator_of_spells hsalt', hsalt', hkey.same hb⟩

/-- Two texts whose characters are the same or digits of the same value get the same verdicts. -/
theorem verdict_same (rounds : Nat) (password : Text.Loose) {s t : String}
    (h : List.Forall₂ SameDigit s.toList t.toList) : verdict rounds password s = verdict rounds password t := by
  have hback : List.Forall₂ SameDigit t.toList s.toList := h.flip.imp fun _ _ => SameDigit.symm
  have hread : (readStored s).isSome = (readStored t).isSome := by
    rw [Bool.eq_iff_iff, ← legible_iff, ← legible_iff]
    exact ⟨legible_of_same h, legible_of_same hback⟩
  exact verdict_congr hread (fun p => verify_same rounds p h) password

theorem verdict_insert (rounds : Nat) (password : Text.Loose) {x spaces : List Char} (hx : EndsWhole x)
    (hs : ∀ c ∈ spaces, IsSpace c) (y : List Char) :
    verdict rounds password (String.ofList (x ++ (spaces ++ y))) = verdict rounds password (String.ofList (x ++ y)) :=
  verdict_congr (congrArg Option.isSome (readStored_insert hx hs y)) (fun p => verify_insert rounds p hx hs y) password

/-! ## Verification -/

/-- There is a verdict on every password and every stored text, unless the password holds a lone surrogate and a salt
and a key are read of the text. A password is verified exactly by the texts that spell a salt before their first dollar
sign and the whole key of the password under this salt, of 32 bytes, behind it; a text of another form verifies none, nor
does a text with a lone surrogate. What is stored of a password verifies it, and something is stored of every password
without lone surrogates. Neither the case of the digits nor white space between their pairs changes a verdict. -/
theorem verified_exactly (rounds : Nat) :
    (∀ (password stored : Text.Loose) (b : Text.Broken), verdict rounds password stored = .error b ↔
      password = .broken b ∧ ∃ s, stored = .whole s ∧ Legible s) ∧
    (∀ password stored : Text.Loose, verdict rounds password stored = .ok true ↔
      ∃ p s : String, password = p ∧ stored = s ∧ ∃ a b salt, s.toList = a ++ '$' :: b ∧ '$' ∉ a ∧ Spells a salt ∧
        Spells b (Digest.derived (bytesOf p) salt rounds)) ∧
    (∀ (password : String) (salt : List UInt8), (Digest.derived (bytesOf password) salt rounds).length = 32) ∧
    (∀ (password : Text.Loose) (s : String), verdict rounds password s = .ok true →
      s.toList.count '$' = 1 ∧ (∀ c ∈ s.toList, c = '$' ∨ IsSpace c ∨ ∃ v, IsDigit c v) ∧
        ∀ a b, s.toList = a ++ '$' :: b → a.countP isDigit % 2 = 0 ∧ b.countP isDigit = 64) ∧
    (∀ (salt : List UInt8) (b : Text.Broken), stored rounds salt (.broken b) = .error b) ∧
    (∀ (salt : List UInt8) (password : String), stored rounds salt password = .ok (hash rounds salt password) ∧
      verdict rounds password (hash rounds salt password) = .ok true) ∧
    (∀ (password : Text.Loose) (s t : String), List.Forall₂ SameDigit s.toList t.toList →
      verdict rounds password s = verdict rounds password t) ∧
    (∀ (password : Text.Loose) (x spaces y : List Char), EndsWhole x → (∀ c ∈ spaces, IsSpace c) →
      verdict rounds password (String.ofList (x ++ (spaces ++ y))) =
        verdict rounds password (String.ofList (x ++ y))) := by
  have hkey (password : String) (salt : List UInt8) :
      Digest.deriveKey (bytesOf password) salt rounds = Digest.derived (bytesOf password) salt rounds :=
    Digest.deriveKey_eq ..
  refine ⟨verdict_error_iff rounds, fun password stored => ?_, fun password salt => ?_, fun password s h => ?_,
    fun salt b => rfl, fun salt password => ⟨rfl, ?_⟩, fun password s t => verdict_same rounds password,
    fun password x spaces y hx hs => verdict_insert rounds password hx hs y⟩
  · rw [verdict_true_iff]
    simp only [verify_iff, hkey]
  · rw [← hkey, Digest.length_deriveKey]
  · obtain ⟨p, s', -, hs, hv⟩ := (verdict_true_iff _ _ _).1 h
    cases hs
    exact form_of_verify hv
  · rw [verdict_whole, verify_hash_self]

/-- A password that holds a lone surrogate is neither verified nor refused by a text that spells a salt and a key, and it
cannot be stored. -/
theorem verdict_without_bytes :
    let b : Text.Broken := ⟨"", 0x4FF, []⟩
    Legible "00$00" ∧ verdict 1 (.broken b) "00$00" = .error b ∧
      stored 1 (List.replicate 16 0) (.broken b) = .error b := by
  intro b
  have hlegible : Legible "00$00" := (legible_iff _).2 (by decide +kernel)
  exact ⟨hlegible, (verdict_error_iff 1 _ _ b).2 ⟨rfl, _, rfl, hlegible⟩, rfl⟩

/-- What is stored of a password under a salt of one byte, with the digits of the salt in upper case, and with a blank
behind them. -/
theorem verified_exactly_of_secret :
    let key := encode (Digest.deriveKey (bytesOf "secret") [0xab] 1)
    (stored 1 [0xab] "secret" = .ok (String.ofList ('a' :: 'b' :: '$' :: key)) ∧
      verdict 1 "secret" (String.ofList ('a' :: 'b' :: '$' :: key)) = .ok true ∧
      ('a' :: 'b' :: '$' :: key).count '$' = 1 ∧ key.countP isDigit = 64) ∧
    (List.Forall₂ SameDigit ('A' :: 'B' :: '$' :: key) ('a' :: 'b' :: '$' :: key) ∧
      verdict 1 "secret" (String.ofList ('A' :: 'B' :: '$' :: key)) = .ok true) ∧
    (EndsWhole ['a', 'b'] ∧ verdict 1 "secret" (String.ofList ('a' :: 'b' :: ' ' :: '$' :: key)) = .ok true) := by
  intro key
  obtain ⟨-, -, -, hform, -, hstored, hcase, hinsert⟩ := verified_exactly 1
  have hhash : stored 1 [0xab] "secret" = .ok (String.ofList ('a' :: 'b' :: '$' :: key)) := (hstored [0xab] "secret").1
  have hself : verdict 1 "secret" (String.ofList ('a' :: 'b' :: '$' :: key)) = .ok true :=
    (hstored [0xab] "secret").2
  obtain ⟨hcount, -, hdigits⟩ := hform "secret" _ hself
  rw [String.toList_ofList] at hcount hdigits
  have hsame : List.Forall₂ SameDigit ('A' :: 'B' :: '$' :: key) ('a' :: 'b' :: '$' :: key) := by
    refine .cons (.inr ⟨10, ?_, ?_⟩) (.cons (.inr ⟨11, ?_, ?_⟩) (List.forall₂_same.2 fun c _ => .inl rfl))
    all_goals exact (digitValue?_iff _ _).1 rfl
  have hwhole : EndsWhole ['a', 'b'] := .salt (.pair ((digitValue?_iff 'a' 10).1 rfl) ((digitValue?_iff 'b' 11).1 rfl) .nil)
  refine ⟨⟨hhash, hself, hcount, (hdigits ['a', 'b'] key rfl).2⟩, ⟨hsame, ?_⟩, hwhole, ?_⟩
  · have hupper := hcase "secret" (String.ofList ('A' :: 'B' :: '$' :: key)) (String.ofList ('a' :: 'b' :: '$' :: key))
      (by rwa [String.toList_ofList, String.toList_ofList])
    exact hupper.trans hself
  · have hblank := hinsert "secret" ['a', 'b'] [' '] ('$' :: key) hwhole (by simp [IsSpace])
    exact hblank.trans hself

end ParticipantDirectory.Password
