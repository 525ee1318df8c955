import ParticipantDirectory.Password

/-!
# Verifying stored passwords

What is stored of a password is read back as the salt and the key that were written (`readStored_hash`), so the same is
stored of two passwords exactly if they have the same key (`hash_eq_iff`), and another password is verified exactly if it
has the same key under this salt and in these rounds (`verify_hash`), as the password itself always has
(`verify_hash_self`). Keys are derived from the block that a password fills, so passwords that fill the same block are
verified alike (`verify_of_block`).
-/

namespace ParticipantDirectory

namespace Text.Hex

/-! ## Digits -/

theorem digitValue?_digit : ∀ n : Fin 16, digitValue? (digit n) = some n.val := by decide

theorem not_gap_digit : ∀ n : Fin 16, isGap (digit n) = false := by decide

theorem digit_ne_separator : ∀ n : Fin 16, digit n ≠ Password.separator := by decide

theorem decode_encode (bs : List UInt8) : decode (encode bs) = some bs := by
  induction bs with
  | nil => rfl
  | cons b rest ih =>
    have hb := b.toNat_lt
    let high : Fin 16 := ⟨b.toNat / 16, by omega⟩
    let low : Fin 16 := ⟨b.toNat % 16, by omega⟩
    show decode (digit high :: digit low :: encode rest) = some (b :: rest)
    have hvalue : 16 * high.val + low.val = b.toNat := Nat.div_add_mod b.toNat 16
    rw [decode, not_gap_digit high, if_neg Bool.false_ne_true, digitValue?_digit high, digitValue?_digit low]
    dsimp only
    rw [ih, hvalue, UInt8.ofNat_toNat]
    rfl

theorem separator_not_mem_encode (bs : List UInt8) : Password.separator ∉ encode bs := by
  intro h
  obtain ⟨b, -, hb⟩ := List.mem_flatMap.1 h
  have hlt := b.toNat_lt
  rcases List.mem_cons.1 hb with he | hb
  · exact digit_ne_separator ⟨b.toNat / 16, by omega⟩ he.symm
  · exact digit_ne_separator ⟨b.toNat % 16, by omega⟩ (List.mem_singleton.1 hb).symm

end Text.Hex

namespace Password

theorem splitStored_append {a : List Char} (h : separator ∉ a) (b : List Char) :
    splitStored (a ++ separator :: b) = some (a, b) := by
  induction a with
  | nil => rfl
  | cons c rest ih =>
    have hc : c ≠ separator := fun he => h (he ▸ List.mem_cons_self ..)
    rw [List.cons_append, splitStored, if_neg hc, ih fun hm => h (List.mem_cons_of_mem _ hm)]
    rfl

/-- What is stored of a password is read back. -/
theorem readStored_hash (rounds : Nat) (salt : List UInt8) (password : String) :
    readStored (hash rounds salt password) = some (salt, Digest.deriveKey (bytesOf password) salt rounds) := by
  rw [readStored, hash, String.toList_ofList, splitStored_append (Text.Hex.separator_not_mem_encode salt)]
  show (Text.Hex.decode (Text.Hex.encode salt)).bind _ = _
  rw [Text.Hex.decode_encode, Option.bind_some]
  show (Text.Hex.decode (Text.Hex.encode _)).bind _ = _
  rw [Text.Hex.decode_encode]
  rfl

/-- The same is stored of two passwords exactly if they have the same key. -/
theorem hash_eq_iff {rounds : Nat} {salt : List UInt8} {password password' : String} :
    hash rounds salt password = hash rounds salt password' ↔
      Digest.deriveKey (bytesOf password) salt rounds = Digest.deriveKey (bytesOf password') salt rounds := by
  refine ⟨fun h => ?_, fun h => by rw [hash, h, hash]⟩
  have hread := congrArg readStored h
  rw [readStored_hash, readStored_hash] at hread
  exact congrArg Prod.snd (Option.some.inj hread)

/-- A password is verified if its key is the stored one. -/
theorem verify_hash (rounds : Nat) (salt : List UInt8) (password attempt : String) :
    verify rounds attempt (hash rounds salt password) =
      (Digest.deriveKey (bytesOf attempt) salt rounds == Digest.deriveKey (bytesOf password) salt rounds) := by
  rw [verify, readStored_hash]

theorem verify_hash_self (rounds : Nat) (salt : List UInt8) (password : String) :
    verify rounds password (hash rounds salt password) = true := by
  rw [verify_hash]
  exact beq_self_eq_true _

/-- Passwords that fill the same block are verified alike, whatever is stored. -/
theorem verify_of_block {password attempt : String}
    (h : Digest.MacKey.block (bytesOf password) = Digest.MacKey.block (bytesOf attempt)) (rounds : Nat)
    (stored : String) : verify rounds password stored = verify rounds attempt stored := by
  have hkey : Digest.MacKey.ofBytes (bytesOf password) = Digest.MacKey.ofBytes (bytesOf attempt) := by
    rw [Digest.MacKey.ofBytes, Digest.MacKey.ofBytes, h]
  rw [verify, verify]
  simp only [Digest.deriveKey, hkey]

end Password

end ParticipantDirectory
