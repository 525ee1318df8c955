import ParticipantDirectory.Digest.Pbkdf2

/-!
# What keys are derived

The key of a password is the exclusive sum of a chain of keyed digests (`derived`), the first of the salt and the number
of the block, each other of the one before; a keyed digest is the digest of one padded key and of the digest of another
and the message (`keyed`). `deriveKey` mixes the padded keys once and keeps the links as words: a digest can be resumed
after a whole block (`digest_append`), and the bytes of a digest and their padding fill one block (`finish_bytes`), so it
derives the same key (`deriveKey_eq`).
-/

namespace ParticipantDirectory.Digest

open Sha256

/-- The keyed digest of a message. -/
def keyed (key message : List UInt8) : List UInt8 :=
  digest ((MacKey.block key).map (· ^^^ 0x5c) ++ digest ((MacKey.block key).map (· ^^^ 0x36) ++ message))

/-- The links of the chain of a password and a salt. -/
def link (password salt : List UInt8) : Nat → List UInt8
  | 0 => keyed password (salt ++ [0, 0, 0, 1])
  | n + 1 => keyed password (link password salt n)

/-- The exclusive sum of the links up to a given one. -/
def linkSum (password salt : List UInt8) : Nat → List UInt8
  | 0 => link password salt 0
  | n + 1 => List.zipWith (· ^^^ ·) (linkSum password salt n) (link password salt (n + 1))

/-- The key of a password under a salt in a number of rounds: the exclusive sum of as many links. -/
def derived (password salt : List UInt8) (rounds : Nat) : List UInt8 :=
  linkSum password salt (rounds - 1)

/-! ## Words and bytes -/

/-- A word is made of its bytes; each bit of it comes from one of them. -/
theorem wordOf_bytes (w : UInt32) :
    wordOf (w >>> 24).toUInt8 (w >>> 16).toUInt8 (w >>> 8).toUInt8 w.toUInt8 = w := by
  apply UInt32.toBitVec_inj.1
  ext i hi
  have h24 : (UInt32.toBitVec 24 % 32).toNat = 24 := rfl
  have h16 : (UInt32.toBitVec 16 % 32).toNat = 16 := rfl
  have h8 : (UInt32.toBitVec 8 % 32).toNat = 8 := rfl
  have hbit : w.toBitVec[i] = w.toBitVec.getLsbD i := (BitVec.getLsbD_eq_getElem hi).symm
  have hplace {k : Nat} (h : ¬ i < k) : k + (i - k) = i := by omega
  simp only [wordOf, UInt32.toBitVec_or, UInt32.toBitVec_shiftLeft, UInt32.toBitVec_shiftRight,
    UInt8.toBitVec_toUInt32, UInt32.toBitVec_toUInt8, BitVec.getElem_or, BitVec.shiftLeft_eq', BitVec.ushiftRight_eq',
    h24, h16, h8, BitVec.getElem_shiftLeft, BitVec.getElem_setWidth, BitVec.getLsbD_setWidth,
    BitVec.getLsbD_ushiftRight, hbit]
  -- The bit comes from the byte in which it stands: the others are shifted past it or end before it.
  by_cases h₁ : i < 8
  · simp [h₁, show i < 16 by omega, show i < 24 by omega]
  by_cases h₂ : i < 16
  · simp [h₁, h₂, show i < 24 by omega, show i - 8 < 8 by omega, hplace h₁]
  by_cases h₃ : i < 24
  · simp [h₁, h₂, h₃, show i - 16 < 8 by omega, show ¬ i - 8 < 8 by omega, hplace h₂]
  · simp [h₁, h₂, h₃, show i - 24 < 8 by omega, show ¬ i - 8 < 8 by omega, show ¬ i - 16 < 8 by omega, hplace h₃]

theorem bytesOf_xor (v w : UInt32) : bytesOf (v ^^^ w) = List.zipWith (· ^^^ ·) (bytesOf v) (bytesOf w) := by
  simp only [bytesOf, List.zipWith_cons_cons, List.zipWith_nil_left, List.cons.injEq, and_true]
  refine ⟨?_, ?_, ?_, ?_⟩
  all_goals
    apply UInt8.toBitVec_inj.1
    ext i hi
    simp

theorem bytes_xorState (s t : State) : (xorState s t).bytes = List.zipWith (· ^^^ ·) s.bytes t.bytes := by
  show bytesOf (s.a ^^^ t.a) ++ (bytesOf (s.b ^^^ t.b) ++ (bytesOf (s.c ^^^ t.c) ++ (bytesOf (s.d ^^^ t.d) ++
    (bytesOf (s.e ^^^ t.e) ++ (bytesOf (s.f ^^^ t.f) ++ (bytesOf (s.g ^^^ t.g) ++ (bytesOf (s.h ^^^ t.h) ++ []))))))) = _
  simp only [bytesOf_xor]
  rfl

theorem wordsOf_bytesOf_append (w : UInt32) (s : List UInt8) : wordsOf (bytesOf w ++ s) = w :: wordsOf s := by
  show wordOf _ _ _ _ :: wordsOf s = _
  rw [wordOf_bytes]

/-- Bytes that make whole words are read apart from what follows. -/
theorem wordsOf_append {n : Nat} {s : List UInt8} (h : s.length = 4 * n) (t : List UInt8) :
    wordsOf (s ++ t) = wordsOf s ++ wordsOf t ∧ (wordsOf s).length = n := by
  induction n generalizing s with
  | zero =>
    rw [List.length_eq_zero_iff.1 h]
    exact ⟨rfl, rfl⟩
  | succ n ih =>
    match s, h with
    | a :: b :: c :: d :: rest, h =>
      obtain ⟨happ, hlen⟩ := ih (s := rest) (by simp only [List.length_cons] at h; omega)
      exact ⟨congrArg (wordOf a b c d :: ·) happ, congrArg Nat.succ hlen⟩

/-! ## Blocks -/

/-- A block of words is mixed before what follows. -/
theorem mixWords_append {ws : List UInt32} (h : ws.length = 16) (more : List UInt32) (s : State) :
    s.mixWords (ws ++ more) = (s.mixWords ws).mixWords more := by
  match ws, h with
  | [_, _, _, _, _, _, _, _, _, _, _, _, _, _, _, _], _ => rfl

/-- A message is padded alike, whether its first block counts as part of it or as one before it. -/
theorem pad_append {k : List UInt8} (h : k.length = 64) (message : List UInt8) :
    pad 0 (k ++ message) = k ++ pad 1 message := by
  have hfill : (119 - (64 + message.length) % 64) % 64 = (119 - message.length % 64) % 64 := by
    rw [Nat.add_mod_left]
  have hsize : 64 * 0 + (64 + message.length) = 64 * 1 + message.length := by omega
  simp only [pad, List.length_append, h, hfill, hsize, List.append_assoc]

/-- A digest is resumed after a whole block. -/
theorem digest_append {k : List UInt8} (h : k.length = 64) (message : List UInt8) :
    digest (k ++ message) = (finish (State.start.mixWords (wordsOf k)) 1 message).bytes := by
  obtain ⟨happ, hlen⟩ := wordsOf_append (n := 16) h (pad 1 message)
  rw [digest, finish, pad_append h, happ, mixWords_append hlen, finish]

/-- The bytes of a digest and their padding fill one block. -/
theorem finish_bytes (s t : State) : finish s 1 t.bytes = s.mix t.tail := by
  have hpad : pad 1 t.bytes = t.bytes ++ (0x80 :: List.replicate 23 0 ++ lengthBytes 768) := by
    rw [pad, show t.bytes.length = 32 from rfl, List.append_assoc]
  have hbytes : t.bytes = bytesOf t.a ++ (bytesOf t.b ++ (bytesOf t.c ++ (bytesOf t.d ++ (bytesOf t.e ++
      (bytesOf t.f ++ (bytesOf t.g ++ bytesOf t.h)))))) := rfl
  have hrest : wordsOf (0x80 :: List.replicate 23 0 ++ lengthBytes 768) = [0x80000000, 0, 0, 0, 0, 0, 0, 768] := by
    decide
  rw [finish, hpad, hbytes]
  simp only [List.append_assoc, wordsOf_bytesOf_append, hrest]
  rfl

/-! ## Keyed digests -/

theorem length_digest (message : List UInt8) : (digest message).length = 32 :=
  rfl

theorem length_block (key : List UInt8) : (MacKey.block key).length = 64 := by
  have hlen : (if 64 < key.length then digest key else key).length ≤ 64 := by
    split
    · rw [length_digest]
      decide
    · next h => exact Nat.le_of_not_lt h
  rw [MacKey.block, List.length_append, List.length_replicate]
  omega

/-- A keyed digest is made from the states of its key. -/
theorem keyed_eq (key message : List UInt8) : keyed key message = ((MacKey.ofBytes key).mac message).bytes := by
  have hlen (x : UInt8) : ((MacKey.block key).map (· ^^^ x)).length = 64 := by
    rw [List.length_map, length_block]
  rw [keyed, digest_append (hlen _), digest_append (hlen _), finish_bytes]
  rfl

theorem mac_bytes (k : MacKey) (s : State) : k.mac s.bytes = k.macOfState s := by
  rw [MacKey.mac, finish_bytes, MacKey.macOfState]

/-! ## Chains -/

/-- What is left of a chain adds the links that are left. -/
theorem bytes_chain {password salt : List UInt8} {last sum : State} {n : Nat} (hl : last.bytes = link password salt n)
    (hs : sum.bytes = linkSum password salt n) (left : Nat) :
    (chain (MacKey.ofBytes password) last sum left).bytes = linkSum password salt (n + left) := by
  -- Each step moves both states one link on, so the induction is over all states that stand for a link and its sum.
  induction left generalizing last sum n with
  | zero => exact hs
  | succ left ih =>
    have hnext : ((MacKey.ofBytes password).macOfState last).bytes = link password salt (n + 1) := by
      rw [← mac_bytes, hl, link, keyed_eq]
    rw [chain, ih hnext, Nat.add_right_comm, Nat.add_assoc]
    rw [bytes_xorState, hs, hnext, linkSum]

/-- The key that is derived is the exclusive sum of the links. -/
theorem deriveKey_eq (password salt : List UInt8) (rounds : Nat) :
    deriveKey password salt rounds = derived password salt rounds := by
  have hfirst : ((MacKey.ofBytes password).mac (salt ++ [0, 0, 0, 1])).bytes = link password salt 0 :=
    (keyed_eq password _).symm
  rw [deriveKey, bytes_chain hfirst hfirst, Nat.zero_add, derived]

theorem length_deriveKey (password salt : List UInt8) (rounds : Nat) : (deriveKey password salt rounds).length = 32 :=
  rfl

end ParticipantDirectory.Digest
