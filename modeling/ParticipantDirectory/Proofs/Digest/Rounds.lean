import ParticipantDirectory.Digest.Sha256

/-!
# Rounds that reduce

The rounds of a block count in machine words, whose size is left open, so a digest does not reduce to its bytes. The
rounds over the list of their constants do (`roundsOver`); they are the same (`rounds_eq_roundsOver`, by induction on the
rounds that are left), and so are the states after blocks that are mixed with them (`mix_eq_mixOver`,
`mixWords_eq_mixWordsOver`).
-/

namespace ParticipantDirectory.Digest.Sha256

/-- The rounds with the constants of a list. -/
def roundsOver (a b c d e f g h w0 w1 w2 w3 w4 w5 w6 w7 w8 w9 w10 w11 w12 w13 w14 w15 : UInt32) :
    List UInt32 → State
  | [] => ⟨a, b, c, d, e, f, g, h⟩
  | k :: constants =>
    let t1 := h + (rotate e 6 ^^^ rotate e 11 ^^^ rotate e 25) + ((e &&& f) ^^^ (~~~e &&& g)) + k + w0
    let t2 := (rotate a 2 ^^^ rotate a 13 ^^^ rotate a 22) + ((a &&& b) ^^^ (a &&& c) ^^^ (b &&& c))
    let w16 :=
      w0 + (rotate w1 7 ^^^ rotate w1 18 ^^^ (w1 >>> 3)) + w9 + (rotate w14 17 ^^^ rotate w14 19 ^^^ (w14 >>> 10))
    roundsOver (t1 + t2) a b c (d + t1) e f g w1 w2 w3 w4 w5 w6 w7 w8 w9 w10 w11 w12 w13 w14 w15 w16 constants

/-- The state after a block. -/
def State.mixOver (s : State) (m : Block) : State :=
  let r := roundsOver s.a s.b s.c s.d s.e s.f s.g s.h m.w0 m.w1 m.w2 m.w3 m.w4 m.w5 m.w6 m.w7 m.w8 m.w9 m.w10 m.w11
    m.w12 m.w13 m.w14 m.w15 roundConstants.toList
  ⟨s.a + r.a, s.b + r.b, s.c + r.c, s.d + r.d, s.e + r.e, s.f + r.f, s.g + r.g, s.h + r.h⟩

/-- The state after the blocks of a sequence of words. -/
def State.mixWordsOver (s : State) : List UInt32 → State
  | w0 :: w1 :: w2 :: w3 :: w4 :: w5 :: w6 :: w7 :: w8 :: w9 :: w10 :: w11 :: w12 :: w13 :: w14 :: w15 :: rest =>
    (s.mixOver ⟨w0, w1, w2, w3, w4, w5, w6, w7, w8, w9, w10, w11, w12, w13, w14, w15⟩).mixWordsOver rest
  | _ => s

theorem toNat_succ {i : USize} (h : i.toNat < 64) : (i + 1).toNat = i.toNat + 1 := by
  rw [USize.toNat_add, USize.toNat_one]
  refine Nat.mod_eq_of_lt ?_
  rw [← USize.size_eq_two_pow]
  rcases USize.size_eq with hs | hs <;> omega

/-- The rounds that are left take the constants that are left. By induction on their number. -/
theorem rounds_eq_roundsOver (a b c d e f g h w0 w1 w2 w3 w4 w5 w6 w7 w8 w9 w10 w11 w12 w13 w14 w15 : UInt32)
    (i : USize) (left : Nat) (hi : i.toNat + left = 64) :
    rounds a b c d e f g h w0 w1 w2 w3 w4 w5 w6 w7 w8 w9 w10 w11 w12 w13 w14 w15 i left =
      roundsOver a b c d e f g h w0 w1 w2 w3 w4 w5 w6 w7 w8 w9 w10 w11 w12 w13 w14 w15
        (roundConstants.toList.drop i.toNat) := by
  have hsize : roundConstants.size = 64 := rfl
  induction left generalizing a b c d e f g h w0 w1 w2 w3 w4 w5 w6 w7 w8 w9 w10 w11 w12 w13 w14 w15 i with
  | zero =>
    rw [List.drop_of_length_le (by rw [Array.length_toList]; omega)]
    rfl
  | succ left ih =>
    have hlt : i.toNat < roundConstants.size := by omega
    have hnext : (i + 1).toNat = i.toNat + 1 := toNat_succ (by omega)
    have hk : (if h : i.toNat < roundConstants.size then roundConstants.uget i h else 0) =
        roundConstants.toList[i.toNat] := dif_pos hlt
    rw [List.drop_eq_getElem_cons (by rwa [Array.length_toList]), roundsOver, ← hk, ← hnext]
    exact ih _ _ _ _ _ _ _ _ _ _ _ _ _ _ _ _ _ _ _ _ _ _ _ _ (i + 1) (by omega)

theorem mix_eq_mixOver (s : State) (m : Block) : s.mix m = s.mixOver m := by
  rw [State.mix, rounds_eq_roundsOver _ _ _ _ _ _ _ _ _ _ _ _ _ _ _ _ _ _ _ _ _ _ _ _ 0 64 rfl]
  rfl

theorem mixWords_eq_mixWordsOver (s : State) (ws : List UInt32) : s.mixWords ws = s.mixWordsOver ws := by
  fun_induction State.mixWords s ws with
  | case1 s w0 w1 w2 w3 w4 w5 w6 w7 w8 w9 w10 w11 w12 w13 w14 w15 rest ih =>
    rw [State.mixWordsOver, ← mix_eq_mixOver]
    exact ih
  | case2 s ws h =>
    rw [State.mixWordsOver]
    exact h

/-- The digest of the text `abc`, as FIPS 180-4 has it. -/
example : digest [0x61, 0x62, 0x63] =
    [0xba, 0x78, 0x16, 0xbf, 0x8f, 0x01, 0xcf, 0xea, 0x41, 0x41, 0x40, 0xde, 0x5d, 0xae, 0x22, 0x23, 0xb0, 0x03, 0x61,
      0xa3, 0x96, 0x17, 0x7a, 0x9c, 0xb4, 0x10, 0xff, 0x61, 0xf2, 0x00, 0x15, 0xad] := by
  rw [digest, finish, mixWords_eq_mixWordsOver]
  decide +kernel

end ParticipantDirectory.Digest.Sha256
