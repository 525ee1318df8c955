import ParticipantDirectory.Digest.Sha256

/-!
# Keys derived from passwords

The keyed digest of RFC 2104 over SHA-256, and the first block of the key derivation of RFC 8018 over it:
the exclusive sum of a chain of keyed digests. The states after the two key blocks are computed once,
so a step of the chain mixes two blocks.
-/

namespace ParticipantDirectory.Digest

open Sha256 (State)

/-- The key of a keyed digest, as the states after its inner and its outer block. -/
structure MacKey where
  inner : State
  outer : State
  deriving DecidableEq, Repr

namespace MacKey

/-- A key of 64 bytes: a longer one is replaced by its digest, a shorter one filled up with zeros. -/
def block (key : List UInt8) : List UInt8 :=
  let key := if 64 < key.length then Sha256.digest key else key
  key ++ List.replicate (64 - key.length) 0

/-- The states of a key. -/
def ofBytes (key : List UInt8) : MacKey :=
  let k := block key
  ⟨State.start.mixWords (Sha256.wordsOf (k.map (· ^^^ 0x36))),
    State.start.mixWords (Sha256.wordsOf (k.map (· ^^^ 0x5c)))⟩

/-- The keyed digest of a message. -/
def mac (k : MacKey) (message : List UInt8) : State :=
  k.outer.mix (Sha256.finish k.inner 1 message).tail

/-- The keyed digest of a digest. -/
def macOfState (k : MacKey) (s : State) : State :=
  k.outer.mix (k.inner.mix s.tail).tail

end MacKey

/-- The exclusive sum of two states, word by word. -/
def xorState (s t : State) : State :=
  ⟨s.a ^^^ t.a, s.b ^^^ t.b, s.c ^^^ t.c, s.d ^^^ t.d, s.e ^^^ t.e, s.f ^^^ t.f, s.g ^^^ t.g, s.h ^^^ t.h⟩

/-- The sum of a chain of keyed digests of which `last` is the last and `sum` the sum so far. -/
def chain (k : MacKey) (last sum : State) : Nat → State
  | 0 => sum
  | left + 1 =>
    let next := k.macOfState last
    chain k next (xorState sum next) left

/-- The key of 32 bytes derived from a password and a salt in a number of rounds. -/
def deriveKey (password salt : List UInt8) (rounds : Nat) : List UInt8 :=
  let k := MacKey.ofBytes password
  let first := k.mac (salt ++ [0, 0, 0, 1])
  (chain k first first (rounds - 1)).bytes

end ParticipantDirectory.Digest
