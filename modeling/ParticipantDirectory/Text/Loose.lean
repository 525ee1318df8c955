import ParticipantDirectory.Text.Hex

/-!
# Texts with surrogates

A text that comes from outside may hold surrogates that are no half of a pair. It can be kept, compared and shown like
any other text, but it has no bytes: no encoding writes such a surrogate.
-/

namespace ParticipantDirectory.Text

/-- One place of a text: a character, or a surrogate that stands alone, given by its number among the surrogates. -/
inductive Point where
  | char (c : Char)
  | lone (surrogate : Fin 0x800)
  deriving DecidableEq, Repr

namespace Point

/-- The code of a surrogate. -/
def codeOf (surrogate : Fin 0x800) : Nat :=
  0xD800 + surrogate

/-- The place that a code stands for. -/
def ofCode (n : Nat) : Point :=
  if 0xD800 ≤ n then
    if h : n - 0xD800 < 0x800 then lone ⟨n - 0xD800, h⟩ else char (Char.ofNat n)
  else char (Char.ofNat n)

/-- The character of a place; none for a surrogate. -/
def char? : Point → Option Char
  | char c => some c
  | lone _ => none

end Point

/-- A text that holds a lone surrogate: the characters before the first one, the surrogate, and what follows. -/
structure Broken where
  before : String
  surrogate : Fin 0x800
  after : List Point
  deriving DecidableEq, Repr

namespace Broken

/-- The places of a broken text. -/
def points (b : Broken) : List Point :=
  b.before.toList.map .char ++ .lone b.surrogate :: b.after

/-- A surrogate as an escape with its code. -/
def escape (surrogate : Fin 0x800) : List Char :=
  '\\' :: 'u' :: Hex.fixed 4 (Point.codeOf surrogate)

/-- The text with escapes for its lone surrogates. -/
def shown (b : Broken) : String :=
  String.ofList (b.points.flatMap fun
    | .char c => [c]
    | .lone s => escape s)

/-- The number of surrogates that stand together where the first one stands. -/
def run (b : Broken) : Nat :=
  1 + (b.after.takeWhile fun p => p.char?.isNone).length

/-- Why a broken text has no bytes. -/
def refusal (b : Broken) : String :=
  let start := b.before.length
  "'utf-8' codec can't encode character" ++
    (if b.run = 1 then " '" ++ String.ofList (escape b.surrogate) ++ "' in position " ++ Nat.repr start
      else "s in position " ++ Nat.repr start ++ "-" ++ Nat.repr (start + b.run - 1)) ++
    ": surrogates not allowed"

end Broken

/-- A text that may hold lone surrogates. -/
inductive Loose where
  | whole (s : String)
  | broken (b : Broken)
  deriving DecidableEq, Repr

instance : Coe String Loose where
  coe := Loose.whole

namespace Loose

/-- The text of a sequence of places after the given characters, the last of which is first. -/
def after (before : List Char) : List Point → Loose
  | [] => whole (String.ofList before.reverse)
  | .char c :: rest => after (c :: before) rest
  | .lone s :: rest => broken ⟨String.ofList before.reverse, s, rest⟩

/-- The text of a sequence of places. -/
def ofPoints (points : List Point) : Loose :=
  after [] points

/-- The text without lone surrogates. -/
def whole? : Loose → Option String
  | whole s => some s
  | broken _ => none

example : ofPoints [.char 'a', .lone 0xFF, .lone 0, .char 'b'] = broken ⟨"a", 0xFF, [.lone 0, .char 'b']⟩ := by decide
example : (Broken.mk "a" 0x4FF []).refusal =
    "'utf-8' codec can't encode character '\\udcff' in position 1: surrogates not allowed" := by decide +kernel
example : (Broken.mk "a" 0xFF [.lone 0, .char 'b']).refusal =
    "'utf-8' codec can't encode characters in position 1-2: surrogates not allowed" := by decide +kernel

end Loose

end ParticipantDirectory.Text
