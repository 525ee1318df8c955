import ParticipantDirectory.Text.Loose
import ParticipantDirectory.Text.Printable

/-!
# Quoted text in messages

A text in a message stands between single quotes, or between double quotes if it holds a single quote
and no double quote. The quote in use, the backslash and the characters that are not printable are
written as escapes.
-/

namespace ParticipantDirectory.Text.Quoted

/-- The quote in which a text is written. -/
def quoteFor (s : List Char) : Char :=
  if s.contains '\'' && !s.contains '"' then '"' else '\''

/-- A character as an escape with its code. -/
def escapeCode (c : Char) : List Char :=
  if c.toNat < 0x100 then '\\' :: 'x' :: Hex.fixed 2 c.toNat
  else if c.toNat < 0x10000 then '\\' :: 'u' :: Hex.fixed 4 c.toNat
  else '\\' :: 'U' :: Hex.fixed 8 c.toNat

/-- One character inside the quote `q`. -/
def escape (q c : Char) : List Char :=
  if c = q ∨ c = '\\' then ['\\', c]
  else if c = '\n' then ['\\', 'n']
  else if c = '\r' then ['\\', 'r']
  else if c = '\t' then ['\\', 't']
  else if isPrintable c then [c]
  else escapeCode c

/-- The quoted form of a text. -/
def encode (s : List Char) : List Char :=
  let q := quoteFor s
  q :: s.flatMap (escape q) ++ [q]

/-- A text in which every character beyond ASCII is written as an escape. -/
def toAscii (s : List Char) : List Char :=
  s.flatMap fun c => if c.toNat < 0x80 then [c] else escapeCode c

end ParticipantDirectory.Text.Quoted

namespace ParticipantDirectory.Text

/-- The quoted form of a string. -/
def quoted (s : String) : String :=
  String.ofList (Quoted.encode s.toList)

/-- The quoted form of a text with lone surrogates, each of which is an escape. -/
def quotedBroken (b : Broken) : String :=
  let q := Quoted.quoteFor (b.points.filterMap Point.char?)
  String.ofList (q :: b.points.flatMap (fun
    | .char c => Quoted.escape q c
    | .lone s => Broken.escape s) ++ [q])

example : quoted "it's" = "\"it's\"" := by decide +kernel
example : quoted "a'\"\n\u2028é" = "'a\\'\"\\n\\u2028é'" := by decide +kernel

end ParticipantDirectory.Text
