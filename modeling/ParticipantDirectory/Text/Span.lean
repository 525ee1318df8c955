/-!
# Runs of code points

A class of characters is held as an increasing list of closed runs of code points.
-/

namespace ParticipantDirectory.Text

/-- The code points from `first` to `last`, both included. -/
structure Span where
  first : Nat
  last : Nat
  deriving DecidableEq, Repr

/-- Membership in a run. -/
def Span.contains (s : Span) (n : Nat) : Bool :=
  s.first ≤ n && n ≤ s.last

/-- Membership in a class given by its runs. -/
def Span.anyContains (spans : List Span) (n : Nat) : Bool :=
  spans.any (·.contains n)

end ParticipantDirectory.Text
