import ParticipantDirectory.Calendar.Date.Reader

/-!
# Verdicts

A verdict on a document is the value that it describes or the list of everything that is wrong with it.
Verdicts on parts are joined so that no violation is lost: those of the first part come before those of
the second.
-/

namespace ParticipantDirectory

/-- One step from a value to a part of it. -/
inductive PathStep where
  | field (name : String)
  | item (index : Nat)
  deriving DecidableEq, Repr

/-- What is wrong with a part of a document. -/
inductive ViolationKind where
  | missing
  | notText
  | brokenText
  | textTooShort (least : Nat)
  | textTooLong (most : Nat)
  | textPattern (pattern : String)
  | notList
  | listTooShort (least actual : Nat)
  | notObject (model : String)
  | blankName
  | notDate
  | date (problem : Calendar.DateProblem)
  | wholeUnreadable
  | notWhole
  | wholeFraction
  | wholeTooLong
  | notFinite
  | truthUnreadable
  | notTruth
  | notChoice (choices : List String)
  | unexpectedField
  | badJson
  deriving DecidableEq, Repr

/-- A part of a document and what is wrong with it. -/
structure Violation where
  path : List PathStep
  kind : ViolationKind
  deriving DecidableEq, Repr

/-- The value that a document describes, or everything that is wrong with it. -/
inductive Verdict (α : Type) where
  | accepted (value : α)
  | refused (violations : List Violation)

namespace Verdict

variable {α β : Type}

/-- The verdict on a value computed from an accepted one. -/
def map (f : α → β) : Verdict α → Verdict β
  | accepted a => accepted (f a)
  | refused vs => refused vs

/-- The verdict on two parts. -/
def ap (f : Verdict (α → β)) (x : Verdict α) : Verdict β :=
  match f, x with
  | accepted f, accepted a => accepted (f a)
  | accepted _, refused ws => refused ws
  | refused vs, accepted _ => refused vs
  | refused vs, refused ws => refused (vs ++ ws)

instance : Functor Verdict where
  map := map

instance : Applicative Verdict where
  pure := accepted
  seq f x := ap f (x ())

/-- One violation at the document itself. -/
def refuse (kind : ViolationKind) : Verdict α :=
  refused [⟨[], kind⟩]

/-- A verdict on a part, reported as one on the whole. -/
def under (step : PathStep) : Verdict α → Verdict α
  | accepted a => accepted a
  | refused vs => refused (vs.map fun v => ⟨step :: v.path, v.kind⟩)

/-- The verdicts on the items of a list whose first item has the index `i`. -/
def itemsFrom (check : α → Verdict β) (i : Nat) : List α → Verdict (List β)
  | [] => accepted []
  | a :: rest => List.cons <$> (check a).under (.item i) <*> itemsFrom check (i + 1) rest

/-- The verdicts on the items of a list. -/
def items (check : α → Verdict β) (xs : List α) : Verdict (List β) :=
  itemsFrom check 0 xs

/-- The violations of a verdict; none if it accepts. -/
def violations : Verdict α → List Violation
  | accepted _ => []
  | refused vs => vs

/-- A verdict as a computation that stops at the first refusal. -/
def toExcept : Verdict α → Except (List Violation) α
  | accepted a => .ok a
  | refused vs => .error vs

/-- The accepted value. -/
def toOption : Verdict α → Option α
  | accepted a => some a
  | refused _ => none

end Verdict

/-- A path as text: its steps, joined by dots. -/
def PathStep.join (path : List PathStep) : String :=
  ".".intercalate (path.map fun
    | .field name => name
    | .item i => Nat.repr i)

end ParticipantDirectory
