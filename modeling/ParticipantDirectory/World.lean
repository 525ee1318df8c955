import ParticipantDirectory.Fault
import ParticipantDirectory.Journal.Record
import ParticipantDirectory.Store.Statement
import ParticipantDirectory.Tally

/-!
# The world of an operation

An operation reads and changes a state, adds records to the journal, counts in the tally, and draws
fresh ids and salts. It ends with a value or with a failure; what it noted and counted until then
remains.
-/

namespace ParticipantDirectory

/-- What an operation works on. Ids are numbered in the order in which they are issued; `salts` gives the salt
that is drawn for each number. `explain` gives what the driver of a database says of a statement that failed with an
error of the named kind; it may quote all that the statement carries. -/
structure World (σ : Type) where
  state : σ
  journal : List Record := []
  tally : Tally := .empty
  issued : Nat := 0
  salts : Nat → List UInt8 := fun _ => List.replicate 16 0
  explain : String → Statement → String := fun _ _ => ""

/-- An operation with answer of type `α` on a state of type `σ`. -/
abbrev Action (σ α : Type) : Type :=
  ExceptT Failure (StateM (World σ)) α

namespace Action

variable {σ α : Type}

/-- The answer of an operation and the world after it. -/
def runOn (a : Action σ α) (w : World σ) : Except Failure α × World σ :=
  (ExceptT.run a).run w

/-- Adds a record to the journal. -/
def note (r : Record) : Action σ Unit :=
  modify fun w => { w with journal := w.journal ++ [r] }

/-- Counts a key under a name once more. -/
def count (name key : String) : Action σ Unit :=
  modify fun w => { w with tally := w.tally.add name key 1 }

/-- A fresh number. -/
def issue : Action σ Nat := do
  let w ← get
  set { w with issued := w.issued + 1 }
  return w.issued

/-- Fails with a cause. -/
def fail (c : Cause) : Action σ α :=
  throw (Failure.of c)

/-- The answer of an operation that must have one; otherwise fails with a cause. -/
def orFail (c : Cause) : Option α → Action σ α
  | some a => pure a
  | none => fail c

end Action

end ParticipantDirectory
