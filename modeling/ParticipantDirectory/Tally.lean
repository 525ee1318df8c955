/-!
# Tallies

A tally keeps, under each of its names, a counter that counts by key. A name is kept from the first time
it is asked for, a key from the first time it is counted, and both keep their places. Counters only go
up.
-/

namespace ParticipantDirectory

/-- Counts by key, in the order in which the keys were first counted. -/
structure Counter where
  entries : List (String × Int)
  deriving DecidableEq, Repr

namespace Counter

/-- A counter that has counted nothing. -/
def empty : Counter := ⟨[]⟩

/-- The count of a key; zero if it was never counted. -/
def count (c : Counter) (key : String) : Int :=
  ((c.entries.find? (·.1 == key)).map (·.2)).getD 0

/-- The entries after a key is given a count: a present key keeps its place, a new one comes last. -/
def setEntry (key : String) (n : Int) : List (String × Int) → List (String × Int)
  | [] => [(key, n)]
  | e :: rest => if e.1 = key then (key, n) :: rest else e :: setEntry key n rest

/-- The counter after a key was counted `n` times more. -/
def add (c : Counter) (key : String) (n : Int) : Counter :=
  ⟨setEntry key (c.count key + n) c.entries⟩

end Counter

/-- Counters by name, in the order in which they were first asked for. -/
structure Tally where
  counters : List (String × Counter)
  deriving DecidableEq, Repr

namespace Tally

/-- No counters. -/
def empty : Tally := ⟨[]⟩

/-- The tally that knows the given names and has counted nothing. -/
def ofNames (names : List String) : Tally :=
  ⟨names.map fun n => (n, .empty)⟩

/-- The counter of a name; an empty one if the name is not known. -/
def counter (t : Tally) (name : String) : Counter :=
  ((t.counters.find? (·.1 == name)).map (·.2)).getD .empty

/-- The counters after a name is given one: a present name keeps its place, a new one comes last. -/
def setCounter (name : String) (c : Counter) : List (String × Counter) → List (String × Counter)
  | [] => [(name, c)]
  | e :: rest => if e.1 = name then (name, c) :: rest else e :: setCounter name c rest

/-- The tally in which a name is known. -/
def request (t : Tally) (name : String) : Tally :=
  ⟨setCounter name (t.counter name) t.counters⟩

/-- The count of a key under a name. -/
def count (t : Tally) (name key : String) : Int :=
  (t.counter name).count key

/-- Counts a key under a name `n` times more. -/
def add (t : Tally) (name key : String) (n : Int) : Tally :=
  ⟨setCounter name ((t.counter name).add key n) t.counters⟩

/-- The message of a refused step. -/
def negativeStep : String := "Counters cannot be decremented"

/-- Counts a key under a name `n` times more and gives the new count. A negative `n` is refused; the name
is known afterwards all the same. -/
def increment (t : Tally) (name key : String) (n : Int) : Except String Int × Tally :=
  if n < 0 then (.error negativeStep, t.request name)
  else
    let t := t.add name key n
    (.ok (t.count name key), t)

/-- The counts of a name by key. -/
def snapshot (t : Tally) (name : String) : List (String × Int) :=
  (t.counter name).entries

/-- The counts of all names by key, in the order of the names. -/
def all (t : Tally) : List (String × List (String × Int)) :=
  (t.counters.mergeSort fun a b => decide (a.1 ≤ b.1)).map fun c => (c.1, c.2.entries)

end Tally

end ParticipantDirectory
