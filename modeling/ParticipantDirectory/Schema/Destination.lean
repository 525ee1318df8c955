import ParticipantDirectory.Text.Word

/-!
# Destinations of migrations

Migrations stand in one row, each with a number that is a text. A place in the row is named by a number or the
beginning of one, by a word for an end of the row, or by a count of steps from such a place or from where a database
is; a branch may stand in front, to which all migrations belong if its name is known. Names are read in two ways, for
the way up and for the way down, in `goalUp` and `goalDown`.
-/

namespace ParticipantDirectory.Schema

/-- Why migrations end early. -/
inductive MigrationFault where
  /-- The destination is unknown or out of reach. -/
  | refused
  /-- The destination leads to a place that holds no migration. -/
  | misplaced
  /-- A count of steps is too long, or a range has more than two ends. -/
  | unreadable
  /-- A range begins at a place that holds no migration. -/
  | startless
  /-- The database fails on a step. -/
  | operational
  deriving DecidableEq, Repr

/-- The numbers of the migrations in the order in which they are run. -/
abbrev Revisions : Type := List String

/-- A place in the row of migrations: before all, or at the one of a count; `beyond` is where a way back past the
first of them ends. -/
inductive Place where
  | start
  | reached (count : Nat)
  | beyond
  deriving DecidableEq, Repr

/-- The place at which a database is after a count of migrations. -/
def Place.ofCount : Nat → Place
  | 0 => start
  | n + 1 => reached (n + 1)

/-- A count of steps, with the branch and the place that stand in front of it. -/
structure Walk where
  branch : Option String
  origin : Option String
  backward : Bool
  digits : List Char
  deriving DecidableEq, Repr

namespace Walk

/-- The walk that a text begins with: a word or none, a sign and a digit at least. -/
def ofStart? (branch : Option String) (s : List Char) : Option Walk :=
  let word := s.takeWhile Text.isWord
  let origin := if word.isEmpty then none else some (String.ofList word)
  match s.dropWhile Text.isWord with
  | sign :: rest =>
    let digits := rest.takeWhile Text.isDecimal
    if (sign = '+' ∨ sign = '-') ∧ !digits.isEmpty then some ⟨branch, origin, sign == '-', digits⟩ else none
  | [] => none

/-- The walk after the first branch that is followed by one. The branch stands on the first line and ends at an at
sign; `before` is what was read of it, last character first. -/
def ofBranch? (before : List Char) : List Char → Option Walk
  | [] => none
  | c :: rest =>
    match c == '@' && !before.isEmpty, ofStart? (some (String.ofList before.reverse)) rest with
    | true, some w => some w
    | _, _ => if c = '\n' then none else ofBranch? (c :: before) rest

/-- The walk that a text begins with, after a branch or without one. What follows it does not matter. -/
def ofString? (s : String) : Option Walk :=
  (ofBranch? [] s.toList).or (ofStart? none s.toList)

/-- The count of steps, which is negative on the way back. -/
def change (w : Walk) : Except MigrationFault Int :=
  if Text.numeralLimit < w.digits.length then .error .unreadable
  else .ok (if w.backward then -(Text.decimalNumber w.digits : Int) else Text.decimalNumber w.digits)

end Walk

namespace Revisions

/-- A name without the branch in front of it, and the branch. -/
def splitBranch (name : String) : Option String × String :=
  match name.toList.dropWhile (· ≠ '@') with
  | _ :: rest => (some (String.ofList (name.toList.takeWhile (· ≠ '@'))), String.ofList rest)
  | [] => (none, name)

/-- Whether a name stands for the newest migration. -/
def isHead (name : String) : Bool :=
  name == "head" || name == "heads"

/-- The numbers that a name without a branch stands for: that of the newest migration, none, or itself. -/
def plainNames (rs : Revisions) (name : String) : List String :=
  if isHead name then rs.getLast?.toList
  else if name = "base" then []
  else [name]

/-- The count of the migration whose number is the name, or of the only one whose number begins with it. -/
def find (rs : Revisions) (name : String) : Except MigrationFault Nat :=
  match rs.findIdx? (· == name) with
  | some i => .ok (i + 1)
  | none =>
    if name = "" then .error .misplaced
    else
      match rs.zipIdx.filter fun r => 3 < r.1.length && name.toList.isPrefixOf r.1.toList with
      | [r] => .ok (r.2 + 1)
      | _ => .error .refused

/-- Whether all of the names are known. -/
def findAll (rs : Revisions) (names : List String) : Except MigrationFault Unit :=
  names.forM fun name => do discard (rs.find name)

/-- The branch of a name and the numbers that the name stands for. The newest migration is sought on the branch. -/
def namesOf (rs : Revisions) (name : String) : Except MigrationFault (Option String × List String) := do
  let (branch, place) := splitBranch name
  let sought := branch.getD ""
  if isHead place ∧ sought ≠ "" ∧ !rs.isEmpty then rs.findAll (rs.plainNames sought)
  return (branch, rs.plainNames place)

/-- Whether the branch is known, which does not matter if nothing is sought on it. -/
def checkBranch (rs : Revisions) (seeking : Bool) (branch : String) : Except MigrationFault Unit := do
  let (outer, names) ← rs.namesOf branch
  if seeking then rs.findAll ((outer.filter (· ≠ "")).toList ++ names)

/-- The place of a number on a branch, if one is named; before all migrations if there is no number. -/
def placeOf (rs : Revisions) (branch name : Option String) : Except MigrationFault Place := do
  rs.findAll (branch.filter (· ≠ "")).toList
  match name with
  | none => return .start
  | some n => return .reached (← rs.find n)

/-- The place of a name. -/
def place (rs : Revisions) (name : String) : Except MigrationFault Place := do
  let (branch, names) ← rs.namesOf name
  rs.placeOf branch names.head?

/-- A step to the next migration. On a branch, the branch must be known. -/
def forth? (rs : Revisions) (branch : Option String) (p : Place) : Except MigrationFault (Option Place) := do
  let next : Option Place := match p with
    | .start => if rs.isEmpty then none else some (.reached 1)
    | .reached n => if n < rs.length then some (.reached (n + 1)) else none
    | .beyond => none
  if let some b := branch then rs.checkBranch next.isSome b
  return next

/-- Steps to later migrations; none if there are not so many. -/
def walkForth (rs : Revisions) (branch : Option String) : Nat → Place → Except MigrationFault (Option Place)
  | 0, p => .ok (some p)
  | n + 1, p => do
    match ← rs.forth? branch p with
    | some q => rs.walkForth branch n q
    | none => return none

/-- A step to the migration before. From before all of them it leads to the first one. -/
def back? (rs : Revisions) : Place → Option Place
  | .start => some (if rs.isEmpty then .beyond else .reached 1)
  | .reached (n + 2) => some (.reached (n + 1))
  | .reached _ => some .beyond
  | .beyond => none

/-- Steps to earlier migrations; none if there are not so many. -/
def walkBack? (rs : Revisions) : Nat → Place → Option Place
  | 0, p => some p
  | n + 1, p => (rs.back? p).bind (rs.walkBack? n)

/-- The places of a name on the way up. A negative number in place of a number counts back from the newest
migration; on a branch it leads nowhere. -/
def places (rs : Revisions) (name : String) : Except MigrationFault (List (Option Place)) := do
  let (branch, names) ← rs.namesOf name
  let steps := match names with
    | [n] => (Text.wholeNumber? n.toList).filter (· < 0)
    | _ => none
  match steps, branch with
  | some _, some _ => return []
  | some k, none => return [rs.walkBack? k.natAbs (.ofCount rs.length)]
  | none, _ => names.mapM fun n => do return some (← rs.placeOf branch (some n))

/-- The count of the migration at a place, which must hold one. -/
def countAt : Option Place → Except MigrationFault Nat
  | some (.reached n) => .ok n
  | _ => .error .misplaced

/-- The place that a walk back starts from; a branch stands in front of its name. -/
def originOf (rs : Revisions) (branch : Option String) (name : String) : Except MigrationFault Place :=
  rs.place (branch.elim name (· ++ "@" ++ name))

/-- How many migrations are run when an upgrade ends, by its destination and how many were run before. The
destination may be behind. -/
def goalUp (rs : Revisions) (n : Nat) (target : String) : Except MigrationFault Nat := do
  match Walk.ofString? target with
  | none => return (← (← rs.places target).mapM countAt).foldl max 0
  | some w =>
    let k ← w.change
    match w.origin with
    | some origin =>
      if 0 < k then countAt (← rs.walkForth w.branch k.natAbs (← rs.place origin))
      else countAt (rs.walkBack? k.natAbs (← rs.originOf w.branch origin))
    | none =>
      if k ≤ 0 then .error .refused
      if let some b := w.branch then rs.checkBranch (n ≠ 0) b
      match ← rs.walkForth w.branch k.natAbs (.ofCount n) with
      | some p => countAt (some p)
      | none => .error .refused

/-- The place that a walk leads to on the way down. -/
def placeDown (rs : Revisions) (n : Nat) (w : Walk) : Except MigrationFault (Option Place) := do
  let k ← w.change
  match w.origin, decide (k < 0) with
  | some origin, true => return rs.walkBack? k.natAbs (← rs.originOf w.branch origin)
  | some origin, false => rs.walkForth w.branch k.natAbs (← rs.place origin)
  | none, false => .error .refused
  | none, true =>
    if let some b := w.branch then rs.checkBranch (n ≠ 0) b
    match n, w.branch with
    | 0, some _ => .error .misplaced
    | 0, none => .error .refused
    | m + 1, branch => return rs.walkBack? k.natAbs (← rs.originOf branch (rs.getD m ""))

/-- How many migrations are run when a downgrade ends, by its destination and how many were run before. The
destination must not be ahead. Of a branch before a plain name no more than the at sign matters. -/
def goalDown (rs : Revisions) (n : Nat) (target : String) : Except MigrationFault Nat := do
  let p ← match Walk.ofString? target with
    | none => rs.place (String.ofList (target.toList.reverse.takeWhile (· ≠ '@')).reverse)
    | some w =>
      match ← rs.placeDown n w with
      | none | some .start => .error .refused
      | some p => .ok p
  match p with
  | .reached m => if m ≤ n then return m else .error .refused
  | _ => return 0

end Revisions

end ParticipantDirectory.Schema
