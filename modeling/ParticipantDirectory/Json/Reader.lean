import ParticipantDirectory.Json.Token

/-!
# Reading JSON text

The tokens are read one after the other by an automaton whose stack holds the open lists and objects.
`read` gives the value of a text, or the first fault that is met: a place where something else was wanted, a whole
number with too many digits, or a list or an object within too many others. A member whose name holds a lone surrogate
is read and left out: no reader of documents asks for such a name.
-/

namespace ParticipantDirectory.Json

/-- Why a text has no value. -/
inductive ReadFault where
  | unexpected (offset : Nat)
  | longNumber
  | deepList
  | deepObject
  deriving DecidableEq, Repr

/-- An open list or object and what it holds so far: the items last first, the members in order. -/
inductive Frame where
  | items (done : List Json)
  | members (done : List (String × Json))

/-- A place that waits for a value: the next item of a list, or the value of a key. -/
inductive Slot where
  | item (done : List Json)
  | member (done : List (String × Json)) (key : Text.Loose)

/-- What is wanted next, with the places that wait outside it, innermost first. -/
inductive Want where
  | value (outer : List Slot)
  | firstItem (outer : List Slot)
  | firstName (outer : List Slot)
  | name (done : List (String × Json)) (outer : List Slot)
  | colon (done : List (String × Json)) (key : Text.Loose) (outer : List Slot)
  | separator (frame : Frame) (outer : List Slot)
  | finish (v : Json)

/-- A complete value put into the innermost place that waits for one. -/
def settle (v : Json) : List Slot → Want
  | [] => .finish v
  | .item done :: outer => .separator (.items (v :: done)) outer
  | .member done (.whole key) :: outer => .separator (.members (setMember key v done)) outer
  | .member done (.broken _) :: outer => .separator (.members done) outer

/-- What is wanted after a token, when a value was wanted and at most `depth` lists and objects may be open. -/
def afterValue (depth : Nat) (p : Placed) (outer : List Slot) : Except ReadFault Want :=
  match p.token with
  | .openList => if depth ≤ outer.length then .error .deepList else .ok (.firstItem outer)
  | .openObject => if depth ≤ outer.length then .error .deepObject else .ok (.firstName outer)
  | .text t => .ok (settle (.ofLoose t) outer)
  | .plain v => .ok (settle v outer)
  | .broken offset => .error (.unexpected offset)
  | .longNumber => .error .longNumber
  | _ => .error (.unexpected p.start)

/-- What is wanted after a token, when a name was wanted. -/
def afterName (p : Placed) (done : List (String × Json)) (outer : List Slot) : Except ReadFault Want :=
  match p.token with
  | .text t => .ok (.colon done t outer)
  | .broken offset => .error (.unexpected offset)
  | _ => .error (.unexpected p.start)

/-- What is wanted after a token, when at most `depth` lists and objects may be open. -/
def Want.after (depth : Nat) (p : Placed) : Want → Except ReadFault Want
  | .value outer => afterValue depth p outer
  | .firstItem outer =>
    match p.token with
    | .closeList => .ok (settle (.arr []) outer)
    | _ => afterValue depth p (.item [] :: outer)
  | .firstName outer =>
    match p.token with
    | .closeObject => .ok (settle (.obj []) outer)
    | _ => afterName p [] outer
  | .name done outer => afterName p done outer
  | .colon done key outer =>
    match p.token with
    | .colon => .ok (.value (.member done key :: outer))
    | _ => .error (.unexpected p.start)
  | .separator (.items done) outer =>
    match p.token with
    | .comma => .ok (.value (.item done :: outer))
    | .closeList => .ok (settle (.arr done.reverse) outer)
    | _ => .error (.unexpected p.start)
  | .separator (.members done) outer =>
    match p.token with
    | .comma => .ok (.name done outer)
    | .closeObject => .ok (settle (.obj done) outer)
    | _ => .error (.unexpected p.start)
  | .finish _ => .error (.unexpected p.start)

/-- The value of a text in which at most `depth` lists and objects are open at any place, or its first fault; an
end that comes too early is reported at the length of the text. -/
def read (depth : Nat) (s : List Char) : Except ReadFault Json :=
  match (tokens s).foldlM (fun w p => w.after depth p) (Want.value []) with
  | .ok (.finish v) => .ok v
  | .ok _ => .error (.unexpected s.length)
  | .error fault => .error fault

end ParticipantDirectory.Json
