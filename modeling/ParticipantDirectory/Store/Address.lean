import ParticipantDirectory.Text.Percent
import ParticipantDirectory.Text.Quoted
import ParticipantDirectory.Text.Word

/-!
# Addresses of databases

An address names the kind of database with its driver, a user and a password, a host and a port, the database and
options, of which all but the first may be absent. `DatabaseAddress.ofString?` takes an address apart and
`DatabaseAddress.render` writes it without its password.
-/

namespace ParticipantDirectory

/-- An address of a database. The port is as it was written. -/
structure DatabaseAddress where
  kind : String
  user : Option String
  password : Option String
  host : Option String
  port : Option String
  database : Option String
  options : Option String
  deriving DecidableEq, Repr

namespace DatabaseAddress

/-- The parts of a text before and after the last occurrence of a character. -/
def splitLast? (mark : Char) (s : List Char) : Option (List Char × List Char) :=
  match s.reverse.dropWhile (· ≠ mark) with
  | [] => none
  | _ :: before => some (before.reverse, (s.reverse.takeWhile (· ≠ mark)).reverse)

/-- A user and a password at the front of a text, up to an at sign, and the text after it. A password may hold
anything else. -/
def takeUser (s : List Char) : Option (List Char × Option (List Char)) × List Char :=
  let run := s.takeWhile fun c => c ≠ ':' ∧ c ≠ '/'
  let rest := s.dropWhile fun c => c ≠ ':' ∧ c ≠ '/'
  match rest.head? == some ':', (rest.drop 1).dropWhile (· ≠ '@') with
  | true, _ :: after => (some (run, some ((rest.drop 1).takeWhile (· ≠ '@'))), after)
  | _, _ =>
    match splitLast? '@' run with
    | some (user, more) => (some (user, none), more ++ rest)
    | none => (none, s)

/-- A host at the front of a text and the text after it. A host with colons stands in brackets. -/
def takeHost (s : List Char) : Option (List Char) × List Char :=
  let run := s.takeWhile fun c => c ≠ '/' ∧ c ≠ '?'
  let rest := s.dropWhile fun c => c ≠ '/' ∧ c ≠ '?'
  match s.head? == some '[', splitLast? ']' (run.drop 1) with
  | true, some (c :: host, more) => (some (c :: host), more ++ rest)
  | _, _ =>
    match run.takeWhile (· ≠ ':') with
    | [] => (none, s)
    | host => (some host, run.dropWhile (· ≠ ':') ++ rest)

/-- What follows a mark at the front of a text, up to the ending characters, and the text after it. -/
def takeAfter (mark : Char) (ends : List Char) : List Char → Option (List Char) × List Char
  | c :: s => if c = mark then (some (s.takeWhile (!ends.contains ·)), s.dropWhile (!ends.contains ·)) else (none, c :: s)
  | [] => (none, [])

/-- The address of a text, which begins with the kind of database, a colon and two slashes. -/
def ofString? (s : String) : Option DatabaseAddress :=
  let isKind := fun c => Text.isWord c || c == '+'
  let kind := s.toList.takeWhile isKind
  match kind, s.toList.dropWhile isKind with
  | _ :: _, ':' :: '/' :: '/' :: rest =>
    let (user, rest) := takeUser rest
    let (host, rest) := takeHost rest
    let (port, rest) := takeAfter ':' ['/', '?'] rest
    let (database, rest) := takeAfter '/' ['?'] rest
    let (options, _) := takeAfter '?' ['\n'] rest
    let plain (t : List Char) : String := Text.Percent.decode (String.ofList t)
    some
      { kind := String.ofList kind
        user := user.map fun u => plain u.1
        password := (user.bind (·.2)).map plain
        host := host.map String.ofList
        port := port.map String.ofList
        database := database.map plain
        options := options.map String.ofList }
  | _, _ => none

/-- The number of the port; none if no port is given. A port that is no number is the given text or empty. -/
def portNumber (a : DatabaseAddress) : Except String (Option Int) :=
  match a.port with
  | none => .ok none
  | some text =>
    match Text.wholeNumber? text.toList with
    | some n => .ok (some n)
    | none => .error text

/-- The characters that stand for themselves in every part of an address. -/
def isPlain (extra : List Char) (c : Char) : Bool :=
  c.isAlphanum || ['_', '.', '-', '~'].contains c || extra.contains c

/-- A name or a value of an option, in which a plus sign stands for a blank. -/
def optionText (s : List Char) : String :=
  Text.Percent.decode (String.ofList (s.map fun c => if c = '+' then ' ' else c))

/-- The options that have a value, as names and values. -/
def optionList (s : List Char) : List (String × String) :=
  (parts s.length s).filterMap fun part =>
    match part.dropWhile (· ≠ '=') with
    | _ :: c :: value => some (optionText (part.takeWhile (· ≠ '=')), optionText (c :: value))
    | _ => none
where
  /-- The parts between ampersands; `fuel` is at least the length of the text. -/
  parts : Nat → List Char → List (List Char)
    | 0, s => [s]
    | fuel + 1, s =>
      match s.dropWhile (· ≠ '&') with
      | [] => [s]
      | _ :: rest => s.takeWhile (· ≠ '&') :: parts fuel rest

/-- Options in the order of their names, with a question mark in front; empty if there are none. -/
def renderOptions (s : List Char) : String :=
  let escape (t : String) : String := (Text.Percent.encode (isPlain [' ']) t).map fun c => if c = ' ' then '+' else c
  match (optionList s).mergeSort fun a b => decide (a.1 ≤ b.1) with
  | [] => ""
  | options => "?" ++ "&".intercalate (options.map fun o => escape o.1 ++ "=" ++ escape o.2)

/-- The address with stars in the place of the password. -/
def render (a : DatabaseAddress) : String :=
  let user := match a.user with
    | none => ""
    | some u => Text.Percent.encode (isPlain [' ', '+']) u ++ (if a.password.isSome then ":***" else "") ++ "@"
  let host := match a.host with
    | none => ""
    | some h => if h.toList.contains ':' then "[" ++ h ++ "]" else h
  let port := match a.portNumber with
    | .ok (some n) => ":" ++ Int.repr n
    | _ => ""
  let database := match a.database with
    | none => ""
    | some d => "/" ++ Text.Percent.encode (isPlain [' ', '+', '/']) d
  a.kind ++ "://" ++ user ++ host ++ port ++ database ++ renderOptions (a.options.getD "").toList

example : (ofString? "postgresql+asyncpg://u:p@h:5432/d?a=x").bind options = some "a=x" := by decide +kernel
example : (ofString? "sqlite+aiosqlite://host/x").bind host = some "host" := by decide +kernel
example : ofString? "bogus" = none := by decide +kernel

end DatabaseAddress

end ParticipantDirectory
