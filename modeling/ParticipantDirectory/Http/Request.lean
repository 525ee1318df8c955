import ParticipantDirectory.Group
import ParticipantDirectory.Http.Host
import ParticipantDirectory.Json.Reader
import ParticipantDirectory.Text.Base64
import ParticipantDirectory.Text.Casing

/-!
# Requests

A request has a method, a path whose escapes are resolved, a query, headers and a body. Here are read off
it: its address, the credentials that it presents, and the document in its body.
-/

namespace ParticipantDirectory.Http

/-- A request. The names of headers are in lower case. -/
structure Request where
  method : String
  path : String
  query : String
  headers : List (String × String)
  body : String
  deriving Repr

namespace Request

/-- The value of a header; empty if it is absent. -/
def header (r : Request) (name : String) : String :=
  ((r.headers.find? (·.1 == name)).map (·.2)).getD ""

/-! ## The address -/

/-- A path in an address; the characters that would end or break it are escaped. -/
def encodePath (path : String) : String :=
  String.ofList (path.toList.flatMap fun c =>
    if c = '?' then "%3F".toList else if c = '#' then "%23".toList else if c = '\\' then "%5C".toList else [c])

/-- The host of the server, for a request that names none. -/
def ownHost : String := "test"

/-- The host that the request names; the host of the server if the name is none. -/
def host (r : Request) : String :=
  if Host.isValid (r.header "host") then r.header "host" else ownHost

/-- The address of a path on the host of the request, with its query. -/
def addressOf (r : Request) (path : String) : String :=
  "http://" ++ r.host ++ encodePath path ++ (if r.query = "" then "" else "?" ++ r.query)

/-- The address of the request. -/
def address (r : Request) : String :=
  r.addressOf r.path

/-- The path of the request as it is noted, on one line. -/
def notedPath (r : Request) : String :=
  String.ofList ((encodePath r.path).toList.filter fun c => c ≠ '\t' ∧ c ≠ '\r' ∧ c ≠ '\n')

/-! ## Credentials -/

/-- What a request says about its sender: nothing, something unusable, or a name and a password. -/
inductive Presented where
  | nothing
  | unusable
  | credentials (c : Credentials)
  deriving DecidableEq

/-- The name and the password of decoded credentials, around the first colon. -/
def ofPair (s : List Char) : Presented :=
  match s.dropWhile (· ≠ ':') with
  | [] => .unusable
  | _ :: password => .credentials ⟨String.ofList (s.takeWhile (· ≠ ':')), String.ofList password⟩

/-- The credentials of a basic authorization, which must be base 64 of ASCII text. -/
def ofParameter (parameter : List Char) : Presented :=
  if parameter.any (0x80 ≤ ·.toNat) then .unusable
  else
    match Text.Base64.decode parameter with
    | none => .unusable
    | some bytes =>
      if bytes.any (0x80 ≤ ·.toNat) then .unusable else ofPair (bytes.map fun b => Char.ofNat b.toNat)

/-- What the request says about its sender. Authorizations of another scheme say nothing. -/
def presented (r : Request) : Presented :=
  let s := (r.header "authorization").toList
  let scheme := Text.lower (s.takeWhile (· ≠ ' '))
  if scheme = "basic".toList then ofParameter (Text.strip ((s.dropWhile (· ≠ ' ')).drop 1)) else .nothing

/-! ## The body -/

/-- The content of a body: none, a document, a text that is no document, something that is not read, or something
of which no text or no value can be made. -/
inductive Content where
  | absent
  | document (v : Json)
  | malformed (offset : Nat)
  | unread
  | unusable

/-- Whether a content type is that of a JSON document. -/
def isJsonType (contentType : String) : Bool :=
  let name := Text.lower (Text.strip (contentType.toList.takeWhile (· ≠ ';')))
  let main := name.takeWhile (· ≠ '/')
  let sub := (name.dropWhile (· ≠ '/')).drop 1
  main = "application".toList && !sub.contains '/' &&
    (sub = "json".toList || "+json".toList.reverse.isPrefixOf sub.reverse)

/-- The text of a body without a byte order mark before it. -/
def withoutMark : List Char → List Char
  | c :: rest => if c.toNat = 0xFEFF then rest else c :: rest
  | [] => []

/-- The number of lists and objects that may be open at a place of a body. -/
def depthLimit : Nat := 955

/-- The content of the body. -/
def content (r : Request) : Content :=
  let bytes := r.body.toUTF8.data.toList
  if bytes.isEmpty then .absent
  else if !isJsonType (r.header "content-type") then .unread
  else
    match (Text.Encoding.ofFront bytes).decode? bytes with
    | none => .unusable
    | some text =>
      match Json.read depthLimit (withoutMark text) with
      | .ok v => .document v
      | .error (.unexpected offset) => .malformed offset
      | .error _ => .unusable

end Request

end ParticipantDirectory.Http
