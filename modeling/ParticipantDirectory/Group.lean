import ParticipantDirectory.Card.Payload
import ParticipantDirectory.Text.Quoted

/-!
# Users and service groups

A user authenticates with a name and a password. A service group registers a participant for its owner;
its id is the participant's key.
-/

namespace ParticipantDirectory

/-- The id of a user: drawn from a supply of fresh ids, or given as a text. -/
inductive UserId where
  | issued (n : Nat)
  | external (text : String)
  deriving DecidableEq, Repr

/-- An authenticated user. -/
structure User where
  id : UserId
  name : String
  deriving DecidableEq, Repr

/-- A name and a password as a caller presents them. -/
structure Credentials where
  userName : String
  password : String
  deriving DecidableEq

/-- Credentials in a message; the password is not shown. -/
def Credentials.shown (c : Credentials) : String :=
  "BasicAuthCredentials(user_name=" ++ Text.quoted c.userName ++ ")"

/-- The registration of a participant. -/
structure ServiceGroup where
  id : String
  participant : Identifier
  owner : UserId
  extension : Option String
  deriving DecidableEq, Repr

/-- What a request to register a participant may say. -/
structure GroupRequest where
  extension : Option String
  deriving DecidableEq, Repr

namespace GroupRequest

/-- The rule for extensions. -/
def extensionRule : TextRule := .atMost 10000

/-- The request of a document. -/
def decode : Json → Verdict GroupRequest :=
  Verdict.object "ServiceGroupCreate" fun ms =>
    mk <$> Verdict.optional "extension" none extensionRule.decode? ms

/-- The document of a request. -/
def encode (r : GroupRequest) : Json :=
  .obj [("extension", .ofString? r.extension)]

end GroupRequest

/-- The document by which a service group is sent. -/
structure GroupPayload where
  id : Text.Loose
  participant : Identifier
  extension : Option Text.Loose
  deriving DecidableEq, Repr

namespace GroupPayload

/-- The payload of a document. -/
def decode : Json → Verdict GroupPayload :=
  Verdict.object "ServiceGroupResponse" fun ms =>
    mk <$> Verdict.required "id" Verdict.anyText ms <*>
      Verdict.required "participant_identifier" Identifier.decode ms <*>
      Verdict.optional "extension" none Verdict.anyText? ms

/-- The document of a payload. -/
def encode (p : GroupPayload) : Json :=
  .obj [("id", .ofLoose p.id), ("participant_identifier", p.participant.encode), ("extension", .ofLoose? p.extension)]

/-- The payload of a stored service group, or what is wrong with its participant. -/
def ofGroup (g : ServiceGroup) : Except (List Violation) GroupPayload := do
  let participant ← g.participant.check.toExcept
  return ⟨g.id, participant, g.extension.map .whole⟩

end GroupPayload

/-- The document that answers a change. -/
structure StatusPayload where
  status : Text.Loose
  deriving DecidableEq, Repr

namespace StatusPayload

/-- The payload of a document. -/
def decode : Json → Verdict StatusPayload :=
  Verdict.object "OperationResponse" fun ms =>
    mk <$> Verdict.required "status" Verdict.anyText ms

/-- The document of a payload. -/
def encode (p : StatusPayload) : Json :=
  .obj [("status", .ofLoose p.status)]

end StatusPayload

end ParticipantDirectory
