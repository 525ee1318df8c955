import ParticipantDirectory.Digest.Pbkdf2
import ParticipantDirectory.Text.Loose

/-!
# Stored passwords

A password is stored as the hexadecimal text of a salt and of the key derived from the password under
that salt, with a dollar sign between them. Verification derives the key again and compares all of it;
a stored text of any other form verifies nothing. Keys are derived from bytes, so `stored` and `verdict`, which take
any texts, fail over a password that holds a lone surrogate, `verdict` once it has read a salt and a key. On whole
texts they are `hash` and `verify`.
-/

namespace ParticipantDirectory.Password

/-- The number of rounds in which keys are derived. -/
def defaultRounds : Nat := 100000

/-- What stands between the salt and the key. -/
def separator : Char := '$'

/-- The bytes of a text. -/
def bytesOf (s : String) : List UInt8 :=
  s.toUTF8.data.toList

/-- The stored form of a password under a salt, if the password is whole. -/
def hash (rounds : Nat) (salt : List UInt8) (password : String) : String :=
  String.ofList (Text.Hex.encode salt ++ separator :: Text.Hex.encode (Digest.deriveKey (bytesOf password) salt rounds))

/-- The parts of a text before and after its first dollar sign. -/
def splitStored : List Char → Option (List Char × List Char)
  | [] => none
  | c :: rest => if c = separator then some ([], rest) else (splitStored rest).map fun p => (c :: p.1, p.2)

/-- The salt and the key of a stored text. -/
def readStored (stored : String) : Option (List UInt8 × List UInt8) := do
  let (salt, key) ← splitStored stored.toList
  return (← Text.Hex.decode salt, ← Text.Hex.decode key)

/-- Whether a stored text is that of a password that is whole. -/
def verify (rounds : Nat) (password stored : String) : Bool :=
  match readStored stored with
  | none => false
  | some (salt, key) => Digest.deriveKey (bytesOf password) salt rounds == key

/-- The stored form of a password under a salt; a password without bytes has none. -/
def stored (rounds : Nat) (salt : List UInt8) : Text.Loose → Except Text.Broken String
  | .whole password => .ok (hash rounds salt password)
  | .broken b => .error b

/-- Whether a stored text is that of a password. The password is looked at only if the stored text is read. -/
def verdict (rounds : Nat) (password stored : Text.Loose) : Except Text.Broken Bool :=
  match stored.whole?.bind readStored with
  | none => .ok false
  | some (salt, key) =>
    match password with
    | .whole password => .ok (Digest.deriveKey (bytesOf password) salt rounds == key)
    | .broken b => .error b

end ParticipantDirectory.Password
