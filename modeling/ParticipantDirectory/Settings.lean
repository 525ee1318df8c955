import ParticipantDirectory.Decimal.Digits
import ParticipantDirectory.Identifier.Addressing
import ParticipantDirectory.Json.Reader
import ParticipantDirectory.Json.Writer
import ParticipantDirectory.Text.Blank
import ParticipantDirectory.Verdict.Decode

/-!
# Settings

The settings of a directory come from named values: those given directly win over those of the
environment, and what neither names has a default. Values of the environment are texts; numbers and
truth values are read from texts, and the allowed origins from a JSON text. A text may hold lone surrogates, as those of
the environment do for bytes that are no text, where it is the name or the password of the first user or an origin. In
the other settings such texts are left out: they are refused here.
-/

namespace ParticipantDirectory

/-- The settings of a directory. -/
structure Settings where
  databaseUrl : String
  poolSize : Int
  maxOverflow : Int
  createSchema : Bool
  smpId : String
  addressing : Addressing
  cardsEnabled : Bool
  bootstrapName : Option Text.Loose
  bootstrapPassword : Option Text.Loose
  corsOrigins : List Text.Loose
  logLevel : String
  logFormat : String
  deriving DecidableEq, Repr

namespace Settings

/-- The settings of a directory for which nothing is given. -/
def default : Settings where
  databaseUrl := "postgresql+asyncpg://smp:smp@db:5432/smp"
  poolSize := 20
  maxOverflow := 10
  createSchema := false
  smpId := "SMP-1"
  addressing := .peppol
  cardsEnabled := true
  bootstrapName := none
  bootstrapPassword := none
  corsOrigins := ["http://localhost:5173"]
  logLevel := "INFO"
  logFormat := "json"

/-- The names of the settings, in the order in which violations are reported. -/
def names : List String :=
  ["database_url", "database_pool_size", "database_max_overflow", "database_create_schema", "smp_id",
    "identifier_type", "directory_integration_enabled", "bootstrap_user_name", "bootstrap_user_password",
    "cors_origins", "log_level", "log_format"]

/-- The address of a database, with the driver named that serves the plain scheme. -/
def withDriver (url : String) : String :=
  let plain := "postgresql://".toList
  if plain.isPrefixOf url.toList then
    String.ofList ("postgresql+asyncpg://".toList ++ url.toList.drop plain.length)
  else url

/-! ## Whole numbers -/

/-- A sign in front of a numeral, true for a minus, and the numeral. -/
def takeSign : List Char → Bool × List Char
  | '-' :: rest => (true, rest)
  | '+' :: rest => (false, rest)
  | s => (false, s)

/-- The number of bytes from which on a numeral counts as long. -/
def longLength : Nat := 19

/-- Whether a text is a numeral without a sign. After the first digit of a long one underscores may stand
anywhere. -/
def isNumeral (long : Bool) (s : List Char) : Bool :=
  s.head?.any Char.isDigit && s.all fun c => c.isDigit || (long && c == '_')

/-- The value of a numeral with a sign or without. -/
def signed? (s : List Char) : Option Int :=
  let (negative, body) := takeSign s
  if isNumeral (longLength ≤ s.length) body then
    let n := Decimal.ofDigits (body.filter (· ≠ '_'))
    some (if negative then -(n : Int) else n)
  else none

/-- A numeral without its leading zeros, between which underscores may stand. A minus may stand in front of it or
after these zeros; of zeros alone, or before a point, the last is kept. -/
def dropLeadingZeros : List Char → Option (List Char)
  | '0' :: rest => go '0' rest
  | c :: rest => if c.isDigit || c == '-' then some (c :: rest) else none
  | [] => none
where
  /-- What follows leading zeros, the last character of which is given. -/
  go (last : Char) : List Char → Option (List Char)
    | [] => some [last]
    | c :: rest =>
      if c = '0' ∨ c = '_' then go c rest
      else if c = '.' then some (last :: c :: rest)
      else if c.isDigit || c == '-' then some (c :: rest)
      else none

/-- A text without a decimal point and one zero or more at its end. -/
def dropDecimalZeros (s : List Char) : List Char :=
  match s.dropWhile (· ≠ '.') with
  | '.' :: '0' :: zeros => if zeros.all (· == '0') then s.takeWhile (· ≠ '.') else s
  | _ => s

/-- A text without its underscores, if they stand one by one and neither first nor last; else as it is. -/
def dropUnderscores (s : List Char) : List Char :=
  if s.head? = some '_' || s.getLast? = some '_' || (s.zip (s.drop 1)).contains ('_', '_') then s
  else s.filter (· ≠ '_')

/-- White space around a number. -/
def isMargin (c : Char) : Bool :=
  Text.isBlank c && !(0x1C ≤ c.toNat && c.toNat ≤ 0x1F)

/-- A text without blanks around it, a plus sign, leading zeros, decimals that are zero and underscores. -/
def plainNumeral? (s : List Char) : Option (List Char) := do
  let s ← match Text.stripWhere isMargin s with
    | '+' :: rest => if rest.head? = some '-' then none else some rest
    | s => some s
  return dropUnderscores (dropDecimalZeros (← dropLeadingZeros s))

/-- The whole number of a text: a numeral, or a text that is one without what does not count. -/
def wholeOfText? (s : String) : Option Int :=
  match signed? s.toList with
  | some n => some n
  | none => (plainNumeral? s.toList).bind signed?

/-- The greatest number of bytes of a text that is read as a number. -/
def textLimit : Nat := 4300

/-- The whole number of a float without a fraction. -/
def wholeOfReal? (x : Float) : Option Int :=
  if x.isNaN || x.isInf || x.floor != x then none
  else
    let b := Decimal.Binary.ofFloat x
    let r := Decimal.Ratio.scale b.mantissa 2 b.exponent
    some (if x < 0 then -((r.num / r.den : Nat) : Int) else (r.num / r.den : Nat))

/-- Whether a whole number lies strictly between the ends of what 64 bits hold. -/
def fitsWord (n : Int) : Bool :=
  -Int.pow 2 63 < n && n < Int.pow 2 63

/-- The whole number of a value. -/
def decodeWhole : Json → Verdict Int
  | .int n => .accepted n
  | .bool b => .accepted (if b then 1 else 0)
  | .real x =>
    if x.isNaN || x.isInf then .refuse .notFinite
    else
      match wholeOfReal? x with
      | some n => if fitsWord n then .accepted n else .refuse .wholeTooLong
      | none => .refuse .wholeFraction
  | .str s =>
    if textLimit < s.utf8ByteSize then .refuse .wholeTooLong
    else
      match wholeOfText? s with
      | some n => .accepted n
      | none => .refuse .wholeUnreadable
  | .broken _ => .refuse .brokenText
  | _ => .refuse .notWhole

/-! ## Truth values and choices -/

/-- The texts that mean yes. -/
def yesTexts : List String := ["1", "true", "yes", "on", "t", "y"]

/-- The texts that mean no. -/
def noTexts : List String := ["0", "false", "no", "off", "f", "n"]

/-- The truth value of a whole number, which 64 bits have to hold. -/
def truthOfWhole (n : Int) : Verdict Bool :=
  if n < -Int.pow 2 63 ∨ Int.pow 2 63 ≤ n then .refuse .notTruth
  else if n = 1 then .accepted true else if n = 0 then .accepted false else .refuse .truthUnreadable

/-- The truth value of a value; texts are compared without regard to the case of ASCII letters. -/
def decodeTruth : Json → Verdict Bool
  | .bool b => .accepted b
  | .int n => truthOfWhole n
  | .real x =>
    match wholeOfReal? x with
    | some n => if fitsWord n then truthOfWhole n else .refuse .notTruth
    | none => .refuse .notTruth
  | .str s =>
    let s := s.map Char.toLower
    if s ∈ yesTexts then .accepted true
    else if s ∈ noTexts then .accepted false
    else .refuse .truthUnreadable
  | .broken _ => .refuse .brokenText
  | _ => .refuse .notTruth

/-- The addressing rule of a value. -/
def decodeAddressing (v : Json) : Verdict Addressing :=
  let unknown := Verdict.refuse (.notChoice [Addressing.simple.name, Addressing.peppol.name])
  match v with
  | .str s =>
    match Addressing.ofName? s with
    | some rule => .accepted rule
    | none => unknown
  | .broken _ => .refuse .brokenText
  | _ => unknown

/-! ## Named values -/

/-- The verdict on named values without regard to names that are not those of settings. -/
def decodeFields (ms : List (String × Json)) : Verdict Settings :=
  let text := TextRule.any.decode
  mk <$> Verdict.optional "database_url" default.databaseUrl (fun v => withDriver <$> text v) ms <*>
    Verdict.optional "database_pool_size" default.poolSize decodeWhole ms <*>
    Verdict.optional "database_max_overflow" default.maxOverflow decodeWhole ms <*>
    Verdict.optional "database_create_schema" default.createSchema decodeTruth ms <*>
    Verdict.optional "smp_id" default.smpId text ms <*>
    Verdict.optional "identifier_type" default.addressing decodeAddressing ms <*>
    Verdict.optional "directory_integration_enabled" default.cardsEnabled decodeTruth ms <*>
    Verdict.optional "bootstrap_user_name" default.bootstrapName Verdict.anyText? ms <*>
    Verdict.optional "bootstrap_user_password" default.bootstrapPassword Verdict.anyText? ms <*>
    Verdict.optional "cors_origins" default.corsOrigins (Verdict.list Verdict.anyText) ms <*>
    Verdict.optional "log_level" default.logLevel text ms <*>
    Verdict.optional "log_format" default.logFormat text ms

/-- One violation for each name that is not the name of a setting. -/
def unexpected (ms : List (String × Json)) : Verdict Unit :=
  match (ms.filter fun m => !names.contains m.1).map fun m => (⟨[.field m.1], .unexpectedField⟩ : Violation) with
  | [] => .accepted ()
  | vs => .refused vs

/-- The verdict on named values. -/
def decode (ms : List (String × Json)) : Verdict Settings :=
  (fun s _ => s) <$> decodeFields ms <*> unexpected ms

/-- Why there are no settings: a text of the environment is no document or has too many lists or objects within each
other, or values have violations. -/
inductive Problem where
  | unreadable (name : String)
  | deepList
  | deepObject
  | invalid (violations : List Violation)

/-- The wording of a value of the environment that cannot be read. -/
def unreadableMessage (name : String) : String :=
  "error parsing value for field \"" ++ name ++ "\" from source \"EnvSettingsSource\""

/-- The wording of a depth that is not read, of lists or of objects. -/
def depthMessage (kind : String) : String :=
  "maximum recursion depth exceeded while decoding a JSON " ++ kind ++ " from a unicode string"

/-- The number of lists and objects that may be open at a place of a text of the environment. -/
def depthLimit : Nat := 984

/-- The values that the environment has for the settings. Its names are compared without regard to case, and
of two that agree the later counts. A JSON text that is null gives no value. -/
def ofEnvironment (env : List (String × Text.Loose)) : Except Problem (List (String × Json)) :=
  names.filterMapM fun name =>
    match env.reverse.find? fun e => Text.toLower e.1 == name with
    | none => .ok none
    | some e =>
      if name = "cors_origins" then
        match e.2.whole?.map fun text => Json.read depthLimit text.toList with
        | some (.ok .null) => .ok none
        | some (.ok v) => .ok (some (name, v))
        | some (.error .deepList) => .error .deepList
        | some (.error .deepObject) => .error .deepObject
        | some (.error _) | none => .error (.unreadable name)
      else .ok (some (name, .ofLoose e.2))

/-- The values given directly, under the names of settings where these agree without regard to case. Of two values
for one setting the first counts. -/
def ofGiven (given : List (String × Json)) : List (String × Json) :=
  given.foldl (fun kept m =>
    let name := if names.contains (Text.toLower m.1) then Text.toLower m.1 else m.1
    if (Json.findMember? name kept).isSome then kept else kept ++ [(name, m.2)]) []

/-- The named values after others are given, which win. -/
def overlay (base given : List (String × Json)) : List (String × Json) :=
  base.map (fun m => (m.1, (Json.findMember? m.1 given).getD m.2)) ++
    given.filter fun m => (Json.findMember? m.1 base).isNone

/-- The settings of an environment and the values given directly. -/
def load (env : List (String × Text.Loose)) (given : List (String × Json)) : Except Problem Settings :=
  match ofEnvironment env with
  | .error p => .error p
  | .ok base =>
    match decode (overlay base (ofGiven given)) with
    | .accepted s => .ok s
    | .refused vs => .error (.invalid vs)

/-- The settings as named values. -/
def encode (s : Settings) : Json :=
  .obj
    [("database_url", .str s.databaseUrl), ("database_pool_size", .int s.poolSize),
      ("database_max_overflow", .int s.maxOverflow), ("database_create_schema", .bool s.createSchema),
      ("smp_id", .str s.smpId), ("identifier_type", .str s.addressing.name),
      ("directory_integration_enabled", .bool s.cardsEnabled), ("bootstrap_user_name", .ofLoose? s.bootstrapName),
      ("bootstrap_user_password", .ofLoose? s.bootstrapPassword), ("cors_origins", .arr (s.corsOrigins.map .ofLoose)),
      ("log_level", .str s.logLevel), ("log_format", .str s.logFormat)]

example : wholeOfText? " +1_000.0 " = some 1000 := by decide +kernel
example : wholeOfText? "007" = some 7 ∧ wholeOfText? "1e3" = none ∧ wholeOfText? "-0" = some 0 := by decide +kernel
example : wholeOfText? "0-_1" = some (-1) ∧ wholeOfText? "1." = none ∧ wholeOfText? "1__0" = none := by decide +kernel

end Settings

end ParticipantDirectory
