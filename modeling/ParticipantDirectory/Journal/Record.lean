import ParticipantDirectory.Calendar.Moment
import ParticipantDirectory.Json.Plain
import ParticipantDirectory.Json.Writer

/-!
# Records of the journal

A record says what happened: where it was noted, how grave it is, a message, and the context in which it
happened. It is written as a line of JSON or as a line of text, never as more than one line of JSON.
-/

namespace ParticipantDirectory

/-- How grave a record is; any number can be, and some have a name. -/
structure Level where
  rank : Int
  deriving DecidableEq, Repr

namespace Level

/-- The rank below which nothing is kept. -/
def notSet : Level := ⟨0⟩

/-- Details that help to trace what is done. -/
def debug : Level := ⟨10⟩

/-- What is done. -/
def info : Level := ⟨20⟩

/-- Something refused or unusual. -/
def warning : Level := ⟨30⟩

/-- Something that failed. -/
def error : Level := ⟨40⟩

/-- Something that stops the work. -/
def critical : Level := ⟨50⟩

/-- The name of a level. -/
def name (l : Level) : String :=
  if l.rank = 50 then "CRITICAL"
  else if l.rank = 40 then "ERROR"
  else if l.rank = 30 then "WARNING"
  else if l.rank = 20 then "INFO"
  else if l.rank = 10 then "DEBUG"
  else if l.rank = 0 then "NOTSET"
  else "Level " ++ Int.repr l.rank

end Level

/-- The context of a record; null means absent. -/
structure RecordContext where
  smpId : Json := .null
  operation : Json := .null
  serviceGroupId : Json := .null
  errorCode : Json := .null
  userName : Json := .null
  path : Json := .null

/-- The parts of a context with their names, in the order in which they are written. -/
def RecordContext.fields (c : RecordContext) : List (String × Json) :=
  [("smp_id", c.smpId), ("operation", c.operation), ("service_group_id", c.serviceGroupId),
    ("error_code", c.errorCode), ("user_name", c.userName), ("path", c.path)]

/-- The parts of a context that are present. -/
def RecordContext.present (c : RecordContext) : List (String × Json) :=
  c.fields.filter fun f => !f.2.isNull

/-- Something that happened. -/
structure Record where
  logger : String
  level : Level
  message : String
  context : RecordContext := {}
  /-- A name that is shown in place of the name of the level. -/
  levelText : Option String := none
  /-- The name and the text of an exception. -/
  exception : Option String := none

namespace Record

/-- The record under the id of the directory, unless it already has one. -/
def stamp (smpId : String) (r : Record) : Record :=
  if r.context.smpId.isNull then { r with context := { r.context with smpId := .str smpId } } else r

/-- The name of the level that is shown. -/
def levelName (r : Record) : String :=
  r.levelText.getD r.level.name

/-- The members of a record without its time and its exception. -/
def members (r : Record) : List (String × Json) :=
  ("level", .str r.levelName) :: ("logger", .str r.logger) :: ("message", .str r.message) :: r.context.present

/-- A record of a moment as a JSON object. -/
def toJson (created : Calendar.Moment) (r : Record) : Json :=
  .obj (("timestamp", .str created.render) :: r.members ++
    (match r.exception with
      | some text => [("exception", .str text)]
      | none => []))

/-- A record of a moment as a line of JSON. -/
def jsonLine (created : Calendar.Moment) (r : Record) : String :=
  (r.toJson created).render

/-- A record of a moment as a line of text; the text of an exception follows on lines of its own. -/
def textLine (time : String) (r : Record) : String :=
  let line := time ++ " " ++ r.levelName ++ " [" ++ r.context.smpId.shown ++ "] " ++ r.logger ++ ": " ++ r.message
  match r.exception with
  | some text => if line.toList.getLast? = some '\n' then line ++ text else line ++ "\n" ++ text
  | none => line

end Record

end ParticipantDirectory
