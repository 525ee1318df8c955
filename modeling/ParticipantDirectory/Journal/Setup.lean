import ParticipantDirectory.Journal.Record
import ParticipantDirectory.Text.Casing

/-!
# Where records go

Records that reach the root of the loggers are written by its handlers. `Logging.setup` installs the
handler of the directory in place of an earlier one, keeps all others, and sets the level of the root.
A logger without a level of its own takes that of the nearest one above it.
-/

namespace ParticipantDirectory

/-- The handler of the directory: whether it writes JSON, and the id under which it puts records. -/
structure Handler where
  json : Bool
  smpId : String
  deriving DecidableEq, Repr

/-- A handler of the root: one of the directory or one of another owner, which may have a name. -/
inductive RootHandler where
  | own (handler : Handler)
  | foreign (name : Option String)
  deriving DecidableEq, Repr

namespace RootHandler

/-- The handler of the directory, if it is that. -/
def own? : RootHandler → Option Handler
  | own h => some h
  | foreign _ => none

/-- The name of the handler of the directory. -/
def ownName : String := "smp-directory"

/-- The name of a handler. -/
def name? : RootHandler → Option String
  | own _ => some ownName
  | foreign name => name

end RootHandler

/-- The handlers of the root and the levels of the root and of the loggers that are kept quiet. -/
structure Logging where
  handlers : List RootHandler
  rootLevel : Level
  quietLevel : Level
  deriving DecidableEq, Repr

/-- What a level name can stand for. -/
inductive LevelName where
  | level (l : Level)
  | reserved (text : String)
  | table (text : String)
  deriving DecidableEq, Repr

namespace LevelName

/-- The names that stand for levels. -/
def levels : List (String × Level) :=
  [("CRITICAL", .critical), ("FATAL", .critical), ("ERROR", .error), ("WARN", .warning), ("WARNING", .warning),
    ("INFO", .info), ("DEBUG", .debug), ("NOTSET", .notSet)]

/-- The default template of a line, which has a name of its own. -/
def basicTemplate : String := "%(levelname)s:%(name)s:%(message)s"

/-- The table of template styles, which has a name of its own. -/
def styleTable : String :=
  "\x7b'%': (<class 'logging.PercentStyle'>, '%(levelname)s:%(name)s:%(message)s'), " ++
    "'\x7b': (<class 'logging.StrFormatStyle'>, '\x7blevelname\x7d:\x7bname\x7d:\x7bmessage\x7d'), " ++
    "'$': (<class 'logging.StringTemplateStyle'>, '$\x7blevelname\x7d:$\x7bname\x7d:$\x7bmessage\x7d')\x7d"

/-- What a name stands for; without regard to case. Unknown names stand for the level of ordinary records. -/
def find (name : String) : LevelName :=
  let upper := Text.toUpper name
  match levels.find? (·.1 == upper) with
  | some l => level l.2
  | none =>
    if upper = "BASIC_FORMAT" then reserved basicTemplate
    else if upper = "_STYLES" then table styleTable
    else level .info

end LevelName

/-- Why a level cannot be set. -/
inductive LevelFault where
  | unknown (text : String)
  | notLevel (text : String)
  deriving DecidableEq, Repr

/-- The wording of a fault. -/
def LevelFault.message : LevelFault → String
  | unknown text => "Unknown level: " ++ Text.quoted text
  | notLevel text => "Level not an integer or a valid string: " ++ text

namespace Logging

/-- The state before anything is set up. -/
def initial : Logging := ⟨[], ⟨50⟩, ⟨0⟩⟩

/-- The id under which records are put when no id is given. -/
def placeholderId : String := "-"

/-- The handler of a format and an id. -/
def handlerOf (format : String) (smpId : Option String) : Handler :=
  ⟨format = "json", if smpId.getD "" = "" then placeholderId else smpId.getD ""⟩

/-- The handlers after the one of the directory is replaced. An earlier one is known by its name. -/
def replaceOwn (h : Handler) (handlers : List RootHandler) : List RootHandler :=
  handlers.filter (·.name? ≠ some RootHandler.ownName) ++ [.own h]

/-- Installs the handler of the directory and sets the levels. The handler is in place even if the level
cannot be set. -/
def setup (level format : String) (smpId : Option String) (l : Logging) : Option LevelFault × Logging :=
  let l := { l with handlers := replaceOwn (handlerOf format smpId) l.handlers }
  match LevelName.find level with
  | .level r => (none, { l with rootLevel := r, quietLevel := .warning })
  | .reserved text => (some (.unknown text), l)
  | .table text => (some (.notLevel text), l)

/-- The handler of the directory. -/
def own? (l : Logging) : Option Handler :=
  l.handlers.findSome? RootHandler.own?

/-- The loggers that are kept quiet. -/
def quietLoggers : List String := ["sqlalchemy.engine", "uvicorn.access"]

/-- Whether a logger is the named one or stands below it. -/
def isWithin (logger parent : String) : Bool :=
  logger = parent || (parent ++ ".").toList.isPrefixOf logger.toList

/-- The loggers that have a level from the start: those of the access to databases note nothing below warnings. -/
def fixedLevels : List (String × Level) := [("sqlalchemy", .warning)]

/-- The level that counts for a logger: its own or that of the nearest one above it that has one, at last that of
the root. -/
def effectiveLevel (l : Logging) (logger : String) : Level :=
  if quietLoggers.any (isWithin logger) && l.quietLevel.rank ≠ 0 then l.quietLevel
  else ((fixedLevels.find? fun f => isWithin logger f.1).map (·.2)).getD l.rootLevel

/-- Whether a record reaches the handlers. -/
def admits (l : Logging) (r : Record) : Bool :=
  0 < r.level.rank && (l.effectiveLevel r.logger).rank ≤ r.level.rank

end Logging

/-- The line that a handler writes for a record. The clock gives the text of a moment in the time of the place, as it
stands in lines of text. -/
def Handler.line (h : Handler) (clock : Calendar.Moment → String) (created : Calendar.Moment) (r : Record) : String :=
  let r := r.stamp h.smpId
  if h.json then r.jsonLine created else r.textLine (clock created)

/-- The lines that the handlers of the directory write for a record: one each, if the record reaches them. -/
def Logging.lines (l : Logging) (clock : Calendar.Moment → String) (created : Calendar.Moment) (r : Record) :
    List String :=
  if l.admits r then (l.handlers.filterMap RootHandler.own?).map (·.line clock created r) else []

/-- What is written for a record. -/
def Logging.output (l : Logging) (clock : Calendar.Moment → String) (created : Calendar.Moment) (r : Record) :
    String :=
  String.join ((l.lines clock created r).map (· ++ "\n"))

end ParticipantDirectory
