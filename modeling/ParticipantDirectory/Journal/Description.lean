import ParticipantDirectory.Fault.Description
import ParticipantDirectory.Journal.Record
import ParticipantDirectory.Text.Template

/-!
# Records described by documents

A document describes a record by its logger, its level, a template of its message with arguments, a moment, a
failure, and further attributes, which win over what the document says otherwise.
-/

namespace ParticipantDirectory

/-- The accident of a template that cannot be filled in. -/
def Accident.ofTemplate (fault : Text.TemplateFault) : Accident :=
  match fault with
  | .noKey key => ⟨.missingKey, [.str key]⟩
  | .unknownLetter .. | .incomplete | .incompleteKey | .widthTooBig | .precisionTooBig | .undefined =>
    .told .badValue fault.message
  | .characterRange | .infinite | .sizeRange _ | .realRange => .told .outOfRange fault.message
  | .outOfMemory => .told .noMemory fault.message
  | _ => .told .badKind fault.message

/-- The moment of a number of seconds since the beginning of 1970. -/
def Calendar.Moment.ofDocument (v : Json) : Except Accident Calendar.Moment :=
  match v with
  | .int n => told (Calendar.Moment.ofCount n 0)
  | .bool b => told (Calendar.Moment.ofCount (if b then 1 else 0) 0)
  | .real x => told (Calendar.Moment.ofSeconds x)
  | _ => .error (.told .badKind ("'" ++ v.kindName ++ "' object cannot be interpreted as an integer"))
where
  /-- The moment, or the accident that there is none. -/
  told : Except Calendar.MomentFault Calendar.Moment → Except Accident Calendar.Moment
    | .ok m => .ok m
    | .error fault => .error (.ofMoment fault)

namespace Record

/-- The text of the failure that a document describes; none for null. -/
def exceptionOf (v : Json) : Except Accident (Option String) :=
  if v.isNull then .ok none
  else
    match Failure.described v with
    | .ok (.fault f) => .ok (some f.report)
    | .ok (.accident a) => .ok (some a.report)
    | .ok (.invalid _) => .ok none
    | .error a => .error a

/-- The moment and the record that a document describes. -/
def described (v : Json) : Except Accident (Calendar.Moment × Record) := do
  let extra := v.field "extra"
  let exception ← exceptionOf (v.field "exception")
  let created ← Calendar.Moment.ofDocument ((extra.get? "created").getD ((v.get? "created").getD (.int 0)))
  let template := (extra.member? "msg").getD ((v.member? "msg").getD "")
  match Text.fillTemplate template (v.field "args").items with
  | .error fault => .error (.ofTemplate fault)
  | .ok message =>
    return (created, {
      logger := (extra.member? "name").getD ((v.member? "logger").getD "")
      level := ⟨((v.field "level").whole?).getD 0⟩
      message := message
      context :=
        { smpId := extra.field "smp_id", operation := extra.field "operation",
          serviceGroupId := extra.field "service_group_id", errorCode := extra.field "error_code",
          userName := extra.field "user_name", path := extra.field "path" }
      levelText := extra.member? "levelname"
      exception := exception })

end Record

end ParticipantDirectory
