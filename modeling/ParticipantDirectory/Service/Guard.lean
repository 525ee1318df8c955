import ParticipantDirectory.World

/-!
# Reported blocks

A block of an operation whose faults are put into the context of the operation and noted. Accidents and
violations pass through.
-/

namespace ParticipantDirectory

/-- What a reported block adds to a fault: a mark before the message, the operation, the raw id of the
service group and the address of the request. -/
structure Block where
  mark : String
  operation : String
  serviceGroupId : String
  requestUri : Option String
  deriving DecidableEq, Repr

namespace Block

/-- The logger of reported blocks. -/
def logger : String := "smp_directory.services.request_logging"

/-- A fault in the context of the block. -/
def attach (b : Block) (f : Fault) : Fault :=
  { f with
    context :=
      { f.context with
        operation := b.operation, serviceGroupId := b.serviceGroupId, requestUri := .ofString? b.requestUri } }

/-- The record of a fault. -/
def record (b : Block) (f : Fault) : Record where
  logger := logger
  level := .warning
  message := b.mark ++ b.operation ++ "(" ++ b.serviceGroupId ++ ") failed: " ++ f.cause.message
  context :=
    { operation := .str b.operation, serviceGroupId := .str b.serviceGroupId, errorCode := f.cause.code }

/-- Runs an operation inside the block. -/
def run {σ α : Type} (b : Block) (body : Action σ α) : Action σ α :=
  tryCatch body fun
    | .fault f => do
      Action.note (b.record f)
      throw (.fault (b.attach f))
    | failure => throw failure

end Block

end ParticipantDirectory
