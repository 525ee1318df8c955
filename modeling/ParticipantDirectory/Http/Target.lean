/-!
# Targets of requests

The resources that paths name, and the methods that each has. An id is one segment of a path that is not
empty. The end of a path that names no id may be followed by one line feed.
-/

namespace ParticipantDirectory.Http

/-- A resource. -/
inductive Target where
  | liveness
  | readiness
  | status
  | statistics
  | cardStatistics
  | group (id : String)
  | card (id : String)
  deriving DecidableEq, Repr

namespace Target

/-- The paths without ids. -/
def fixedPaths : List (String × Target) :=
  [("/api/v1/health/", liveness), ("/api/v1/health/ready", readiness), ("/api/v1/status", status),
    ("/api/v1/statistics", statistics), ("/api/v1/statistics/businesscard", cardStatistics)]

/-- What stands before the id in the path of a service group. -/
def groupRoot : String := "/api/v1/servicegroup/"

/-- What stands before the id in the path of a card. -/
def cardRoot : String := "/api/v1/businesscard/"

/-- The id in a path after the given root. -/
def idAfter? (root path : String) : Option String :=
  let rest := path.toList.drop root.length
  if root.toList.isPrefixOf path.toList && !rest.isEmpty && !rest.contains '/' then some (String.ofList rest) else none

/-- The resource of a path. -/
def ofPath? (path : String) : Option Target :=
  match fixedPaths.find? fun p => path == p.1 || path == p.1 ++ "\n" with
  | some p => some p.2
  | none =>
    match idAfter? groupRoot path with
    | some id => some (group id)
    | none => (idAfter? cardRoot path).map card

/-- The path with the slashes at its end removed, or one added if it has none. -/
def toggleSlash (path : String) : String :=
  if path.toList.getLast? = some '/' then String.ofList (path.toList.reverse.dropWhile (· == '/')).reverse
  else path ++ "/"

/-- The path that differs from the given one only by slashes at its end and names a resource. -/
def nearby? (path : String) : Option String :=
  let other := toggleSlash path
  if path = "/" then none else (ofPath? other).map fun _ => other

end Target

end ParticipantDirectory.Http
