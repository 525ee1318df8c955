/-!
# Identifiers

An identifier is a value within a scheme. Participants are named by identifiers, and so are the other
registrations of a business entity. The key of an identifier, under which everything about a
participant is stored, joins the two parts with a separator; a text is split at its first separator.
-/

namespace ParticipantDirectory

/-- A value within a scheme. -/
structure Identifier where
  scheme : String
  value : String
  deriving DecidableEq, Repr, Inhabited

namespace Identifier

/-- What stands between the scheme and the value in a key. -/
def separator : String := "::"

/-- The text that joins a scheme and a value with the separator. -/
def join (scheme value : String) : String :=
  scheme ++ separator ++ value

/-- The key under which the data of the participant of this identifier are stored. -/
def key (p : Identifier) : String :=
  join p.scheme p.value

/-- The parts of a text before and after its first separator. -/
def splitChars : List Char → Option (List Char × List Char)
  | ':' :: ':' :: rest => some ([], rest)
  | c :: rest => (splitChars rest).map fun parts => (c :: parts.1, parts.2)
  | [] => none

/-- The parts of a string before and after its first separator. -/
def split? (s : String) : Option (String × String) :=
  (splitChars s.toList).map fun parts => (String.ofList parts.1, String.ofList parts.2)

/-- The parts, joined again, are the text that was split. -/
theorem append_of_splitChars {s a b : List Char} (h : splitChars s = some (a, b)) :
    s = a ++ ':' :: ':' :: b := by
  fun_induction splitChars s generalizing a b with
  | case1 rest => simp_all
  | case2 c rest _ ih =>
    obtain ⟨parts, hp, heq⟩ := Option.map_eq_some_iff.1 h
    obtain ⟨rfl, rfl⟩ := Prod.mk.inj heq
    rw [List.cons_append, ← ih hp]
  | case3 => simp at h

end Identifier

end ParticipantDirectory
