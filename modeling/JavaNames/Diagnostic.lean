import JavaNames.Fault
import JavaNames.Span

/-!
# Diagnostics and violations

A diagnostic reports a fault in a text that is allowed to be faulty: it carries the text, and the span
where the fault lies. Two diagnostics are equal if they say the same of the same place in the same
text. A violation reports that a caller broke a promise: text that was said to be legal and is not, or
a type argument that no type can have.
-/

namespace JavaNames

/-- What is wrong with a text, and where. -/
structure Diagnostic where
  kind : FaultKind
  message : String
  span : Span
  input : Text
  hint? : Option String := none
  deriving DecidableEq, Repr

/-- The report of a fault that lies in a given span of a text. -/
def Fault.within (f : Fault) (span : Span) (input : Text) : Diagnostic where
  kind := f.kind
  message := f.message
  span := span
  input := input
  hint? := f.hint?

namespace Diagnostic

/-- The report that there is nothing where a `what` is asked for. It points at the beginning. -/
def empty (what : String) (input : Text) : Diagnostic :=
  (Fault.empty what).within (.point 0) input

/-- The report of a character that can be no part of a `context`. It points at the character. -/
def invalidCharacter (c : Char) (offset : Nat) (context : String) (input : Text) : Diagnostic :=
  (Fault.invalidCharacter c context).within (.ofChar offset c) input

/-- The report of a first character that cannot begin an identifier. -/
def invalidStart (c : Char) (input : Text) : Diagnostic :=
  (Fault.invalidStart c).within (.ofChar 0 c) input

/-- The report of a text without words. It points at the whole text. -/
def noWords (input : Text) : Diagnostic :=
  (Fault.noWords input).within (.whole input) input

/-- The report of a text that ends where `expected` is asked for. It points at the end. -/
def unexpectedEnd (expected : String) (offset : Nat) (input : Text) : Diagnostic :=
  (Fault.unexpectedEnd expected).within (.point offset) input

/-- The report with other advice. -/
def withHint (d : Diagnostic) (hint : String) : Diagnostic :=
  { d with hint? := some hint }

/-- The byte offset that a report points at. -/
def offset (d : Diagnostic) : Nat :=
  d.span.start

/-- The message of a report, with the place. -/
def display (d : Diagnostic) : String :=
  d.message ++ " (at offset " ++ toString d.offset ++ ")"

/-- The mark that a report sets in its text: where it begins, and how many bytes it covers. -/
def mark (d : Diagnostic) : Nat × Nat :=
  (d.span.start, d.span.length)

end Diagnostic

/-- A promise that a caller did not keep. -/
inductive Violation
  /-- A text that was said to be a legal identifier. -/
  | illegalIdentifier (cause : Diagnostic)
  /-- A text that was said to be a legal type name. -/
  | illegalTypeName (cause : Diagnostic)
  /-- A primitive type, displayed as `argument`, among the arguments of the type `name`. -/
  | primitiveArgument (argument name : Text)
  deriving DecidableEq, Repr

/-- What a violation says. -/
def Violation.message : Violation → String
  | .illegalIdentifier d => "illegal identifier '" ++ String.ofList d.input ++ "': " ++ d.display
  | .illegalTypeName d => "illegal type name '" ++ String.ofList d.input ++ "': " ++ d.display
  | .primitiveArgument argument name =>
    "primitive type argument '" ++ String.ofList argument ++ "' on '" ++ String.ofList name ++ "'"

/-- Why an operation on a text has no result: the text is faulty, or a promise is broken. -/
inductive Failure
  | rejected (d : Diagnostic)
  | violated (v : Violation)
  deriving DecidableEq, Repr

end JavaNames
