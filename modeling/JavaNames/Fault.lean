import JavaNames.Vocabulary.Literal
import JavaNames.Vocabulary.Primitive

/-!
# Faults

A fault is the reason for which a text is not accepted as an identifier or as a type name, or for
which no identifier can be built from it. Its kind, its message and its hint are functions of the
reason; where in the text the fault lies is no part of it.
-/

namespace JavaNames

/-- The rule that a text breaks. -/
inductive FaultKind
  | empty
  | invalidCharacter
  | reservedWord
  | noWords
  | unexpectedToken
  | unexpectedEnd
  | trailingInput
  | primitiveMisuse
  | nestingTooDeep
  deriving DecidableEq, Repr

/-- The name of a kind of fault. -/
def FaultKind.title : FaultKind → String
  | .empty => "empty input"
  | .invalidCharacter => "invalid character"
  | .reservedWord => "reserved word"
  | .noWords => "no words"
  | .unexpectedToken => "unexpected token"
  | .unexpectedEnd => "unexpected end of input"
  | .trailingInput => "unexpected trailing token"
  | .primitiveMisuse => "misused primitive type"
  | .nestingTooDeep => "nesting too deep"

/-- A reason to reject a text. -/
inductive Fault
  /-- There is nothing where a `what` is asked for. -/
  | empty (what : String)
  /-- A character that can be no part of a `context`. -/
  | invalidCharacter (c : Char) (context : String)
  /-- A character that cannot begin an identifier. -/
  | invalidStart (c : Char)
  /-- A reserved word where an identifier is asked for. -/
  | reservedWord (word : Text)
  /-- A text without a character that a word could begin with. -/
  | noWords (text : Text)
  /-- The token `found` where `expected` is asked for. -/
  | unexpectedToken (found expected : String)
  /-- The end of the text where `expected` is asked for. -/
  | unexpectedEnd (expected : String)
  /-- The token `found` after a complete type name. -/
  | trailingInput (found : String)
  /-- A primitive type with type arguments. -/
  | primitiveWithArguments (p : Primitive)
  /-- A primitive type in a package. -/
  | qualifiedPrimitive (p : Primitive)
  /-- A primitive type as a type argument or as the bound of a wildcard. -/
  | primitiveArgument (p : Primitive)
  /-- Type arguments that are nested deeper than the limit. -/
  | nestingTooDeep (limit : Nat)
  deriving DecidableEq, Repr

namespace Fault

/-- The kind of a fault. -/
def kind : Fault → FaultKind
  | .empty _ => .empty
  | .invalidCharacter .. | .invalidStart _ => .invalidCharacter
  | .reservedWord _ => .reservedWord
  | .noWords _ => .noWords
  | .unexpectedToken .. => .unexpectedToken
  | .unexpectedEnd _ => .unexpectedEnd
  | .trailingInput _ => .trailingInput
  | .primitiveWithArguments _ | .qualifiedPrimitive _ | .primitiveArgument _ => .primitiveMisuse
  | .nestingTooDeep _ => .nestingTooDeep

/-- A text between single quotes. -/
private def quoted (t : Text) : String :=
  "'" ++ String.ofList t ++ "'"

/-- A reserved word is called a literal if it is one, and a keyword otherwise. -/
private def reservedRole (word : Text) : String :=
  if (Literal.ofText? word).isSome then "literal" else "keyword"

/-- What a fault says. -/
def message : Fault → String
  | .empty what => what ++ " must not be empty"
  | .invalidCharacter c context => "invalid character " ++ quoted [c] ++ " in " ++ context
  | .invalidStart c => "identifier cannot start with " ++ quoted [c]
  | .reservedWord word =>
    quoted word ++ " is a reserved " ++ reservedRole word ++ " and cannot be used as an identifier"
  | .noWords text => quoted text ++ " contains no words to build an identifier from"
  | .unexpectedToken found expected => "expected " ++ expected ++ ", found " ++ found
  | .unexpectedEnd expected => "unexpected end of input, expected " ++ expected
  | .trailingInput found => "unexpected trailing token " ++ found
  | .primitiveWithArguments p =>
    "primitive type '" ++ p.spelling ++ "' cannot have type arguments"
  | .qualifiedPrimitive p =>
    "primitive type '" ++ p.spelling ++ "' cannot be qualified by a package name"
  | .primitiveArgument p =>
    "primitive type '" ++ p.spelling ++ "' cannot be used as a type argument"
  | .nestingTooDeep limit => "type argument nesting exceeds the limit of " ++ toString limit

/-- Advice on how to mend a fault, for the faults that have some. -/
def hint? : Fault → Option String
  | .invalidStart _ => some "identifiers start with a letter, '$' or '_'"
  | .primitiveArgument _ => some "use an array type or the corresponding reference type"
  | _ => none

end Fault

end JavaNames
