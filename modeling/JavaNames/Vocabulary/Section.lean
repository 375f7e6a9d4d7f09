/-!
# Sections of the language specification

Each word and each separator is defined in one section of the Java Language Specification (the
numbers are those of its edition for Java SE 7).
-/

namespace JavaNames

/-- A section of the language specification that defines part of the vocabulary of names. -/
inductive Section
  | keywords
  | booleanLiterals
  | nullLiteral
  | separators
  | primitiveTypes
  | typeArguments
  deriving DecidableEq, Repr

/-- How a section is cited. -/
def Section.citation : Section → String
  | .keywords => "JLS 3.9"
  | .booleanLiterals => "JLS 3.10.3"
  | .nullLiteral => "JLS 3.10.7"
  | .separators => "JLS 3.11"
  | .primitiveTypes => "JLS 4.2"
  | .typeArguments => "JLS 4.5.1"

end JavaNames
