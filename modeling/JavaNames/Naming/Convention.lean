/-!
# Naming conventions

The styles in which names are written. Constants are written like upper case, and methods and variables
alike in camel case with a small first letter.
-/

namespace JavaNames

/-- A style of names. -/
inductive Convention
  /-- `TestTestTest` -/
  | camelCase
  /-- `TEST_TEST_TEST` -/
  | upperCase
  /-- `test_test_test` -/
  | lowerCase
  /-- `TEST_TEST_TEST` -/
  | constantName
  /-- `testTestTest` -/
  | methodName
  /-- `testTestTest` -/
  | variableName
  deriving DecidableEq, Repr

namespace Convention

/-- All conventions. -/
def all : List Convention :=
  [.camelCase, .upperCase, .lowerCase, .constantName, .methodName, .variableName]

/-- The name of a convention. -/
def title : Convention → String
  | .camelCase => "camel case"
  | .upperCase => "upper case"
  | .lowerCase => "lower case"
  | .constantName => "constant name"
  | .methodName => "method name"
  | .variableName => "variable name"

@[simp] theorem mem_all (c : Convention) : c ∈ all := by
  cases c <;> decide

end Convention

end JavaNames
