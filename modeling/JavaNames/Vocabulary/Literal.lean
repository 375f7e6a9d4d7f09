import JavaNames.Text
import JavaNames.Vocabulary.Section

/-!
# Literal words

Three values of the language are written as words: the two truth values and the null reference. They
are no keywords, but no identifier may be spelled like one of them.
-/

namespace JavaNames

/-- A value that is written as a word. -/
inductive Literal
  | true
  | false
  | null
  deriving DecidableEq, Repr

namespace Literal

/-- All literal words: the truth values first. -/
def all : List Literal :=
  [.true, .false, .null]

/-- The spelling of a literal word. -/
def spelling : Literal → String
  | .true => "true"
  | .false => "false"
  | .null => "null"

/-- Whether the literal is a truth value. -/
def isBoolean : Literal → Bool
  | .true | .false => Bool.true
  | .null => Bool.false

/-- The section that defines a literal word. -/
def definedIn : Literal → Section
  | .true | .false => .booleanLiterals
  | .null => .nullLiteral

/-- The literal that a word spells. -/
def ofText? (word : Text) : Option Literal :=
  all.find? fun l => l.spelling.toList == word

@[simp] theorem mem_all (l : Literal) : l ∈ all := by
  cases l <;> decide

@[simp] theorem ofText?_spelling (l : Literal) : ofText? l.spelling.toList = some l := by
  cases l <;> decide +kernel

/-- A literal word is recognized by its spelling and by nothing else. -/
theorem ofText?_eq_some_iff {word : Text} {l : Literal} :
    ofText? word = some l ↔ word = l.spelling.toList := by
  refine ⟨fun h => ?_, fun h => h ▸ ofText?_spelling l⟩
  have := List.find?_some h
  exact (beq_iff_eq.1 this).symm

end Literal

end JavaNames
