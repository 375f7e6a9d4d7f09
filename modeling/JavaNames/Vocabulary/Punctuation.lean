import JavaNames.Text
import JavaNames.Vocabulary.Section

/-!
# Punctuation of type names

The seven characters that structure a type name: the dot of a qualified name, the angle brackets, the
comma and the wildcard of type arguments, and the square brackets of array dimensions.
-/

namespace JavaNames

/-- A character that structures a type name. -/
inductive Punctuation
  | dot
  | comma
  | question
  | leftAngle
  | rightAngle
  | leftBracket
  | rightBracket
  deriving DecidableEq, Repr

namespace Punctuation

/-- All punctuation of type names. -/
def all : List Punctuation :=
  [.dot, .comma, .question, .leftAngle, .rightAngle, .leftBracket, .rightBracket]

/-- The character of a punctuation. -/
def symbol : Punctuation → Char
  | .dot => '.'
  | .comma => ','
  | .question => '?'
  | .leftAngle => '<'
  | .rightAngle => '>'
  | .leftBracket => '['
  | .rightBracket => ']'

/-- How a punctuation is named in messages. -/
def description : Punctuation → String
  | .dot => "'.'"
  | .comma => "','"
  | .question => "wildcard '?'"
  | .leftAngle => "'<'"
  | .rightAngle => "'>'"
  | .leftBracket => "'['"
  | .rightBracket => "']'"

/-- The section that defines a punctuation. -/
def definedIn : Punctuation → Section
  | .dot | .comma | .leftBracket | .rightBracket => .separators
  | .question | .leftAngle | .rightAngle => .typeArguments

/-- The punctuation that a character is. -/
def ofChar? (c : Char) : Option Punctuation :=
  all.find? fun p => p.symbol == c

/-- The punctuation that a text of one character is. -/
def ofText? : Text → Option Punctuation
  | [c] => ofChar? c
  | _ => none

@[simp] theorem mem_all (p : Punctuation) : p ∈ all := by
  cases p <;> decide

@[simp] theorem ofChar?_symbol (p : Punctuation) : ofChar? p.symbol = some p := by
  cases p <;> decide

/-- A punctuation is recognized by its character and by nothing else. -/
theorem ofChar?_eq_some_iff {c : Char} {p : Punctuation} : ofChar? c = some p ↔ c = p.symbol := by
  refine ⟨fun h => ?_, fun h => h ▸ ofChar?_symbol p⟩
  have := List.find?_some h
  exact (beq_iff_eq.1 this).symm

/-- A character that is no punctuation differs from each of them. -/
theorem ofChar?_eq_none_iff {c : Char} : ofChar? c = none ↔ ∀ p : Punctuation, c ≠ p.symbol := by
  rw [Option.eq_none_iff_forall_ne_some]
  exact forall_congr' fun p => not_congr ofChar?_eq_some_iff

end Punctuation

end JavaNames
