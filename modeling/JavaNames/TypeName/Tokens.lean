import JavaNames.Token
import JavaNames.TypeName.Dimensions

/-!
# The tokens of a type name

Which tokens spell a type name, and which type names can be spelled. A primitive type is its keyword; a
class is its package segments and its name with dots between them, followed by its arguments in angle
brackets if it has some; a dimension is a pair of square brackets. A type name is well formed if its
identifiers are legal and no argument is a primitive type, at any depth; only well-formed names are
spelled in a way that can be read back.
-/

namespace JavaNames

/-! ## Tokens -/

/-- The tokens of one pair of brackets for each dimension. -/
def bracketTokens : Nat → List Token
  | 0 => []
  | n + 1 => .punctuation .leftBracket :: .punctuation .rightBracket :: bracketTokens n

/-- The tokens of a package, each segment followed by a dot. -/
def packageTokens (package : List Identifier) : List Token :=
  package.flatMap fun s => [.identifier s.text, .punctuation .dot]

/-- The tokens before the type of an argument. -/
def Variance.tokens : Variance → List Token
  | .invariant => []
  | .covariant => [.punctuation .question, .keyword .«extends»]
  | .contravariant => [.punctuation .question, .keyword .super]

mutual

/-- The tokens that spell a type name. -/
def TypeName.tokens : TypeName → List Token
  | .primitive p n => .keyword p.keyword :: bracketTokens n
  | .reference package name arguments n =>
    packageTokens package ++ .identifier name.text :: argumentTokens arguments ++ bracketTokens n

/-- The tokens that spell an argument. -/
def Argument.tokens : Argument → List Token
  | .wildcard => [.punctuation .question]
  | .type v t => v.tokens ++ t.tokens

/-- The tokens of a list of arguments, in angle brackets unless it is empty. -/
def argumentTokens : List Argument → List Token
  | [] => []
  | a :: as => .punctuation .leftAngle :: a.tokens ++ moreTokens as

/-- The tokens of the arguments after the first one. -/
def moreTokens : List Argument → List Token
  | [] => [.punctuation .rightAngle]
  | a :: as => .punctuation .comma :: a.tokens ++ moreTokens as

end

/-! ## Well-formed type names -/

mutual

/-- All identifiers of a type name are legal, and no argument in it is a primitive type. -/
def TypeName.WellFormed : TypeName → Prop
  | .primitive _ _ => True
  | .reference package name arguments _ =>
    (∀ s ∈ package, isLegalIdentifier s.text = true) ∧ isLegalIdentifier name.text = true ∧
      WellFormedArguments arguments

/-- The type of an argument is well formed, and no primitive type. -/
def Argument.WellFormed : Argument → Prop
  | .wildcard => True
  | .type _ t => t.isBarePrimitive = false ∧ t.WellFormed

/-- `Argument.WellFormed` over a list of arguments. -/
def WellFormedArguments : List Argument → Prop
  | [] => True
  | a :: as => a.WellFormed ∧ WellFormedArguments as

end

/-- `WellFormedArguments` in the natural per-element form. -/
theorem wellFormedArguments_iff {as : List Argument} :
    WellFormedArguments as ↔ ∀ a ∈ as, a.WellFormed := by
  induction as with
  | nil => simp [WellFormedArguments]
  | cons a as ih => simp [WellFormedArguments, ih]

/-- Dimensions have no part in being well formed. -/
@[simp] theorem TypeName.wellFormed_withDimensions {t : TypeName} {n : Nat} :
    (t.withDimensions n).WellFormed ↔ t.WellFormed := by
  cases t <;> simp [withDimensions, WellFormed]

end JavaNames
