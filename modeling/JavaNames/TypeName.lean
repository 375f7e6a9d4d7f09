import JavaNames.Identifier
import JavaNames.Vocabulary.Primitive

/-!
# Type names

A type name is a primitive type or a reference to a class, with a number of array dimensions. A class
reference has the segments of its package, its simple name and its type arguments. An argument is a
type, possibly as the bound of a wildcard, or the wildcard without a bound.

An array is a type name with one dimension or more: the dimensions are counted beside their element,
so an array of arrays is no other shape than an array. Equality is equality of all parts.
-/

namespace JavaNames

/-- How a type argument stands for types: for one type exactly, for its subtypes (`? extends`), or for
its supertypes (`? super`). -/
inductive Variance
  | invariant
  | covariant
  | contravariant
  deriving DecidableEq, Repr

mutual

/-- The name of a type. -/
inductive TypeName
  /-- A primitive type, or an array of one. -/
  | primitive (p : Primitive) (dimensions : Nat)
  /-- A class, with the segments of its package, or an array of its instances. -/
  | reference (package : List Identifier) (name : Identifier) (arguments : List Argument)
      (dimensions : Nat)

/-- One entry of a list of type arguments. -/
inductive Argument
  /-- The wildcard without a bound. -/
  | wildcard
  /-- A type, or a wildcard bounded by it. -/
  | type (variance : Variance) (t : TypeName)

end

/-! ## Equality -/

mutual

/-- Whether two type names have the same parts. -/
def TypeName.same : TypeName → TypeName → Bool
  | .primitive p m, .primitive q n => p == q && m == n
  | .reference pk x as m, .reference qk y bs n =>
    pk == qk && x == y && sameArguments as bs && m == n
  | _, _ => false

/-- Whether two arguments have the same parts. -/
def Argument.same : Argument → Argument → Bool
  | .wildcard, .wildcard => true
  | .type v s, .type w t => v == w && s.same t
  | _, _ => false

/-- `Argument.same` over two lists of arguments of one length. -/
def sameArguments : List Argument → List Argument → Bool
  | [], [] => true
  | a :: as, b :: bs => a.same b && sameArguments as bs
  | _, _ => false

end

mutual

theorem TypeName.same_iff : ∀ s t : TypeName, s.same t = true ↔ s = t
  | .primitive _ _, .primitive _ _ => by simp [TypeName.same]
  | .primitive _ _, .reference _ _ _ _ => by simp [TypeName.same]
  | .reference _ _ _ _, .primitive _ _ => by simp [TypeName.same]
  | .reference _ _ as _, .reference _ _ bs _ => by
    simp [TypeName.same, sameArguments_iff as bs, and_assoc]

theorem Argument.same_iff : ∀ a b : Argument, a.same b = true ↔ a = b
  | .wildcard, .wildcard => by simp [Argument.same]
  | .wildcard, .type _ _ => by simp [Argument.same]
  | .type _ _, .wildcard => by simp [Argument.same]
  | .type _ s, .type _ t => by simp [Argument.same, TypeName.same_iff s t]

theorem sameArguments_iff : ∀ as bs : List Argument, sameArguments as bs = true ↔ as = bs
  | [], [] => by simp [sameArguments]
  | [], _ :: _ => by simp [sameArguments]
  | _ :: _, [] => by simp [sameArguments]
  | a :: as, b :: bs => by
    simp [sameArguments, Argument.same_iff a b, sameArguments_iff as bs]

end

instance : DecidableEq TypeName := fun s t => decidable_of_iff _ (TypeName.same_iff s t)

instance : DecidableEq Argument := fun a b => decidable_of_iff _ (Argument.same_iff a b)

end JavaNames
