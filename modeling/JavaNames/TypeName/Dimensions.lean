import JavaNames.TypeName

/-!
# Array dimensions

The dimensions of a type name are counted, so they can be added and taken away without touching the
element. Adding dimensions is an action of the natural numbers on type names (`addDimensions_add`,
`addDimensions_zero`), and taking the component of an array undoes the addition of one dimension.
-/

namespace JavaNames.TypeName

/-- The number of array dimensions. -/
def dimensions : TypeName → Nat
  | .primitive _ n => n
  | .reference _ _ _ n => n

/-- The same primitive type or class, with another number of dimensions. -/
def withDimensions : TypeName → Nat → TypeName
  | .primitive p _, n => .primitive p n
  | .reference package name arguments _, n => .reference package name arguments n

/-- The type name with `n` more dimensions. -/
def addDimensions (t : TypeName) (n : Nat) : TypeName :=
  t.withDimensions (t.dimensions + n)

/-- The primitive type or class itself, without dimensions. -/
def element (t : TypeName) : TypeName :=
  t.withDimensions 0

/-- Whether the type is an array. -/
def isArray (t : TypeName) : Bool :=
  t.dimensions != 0

/-- Whether the type is primitive, or an array of primitive elements. -/
def isPrimitive : TypeName → Bool
  | .primitive .. => true
  | .reference .. => false

/-- Whether the type is a primitive type itself, and not an array. -/
def isBarePrimitive (t : TypeName) : Bool :=
  t.isPrimitive && !t.isArray

/-- The element type of an array. -/
def element? (t : TypeName) : Option TypeName :=
  if t.isArray then some t.element else none

/-- The type of the components of an array: one dimension less. -/
def component? (t : TypeName) : Option TypeName :=
  if t.isArray then some (t.withDimensions (t.dimensions - 1)) else none

section
variable (t : TypeName) (m n : Nat)

@[simp] theorem dimensions_withDimensions : (t.withDimensions n).dimensions = n := by
  cases t <;> rfl

@[simp] theorem withDimensions_withDimensions :
    (t.withDimensions m).withDimensions n = t.withDimensions n := by
  cases t <;> rfl

@[simp] theorem withDimensions_dimensions : t.withDimensions t.dimensions = t := by
  cases t <;> rfl

@[simp] theorem dimensions_addDimensions :
    (t.addDimensions n).dimensions = t.dimensions + n := by
  simp [addDimensions]

@[simp] theorem addDimensions_zero : t.addDimensions 0 = t := by
  simp [addDimensions]

theorem addDimensions_add : t.addDimensions (m + n) = (t.addDimensions m).addDimensions n := by
  simp [addDimensions, Nat.add_assoc]

/-- The component of an array undoes its last dimension. -/
@[simp] theorem component?_addDimensions_succ :
    (t.addDimensions (n + 1)).component? = some (t.addDimensions n) := by
  simp [component?, isArray, addDimensions]

end

end JavaNames.TypeName

namespace JavaNames.Argument

/-- The type of an argument, or the bound of a wildcard. -/
def type? : Argument → Option TypeName
  | .wildcard => none
  | .type _ t => some t

/-- Whether an argument is a wildcard, bounded or not. -/
def isWildcard : Argument → Bool
  | .type .invariant _ => false
  | _ => true

/-- Whether an argument is a primitive type, or a wildcard bounded by one. -/
def isBarePrimitive : Argument → Bool
  | .wildcard => false
  | .type _ t => t.isBarePrimitive

end JavaNames.Argument
