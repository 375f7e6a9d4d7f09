import JavaNames.TypeName.Display

/-!
# Type names with parts left out

A type name can be reduced to the class that exists at run time, by leaving out its type arguments
(`erase`), and to the way it is written inside its package, by leaving out all packages
(`withoutPackages`). The shorter written forms of a type name are display forms of these: the form
without packages, the qualified name and the simple name each display a projection.
-/

namespace JavaNames

/-- The type name without its own arguments. -/
def TypeName.erase : TypeName → TypeName
  | .primitive p n => .primitive p n
  | .reference package name _ n => .reference package name [] n

mutual

/-- The type name without packages, also in its arguments. -/
def TypeName.withoutPackages : TypeName → TypeName
  | .primitive p n => .primitive p n
  | .reference _ name arguments n => .reference [] name (argumentsWithoutPackages arguments) n

/-- The argument without packages. -/
def Argument.withoutPackages : Argument → Argument
  | .wildcard => .wildcard
  | .type v t => .type v t.withoutPackages

/-- `Argument.withoutPackages` over a list of arguments. -/
def argumentsWithoutPackages : List Argument → List Argument
  | [] => []
  | a :: as => a.withoutPackages :: argumentsWithoutPackages as

end

mutual

/-- How deep the argument lists of a type name are nested. -/
def TypeName.nesting : TypeName → Nat
  | .primitive _ _ => 0
  | .reference _ _ arguments _ => nestingOfArguments arguments

/-- How deep the argument lists in an argument are nested. -/
def Argument.nesting : Argument → Nat
  | .wildcard => 0
  | .type _ t => t.nesting

/-- How deep a list of arguments is nested, itself included: not at all if it is empty. -/
def nestingOfArguments : List Argument → Nat
  | [] => 0
  | a :: as => max (a.nesting + 1) (nestingOfArguments as)

end

mutual

/-- The form without packages displays the type name without packages. -/
theorem TypeName.render_withoutPackages : ∀ t : TypeName,
    t.withoutPackages.render true = t.render false
  | .primitive _ _ => rfl
  | .reference _ _ as _ => by
    simp [TypeName.withoutPackages, TypeName.render, renderArguments_withoutPackages as]

theorem Argument.render_withoutPackages : ∀ a : Argument,
    a.withoutPackages.render true = a.render false
  | .wildcard => rfl
  | .type _ t => by
    simp [Argument.withoutPackages, Argument.render, TypeName.render_withoutPackages t]

theorem renderArguments_withoutPackages : ∀ as : List Argument,
    renderArguments true (argumentsWithoutPackages as) = renderArguments false as
  | [] => rfl
  | a :: as => by
    simp [argumentsWithoutPackages, renderArguments, Argument.render_withoutPackages a,
      renderMore_withoutPackages as]

theorem renderMore_withoutPackages : ∀ as : List Argument,
    renderMore true (argumentsWithoutPackages as) = renderMore false as
  | [] => rfl
  | a :: as => by
    simp [argumentsWithoutPackages, renderMore, Argument.render_withoutPackages a,
      renderMore_withoutPackages as]

end

namespace TypeName

/-- The qualified name displays the erased type. -/
theorem render_erase (t : TypeName) : t.erase.render true = t.qualifiedName := by
  cases t <;> simp [erase, render, qualifiedName, renderArguments]

/-- The simple name displays the erased type without packages. -/
theorem render_erase_false (t : TypeName) : t.erase.render false = t.simpleName := by
  cases t <;> simp [erase, render, simpleName, renderArguments, qualify]

end TypeName

end JavaNames
