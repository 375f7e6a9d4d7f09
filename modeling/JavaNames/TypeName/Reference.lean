import JavaNames.Diagnostic
import JavaNames.TypeName.Display

/-!
# Class references

A reference is a type name that is a class and not an array. Its arguments can be replaced; a
primitive type is no argument, neither by itself nor as the bound of a wildcard, and passing one is a
violation by the caller.
-/

namespace JavaNames

/-- A class, with its type arguments. -/
structure Reference where
  package : List Identifier
  name : Identifier
  arguments : List Argument := []

namespace Reference

/-- The type that a reference names. -/
def toTypeName (r : Reference) : TypeName :=
  .reference r.package r.name r.arguments 0

/-- Whether a reference has type arguments. -/
def isGeneric (r : Reference) : Bool :=
  !r.arguments.isEmpty

/-- The reference with other arguments. -/
def withArguments (r : Reference) (arguments : List Argument) : Except Violation Reference :=
  match arguments.find? Argument.isBarePrimitive with
  | some a => .error (.primitiveArgument (a.render true) (qualify r.package r.name.text))
  | none => .ok { r with arguments }

/-- Arguments are accepted exactly if none of them is a primitive type, and then they alone are
replaced. -/
theorem withArguments_eq_ok_iff {r r' : Reference} {arguments : List Argument} :
    r.withArguments arguments = .ok r' ↔
      (∀ a ∈ arguments, a.isBarePrimitive = false) ∧ r' = ⟨r.package, r.name, arguments⟩ := by
  rw [withArguments]
  split
  · next a h =>
    have hm := List.mem_of_find?_eq_some h
    have hb := List.find?_some h
    simp only [reduceCtorEq, false_iff, not_and]
    intro h'
    rw [h' a hm] at hb
    cases hb
  · next h =>
    rw [List.find?_eq_none] at h
    simp only [Except.ok.injEq, eq_comm (a := r')]
    exact ⟨fun h' => ⟨fun a ha => by simpa using h a ha, h'⟩, fun h' => h'.2⟩

end Reference

namespace TypeName

/-- The class that a type name refers to, if it is a class and not an array. -/
def reference? : TypeName → Option Reference
  | .reference package name arguments 0 => some ⟨package, name, arguments⟩
  | _ => none

/-- The type arguments of the class, or of the elements of an array; a primitive type has none. -/
def arguments : TypeName → List Argument
  | .primitive .. => []
  | .reference _ _ arguments _ => arguments

@[simp] theorem reference?_toTypeName (r : Reference) : r.toTypeName.reference? = some r := rfl

theorem reference?_eq_some_iff {t : TypeName} {r : Reference} :
    t.reference? = some r ↔ t = r.toTypeName := by
  refine ⟨fun h => ?_, fun h => h ▸ reference?_toTypeName r⟩
  match t, h with
  | .reference _ _ _ 0, h =>
    cases h
    rfl

end TypeName

end JavaNames
