/-!
# Limits

A reader of type names can be told how deep type arguments may be nested. `A<B<C>>` has depth two.
-/

namespace JavaNames

/-- How deep the type arguments of a type name may be nested; without a number, as deep as they are. -/
structure Limits where
  nesting : Option Nat := none
  deriving DecidableEq, Repr

namespace Limits

/-- Limits without a number. -/
def unlimited : Limits :=
  {}

/-- The limits with a given depth. -/
def withNesting (l : Limits) (depth : Nat) : Limits :=
  { l with nesting := some depth }

/-- The limits without a depth. -/
def unbounded (l : Limits) : Limits :=
  { l with nesting := none }

/-- Whether type arguments may be nested to a depth. -/
def allows (l : Limits) (depth : Nat) : Bool :=
  match l.nesting with
  | none => true
  | some limit => decide (depth ≤ limit)

@[simp] theorem allows_unlimited (depth : Nat) : Limits.unlimited.allows depth = true := rfl

@[simp] theorem allows_withNesting (l : Limits) (limit depth : Nat) :
    (l.withNesting limit).allows depth = decide (depth ≤ limit) := rfl

end Limits

end JavaNames
