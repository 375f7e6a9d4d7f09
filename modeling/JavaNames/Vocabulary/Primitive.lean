import JavaNames.Vocabulary.Keyword

/-!
# Primitive types

The eight primitive types. Each is spelled by a keyword, and has a one-letter descriptor that stands
for it in the class names of arrays: `int[][]` is the class `[[I`. `void` is none of them, since no
value has it as its type.
-/

namespace JavaNames

/-- A primitive type. -/
inductive Primitive
  | boolean | byte | char | double | float | int | long | short
  deriving DecidableEq, Repr

namespace Primitive

/-- All primitive types, in alphabetical order. -/
def all : List Primitive :=
  [.boolean, .byte, .char, .double, .float, .int, .long, .short]

/-- The keyword that spells a primitive type. -/
def keyword : Primitive → Keyword
  | .boolean => .boolean
  | .byte => .byte
  | .char => .char
  | .double => .double
  | .float => .float
  | .int => .int
  | .long => .long
  | .short => .short

/-- The primitive type that a keyword spells. -/
def ofKeyword? : Keyword → Option Primitive
  | .boolean => some .boolean
  | .byte => some .byte
  | .char => some .char
  | .double => some .double
  | .float => some .float
  | .int => some .int
  | .long => some .long
  | .short => some .short
  | _ => none

/-- The spelling of a primitive type. -/
def spelling (p : Primitive) : String :=
  p.keyword.spelling

/-- The letter of a primitive type in the class names of arrays. -/
def descriptor : Primitive → Char
  | .boolean => 'Z'
  | .byte => 'B'
  | .char => 'C'
  | .double => 'D'
  | .float => 'F'
  | .int => 'I'
  | .long => 'J'
  | .short => 'S'

/-- Every primitive type is defined in the section on primitive types. -/
def definedIn (_ : Primitive) : Section :=
  .primitiveTypes

/-- The primitive type that a word spells. -/
def ofText? (word : Text) : Option Primitive :=
  (Keyword.ofText? word).bind ofKeyword?

@[simp] theorem mem_all (p : Primitive) : p ∈ all := by
  cases p <;> decide

@[simp] theorem ofKeyword?_keyword (p : Primitive) : ofKeyword? p.keyword = some p := by
  cases p <;> rfl

/-- The keywords of the primitive types are told apart. -/
theorem ofKeyword?_eq_some_iff {k : Keyword} {p : Primitive} :
    ofKeyword? k = some p ↔ k = p.keyword := by
  refine ⟨fun h => ?_, fun h => h ▸ ofKeyword?_keyword p⟩
  cases k <;> simp only [ofKeyword?, Option.some.injEq, reduceCtorEq] at h <;> subst h <;> rfl

end Primitive

end JavaNames
