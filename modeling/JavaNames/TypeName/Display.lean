import JavaNames.TypeName.Dimensions

/-!
# Written forms of a type name

The display form of a type name writes all its parts, with one space after each comma and around the
keyword of a bounded wildcard, and no other blanks. It can be written without packages. The other
names leave type arguments out: the simple name, the qualified name, and the binary name, by which a
class loader knows the class: there an array is written as its dimensions followed by the descriptor
of a primitive type, or by the qualified name of a class between `L` and `;`.
-/

namespace JavaNames

/-! ## Packages and dimensions -/

/-- The segments of a package, each followed by a dot, and then a name. -/
def qualify (package : List Identifier) (name : Text) : Text :=
  package.flatMap (fun s => s.text ++ ['.']) ++ name

/-- The segments of a package with dots between them. -/
def dotted (package : List Identifier) : Text :=
  ['.'].intercalate (package.map Identifier.text)

/-- One pair of brackets for each dimension. -/
def brackets : Nat → Text
  | 0 => []
  | n + 1 => '[' :: ']' :: brackets n

theorem brackets_add (m n : Nat) : brackets (m + n) = brackets m ++ brackets n := by
  induction m with
  | zero => simp [brackets]
  | succ m ih => simp [Nat.succ_add, brackets, ih]

/-- What is written before the type of an argument. -/
def Variance.marker : Variance → Text
  | .invariant => []
  | .covariant => "? extends ".toList
  | .contravariant => "? super ".toList

/-! ## Display -/

mutual

/-- The display form, with packages everywhere if they are `qualified`, and without them otherwise. -/
def TypeName.render (qualified : Bool) : TypeName → Text
  | .primitive p n => p.spelling.toList ++ brackets n
  | .reference package name arguments n =>
    qualify (if qualified then package else []) name.text ++ renderArguments qualified arguments ++
      brackets n

/-- The display form of an argument. -/
def Argument.render (qualified : Bool) : Argument → Text
  | .wildcard => ['?']
  | .type v t => v.marker ++ t.render qualified

/-- The display form of a list of arguments, in angle brackets unless it is empty. -/
def renderArguments (qualified : Bool) : List Argument → Text
  | [] => []
  | a :: as => '<' :: a.render qualified ++ renderMore qualified as

/-- The display form of the arguments after the first one. -/
def renderMore (qualified : Bool) : List Argument → Text
  | [] => ['>']
  | a :: as => ',' :: ' ' :: a.render qualified ++ renderMore qualified as

end

namespace TypeName

/-- The display form of a type name, with its packages. -/
def display (t : TypeName) : Text :=
  t.render true

/-! ## Names without arguments -/

/-- The package of the class, and the empty text for primitive types and for the unnamed package. -/
def packageName : TypeName → Text
  | .primitive .. => []
  | .reference package .. => dotted package

/-- The name without the package, with a pair of brackets for each dimension. -/
def simpleName : TypeName → Text
  | .primitive p n => p.spelling.toList ++ brackets n
  | .reference _ name _ n => name.text ++ brackets n

/-- The name with the package, with a pair of brackets for each dimension. -/
def qualifiedName : TypeName → Text
  | .primitive p n => p.spelling.toList ++ brackets n
  | .reference package name _ n => qualify package name.text ++ brackets n

/-- The name by which a class loader knows the class of the type. -/
def binaryName : TypeName → Text
  | .primitive p 0 => p.spelling.toList
  | .primitive p n => List.replicate n '[' ++ [p.descriptor]
  | .reference package name _ 0 => qualify package name.text
  | .reference package name _ n =>
    List.replicate n '[' ++ 'L' :: qualify package name.text ++ [';']

/-- More dimensions are written as more brackets. -/
theorem render_addDimensions (qualified : Bool) (t : TypeName) (n : Nat) :
    (t.addDimensions n).render qualified = t.render qualified ++ brackets n := by
  cases t <;>
    simp [addDimensions, dimensions, withDimensions, render, brackets_add]

end TypeName

end JavaNames
