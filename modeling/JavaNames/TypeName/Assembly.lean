import JavaNames.TypeName.Reading
import JavaNames.TypeName.Reference

/-!
# Assembling type names by hand

Type names are built from parts in steps. The parts lie on a stack, the last one on top; a step takes
what it needs from the top and puts its result there. A step that cannot be taken leaves the stack as
it is and has a reason: the stack does not hold what it needs, a text it reads is faulty, or it is given
a part that the caller should have known to be illegal.

The operations are those of type names, as a program calls them, and so are the reasons that a reading or
a broken promise gives. The stack, and what is said of what it lacks (`Lack.message`), belong to none of
the operations: they are a notation in which programs that build type names can be written down and run.
-/

namespace JavaNames.Assembly

/-- A step. -/
inductive Step
  /-- Puts a primitive type on the stack. -/
  | primitive (p : Primitive)
  /-- Puts a class on the stack whose identifiers the caller knows to be legal. -/
  | reference (package : List Text) (name : Text)
  /-- Puts the type on the stack that a text spells. -/
  | parse (limits : Limits) (t : Text)
  /-- Adds dimensions to the top. -/
  | addDimensions (n : Nat)
  /-- Makes the top an array of its element with a number of dimensions. -/
  | array (n : Nat)
  /-- Puts the component type of an array in its place. -/
  | component
  /-- Puts the element type of an array in its place. -/
  | element
  /-- Takes a type for each kind of argument, the last one from the top, and none for a wildcard
  without a bound (`none`); then gives the arguments to the class below. -/
  | arguments (kinds : List (Option Variance))
  /-- Puts the type of an argument in the place of the top. -/
  | argument (n : Nat)
  /-- Repeats the top. -/
  | duplicate
  /-- Exchanges the two topmost types. -/
  | swap
  /-- Takes the top away. -/
  | discard
  /-- Compares the two topmost types. -/
  | compare
  /-- Puts in the place of the top the type that its display form spells. -/
  | reread
  /-- Puts in the place of the top the type that its binary name spells. -/
  | readBinary
  deriving DecidableEq, Repr

/-- What a step needs and the stack does not hold. -/
inductive Lack
  | anotherType
  | component
  | element
  | reference
  | argument
  | bound
  deriving DecidableEq, Repr

/-- What is said of a lack. -/
def Lack.message : Lack → String
  | .anotherType => "empty stack"
  | .component => "no component type"
  | .element => "no element type"
  | .reference => "not a reference"
  | .argument => "no such argument"
  | .bound => "wildcard without bound"

/-- Why a step cannot be taken. -/
inductive Obstacle
  | lacking (l : Lack)
  | rejected (d : Diagnostic)
  | violated (v : Violation)
  deriving DecidableEq, Repr

/-- What is said of an obstacle. -/
def Obstacle.message : Obstacle → String
  | .lacking l => l.message
  | .rejected d => d.display
  | .violated v => v.message

/-- What a step finds out besides its result. -/
inductive Remark
  | nothing
  /-- The argument whose type was taken. -/
  | argument (a : Argument)
  /-- Whether the two topmost types are equal, and whether their display forms are. -/
  | compared (equal sameDisplay : Bool)
  /-- Whether reading the display form gives the same type. -/
  | reread (equal : Bool)

/-- The types on the stack, the top first. -/
abbrev Stack : Type := List TypeName

/-- The result of a step that takes nothing but the top. -/
def replaceTop (s : Stack) (f : TypeName → Except Obstacle (TypeName × Remark)) :
    Except Obstacle (Stack × Remark) :=
  match s with
  | [] => .error (.lacking .anotherType)
  | t :: rest =>
    match f t with
    | .ok (u, remark) => .ok (u :: rest, remark)
    | .error o => .error o

/-- Arguments of the given kinds, the last kind first, put before the arguments that come after them.
Each type is taken from the stack. -/
def takeArguments (later : List Argument) : List (Option Variance) → Stack →
    Option (List Argument × Stack)
  | [], s => some (later, s)
  | none :: kinds, s => takeArguments (.wildcard :: later) kinds s
  | some v :: kinds, t :: s => takeArguments (.type v t :: later) kinds s
  | some _ :: _, [] => none

/-- Gives arguments to the class on top. -/
def giveArguments (arguments : List Argument) (t : TypeName) :
    Except Obstacle (TypeName × Remark) :=
  match t.reference? with
  | none => .error (.lacking .reference)
  | some r =>
    match r.withArguments arguments with
    | .ok r' => .ok (r'.toTypeName, .nothing)
    | .error v => .error (.violated v)

/-- The identifiers that the caller knows to be legal, or the first one that is not. -/
def knownLegal : List Text → Except Violation (List Identifier)
  | [] => .ok []
  | t :: ts =>
    match Identifier.ofKnownLegal t with
    | .error v => .error v
    | .ok x =>
      match knownLegal ts with
      | .error v => .error v
      | .ok xs => .ok (x :: xs)

/-- The type that a text spells, with what is to be said about it. -/
def read (limits : Limits) (t : Text) (remark : TypeName → Remark) :
    Except Obstacle (TypeName × Remark) :=
  match TypeName.parseWithin limits t with
  | .ok u => .ok (u, remark u)
  | .error d => .error (.rejected d)

/-- A type that may be lacking. -/
def orLack (t : Option TypeName) (l : Lack) : Except Obstacle (TypeName × Remark) :=
  match t with
  | some u => .ok (u, .nothing)
  | none => .error (.lacking l)

/-- The stack after a step, and what the step finds out. -/
def Step.apply (step : Step) (s : Stack) : Except Obstacle (Stack × Remark) :=
  match step with
  | .primitive p => .ok (.primitive p 0 :: s, .nothing)
  | .reference package name =>
    match knownLegal package, Identifier.ofKnownLegal name with
    | .error v, _ => .error (.violated v)
    | .ok _, .error v => .error (.violated v)
    | .ok pk, .ok x => .ok ((Reference.mk pk x []).toTypeName :: s, .nothing)
  | .parse limits t =>
    match read limits t fun _ => .nothing with
    | .ok (u, remark) => .ok (u :: s, remark)
    | .error o => .error o
  | .addDimensions n => replaceTop s fun t => .ok (t.addDimensions n, .nothing)
  | .array n => replaceTop s fun t => .ok (t.withDimensions n, .nothing)
  | .component => replaceTop s fun t => orLack t.component? .component
  | .element => replaceTop s fun t => orLack t.element? .element
  | .arguments kinds =>
    match takeArguments [] kinds.reverse s with
    | some (taken, rest) => replaceTop rest (giveArguments taken)
    | none => .error (.lacking .anotherType)
  | .argument n =>
    replaceTop s fun t =>
      match t.arguments[n]? with
      | none => .error (.lacking .argument)
      | some a =>
        match a.type? with
        | none => .error (.lacking .bound)
        | some u => .ok (u, .argument a)
  | .duplicate =>
    match s with
    | t :: rest => .ok (t :: t :: rest, .nothing)
    | [] => .error (.lacking .anotherType)
  | .swap =>
    match s with
    | t :: u :: rest => .ok (u :: t :: rest, .nothing)
    | _ => .error (.lacking .anotherType)
  | .discard =>
    match s with
    | _ :: rest => .ok (rest, .nothing)
    | [] => .error (.lacking .anotherType)
  | .compare =>
    match s with
    | t :: u :: rest =>
      .ok (t :: u :: rest, .compared (decide (t = u)) (decide (t.display = u.display)))
    | _ => .error (.lacking .anotherType)
  | .reread =>
    replaceTop s fun t => read .unlimited t.display fun u => .reread (decide (u = t))
  | .readBinary => replaceTop s fun t => read .unlimited t.binaryName fun _ => .nothing

/-- The stack after a step that may have failed: a failing step changes nothing. -/
def Step.after (step : Step) (s : Stack) : Stack :=
  match step.apply s with
  | .ok (s', _) => s'
  | .error _ => s

/-- The stack after a sequence of steps. -/
def run (steps : List Step) (s : Stack) : Stack :=
  steps.foldl (fun s step => step.after s) s

end JavaNames.Assembly
