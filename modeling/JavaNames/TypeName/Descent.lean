import JavaNames.TypeName.Reading
import JavaNames.TypeName.Reference

/-!
# Reading by calls

Type names can also be read by routines that call each other, one for each rule of the grammar:

    typeName      a type, with its brackets; calls reference and brackets
    reference     a class, with its arguments if it has some; calls arguments
    arguments     a list of arguments, in angle brackets; calls argument
    argument      an argument, calls argumentType
    argumentType  the type of an argument or a bound, no primitive type; calls typeName
    brackets      pairs of brackets

What such a reader has come to is a `Point` of one of the routines, together with the calls that wait
for this routine to return, each with what it has read so far (`Callers`). A step looks at the next
token, and makes a call, returns from one, takes the token or ends the reading.

The tokens are numbered, and the reader holds the number of the next one and the number of the lists of
arguments that are open. Nothing in its state says that there is a token with this number, that the
word of a token stands in the text, or that a list that is closed has been opened. Where one of these
fails, the reader panics.
-/

namespace JavaNames

/-- The text under a span, if its ends stand between characters of the text, in the right order. -/
def Span.slice? (s : Span) (t : Text) : Option Text :=
  if byteLength (takeBytes s.start t) = s.start ∧ byteLength (takeBytes s.stop t) = s.stop ∧
      s.start ≤ s.stop then
    some (s.slice t)
  else none

namespace Descent

/-! ## States -/

/-- The routines. -/
inductive Routine
  | typeName
  | reference
  | arguments
  | argument
  | argumentType
  | brackets

/-- The calls that wait for a routine to return, the innermost one first. -/
inductive Callers : Routine → Type
  /-- The reading of the whole text waits for its type name. -/
  | text : Callers .typeName
  /-- A type name, whose call was made at the token with the number `start`, waits for its class. -/
  | typeName (start : Nat) (k : Callers .typeName) : Callers .reference
  /-- A type name waits for its brackets. -/
  | dimensions (start : Nat) (base : TypeName) (k : Callers .typeName) : Callers .brackets
  /-- A class waits for its arguments. -/
  | reference (package : List Identifier) (name : Identifier) (k : Callers .reference) :
    Callers .arguments
  /-- A list of arguments waits for the next one. -/
  | arguments (as : List Argument) (k : Callers .arguments) : Callers .argument
  /-- An argument waits for its type. -/
  | argument (variance : Variance) (k : Callers .argument) : Callers .argumentType
  /-- The type of an argument, which stands at `span`, waits for a type name. -/
  | argumentType (span : Span) (k : Callers .argumentType) : Callers .typeName

/-- The points of the routines, and of the reading of a whole text, with what has been read. -/
inductive Point
  /-- Before the type name of the text. -/
  | text
  /-- After the type name of the text. -/
  | textRead (t : TypeName)
  /-- A call of `typeName`, made at the token with the number `start`. -/
  | typeName (start : Nat) (k : Callers .typeName)
  /-- After a primitive type. -/
  | primitive (start : Nat) (p : Primitive) (k : Callers .typeName)
  /-- A call of `typeName` returns. -/
  | typeRead (start : Nat) (t : TypeName) (k : Callers .typeName)
  /-- A call of `reference`. -/
  | reference (k : Callers .reference)
  /-- After a name, which may be a segment of a package. -/
  | named (package : List Identifier) (name : Identifier) (k : Callers .reference)
  /-- After a name and a dot. -/
  | dotted (package : List Identifier) (name : Identifier) (k : Callers .reference)
  /-- A call of `arguments`. -/
  | arguments (k : Callers .arguments)
  /-- After an argument of a list. -/
  | listed (as : List Argument) (k : Callers .arguments)
  /-- A call of `argument`. -/
  | argument (k : Callers .argument)
  /-- After a question mark. -/
  | wildcard (k : Callers .argument)
  /-- A call of `argumentType`. -/
  | argumentType (k : Callers .argumentType)
  /-- After a number of pairs of brackets. -/
  | brackets (n : Nat) (k : Callers .brackets)
  /-- After an opening bracket. -/
  | bracketed (n : Nat) (k : Callers .brackets)

/-- What the reader holds: the number of the next token, the number of open lists, and the point that
it has come to. -/
structure State where
  position : Nat
  depth : Nat
  point : Point

/-- Before the first token. -/
def init : State :=
  ⟨0, 0, .text⟩

/-- What a step leads to. -/
inductive Outcome
  | running (s : State)
  | finished (r : Except Diagnostic TypeName)
  | panicked

/-- The text is rejected for a fault at a span. -/
def reject (f : Fault) (span : Span) (input : Text) : Outcome :=
  .finished (.error (f.within span input))

/-- The text is rejected because something else is asked for than the next token. -/
def missing (expected : String) (x : Lexeme) (input : Text) : Outcome :=
  match x.token with
  | .eof => .finished (.error (.unexpectedEnd expected x.span.start input))
  | t => reject (.unexpectedToken t.description expected) x.span input

/-! ## Returns -/

namespace Callers

/-- A type name goes on after its class. -/
def afterReference (r : Reference) : Callers .reference → Point
  | .typeName start k => .brackets 0 (.dimensions start r.toTypeName k)

/-- A class goes on after its arguments, and returns. -/
def afterArguments (as : List Argument) : Callers .arguments → Point
  | .reference package name k => k.afterReference ⟨package, name, as⟩

/-- A list of arguments goes on after one of them. -/
def afterArgument (a : Argument) : Callers .argument → Point
  | .arguments as k => .listed (as ++ [a]) k

/-- An argument goes on after its type, and returns. -/
def afterArgumentType (t : TypeName) : Callers .argumentType → Point
  | .argument variance k => k.afterArgument (.type variance t)

/-- A type name goes on after its brackets, and returns. -/
def afterBrackets (n : Nat) : Callers .brackets → Point
  | .dimensions start base k => .typeRead start (base.addDimensions n) k

end Callers

/-! ## Steps -/

namespace State

/-- The number of the next token after a token is taken. Nothing comes after the end of the text. -/
def advance (s : State) (t : Token) : Nat :=
  if t = .eof then s.position else s.position + 1

/-- On to another point, without taking the token. -/
def goTo (s : State) (p : Point) : Outcome :=
  .running { s with point := p }

/-- On to another point, after taking the token. -/
def take (s : State) (t : Token) (p : Point) : Outcome :=
  .running { s with position := s.advance t, point := p }

/-- An identifier is taken. A reserved word is none. -/
def identifier (s : State) (input : Text) (x : Lexeme) (next : Identifier → Point) : Outcome :=
  match x.token with
  | .identifier word => s.take x.token (next ⟨word⟩)
  | .keyword _ | .literal _ =>
    match x.span.slice? input with
    | some word => reject (.reservedWord word) x.span input
    | none => .panicked
  | _ => missing "identifier" x input

/-- A type name begins with a primitive type or with a name. -/
def beginType (s : State) (input : Text) (x : Lexeme) (start : Nat) (k : Callers .typeName) :
    Outcome :=
  match x.token.primitive? with
  | some p => s.take x.token (.primitive start p k)
  | none =>
    if x.token.identifier?.isSome || x.token.isReservedWord then
      s.goTo (.reference (.typeName start k))
    else missing "type name" x input

/-- A call of `typeName` returns. The type of an argument is no primitive type. -/
def endType (s : State) (input : Text) (t : TypeName) : Callers .typeName → Outcome
  | .text => s.goTo (.textRead t)
  | .argumentType span k =>
    match t with
    | .primitive p 0 => reject (.primitiveArgument p) span input
    | t => s.goTo (k.afterArgumentType t)

/-- A list of arguments is opened, if it is not nested too deep. -/
def openList (limits : Limits) (s : State) (input : Text) (x : Lexeme) (k : Callers .arguments) :
    Outcome :=
  if limits.allows (s.depth + 1) then
    .running ⟨s.advance x.token, s.depth + 1, .argument (.arguments [] k)⟩
  else reject (.nestingTooDeep (limits.nesting.getD 0)) x.span input

/-- A list of arguments is closed. -/
def closeList (s : State) (t : Token) (as : List Argument) (k : Callers .arguments) : Outcome :=
  match s.depth with
  | 0 => .panicked
  | depth + 1 => .running ⟨s.advance t, depth, k.afterArguments as⟩

/-- What the reader does where it looks at a token. -/
def react (limits : Limits) (input : Text) (s : State) (x : Lexeme) : Outcome :=
  match s.point with
  | .text =>
    if x.token = .eof then .finished (.error (.empty "type name" input))
    else s.goTo (.typeName s.position .text)
  | .textRead t =>
    if x.token = .eof then .finished (.ok t)
    else reject (.trailingInput x.token.description) x.span input
  | .typeName start k => s.beginType input x start k
  | .primitive start p k =>
    if x.token = .punctuation .leftAngle then reject (.primitiveWithArguments p) x.span input
    else s.goTo (.brackets 0 (.dimensions start (.primitive p 0) k))
  | .typeRead _ t k => s.endType input t k
  | .reference k => s.identifier input x fun name => .named [] name k
  | .named package name k =>
    if x.token = .punctuation .dot then s.take x.token (.dotted package name k)
    else if x.token = .punctuation .leftAngle then
      s.goTo (.arguments (.reference package name k))
    else s.goTo (k.afterReference ⟨package, name, []⟩)
  | .dotted package name k =>
    match x.token.primitive? with
    | some p => reject (.qualifiedPrimitive p) x.span input
    | none => s.identifier input x fun next => .named (package ++ [name]) next k
  | .arguments k =>
    if x.token = .punctuation .leftAngle then s.openList limits input x k
    else missing "'<'" x input
  | .listed as k =>
    if x.token = .punctuation .comma then s.take x.token (.argument (.arguments as k))
    else if x.token = .punctuation .rightAngle then s.closeList x.token as k
    else missing "',' or '>'" x input
  | .argument k =>
    if x.token = .punctuation .question then s.take x.token (.wildcard k)
    else s.goTo (.argumentType (.argument .invariant k))
  | .wildcard k =>
    if x.token = .keyword .«extends» then s.take x.token (.argumentType (.argument .covariant k))
    else if x.token = .keyword .super then
      s.take x.token (.argumentType (.argument .contravariant k))
    else s.goTo (k.afterArgument .wildcard)
  | .argumentType k => s.goTo (.typeName s.position (.argumentType x.span k))
  | .brackets n k =>
    if x.token = .punctuation .leftBracket then s.take x.token (.bracketed n k)
    else s.goTo (k.afterBrackets n)
  | .bracketed n k =>
    if x.token = .punctuation .rightBracket then s.take x.token (.brackets (n + 1) k)
    else missing "']'" x input

/-- One step. Every step looks at the next token. -/
def step (limits : Limits) (input : Text) (lexemes : List Lexeme) (s : State) : Outcome :=
  match lexemes[s.position]? with
  | some x => s.react limits input x
  | none => .panicked

/-- As many steps as there are, up to a number of them. -/
def run (limits : Limits) (input : Text) (lexemes : List Lexeme) : Nat → State → Outcome
  | 0, s => .running s
  | n + 1, s =>
    match s.step limits input lexemes with
    | .running s' => s'.run limits input lexemes n
    | outcome => outcome

end State

/-- The states that are reached from the first token on. -/
inductive Reachable (limits : Limits) (input : Text) (lexemes : List Lexeme) : State → Prop
  | init : Reachable limits input lexemes init
  | step {s s' : State} (h : Reachable limits input lexemes s)
    (hs : s.step limits input lexemes = .running s') : Reachable limits input lexemes s'

end Descent

end JavaNames
