import JavaNames.Lexeme
import JavaNames.TypeName.Dimensions
import JavaNames.TypeName.Limits

/-!
# Reading type names

A type name is read one token at a time. What has been read is a `Reading`: the types whose argument
lists are still open, innermost first, and the `Stage` of the type name or argument that is being read
inside them. `Reading.next?` takes one token, if it can be the next one, and `Reading.result?` is the
type name that has been read, if it is complete. The grammar is

    type      = primitive brackets | name {"." name} ["<" argument {"," argument} ">"] brackets
    argument  = type | "?" | "?" "extends" type | "?" "super" type
    brackets  = {"[" "]"}

where the type of an argument is no primitive type without brackets. A primitive type in the place of
an argument therefore has `[` as its only next token.

The fault of a token that cannot be the next one (`Reading.fault`) is a function of the same state. It
is found at that token, with one exception: a primitive type in the place of an argument is found only
after it has been read, and is reported where it stands.
-/

namespace JavaNames

/-! ## States -/

/-- A class whose list of type arguments is open: where its name begins, the name, the arguments that
are complete, and the variance of the one that is being read. -/
structure OpenType where
  start : Nat
  package : List Identifier
  name : Identifier
  arguments : List Argument
  variance : Variance

/-- What has been read of a type name or of an argument. -/
inductive Stage
  /-- Nothing, and a type name has to begin. -/
  | typeStart
  /-- Nothing, and an argument has to begin. -/
  | argumentStart
  /-- A wildcard, which may get a bound. -/
  | wildcard
  /-- A primitive type. -/
  | primitive (p : Primitive)
  /-- The name of a class, which may be a segment of its package. -/
  | named (package : List Identifier) (name : Identifier)
  /-- The segments of a package, the last one with its dot. -/
  | dotted (package : List Identifier)
  /-- A type, up to the end of its arguments or of a pair of brackets. -/
  | closed (t : TypeName)
  /-- A type and an opening bracket. -/
  | bracketed (t : TypeName)

/-- The type that is complete at a stage. -/
def Stage.type? : Stage → Option TypeName
  | .primitive p => some (.primitive p 0)
  | .named package name => some (.reference package name [] 0)
  | .closed t => some t
  | _ => none

/-- What has been read of a sequence of tokens: how many tokens, where the innermost type name begins,
the open types around it, and its stage. Tokens are counted from zero. -/
structure Reading where
  position : Nat
  start : Nat
  enclosing : List OpenType
  stage : Stage

namespace Reading

/-- Before the first token. -/
def init : Reading :=
  ⟨0, 0, [], .typeStart⟩

/-- The type name that has been read, if it is complete. -/
def result? (r : Reading) : Option TypeName :=
  match r.enclosing with
  | [] => r.stage.type?
  | _ :: _ => none

/-! ## Steps -/

/-- One token further, at another stage. -/
def advance (r : Reading) (stage : Stage) : Reading :=
  { r with position := r.position + 1, stage }

/-- A type name begins with a token. -/
def begin? (r : Reading) : Token → Option Reading
  | .identifier word => some { r.advance (.named [] ⟨word⟩) with start := r.position }
  | .keyword k =>
    match Primitive.ofKeyword? k with
    | some p => some { r.advance (.primitive p) with start := r.position }
    | none => none
  | _ => none

/-- A wildcard gets a bound. -/
def bound? (r : Reading) (variance : Variance) : Option Reading :=
  match r.enclosing with
  | [] => none
  | o :: os => some { r.advance .typeStart with enclosing := { o with variance } :: os }

/-- An argument, which may depend on how it is bounded, is followed by a comma or by the end of the
list. -/
def endArgument? (r : Reading) (argument : Variance → Argument) (t : Token) : Option Reading :=
  match r.enclosing with
  | [] => none
  | o :: os =>
    let arguments := o.arguments ++ [argument o.variance]
    match t with
    | .punctuation .comma =>
      some { r.advance .argumentStart with
        enclosing := { o with arguments, variance := .invariant } :: os }
    | .punctuation .rightAngle =>
      some { r.advance (.closed (.reference o.package o.name arguments 0)) with
        start := o.start, enclosing := os }
    | _ => none

/-- A list of arguments is opened, if it is not nested too deep. -/
def open? (limits : Limits) (r : Reading) (package : List Identifier) (name : Identifier) :
    Option Reading :=
  if limits.allows (r.enclosing.length + 1) then
    some { r.advance .argumentStart with
      enclosing := ⟨r.start, package, name, [], .invariant⟩ :: r.enclosing }
  else none

/-- The reading with one more token, if the token can be the next one. -/
def next? (limits : Limits) (r : Reading) (t : Token) : Option Reading :=
  match r.stage with
  | .typeStart => r.begin? t
  | .argumentStart =>
    if t = .punctuation .question then some (r.advance .wildcard) else r.begin? t
  | .wildcard =>
    match t with
    | .keyword .«extends» => r.bound? .covariant
    | .keyword .super => r.bound? .contravariant
    | _ => r.endArgument? (fun _ => .wildcard) t
  | .primitive p =>
    if t = .punctuation .leftBracket then some (r.advance (.bracketed (.primitive p 0))) else none
  | .named package name =>
    match t with
    | .punctuation .dot => some (r.advance (.dotted (package ++ [name])))
    | .punctuation .leftAngle => r.open? limits package name
    | .punctuation .leftBracket => some (r.advance (.bracketed (.reference package name [] 0)))
    | _ => r.endArgument? (.type · (.reference package name [] 0)) t
  | .dotted package =>
    match t with
    | .identifier word => some (r.advance (.named package ⟨word⟩))
    | _ => none
  | .closed u =>
    if t = .punctuation .leftBracket then some (r.advance (.bracketed u))
    else r.endArgument? (.type · u) t
  | .bracketed u =>
    if t = .punctuation .rightBracket then some (r.advance (.closed (u.addDimensions 1))) else none

/-! ## Faults -/

/-- The fault of a token, or of the end of the text, where something else is asked for. -/
def instead (expected : String) : Token → Fault
  | .eof => .unexpectedEnd expected
  | t => .unexpectedToken t.description expected

/-- The fault of a token that begins no type name. -/
def noType : Token → Fault
  | .keyword k => .reservedWord k.spelling.toList
  | .literal l => .reservedWord l.spelling.toList
  | t => instead "type name" t

/-- The fault of a token that is no identifier, after a dot. -/
def noIdentifier : Token → Fault
  | .keyword k =>
    match Primitive.ofKeyword? k with
    | some p => .qualifiedPrimitive p
    | none => .reservedWord k.spelling.toList
  | .literal l => .reservedWord l.spelling.toList
  | t => instead "identifier" t

/-- The fault of a token after a complete type. -/
def noEnd (r : Reading) (t : Token) : Fault :=
  match r.enclosing with
  | [] => .trailingInput t.description
  | _ :: _ => instead "',' or '>'" t

/-- The fault of a token that cannot be the next one, and the number of the token it lies at. -/
def fault (limits : Limits) (r : Reading) (t : Token) : Fault × Nat :=
  match r.stage with
  | .typeStart | .argumentStart => (noType t, r.position)
  | .wildcard => (instead "',' or '>'" t, r.position)
  | .primitive p =>
    match t, r.enclosing with
    | .punctuation .leftAngle, _ => (.primitiveWithArguments p, r.position)
    | _, [] => (.trailingInput t.description, r.position)
    | _, _ :: _ => (.primitiveArgument p, r.start)
  | .named _ _ =>
    match t, limits.nesting with
    | .punctuation .leftAngle, some limit => (.nestingTooDeep limit, r.position)
    | _, _ => (r.noEnd t, r.position)
  | .dotted _ => (noIdentifier t, r.position)
  | .closed _ => (r.noEnd t, r.position)
  | .bracketed _ => (instead "']'" t, r.position)

/-! ## Runs -/

/-- The type name that has been read, or the fault of a text that ends here. -/
def finish (limits : Limits) (r : Reading) : Except (Fault × Nat) TypeName :=
  match r.result? with
  | some u => .ok u
  | none => .error (r.fault limits .eof)

/-- Reads tokens up to the end of the text, or up to the first one that cannot be the next one. -/
def run (limits : Limits) (r : Reading) : List Token → Except (Fault × Nat) TypeName
  | [] => r.finish limits
  | t :: ts =>
    if t = .eof then r.finish limits
    else
      match r.next? limits t with
      | some r' => r'.run limits ts
      | none => .error (r.fault limits t)

/-- No token comes after the end of the text. -/
@[simp] theorem run_eof (limits : Limits) (r : Reading) (ts : List Token) :
    r.run limits (.eof :: ts) = r.finish limits := by
  simp [run]

/-- The next token is read if it can be. -/
theorem run_cons_of_next {limits : Limits} {r r' : Reading} {t : Token} {ts : List Token}
    (ht : t ≠ .eof) (h : r.next? limits t = some r') :
    r.run limits (t :: ts) = r'.run limits ts := by
  simp [run, ht, h]

/-- A token that cannot be the next one is a fault. -/
theorem run_cons_of_no_next {limits : Limits} {r : Reading} {t : Token} {ts : List Token}
    (ht : t ≠ .eof) (h : r.next? limits t = none) :
    r.run limits (t :: ts) = .error (r.fault limits t) := by
  simp [run, ht, h]

end Reading

/-! ## Texts -/

namespace TypeName

/-- The type name that the lexemes of a text spell. -/
def ofLexemes (limits : Limits) (input : Text) (lexemes : List Lexeme) :
    Except Diagnostic TypeName :=
  match lexemes.map Lexeme.token with
  | [] | .eof :: _ => .error (.empty "type name" input)
  | tokens =>
    match Reading.init.run limits tokens with
    | .ok t => .ok t
    | .error (fault, i) =>
      let span := (lexemes[i]?.map Lexeme.span).getD (.point (byteLength input))
      .error (fault.within span input)

/-- The type name that a text spells, with type arguments nested no deeper than the limits allow. -/
def parseWithin (limits : Limits) (t : Text) : Except Diagnostic TypeName :=
  match lex t with
  | .ok lexemes => ofLexemes limits t lexemes
  | .error d => .error d

/-- The type name that a text spells. -/
def parse (t : Text) : Except Diagnostic TypeName :=
  parseWithin .unlimited t

/-- The type name of a text that the caller knows to spell one. -/
def ofKnownLegal (t : Text) : Except Violation TypeName :=
  match parse t with
  | .ok u => .ok u
  | .error d => .error (.illegalTypeName d)

end TypeName

end JavaNames
