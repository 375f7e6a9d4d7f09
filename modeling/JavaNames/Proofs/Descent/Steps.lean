import JavaNames.Proofs.Placement
import JavaNames.TypeName.Descent

/-!
# Steps of the routines

What the routines do at a token is one of the rules of `Descent.Reacts`: they go on by a rule of
`Descent.Step`, they are done with the text, they find a fault of `Descent.Faults`, or they close a
list of arguments where none is open (`Descent.State.reacts`). Since the lexemes of a text stand in
it, the words that faults quote can always be read from the text (`Lexeme.StandsIn.slice?_span`), so
the last rule is the only one that panics.
-/

namespace JavaNames

/-! ## Words in the text -/

section
variable {x : Lexeme} {t : Text} {s : Span}

/-- The bytes before a boundary of a text are whole characters. -/
theorem IsBoundary.byteLength_takeBytes {n : Nat} (h : IsBoundary t n) :
    byteLength (takeBytes n t) = n := by
  obtain ⟨a, b, rfl, rfl⟩ := h
  rw [takeBytes_byteLength]

/-- A span that lies in a text has a text under it. -/
theorem Span.Within.slice?_eq (h : s.Within t) : s.slice? t = some (s.slice t) :=
  if_pos ⟨h.start.byteLength_takeBytes, h.stop.byteLength_takeBytes, h.ordered⟩

/-- What is written of a token can be read where it stands. -/
theorem Lexeme.StandsIn.slice?_span (h : x.StandsIn t) :
    x.span.slice? t = some x.token.spelling := by
  rw [h.within.slice?_eq]
  obtain ⟨before, after, rfl, hspan, -⟩ := h
  rw [hspan, Span.slice_append]

/-- The end of a text stands at one point of it. -/
theorem Lexeme.StandsIn.span_of_eof (h : x.StandsIn t) (hx : x.token = .eof) :
    x.span = .point x.span.start := by
  obtain ⟨before, after, rfl, hspan, -⟩ := h
  rw [hspan, hx]
  rfl

end

namespace Token

/-- The tokens of the primitive types are their keywords. -/
theorem primitive?_eq_some_iff {t : Token} {p : Primitive} :
    t.primitive? = some p ↔ t = .keyword p.keyword := by
  constructor
  · intro h
    obtain ⟨w, hw, hp⟩ := Option.bind_eq_some_iff.1 h
    cases t <;> cases hw
    rw [Primitive.ofKeyword?_eq_some_iff.1 hp]
  · rintro rfl
    exact Primitive.ofKeyword?_keyword p

/-- The tokens that are identifiers. -/
theorem identifier?_eq_some_iff {t : Token} {w : Text} :
    t.identifier? = some w ↔ t = .identifier w := by
  cases t <;> simp [identifier?]

end Token

namespace Descent

/-! ## Rules -/

/-- The fault of a token that is no identifier where a name begins. -/
def noName : Token → Fault
  | .keyword k => .reservedWord k.spelling.toList
  | .literal l => .reservedWord l.spelling.toList
  | t => Reading.instead "identifier" t

/-- The routines go on at a token, after they have taken it or before. -/
inductive Step (limits : Limits) (x : Lexeme) : State → State → Prop
  /-- The type name of the text is called for. -/
  | text {i d} (ht : x.token ≠ .eof) :
    Step limits x ⟨i, d, .text⟩ ⟨i, d, .typeName i .text⟩
  /-- A type name is a primitive type. -/
  | primitive {i d start p k} (ht : x.token = .keyword p.keyword) :
    Step limits x ⟨i, d, .typeName start k⟩ ⟨i + 1, d, .primitive start p k⟩
  /-- A type name is a class, or begins with a word that is none. -/
  | callReference {i d start k}
    (ht : (∃ w, x.token = .identifier w) ∨ x.token.isReservedWord = true) :
    Step limits x ⟨i, d, .typeName start k⟩ ⟨i, d, .reference (.typeName start k)⟩
  /-- A primitive type has no arguments. -/
  | callBrackets {i d start p k} (ht : x.token ≠ .punctuation .leftAngle) :
    Step limits x ⟨i, d, .primitive start p k⟩
      ⟨i, d, .brackets 0 (.dimensions start (.primitive p 0) k)⟩
  /-- A class name begins. -/
  | name {i d w k} (ht : x.token = .identifier w) :
    Step limits x ⟨i, d, .reference k⟩ ⟨i + 1, d, .named [] ⟨w⟩ k⟩
  /-- The name is a segment of a package. -/
  | dot {i d pk y k} (ht : x.token = .punctuation .dot) :
    Step limits x ⟨i, d, .named pk y k⟩ ⟨i + 1, d, .dotted pk y k⟩
  /-- A name follows its package. -/
  | segment {i d w pk y k} (ht : x.token = .identifier w) :
    Step limits x ⟨i, d, .dotted pk y k⟩ ⟨i + 1, d, .named (pk ++ [y]) ⟨w⟩ k⟩
  /-- A class has arguments. -/
  | callArguments {i d pk y k} (ht : x.token = .punctuation .leftAngle) :
    Step limits x ⟨i, d, .named pk y k⟩ ⟨i, d, .arguments (.reference pk y k)⟩
  /-- A class has no arguments. -/
  | endReference {i d pk y start k} (hdot : x.token ≠ .punctuation .dot)
    (hangle : x.token ≠ .punctuation .leftAngle) :
    Step limits x ⟨i, d, .named pk y (.typeName start k)⟩
      ⟨i, d, .brackets 0 (.dimensions start (.reference pk y [] 0) k)⟩
  /-- A list of arguments begins. -/
  | openList {i d k} (ht : x.token = .punctuation .leftAngle)
    (hl : limits.allows (d + 1) = true) :
    Step limits x ⟨i, d, .arguments k⟩ ⟨i + 1, d + 1, .argument (.arguments [] k)⟩
  /-- Another argument follows. -/
  | comma {i d as k} (ht : x.token = .punctuation .comma) :
    Step limits x ⟨i, d, .listed as k⟩ ⟨i + 1, d, .argument (.arguments as k)⟩
  /-- A list of arguments ends. -/
  | closeList {i d as pk y start k} (ht : x.token = .punctuation .rightAngle) :
    Step limits x ⟨i, d + 1, .listed as (.reference pk y (.typeName start k))⟩
      ⟨i + 1, d, .brackets 0 (.dimensions start (.reference pk y as 0) k)⟩
  /-- An argument is a wildcard. -/
  | wildcard {i d k} (ht : x.token = .punctuation .question) :
    Step limits x ⟨i, d, .argument k⟩ ⟨i + 1, d, .wildcard k⟩
  /-- An argument is a type. -/
  | callArgumentType {i d k} (ht : x.token ≠ .punctuation .question) :
    Step limits x ⟨i, d, .argument k⟩ ⟨i, d, .argumentType (.argument .invariant k)⟩
  /-- A wildcard gets a bound. -/
  | bound {i d k v w} (hv : Variance.tokens v = [.punctuation .question, .keyword w])
    (ht : x.token = .keyword w) :
    Step limits x ⟨i, d, .wildcard k⟩ ⟨i + 1, d, .argumentType (.argument v k)⟩
  /-- A wildcard has no bound. -/
  | endWildcard {i d as k}
    (hv : ∀ v w, Variance.tokens v = [.punctuation .question, .keyword w] → x.token ≠ .keyword w) :
    Step limits x ⟨i, d, .wildcard (.arguments as k)⟩ ⟨i, d, .listed (as ++ [.wildcard]) k⟩
  /-- An argument begins with a type name. -/
  | callTypeName {i d k} :
    Step limits x ⟨i, d, .argumentType k⟩ ⟨i, d, .typeName i (.argumentType x.span k)⟩
  /-- A dimension begins. -/
  | openBracket {i d n k} (ht : x.token = .punctuation .leftBracket) :
    Step limits x ⟨i, d, .brackets n k⟩ ⟨i + 1, d, .bracketed n k⟩
  /-- A dimension is complete. -/
  | closeBracket {i d n k} (ht : x.token = .punctuation .rightBracket) :
    Step limits x ⟨i, d, .bracketed n k⟩ ⟨i + 1, d, .brackets (n + 1) k⟩
  /-- There are no more dimensions. -/
  | endBrackets {i d n start base k} (ht : x.token ≠ .punctuation .leftBracket) :
    Step limits x ⟨i, d, .brackets n (.dimensions start base k)⟩
      ⟨i, d, .typeRead start (base.addDimensions n) k⟩
  /-- The type name of an argument is no primitive type. -/
  | endArgumentType {i d start u span v as k} (hu : u.isBarePrimitive = false) :
    Step limits x ⟨i, d, .typeRead start u (.argumentType span (.argument v (.arguments as k)))⟩
      ⟨i, d, .listed (as ++ [.type v u]) k⟩
  /-- The type name of the text is complete. -/
  | endText {i d start u} :
    Step limits x ⟨i, d, .typeRead start u .text⟩ ⟨i, d, .textRead u⟩

/-- The routines find a fault at a token, or where an argument begins. -/
inductive Faults (limits : Limits) (x : Lexeme) : State → Fault → Span → Prop
  /-- Something follows the type name of the text. -/
  | trailing {i d u} (ht : x.token ≠ .eof) :
    Faults limits x ⟨i, d, .textRead u⟩ (.trailingInput x.token.description) x.span
  /-- No type name begins. -/
  | noType {i d start k} (hp : x.token.primitive? = none) (hi : x.token.identifier? = none)
    (hw : x.token.isReservedWord = false) :
    Faults limits x ⟨i, d, .typeName start k⟩ (Reading.instead "type name" x.token) x.span
  /-- A primitive type has arguments. -/
  | withArguments {i d start p k} (ht : x.token = .punctuation .leftAngle) :
    Faults limits x ⟨i, d, .primitive start p k⟩ (.primitiveWithArguments p) x.span
  /-- A primitive type is an argument. -/
  | bareArgument {i d start p span k} :
    Faults limits x ⟨i, d, .typeRead start (.primitive p 0) (.argumentType span k)⟩
      (.primitiveArgument p) span
  /-- No class name begins. -/
  | noName {i d k} (ht : x.token.identifier? = none) :
    Faults limits x ⟨i, d, .reference k⟩ (noName x.token) x.span
  /-- No name follows a dot. -/
  | noSegment {i d pk y k} (ht : x.token.identifier? = none) :
    Faults limits x ⟨i, d, .dotted pk y k⟩ (Reading.noIdentifier x.token) x.span
  /-- A list of arguments is nested too deep. -/
  | tooDeep {i d k limit} (ht : x.token = .punctuation .leftAngle)
    (hl : limits.nesting = some limit) (hdeep : limits.allows (d + 1) = false) :
    Faults limits x ⟨i, d, .arguments k⟩ (.nestingTooDeep limit) x.span
  /-- No list of arguments begins. -/
  | noList {i d k} (ht : x.token ≠ .punctuation .leftAngle) :
    Faults limits x ⟨i, d, .arguments k⟩ (Reading.instead "'<'" x.token) x.span
  /-- An argument does not end. -/
  | noEnd {i d as k} (hcomma : x.token ≠ .punctuation .comma)
    (hangle : x.token ≠ .punctuation .rightAngle) :
    Faults limits x ⟨i, d, .listed as k⟩ (Reading.instead "',' or '>'" x.token) x.span
  /-- A dimension is not complete. -/
  | noBracket {i d n k} (ht : x.token ≠ .punctuation .rightBracket) :
    Faults limits x ⟨i, d, .bracketed n k⟩ (Reading.instead "']'" x.token) x.span

/-- What the routines do at a token. -/
inductive Reacts (limits : Limits) (input : Text) (x : Lexeme) : State → Outcome → Prop
  /-- They go on. -/
  | step {s s'} (h : Step limits x s s') : Reacts limits input x s (.running s')
  /-- The text has no tokens. -/
  | empty {i d} (ht : x.token = .eof) :
    Reacts limits input x ⟨i, d, .text⟩ (.finished (.error (.empty "type name" input)))
  /-- The text ends after its type name. -/
  | complete {i d u} (ht : x.token = .eof) :
    Reacts limits input x ⟨i, d, .textRead u⟩ (.finished (.ok u))
  /-- They find a fault. -/
  | fault {s f span} (h : Faults limits x s f span) :
    Reacts limits input x s (.finished (.error (f.within span input)))
  /-- They close a list of arguments where none is open. -/
  | panic {i as k} : Reacts limits input x ⟨i, 0, .listed as k⟩ .panicked

/-! ## Single steps -/

/-- After a dot, a primitive type is at fault as such. -/
theorem noIdentifier_of_primitive? {t : Token} {p : Primitive} (h : t.primitive? = some p) :
    t.identifier? = none ∧ Reading.noIdentifier t = .qualifiedPrimitive p := by
  rw [Token.primitive?_eq_some_iff] at h
  subst h
  exact ⟨rfl, by simp [Reading.noIdentifier]⟩

/-- Any other token is at fault after a dot as it is where a name begins. -/
theorem noIdentifier_eq_noName {t : Token} (h : t.primitive? = none) :
    Reading.noIdentifier t = noName t := by
  cases t with
  | keyword k =>
    have hk : Primitive.ofKeyword? k = none := h
    simp [Reading.noIdentifier, noName, hk]
  | literal _ | punctuation _ | identifier _ | eof => rfl

section
variable {limits : Limits} {input : Text} {x : Lexeme} {s : State}

/-- A token that is missing is a fault at its place. -/
theorem missing_eq (hx : x.StandsIn input) (expected : String) :
    missing expected x input =
      .finished (.error ((Reading.instead expected x.token).within x.span input)) := by
  rw [missing]
  split
  · next ht =>
    rw [hx.span_of_eof ht, ht]
    rfl
  · next ht =>
    rw [Reading.instead]
    · rfl
    · exact ht

namespace State

/-- Any token but the end of the text is taken by going on to the next one. -/
theorem take_eq {t : Token} (ht : t ≠ .eof) (p : Point) :
    s.take t p = .running ⟨s.position + 1, s.depth, p⟩ := by
  rw [take, advance, if_neg ht]

/-- Punctuation and keywords are taken by going on to the next token. -/
theorem take_of_eq {t u : Token} (ht : t = u) (hu : u ≠ .eof) (p : Point) :
    s.take t p = .running ⟨s.position + 1, s.depth, p⟩ :=
  take_eq (ht ▸ hu) p

/-- An identifier is taken, and any other token is a fault. -/
theorem identifier_cases (hx : x.StandsIn input) (next : Identifier → Point) :
    (∃ w, x.token = .identifier w ∧
      s.identifier input x next = .running ⟨s.position + 1, s.depth, next ⟨w⟩⟩) ∨
    (x.token.identifier? = none ∧
      s.identifier input x next = .finished (.error ((noName x.token).within x.span input))) := by
  have hmissing := missing_eq hx "identifier"
  have hslice := hx.slice?_span
  obtain ⟨t, span⟩ := x
  cases t with
  | identifier w => exact .inl ⟨w, rfl, take_eq (t := .identifier w) nofun _⟩
  | keyword k | literal l =>
    refine .inr ⟨rfl, ?_⟩
    simp only [identifier]
    rw [hslice]
    rfl
  | punctuation p | eof => exact .inr ⟨rfl, hmissing⟩

/-- What is done where a type name begins. -/
theorem reacts_beginType (hx : x.StandsIn input) (i d start : Nat) (k : Callers .typeName) :
    Reacts limits input x ⟨i, d, .typeName start k⟩
      (beginType ⟨i, d, .typeName start k⟩ input x start k) := by
  rw [beginType]
  split
  · next p hp =>
    have ht := Token.primitive?_eq_some_iff.1 hp
    rw [take_of_eq ht nofun]
    exact .step (.primitive ht)
  · next hp =>
    split
    · next h =>
      rw [Bool.or_eq_true, Option.isSome_iff_exists] at h
      simp only [Token.identifier?_eq_some_iff] at h
      exact .step (.callReference h)
    · next h =>
      rw [Bool.or_eq_true, not_or, Option.not_isSome_iff_eq_none, Bool.not_eq_true] at h
      rw [missing_eq hx]
      exact .fault (.noType hp h.1 h.2)

/-- What is done where a type name ends. -/
theorem reacts_endType (i d start : Nat) (u : TypeName) (k : Callers .typeName) :
    Reacts limits input x ⟨i, d, .typeRead start u k⟩
      (endType ⟨i, d, .typeRead start u k⟩ input u k) := by
  cases k with
  | text => exact .step .endText
  | argumentType span k =>
    cases k with
    | argument v k =>
      cases k with
      | arguments as k =>
        match u with
        | .primitive p 0 => exact .fault .bareArgument
        | .primitive p (n + 1) | .reference pk y bs n => exact .step (.endArgumentType rfl)

/-- What is done where a list of arguments begins. -/
theorem reacts_openList (ht : x.token = .punctuation .leftAngle) (i d : Nat)
    (k : Callers .arguments) :
    Reacts limits input x ⟨i, d, .arguments k⟩
      (openList limits ⟨i, d, .arguments k⟩ input x k) := by
  rw [openList]
  split
  · next hl =>
    rw [advance, if_neg (by simp [ht])]
    exact .step (.openList ht hl)
  · next hl =>
    rw [Bool.not_eq_true] at hl
    cases hn : limits.nesting with
    | none =>
      rw [Limits.allows, hn] at hl
      cases hl
    | some limit => exact .fault (.tooDeep ht hn hl)

/-- What is done where a list of arguments ends. -/
theorem reacts_closeList (ht : x.token = .punctuation .rightAngle) (i d : Nat)
    (as : List Argument) (k : Callers .arguments) :
    Reacts limits input x ⟨i, d, .listed as k⟩
      (closeList ⟨i, d, .listed as k⟩ x.token as k) := by
  cases d with
  | zero => exact .panic
  | succ d =>
    cases k with
    | reference pk y k =>
      cases k with
      | typeName start k =>
        simp only [closeList, advance, if_neg (show ¬ x.token = .eof by simp [ht])]
        exact .step (.closeList ht)

/-- What the routines do at a token of a text is one of the rules. -/
theorem reacts (hx : x.StandsIn input) (s : State) :
    Reacts limits input x s (s.react limits input x) := by
  obtain ⟨i, d, p⟩ := s
  cases p with
  | text =>
    simp only [react]
    split
    · next ht => exact .empty ht
    · next ht => exact .step (.text ht)
  | textRead u =>
    simp only [react]
    split
    · next ht => exact .complete ht
    · next ht => exact .fault (.trailing ht)
  | typeName start k => exact reacts_beginType hx i d start k
  | primitive start p k =>
    simp only [react]
    split
    · next ht => exact .fault (.withArguments ht)
    · next ht => exact .step (.callBrackets ht)
  | typeRead start u k => exact reacts_endType i d start u k
  | reference k =>
    simp only [react]
    rcases identifier_cases (s := ⟨i, d, .reference k⟩) hx (.named [] · k) with
      ⟨w, ht, heq⟩ | ⟨ht, heq⟩
    · rw [heq]
      exact .step (.name ht)
    · rw [heq]
      exact .fault (.noName ht)
  | named pk y k =>
    simp only [react]
    split
    · next ht =>
      rw [take_of_eq ht nofun]
      exact .step (.dot ht)
    · next hdot =>
      split
      · next ht => exact .step (.callArguments ht)
      · next hangle =>
        cases k with
        | typeName start k => exact .step (.endReference hdot hangle)
  | dotted pk y k =>
    simp only [react]
    split
    · next p hp =>
      obtain ⟨hi, hf⟩ := noIdentifier_of_primitive? hp
      rw [← hf]
      exact .fault (.noSegment hi)
    · next hp =>
      rcases identifier_cases (s := ⟨i, d, .dotted pk y k⟩) hx (.named (pk ++ [y]) · k) with
        ⟨w, ht, heq⟩ | ⟨ht, heq⟩
      · rw [heq]
        exact .step (.segment ht)
      · rw [heq, ← noIdentifier_eq_noName hp]
        exact .fault (.noSegment ht)
  | arguments k =>
    simp only [react]
    split
    · next ht => exact reacts_openList ht i d k
    · next ht =>
      rw [missing_eq hx]
      exact .fault (.noList ht)
  | listed as k =>
    simp only [react]
    split
    · next ht =>
      rw [take_of_eq ht nofun]
      exact .step (.comma ht)
    · next hcomma =>
      split
      · next ht => exact reacts_closeList ht i d as k
      · next hangle =>
        rw [missing_eq hx]
        exact .fault (.noEnd hcomma hangle)
  | argument k =>
    simp only [react]
    split
    · next ht =>
      rw [take_of_eq ht nofun]
      exact .step (.wildcard ht)
    · next ht => exact .step (.callArgumentType ht)
  | wildcard k =>
    simp only [react]
    split
    · next ht =>
      rw [take_of_eq ht nofun]
      exact .step (.bound rfl ht)
    · next hextends =>
      split
      · next ht =>
        rw [take_of_eq ht nofun]
        exact .step (.bound rfl ht)
      · next hsuper =>
        cases k with
        | arguments as k =>
          refine .step (.endWildcard fun v w hv => ?_)
          cases v <;> cases hv <;> assumption
  | argumentType k => exact .step .callTypeName
  | brackets n k =>
    simp only [react]
    split
    · next ht =>
      rw [take_of_eq ht nofun]
      exact .step (.openBracket ht)
    · next ht =>
      cases k with
      | dimensions start base k => exact .step (.endBrackets ht)
  | bracketed n k =>
    simp only [react]
    split
    · next ht =>
      rw [take_of_eq ht nofun]
      exact .step (.closeBracket ht)
    · next ht =>
      rw [missing_eq hx]
      exact .fault (.noBracket ht)

end State

end

end Descent

end JavaNames
