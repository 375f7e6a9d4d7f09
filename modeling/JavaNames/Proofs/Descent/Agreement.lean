import JavaNames.Proofs.Descent.Calls

/-!
# Reading by calls and reading token by token

The routines read a text as `Reading` does. What they have come to tells which types are open and what
has been read inside them: the calls from one `typeName` to the next one are an open type
(`Encloses`), and a point is a stage (`Follows`). A step that takes a token is a step of the reading,
and a step that takes none does not change what the reading makes of the tokens that follow
(`Step.matched`); twice it forgets that the reading could have gone on in other ways, since the next
token is none of those. A fault is that of the token at which the reading stops (`Faults.stopsFor`). So
where the routines are done, they are done as the reading is (`Agrees.eq_parseWithin`).
-/

namespace JavaNames

namespace Reading

section
variable {limits : Limits} {r r' : Reading} {t : Token} {ts : List Token}

/-- Readings that do the same with the next token read the same. -/
theorem run_congr (hnext : r.next? limits t = r'.next? limits t)
    (hfault : r.fault limits t = r'.fault limits t) (hresult : r.result? = r'.result?) :
    r.run limits (t :: ts) = r'.run limits (t :: ts) := by
  by_cases ht : t = .eof
  · subst ht
    rw [run_eof, run_eof, finish, finish, hresult, hfault]
  · simp only [run, if_neg ht, hnext, hfault]

/-- A class is complete with its name, unless the next token goes on with the name or opens a list of
arguments. -/
theorem run_named {i s : Nat} {os : List OpenType} {pk : List Identifier} {y : Identifier}
    (hdot : t ≠ .punctuation .dot) (hangle : t ≠ .punctuation .leftAngle) :
    run limits ⟨i, s, os, .closed (.reference pk y [] 0)⟩ (t :: ts) =
      run limits ⟨i, s, os, .named pk y⟩ (t :: ts) := by
  refine run_congr ?_ ?_ rfl
  · cases t with
    | punctuation p =>
      cases p with
      | dot => exact absurd rfl hdot
      | leftAngle => exact absurd rfl hangle
      | comma | question | rightAngle | leftBracket | rightBracket => rfl
    | keyword _ | literal _ | identifier _ | eof => rfl
  · have hfault := fault_of_stage_named (r := ⟨i, s, os, .named pk y⟩) limits rfl t
    rcases hfault with hfault | ⟨limit, ht, -⟩
    · exact hfault.symm
    · exact absurd ht hangle

/-- An argument that does not begin with a question mark begins like a type name. -/
theorem run_argumentStart {i s : Nat} {os : List OpenType}
    (ht : t ≠ .punctuation .question) :
    run limits ⟨i, s, os, .typeStart⟩ (t :: ts) =
      run limits ⟨i, s, os, .argumentStart⟩ (t :: ts) := by
  refine run_congr ?_ rfl ?_
  · simp only [next?, if_neg ht]
    rfl
  · cases os <;> rfl

/-- A reading that stops at a token finds the fault there. -/
theorem Stops.run_eq (h : r.Stops limits t) :
    r.run limits (t :: ts) = .error (r.fault limits t) := by
  by_cases ht : t = .eof
  · subst ht
    rw [run_eof, finish, h.result rfl]
  · exact run_cons_of_no_next ht h.next

/-- Where no type is complete, no type name is. -/
theorem result?_of_type?_eq_none (h : r.stage.type? = none) : r.result? = none := by
  obtain ⟨i, s, os, g⟩ := r
  cases os with
  | nil => exact h
  | cons o os => rfl

/-- A token that is no primitive type and no identifier begins no type name. -/
theorem begin?_eq_none (hp : t.primitive? = none) (hi : t.identifier? = none) :
    r.begin? t = none := by
  cases t with
  | identifier w => cases hi
  | keyword k =>
    have hk : Primitive.ofKeyword? k = none := hp
    simp [begin?, hk]
  | literal l | punctuation p | eof => rfl

/-- A token that begins no type name, and is no word, is missed as one. -/
theorem noType_eq_instead (hp : t.primitive? = none) (hw : t.isReservedWord = false) :
    noType t = instead "type name" t := by
  cases t with
  | keyword k =>
    have hk : Primitive.ofKeyword? k = none := hp
    simp [Token.isReservedWord, hk] at hw
  | literal l => cases hw
  | identifier w | punctuation p | eof => rfl

end

end Reading

namespace Descent

/-! ## Points and stages -/

/-- The open types of the calls that wait for a type name. -/
inductive Encloses : Callers .typeName → List OpenType → Prop
  | text : Encloses .text []
  | list {k os span v as pk y start} (h : Encloses k os) :
    Encloses
      (.argumentType span (.argument v (.arguments as (.reference pk y (.typeName start k)))))
      (⟨start, pk, y, as, v⟩ :: os)

/-- The type of an argument stands where its type name was called for. -/
def Callers.MadeAt (lexemes : List Lexeme) (start : Nat) : Callers .typeName → Prop
  | .text => True
  | .argumentType span _ => lexemes[start]?.map Lexeme.span = some span

/-- A type name is complete at a stage, and gets no arguments from the next token. -/
inductive Complete (lexemes : List Lexeme) (t : Token) (start : Nat) (k : Callers .typeName) :
    Stage → TypeName → Prop
  | primitive {p} (ht : t ≠ .punctuation .leftAngle) (hm : k.MadeAt lexemes start) :
    Complete lexemes t start k (.primitive p) (.primitive p 0)
  | closed {u} (hu : u.isBarePrimitive = false) : Complete lexemes t start k (.closed u) u

/-- An argument is complete at a stage, and the next token does not go on with it. -/
inductive Ended (t : Token) : Stage → Prop
  | wildcard (hv : ∀ v w, Variance.tokens v = [.punctuation .question, .keyword w] →
      t ≠ .keyword w) : Ended t .wildcard
  | closed {u} (ht : t ≠ .punctuation .leftBracket) : Ended t (.closed u)

/-- The routines have come to where a reading is, before the next token. -/
inductive Follows (lexemes : List Lexeme) (t : Token) : State → Reading → Prop
  | textRead {i d s u g} (hg : Complete lexemes t s .text g u)
    (ht : t ≠ .punctuation .leftBracket) :
    Follows lexemes t ⟨i, d, .textRead u⟩ ⟨i, s, [], g⟩
  | typeName {i d s k os} (hk : Encloses k os) (hm : k.MadeAt lexemes i) :
    Follows lexemes t ⟨i, d, .typeName i k⟩ ⟨i, s, os, .typeStart⟩
  | primitive {i d start p k os} (hk : Encloses k os) (hm : k.MadeAt lexemes start) :
    Follows lexemes t ⟨i, d, .primitive start p k⟩ ⟨i, start, os, .primitive p⟩
  | typeRead {i d start u k os g} (hk : Encloses k os) (hg : Complete lexemes t start k g u)
    (ht : t ≠ .punctuation .leftBracket) :
    Follows lexemes t ⟨i, d, .typeRead start u k⟩ ⟨i, start, os, g⟩
  | reference {i d s k os} (hk : Encloses k os)
    (ht : (∃ w, t = .identifier w) ∨ t.isReservedWord = true) :
    Follows lexemes t ⟨i, d, .reference (.typeName i k)⟩ ⟨i, s, os, .typeStart⟩
  | named {i d pk y start k os} (hk : Encloses k os) :
    Follows lexemes t ⟨i, d, .named pk y (.typeName start k)⟩ ⟨i, start, os, .named pk y⟩
  | dotted {i d pk y start k os} (hk : Encloses k os) :
    Follows lexemes t ⟨i, d, .dotted pk y (.typeName start k)⟩
      ⟨i, start, os, .dotted (pk ++ [y])⟩
  | arguments {i d pk y start k os} (hk : Encloses k os)
    (ht : t = .punctuation .leftAngle) :
    Follows lexemes t ⟨i, d, .arguments (.reference pk y (.typeName start k))⟩
      ⟨i, start, os, .named pk y⟩
  | listed {i d s as a pk y start k os v g} (hk : Encloses k os)
    (ha : g.argument? v = some a) (hg : Ended t g) :
    Follows lexemes t ⟨i, d, .listed (as ++ [a]) (.reference pk y (.typeName start k))⟩
      ⟨i, s, ⟨start, pk, y, as, v⟩ :: os, g⟩
  | argument {i d s as pk y start k os} (hk : Encloses k os) :
    Follows lexemes t ⟨i, d, .argument (.arguments as (.reference pk y (.typeName start k)))⟩
      ⟨i, s, ⟨start, pk, y, as, .invariant⟩ :: os, .argumentStart⟩
  | wildcard {i d s as pk y start k os} (hk : Encloses k os) :
    Follows lexemes t ⟨i, d, .wildcard (.arguments as (.reference pk y (.typeName start k)))⟩
      ⟨i, s, ⟨start, pk, y, as, .invariant⟩ :: os, .wildcard⟩
  | argumentType {i d s v as pk y start k os} (hk : Encloses k os) :
    Follows lexemes t
      ⟨i, d, .argumentType (.argument v (.arguments as (.reference pk y (.typeName start k))))⟩
      ⟨i, s, ⟨start, pk, y, as, v⟩ :: os, .typeStart⟩
  | brackets {i d n start base k os g} (hk : Encloses k os)
    (hg : Complete lexemes t start k g (base.addDimensions n)) :
    Follows lexemes t ⟨i, d, .brackets n (.dimensions start base k)⟩ ⟨i, start, os, g⟩
  | bracketed {i d n start base k os} (hk : Encloses k os) :
    Follows lexemes t ⟨i, d, .bracketed n (.dimensions start base k)⟩
      ⟨i, start, os, .bracketed (base.addDimensions n)⟩

section
variable {limits : Limits} {lexemes : List Lexeme} {x : Lexeme} {s s' : State} {r : Reading}

/-- The open types are the lists that wait for an argument. -/
theorem Encloses.length_eq {k : Callers .typeName} {os : List OpenType} (h : Encloses k os) :
    os.length = k.lists := by
  induction h with
  | text => rfl
  | list _ ih => exact congrArg (· + 1) ih

/-- The routines are at the token that the reading is at. -/
theorem Follows.position_eq {t : Token} (h : Follows lexemes t s r) : r.position = s.position := by
  cases h <;> rfl

/-- A type with brackets is no primitive type. -/
theorem isBarePrimitive_addDimensions_succ (u : TypeName) (n : Nat) :
    (u.addDimensions (n + 1)).isBarePrimitive = false := by
  simp [TypeName.isBarePrimitive, TypeName.isArray]

/-- A bracket after a complete type name belongs to it. -/
theorem Complete.next {start i s : Nat} {k : Callers .typeName} {os : List OpenType} {g : Stage}
    {u : TypeName} {t : Token} (h : Complete lexemes t start k g u) :
    Reading.Step limits ⟨i, s, os, g⟩ (.punctuation .leftBracket) ⟨i + 1, s, os, .bracketed u⟩ := by
  cases h <;> exact .openBracket rfl

/-! ## Steps -/

/-- A step of the routines, at a token where they follow a reading. -/
inductive Matched (limits : Limits) (lexemes : List Lexeme) (x : Lexeme) (s s' : State)
    (r : Reading) : Prop
  /-- The step takes no token, and the reading makes the same of the tokens that follow. -/
  | stays {r'} (hs : s'.position = s.position) (hf : Follows lexemes x.token s' r')
    (hrun : ∀ ts, r'.run limits (x.token :: ts) = r.run limits (x.token :: ts))
  /-- The step takes the token, and so does the reading. -/
  | takes {t r'} (ht : x.token = t) (hne : t ≠ .eof) (hstep : Reading.Step limits r t r')
    (hf : ∀ u, Follows lexemes u s' r')

/-- A step of the routines that takes no token does not change what the reading makes of the tokens
that follow, and a step that takes one is a step of the reading. -/
theorem Step.matched (h : Step limits x s s') (hf : Follows lexemes x.token s r)
    (hx : lexemes[s.position]? = some x) (hd : s.depth = s.point.lists) :
    Matched limits lexemes x s s' r := by
  cases h with
  | text => cases hf
  | primitive ht =>
    cases hf with
    | typeName hk hm => exact .takes ht nofun (.primitive (.inl rfl)) fun _ => .primitive hk hm
  | callReference ht =>
    cases hf with
    | typeName hk hm => exact .stays rfl (.reference hk ht) fun _ => rfl
  | callBrackets ht =>
    cases hf with
    | primitive hk hm => exact .stays rfl (.brackets hk (.primitive ht hm)) fun _ => rfl
  | name ht =>
    cases hf with
    | reference hk _ => exact .takes ht nofun (.name (.inl rfl)) fun _ => .named hk
  | dot ht =>
    cases hf with
    | named hk => exact .takes ht nofun .dot fun _ => .dotted hk
  | segment ht =>
    cases hf with
    | dotted hk => exact .takes ht nofun .segment fun _ => .named hk
  | callArguments ht =>
    cases hf with
    | named hk => exact .stays rfl (.arguments hk ht) fun _ => rfl
  | endReference hdot hangle =>
    cases hf with
    | named hk =>
      exact .stays rfl (.brackets hk (.closed rfl)) fun _ => Reading.run_named hdot hangle
  | openList ht hl =>
    cases hf with
    | arguments hk _ =>
      refine .takes ht nofun (.openList ?_) fun _ => .argument hk
      rw [hk.length_eq.trans hd.symm]
      exact hl
  | comma ht =>
    cases hf with
    | listed hk ha _ => exact .takes ht nofun (.comma ha) fun _ => .argument hk
  | closeList ht =>
    cases hf with
    | listed hk ha _ =>
      exact .takes ht nofun (.closeList ha) fun _ => .brackets hk (.closed rfl)
  | wildcard ht =>
    cases hf with
    | argument hk => exact .takes ht nofun .wildcard fun _ => .wildcard hk
  | callArgumentType ht =>
    cases hf with
    | argument hk => exact .stays rfl (.argumentType hk) fun _ => Reading.run_argumentStart ht
  | bound hv ht =>
    cases hf with
    | wildcard hk => exact .takes ht nofun (.bound hv) fun _ => .argumentType hk
  | endWildcard hv =>
    cases hf with
    | wildcard hk => exact .stays rfl (.listed hk rfl (.wildcard hv)) fun _ => rfl
  | callTypeName =>
    cases hf with
    | argumentType hk =>
      exact .stays rfl (.typeName (.list hk) (by simp [Callers.MadeAt, hx])) fun _ => rfl
  | openBracket ht =>
    cases hf with
    | brackets hk hg => exact .takes ht nofun hg.next fun _ => .bracketed hk
  | closeBracket ht =>
    cases hf with
    | bracketed hk =>
      refine .takes ht nofun .closeBracket fun _ => .brackets hk ?_
      rw [← TypeName.addDimensions_add]
      exact .closed (isBarePrimitive_addDimensions_succ _ _)
  | endBrackets ht =>
    cases hf with
    | brackets hk hg => exact .stays rfl (.typeRead hk hg ht) fun _ => rfl
  | endArgumentType hu =>
    cases hf with
    | typeRead hk hg ht =>
      cases hg with
      | primitive => cases hu
      | closed =>
        cases hk with
        | list hk => exact .stays rfl (.listed hk rfl (.closed ht)) fun _ => rfl
  | endText =>
    cases hf with
    | typeRead hk hg ht =>
      cases hk with
      | text => exact .stays rfl (.textRead hg ht) fun _ => rfl

/-! ## Ends -/

/-- A complete type name is the one of its stage. -/
theorem Complete.type?_eq {start : Nat} {k : Callers .typeName} {g : Stage} {u : TypeName}
    {t : Token} (h : Complete lexemes t start k g u) : g.type? = some u := by
  cases h <;> rfl

/-- Reading stops at a token for a fault at a span. -/
structure StopsFor (limits : Limits) (lexemes : List Lexeme) (r : Reading) (t : Token) (f : Fault)
    (span : Span) : Prop where
  stops : r.Stops limits t
  fault : (r.fault limits t).1 = f
  span : lexemes[(r.fault limits t).2]?.map Lexeme.span = some span

/-- Reading stops at a token that is itself at fault. -/
theorem StopsFor.here {f : Fault} (hx : lexemes[r.position]? = some x)
    (hnext : r.next? limits x.token = none) (hresult : x.token = .eof → r.result? = none)
    (hfault : r.fault limits x.token = (f, r.position)) :
    StopsFor limits lexemes r x.token f x.span where
  stops := ⟨hnext, hresult⟩
  fault := by rw [hfault]
  span := by rw [hfault, hx, Option.map_some]

/-- A word that is no type name is at fault as it is where a class name begins. -/
theorem noType_of_isReservedWord {t : Token} (h : t.isReservedWord = true) :
    t.primitive? = none ∧ Reading.noType t = noName t := by
  cases t with
  | keyword k => exact ⟨Option.isNone_iff_eq_none.1 h, rfl⟩
  | literal l => exact ⟨rfl, rfl⟩
  | identifier w | punctuation p | eof => cases h

/-- A token that does not go on with an argument, and neither ends it, cannot be taken. -/
theorem stopsFor_of_ended {i s' : Nat} {o : OpenType} {os : List OpenType} {g : Stage}
    (hg : Ended x.token g) (hx : lexemes[i]? = some x)
    (hcomma : x.token ≠ .punctuation .comma) (hangle : x.token ≠ .punctuation .rightAngle) :
    StopsFor limits lexemes ⟨i, s', o :: os, g⟩ x.token
      (Reading.instead "',' or '>'" x.token) x.span := by
  have hend (g : Stage) (a : Variance → Argument) :
      Reading.endArgument? ⟨i, s', o :: os, g⟩ a x.token = none := by
    simp only [Reading.endArgument?]
  cases hg with
  | wildcard hv =>
    refine .here hx ?_ (fun _ => rfl) rfl
    simp only [Reading.next?]
    split
    · next ht => exact absurd ht (hv .covariant _ rfl)
    · next ht => exact absurd ht (hv .contravariant _ rfl)
    · exact hend _ _
  | closed hbracket =>
    refine .here hx ?_ (fun _ => rfl) rfl
    simp only [Reading.next?, if_neg hbracket]
    exact hend _ _

/-- A primitive type that is an argument is at fault where it stands. -/
theorem stopsFor_of_primitive {i start : Nat} {o : OpenType} {os : List OpenType} {p : Primitive}
    {span : Span} (hbracket : x.token ≠ .punctuation .leftBracket)
    (hangle : x.token ≠ .punctuation .leftAngle)
    (hspan : lexemes[start]?.map Lexeme.span = some span) :
    StopsFor limits lexemes ⟨i, start, o :: os, .primitive p⟩ x.token (.primitiveArgument p)
      span := by
  have hfault : Reading.fault limits ⟨i, start, o :: os, .primitive p⟩ x.token =
      (.primitiveArgument p, start) := Reading.fault_of_stage_primitive rfl rfl hangle
  refine ⟨⟨if_neg hbracket, fun _ => rfl⟩, ?_, ?_⟩
  · rw [hfault]
  · rw [hfault, hspan]

/-- The fault that the routines find is the one for which the reading stops that they follow. -/
theorem Faults.stopsFor {f : Fault} {span : Span} (h : Faults limits x s f span)
    (hf : Follows lexemes x.token s r) (hx : lexemes[s.position]? = some x)
    (hd : s.depth = s.point.lists) : StopsFor limits lexemes r x.token f span := by
  cases h with
  | trailing ht =>
    cases hf with
    | textRead hg hbracket =>
      cases hg with
      | primitive hangle =>
        refine .here hx (if_neg hbracket) (fun h => absurd h ht) ?_
        simp only [Reading.fault]
      | closed => exact .here hx (if_neg hbracket) (fun h => absurd h ht) rfl
  | noType hp hi hw =>
    cases hf with
    | typeName hk hm =>
      exact .here hx (Reading.begin?_eq_none hp hi) (fun _ => Reading.result?_of_type?_eq_none rfl)
        (congrArg (·, _) (Reading.noType_eq_instead hp hw))
  | withArguments ht =>
    cases hf with
    | primitive hk hm =>
      refine .here hx ?_ (fun h => ?_) ?_
      · rw [ht]
        rfl
      · cases ht.symm.trans h
      · rw [ht]
        rfl
  | bareArgument =>
    cases hf with
    | typeRead hk hg ht =>
      cases hg with
      | closed hu => cases hu
      | primitive hangle hm =>
        cases hk with
        | list hk => exact stopsFor_of_primitive ht hangle hm
  | noName ht =>
    cases hf with
    | reference hk hw =>
      rcases hw with ⟨w, hw⟩ | hw
      · rw [hw] at ht
        cases ht
      · obtain ⟨hp, hf⟩ := noType_of_isReservedWord hw
        exact .here hx (Reading.begin?_eq_none hp ht)
          (fun _ => Reading.result?_of_type?_eq_none rfl) (congrArg (·, _) hf)
  | noSegment ht =>
    cases hf with
    | dotted hk =>
      refine .here hx ?_ (fun _ => Reading.result?_of_type?_eq_none rfl) rfl
      simp only [Reading.next?]
      split
      · next w hw =>
        rw [hw] at ht
        cases ht
      · rfl
  | tooDeep ht hl hdeep =>
    cases hf with
    | arguments hk _ =>
      refine .here hx ?_ (fun h => ?_) ?_
      · rw [ht]
        refine if_neg ?_
        rw [hk.length_eq.trans hd.symm, Bool.not_eq_true]
        exact hdeep
      · cases ht.symm.trans h
      · rw [ht]
        simp only [Reading.fault, hl]
  | noList ht =>
    cases hf with
    | arguments hk heq => exact absurd heq ht
  | noEnd hcomma hangle =>
    cases hf with
    | listed hk ha hg => exact stopsFor_of_ended hg hx hcomma hangle
  | noBracket ht =>
    cases hf with
    | bracketed hk => exact .here hx (if_neg ht) (fun _ => Reading.result?_of_type?_eq_none rfl) rfl

end

/-! ## Texts -/

/-- The routines have come to where a reading is that makes of the rest of a text what the text is
read as, or they have not begun. -/
def Agrees (limits : Limits) (input : Text) (lexemes : List Lexeme) (s : State) : Prop :=
  s = init ∨ ∃ x r, lexemes[s.position]? = some x ∧ Follows lexemes x.token s r ∧
    (r.run limits ((lexemes.map Lexeme.token).drop s.position)).mapError
      (TypeName.reportAt input lexemes) = TypeName.parseWithin limits input

section
variable {limits : Limits} {input : Text} {lexemes : List Lexeme} {s s' : State}

/-- The token of the first lexeme of a text is the end of the text only if there are no tokens. -/
theorem tokens_of_first (hlex : lex input = .ok lexemes) {x : Lexeme}
    (hx : lexemes[0]? = some x) :
    ∃ ts, lexemes.map Lexeme.token = ts ++ [.eof] ∧ (x.token = .eof ↔ ts = []) := by
  obtain ⟨ts, hts, hlegal⟩ := exists_tokens_of_lex hlex
  have hfirst := congrArg (·[0]?) hts
  rw [List.getElem?_map, hx] at hfirst
  refine ⟨ts, hts, ?_⟩
  cases ts with
  | nil => exact iff_of_true (Option.some.inj hfirst) rfl
  | cons t ts =>
    have hne := (hlegal t (.head _)).ne_eof
    exact iff_of_false (fun h => hne ((Option.some.inj hfirst).symm.trans h)) nofun

/-- From a lexeme on, the tokens of a text begin with its token. -/
theorem drop_tokens {i : Nat} {x : Lexeme} (hx : lexemes[i]? = some x) :
    (lexemes.map Lexeme.token).drop i = x.token :: (lexemes.map Lexeme.token).drop (i + 1) := by
  obtain ⟨hi, rfl⟩ := List.getElem?_eq_some_iff.1 hx
  rw [List.drop_eq_getElem_cons (by simpa using hi), List.getElem_map]

/-- The routines begin where reading begins, if there are tokens. -/
theorem agrees_of_text (hlex : lex input = .ok lexemes) {x : Lexeme}
    (hx : lexemes[0]? = some x) (ht : x.token ≠ .eof) :
    Agrees limits input lexemes ⟨0, 0, .typeName 0 .text⟩ := by
  obtain ⟨ts, hts, hnil⟩ := tokens_of_first hlex hx
  refine .inr ⟨x, Reading.init, hx, .typeName .text trivial, ?_⟩
  rw [List.drop_zero, hts, TypeName.parseWithin_eq_run hlex hts (mt hnil.2 ht)]

/-- A step of the routines keeps the agreement. -/
theorem Agrees.step (h : Agrees limits input lexemes s) (hlex : lex input = .ok lexemes)
    (hs : Sound lexemes s) (hstep : s.step limits input lexemes = .running s') :
    Agrees limits input lexemes s' := by
  have hs' := hs.step hlex hstep
  obtain ⟨x, hx, hreacts⟩ := hs.reacts hlex limits
  rw [hstep] at hreacts
  obtain ⟨hrule⟩ := hreacts
  rcases h with rfl | ⟨x', r, hx', hf, hrun⟩
  · cases hrule with
    | text ht => exact agrees_of_text hlex hx ht
  · obtain rfl : x = x' := Option.some.inj (hx.symm.trans hx')
    cases hrule.matched hf hx hs.depth_eq with
    | stays hi hf' hsame =>
      refine .inr ⟨x, _, hi ▸ hx, hf', ?_⟩
      rw [hi, drop_tokens hx, hsame, ← drop_tokens hx]
      exact hrun
    | @takes t r' ht hne hread hf' =>
      have hi : s'.position = s.position + 1 := by
        rw [← (hf' t).position_eq, hread.position_eq, hf.position_eq]
      have hin := hs'.inText
      refine .inr ⟨lexemes[s'.position], r', List.getElem?_eq_getElem hin, hf' _, ?_⟩
      rw [drop_tokens hx, ht, Reading.run_cons_of_next hne hread.next?, ← hi] at hrun
      exact hrun

/-- The routines make of a text what it is read as. -/
theorem Agrees.eq_parseWithin (h : Agrees limits input lexemes s) (hlex : lex input = .ok lexemes)
    (hs : Sound lexemes s) {o : Except Diagnostic TypeName}
    (hstep : s.step limits input lexemes = .finished o) :
    o = TypeName.parseWithin limits input := by
  obtain ⟨x, hx, hreacts⟩ := hs.reacts hlex limits
  rw [hstep] at hreacts
  rcases h with rfl | ⟨x', r, hx', hf, hrun⟩
  · cases hreacts with
    | empty ht =>
      obtain ⟨ts, hts, hnil⟩ := tokens_of_first hlex hx
      obtain rfl := hnil.1 ht
      rw [TypeName.parseWithin_of_no_tokens hlex hts]
    | fault hfault => cases hfault
  · obtain rfl : x = x' := Option.some.inj (hx.symm.trans hx')
    rw [drop_tokens hx] at hrun
    cases hreacts with
    | empty => cases hf
    | complete ht =>
      cases hf with
      | textRead hg _ =>
        rw [ht, Reading.run_eof, Reading.finish, Reading.result?] at hrun
        rw [← hrun, hg.type?_eq]
        rfl
    | fault hfault =>
      obtain ⟨hstops, hkind, hspan⟩ := hfault.stopsFor hf hx hs.depth_eq
      rw [hstops.run_eq] at hrun
      rw [← hrun, Except.mapError, TypeName.reportAt, hspan, hkind]
      rfl

end

end Descent

end JavaNames
