import JavaNames.Proofs.Reading.Grammar

/-!
# Where reading stops

A run over the tokens of a text that gives no type name stops at one of them, which may be the end
of the text: the tokens before it can all be taken, and it cannot be the next one
(`Reading.run_eq_error_iff`). The fault lies at this token, with one exception: if the tokens before
it end with a primitive type in the place of an argument, it lies at the primitive type
(`Reading.fault_cases`). Either way it is a fault of one of the lexemes of the text
(`TypeName.parseWithin_eq_error_iff`).
-/

namespace JavaNames

namespace Reading

/-- Reading goes no further at a token: it cannot be the next one, and if it is the end of the text,
no type name is complete. -/
structure Stops (limits : Limits) (r : Reading) (t : Token) : Prop where
  next : r.next? limits t = none
  result : t = .eof → r.result? = none

section
variable {limits : Limits} {r r' : Reading} {t : Token} {ts us vs : List Token}

/-! ## Runs without a result -/

/-- A run without a result stops at a token after taking those before it. -/
theorem run_eq_error_iff (hts : .eof ∉ ts) {x : Fault × Nat} :
    r.run limits (ts ++ [.eof]) = .error x ↔
      ∃ us t vs r', ts ++ [.eof] = us ++ t :: vs ∧ r.after? limits us = some r' ∧
        r'.Stops limits t ∧ r'.fault limits t = x := by
  induction ts generalizing r with
  | nil =>
    rw [List.nil_append, run_eof, finish]
    constructor
    · intro h
      cases hr : r.result? with
      | some u =>
        rw [hr] at h
        cases h
      | none =>
        rw [hr] at h
        exact ⟨[], .eof, [], r, rfl, rfl, ⟨next?_eof, fun _ => hr⟩, Except.error.inj h⟩
    · rintro ⟨us, t, vs, r', heq, hafter, hstops, rfl⟩
      obtain ⟨rfl, rfl⟩ : us = [] ∧ t = .eof := by
        cases us with
        | nil => exact ⟨rfl, (List.cons.inj heq).1.symm⟩
        | cons v us => cases us <;> cases heq
      cases hafter
      rw [hstops.result rfl]
  | cons t ts ih =>
    obtain ⟨ht, hts⟩ := not_or.1 (fun h => hts (List.mem_cons.2 h))
    rw [List.cons_append]
    cases h : r.next? limits t with
    | none =>
      rw [run_cons_of_no_next (Ne.symm ht) h]
      constructor
      · intro heq
        exact ⟨[], t, _, r, rfl, rfl, ⟨h, fun heof => absurd heof.symm ht⟩, Except.error.inj heq⟩
      · rintro ⟨us, u, vs, r', heq, hafter, -, rfl⟩
        cases us with
        | nil =>
          obtain ⟨rfl, -⟩ := List.cons.inj heq
          cases hafter
          rfl
        | cons v us =>
          obtain ⟨rfl, -⟩ := List.cons.inj heq
          rw [after?, h] at hafter
          cases hafter
    | some r₁ =>
      rw [run_cons_of_next (Ne.symm ht) h, ih hts]
      have hstep := step_of_next? h
      constructor
      · rintro ⟨us, u, vs, r', heq, hafter, hstops⟩
        exact ⟨t :: us, u, vs, r', by rw [heq]; rfl, hstep.after?_cons.trans hafter, hstops⟩
      · rintro ⟨us, u, vs, r', heq, hafter, hstops, hfault⟩
        cases us with
        | nil =>
          obtain ⟨rfl, -⟩ := List.cons.inj heq
          cases hafter
          rw [hstops.next] at h
          cases h
        | cons v us =>
          obtain ⟨rfl, hrest⟩ := List.cons.inj heq
          exact ⟨us, u, vs, r', hrest, hstep.after?_cons.symm.trans hafter, hstops, hfault⟩

/-! ## Places -/

/-- Tokens are taken if more of them are. -/
theorem exists_after?_of_append (h : r.after? limits (us ++ ts) = some r') :
    ∃ q, r.after? limits us = some q ∧ q.after? limits ts = some r' := by
  rw [after?_append, Option.bind_eq_some_iff] at h
  exact h

/-- The last one of a sequence of steps. -/
theorem after?_concat_eq_some_iff :
    r.after? limits (us ++ [t]) = some r' ↔
      ∃ q, r.after? limits us = some q ∧ Step limits q t r' := by
  rw [after?_append, Option.bind_eq_some_iff]
  simp only [after?_cons_eq_some_iff, after?_nil, Option.some.injEq, exists_eq_right]

/-- A step goes one token further. -/
theorem Step.position_eq (h : Step limits r t r') : r'.position = r.position + 1 := by
  cases h <;> rfl

/-- The position of a reading is the number of tokens that it has taken. -/
theorem position_of_after? (h : init.after? limits us = some r) : r.position = us.length := by
  refine after?_induction (motive := fun us r => r.position = us.length) h rfl ?_
  intro us r t r' _ ih hstep
  rw [hstep.position_eq, ih, List.length_append]
  rfl

/-- A primitive type that has just been read is the last token, and begins at its place. -/
theorem exists_of_stage_primitive {p : Primitive} (h : init.after? limits us = some r)
    (hp : r.stage = .primitive p) :
    ∃ ws, us = ws ++ [.keyword p.keyword] ∧ r.start = ws.length := by
  rcases List.eq_nil_or_concat us with rfl | ⟨ws, t, rfl⟩
  · cases h
    cases hp
  · rw [List.concat_eq_append] at h ⊢
    obtain ⟨q, hq, hstep⟩ := after?_concat_eq_some_iff.1 h
    have hposition := position_of_after? hq
    cases hstep <;> cases hp
    exact ⟨ws, rfl, hposition⟩

/-- The fault of a token lies at this token, unless a primitive type in the place of an argument
stands before it. -/
theorem fault_cases (limits : Limits) (r : Reading) (t : Token) :
    (r.fault limits t).2 = r.position ∨
      ∃ p o os, r.stage = .primitive p ∧ r.enclosing = o :: os ∧ t ≠ .punctuation .leftAngle ∧
        r.fault limits t = (.primitiveArgument p, r.start) := by
  obtain ⟨i, s, os, g⟩ := r
  cases g with
  | primitive p =>
    simp only [fault]
    split
    · exact .inl rfl
    · exact .inl rfl
    · next o os ht => exact .inr ⟨p, o, os, rfl, rfl, fun h => ht h, rfl⟩
  | named pk x =>
    simp only [fault]
    split <;> exact .inl rfl
  | typeStart | argumentStart | wildcard | dotted _ | closed _ | bracketed _ => exact .inl rfl

/-- A primitive type in the place of an argument is itself at fault, unless it gets arguments. -/
theorem fault_of_stage_primitive {p : Primitive} {o : OpenType} {os : List OpenType}
    (hp : r.stage = .primitive p) (hos : r.enclosing = o :: os)
    (ht : t ≠ .punctuation .leftAngle) :
    r.fault limits t = (.primitiveArgument p, r.start) := by
  simp only [fault, hp, hos]

/-- After a name, a token is asked for as after any complete type, unless it opens a list of
arguments that is nested too deep. -/
theorem fault_of_stage_named (limits : Limits) {pk : List Identifier} {x : Identifier}
    (h : r.stage = .named pk x) (t : Token) : r.fault limits t = (r.noEnd t, r.position) ∨
      ∃ limit, t = .punctuation .leftAngle ∧
        r.fault limits t = (.nestingTooDeep limit, r.position) := by
  simp only [fault, h]
  split
  · next limit _ => exact .inr ⟨limit, rfl, rfl⟩
  · exact .inl rfl

/-- A fault lies at the first token that is not taken or before it. -/
theorem fault_le_length (h : init.after? limits us = some r) (t : Token) :
    (r.fault limits t).2 ≤ us.length := by
  rcases fault_cases limits r t with heq | ⟨p, o, os, hp, -, -, heq⟩
  · exact Nat.le_of_eq (heq.trans (position_of_after? h))
  · obtain ⟨ws, rfl, hstart⟩ := exists_of_stage_primitive h hp
    rw [heq, hstart, List.length_append]
    exact Nat.le_add_right _ _

end

end Reading

/-! ## Texts -/

/-- The tokens before one of a text are legal. -/
theorem legal_of_append_cons {t : Token} {ts us vs : List Token} (hts : ∀ t ∈ ts, t.Legal)
    (heq : ts ++ [.eof] = us ++ t :: vs) : ∀ t ∈ us, t.Legal := by
  have hlength := congrArg List.length heq
  simp only [List.length_append, List.length_cons, List.length_nil] at hlength
  have hbegins : us <+: ts := List.prefix_of_prefix_length_le (heq ▸ List.prefix_append _ _)
    (List.prefix_append ts [.eof]) (by omega)
  exact fun t ht => hts t (hbegins.mem ht)

namespace TypeName

section
variable {limits : Limits} {input : Text} {lexemes : List Lexeme} {ts : List Token}
  {d : Diagnostic}

/-- A text without tokens is rejected as empty. -/
theorem parseWithin_of_no_tokens (hlex : lex input = .ok lexemes)
    (hts : lexemes.map Lexeme.token = [.eof]) :
    parseWithin limits input = .error (.empty "type name" input) := by
  rw [parseWithin, hlex]
  show ofLexemes limits input lexemes = _
  rw [ofLexemes, hts]

/-- The report of a fault at one of the lexemes of a text, or at its end. -/
def reportAt (input : Text) (lexemes : List Lexeme) (f : Fault × Nat) : Diagnostic :=
  f.1.within ((lexemes[f.2]?.map Lexeme.span).getD (.point (byteLength input))) input

theorem reportAt_of_getElem? {f : Fault × Nat} {x : Lexeme} (hx : lexemes[f.2]? = some x) :
    reportAt input lexemes f = f.1.within x.span input := by
  rw [reportAt, hx]
  rfl

variable (hlex : lex input = .ok lexemes) (hts : lexemes.map Lexeme.token = ts ++ [.eof])
include hlex hts

/-- A text with tokens is read by a run over them. -/
theorem parseWithin_eq_run (hne : ts ≠ []) : parseWithin limits input =
    (Reading.init.run limits (ts ++ [.eof])).mapError (reportAt input lexemes) := by
  have heof : .eof ∉ ts := eof_not_mem_of_lex hlex hts
  obtain ⟨u, us, rfl⟩ := List.exists_cons_of_ne_nil hne
  have hu : u ≠ .eof := fun h => heof (h ▸ .head _)
  rw [parseWithin, hlex]
  show ofLexemes limits input lexemes = _
  rw [ofLexemes, hts]
  split
  · next heq => cases heq
  · next heq => exact absurd (List.cons.inj heq).1 hu
  · split
    · next heq =>
      rw [heq]
      rfl
    · next heq =>
      rw [heq]
      rfl

/-- A text with tokens is rejected exactly if reading stops at one of them, for the fault there. -/
theorem parseWithin_eq_error_iff (hne : ts ≠ []) :
    parseWithin limits input = .error d ↔
      ∃ us t vs r x, ts ++ [.eof] = us ++ t :: vs ∧ Reading.init.after? limits us = some r ∧
        r.Stops limits t ∧ lexemes[(r.fault limits t).2]? = some x ∧
        d = (r.fault limits t).1.within x.span input := by
  have heof : .eof ∉ ts := eof_not_mem_of_lex hlex hts
  rw [parseWithin_eq_run hlex hts hne, Except.mapError_eq_error_iff]
  constructor
  · rintro ⟨f, hf, rfl⟩
    obtain ⟨us, t, vs, r, heq, hr, hstops, rfl⟩ := (Reading.run_eq_error_iff heof).1 hf
    obtain ⟨x, hx⟩ : ∃ x, lexemes[(r.fault limits t).2]? = some x := by
      have hlength := congrArg List.length (hts.trans heq)
      have hle := Reading.fault_le_length hr t
      rw [List.length_map, List.length_append, List.length_cons] at hlength
      exact ⟨_, List.getElem?_eq_getElem (by omega)⟩
    exact ⟨us, t, vs, r, x, heq, hr, hstops, hx, reportAt_of_getElem? hx⟩
  · rintro ⟨us, t, vs, r, x, heq, hr, hstops, hx, rfl⟩
    exact ⟨_, (Reading.run_eq_error_iff heof).2 ⟨us, t, vs, r, heq, hr, hstops, rfl⟩,
      reportAt_of_getElem? hx⟩

end

end TypeName

end JavaNames
