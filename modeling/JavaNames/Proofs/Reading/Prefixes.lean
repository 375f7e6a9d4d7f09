import JavaNames.Proofs.Reading.Faults
import JavaNames.Proofs.RoundTrip
import Mathlib.Control.Monad.Basic

/-!
# What accepted texts begin with

Tokens that reading takes can always be completed to those of a type name
(`Reading.exists_completion`): what is being read is finished by a name or a bracket, and then the
open lists of arguments are closed, one `>` for each. So the tokens that accepted texts begin with
(`Viable`) are the tokens that reading takes, and a rejected text is reported at the first token
that no accepted text has after the tokens before it (`TypeName.parse_error_offending`).

A primitive type in the place of an argument (`BareArgument`) is the exception. It is viable, since
brackets can follow it, but it is reported itself when something else does.
-/

namespace JavaNames

/-! ## Completions -/

/-- An argument is complete at a stage, however it is bounded. -/
def Stage.EndsArgument (g : Stage) : Prop :=
  ∀ v, ∃ a, g.argument? v = some a

namespace Reading

section
variable {limits : Limits} {r r' : Reading} {t : Token} {ts us : List Token}

/-- A name or a bracket or two lead from every stage to one where an argument is complete. -/
theorem exists_endsArgument (limits : Limits) (r : Reading) :
    ∃ us r', (∀ t ∈ us, t.Legal) ∧ r.after? limits us = some r' ∧ r'.stage.EndsArgument := by
  have hname {r'} (h : Step limits r (.identifier ['x']) r') (hg : r'.stage.EndsArgument) :
      ∃ us r', (∀ t ∈ us, t.Legal) ∧ r.after? limits us = some r' ∧ r'.stage.EndsArgument := by
    have hlegal : isLegalIdentifier ['x'] = true := by decide +kernel
    exact ⟨[.identifier ['x']], r', by simpa [Token.Legal] using hlegal, h.after?_cons, hg⟩
  obtain ⟨i, s, os, g⟩ := r
  cases g with
  | typeStart => exact hname (.name (.inl rfl)) fun _ => ⟨_, rfl⟩
  | argumentStart => exact hname (.name (.inr rfl)) fun _ => ⟨_, rfl⟩
  | dotted pk => exact hname .segment fun _ => ⟨_, rfl⟩
  | wildcard | named pk x | closed u => exact ⟨[], _, by simp, rfl, fun _ => ⟨_, rfl⟩⟩
  | primitive p =>
    exact ⟨[.punctuation .leftBracket, .punctuation .rightBracket], _, by simp [Token.Legal],
      (Step.openBracket rfl).after?_cons.trans Step.closeBracket.after?_cons, fun _ => ⟨_, rfl⟩⟩
  | bracketed u =>
    exact ⟨[.punctuation .rightBracket], _, by simp [Token.Legal], Step.closeBracket.after?_cons,
      fun _ => ⟨_, rfl⟩⟩

/-- Where an argument is complete, closing the open lists leaves a complete type name. -/
theorem exists_result?_of_endsArgument (limits : Limits) (os : List OpenType) {i s : Nat}
    {g : Stage} (hr : WellFormed ⟨i, s, os, g⟩) (hg : g.EndsArgument) :
    ∃ us r' u, (∀ t ∈ us, t.Legal) ∧ after? limits ⟨i, s, os, g⟩ us = some r' ∧
      r'.result? = some u := by
  induction os generalizing i s g with
  | nil =>
    have hresult : ∃ u, result? ⟨i, s, [], g⟩ = some u := by
      obtain ⟨a, ha⟩ := hg .invariant
      cases g with
      | named pk x | closed u => exact ⟨_, rfl⟩
      | wildcard =>
        obtain ⟨o, os, hos, -⟩ := hr.unbounded (.inr rfl)
        cases hos
      | typeStart | argumentStart | primitive p | dotted pk | bracketed u => cases ha
    obtain ⟨u, hu⟩ := hresult
    exact ⟨[], _, u, by simp, rfl, hu⟩
  | cons o os ih =>
    obtain ⟨a, ha⟩ := hg o.variance
    have hstep : Step limits ⟨i, s, o :: os, g⟩ (.punctuation .rightAngle) _ := .closeList ha
    obtain ⟨us, r', u, hus, hafter, hu⟩ :=
      ih (hstep.wellFormed hr trivial) fun _ => ⟨_, rfl⟩
    exact ⟨.punctuation .rightAngle :: us, r', u, List.forall_mem_cons.2 ⟨trivial, hus⟩,
      hstep.after?_cons.trans hafter, hu⟩

/-- Every well-formed reading can be completed. -/
theorem exists_completion (limits : Limits) (hr : r.WellFormed) :
    ∃ us r' u, (∀ t ∈ us, t.Legal) ∧ r.after? limits us = some r' ∧ r'.result? = some u := by
  obtain ⟨us, r₁, hus, h₁, hg⟩ := exists_endsArgument limits r
  have hr₁ := (wellFormed_and_tokens_of_after? h₁ hr hus).1
  obtain ⟨vs, r₂, u, hvs, h₂, hu⟩ := exists_result?_of_endsArgument limits r₁.enclosing hr₁ hg
  refine ⟨us ++ vs, r₂, u, ?_, (after?_append_of_eq_some h₁).trans h₂, hu⟩
  exact List.forall_mem_append.2 ⟨hus, hvs⟩

/-- Legal tokens that are taken are the beginning of the tokens of a well-formed type name. -/
theorem exists_tokens_of_after? (h : init.after? limits us = some r) (hus : ∀ t ∈ us, t.Legal) :
    ∃ u : TypeName, u.WellFormed ∧ us <+: u.tokens := by
  obtain ⟨vs, r', u, hvs, h', hu⟩ :=
    exists_completion limits (wellFormed_and_tokens_of_after? h wellFormed_init hus).1
  obtain ⟨hwf, htokens⟩ := tokens_eq_of_after? ((after?_append_of_eq_some h).trans h')
    (List.forall_mem_append.2 ⟨hus, hvs⟩) hu
  exact ⟨u, hwf, htokens ▸ List.prefix_append us vs⟩

/-- The tokens of a well-formed type name are taken, as far as one likes. -/
theorem exists_after?_of_prefix {u : TypeName} (hu : u.WellFormed) (h : us <+: u.tokens) :
    ∃ r, init.after? .unlimited us = some r := by
  obtain ⟨r', hr', -⟩ := exists_result?_of_tokens hu (Limits.allows_unlimited _)
  obtain ⟨ts, hts⟩ := h
  rw [← hts] at hr'
  obtain ⟨q, hq, -⟩ := exists_after?_of_append hr'
  exact ⟨q, hq⟩

end

end Reading

/-! ## Viable tokens -/

/-- Tokens that the tokens of an accepted text begin with, the end of the text being one of them. -/
def Viable (ts : List Token) : Prop :=
  ∃ input t lexemes, TypeName.parse input = .ok t ∧ lex input = .ok lexemes ∧
    ts <+: lexemes.map Lexeme.token

section
variable {r : Reading} {t : Token} {ts us : List Token}

/-- Tokens are viable if more of them are. -/
theorem Viable.of_prefix (h : Viable us) (hbegins : ts <+: us) : Viable ts := by
  obtain ⟨input, t, lexemes, hparse, hlex, hus⟩ := h
  exact ⟨input, t, lexemes, hparse, hlex, hbegins.trans hus⟩

/-- The accepted texts have the tokens of the well-formed type names. -/
theorem viable_iff_exists_wellFormed :
    Viable ts ↔ ∃ u : TypeName, u.WellFormed ∧ ts <+: u.tokens ++ [.eof] := by
  constructor
  · rintro ⟨input, u, lexemes, hparse, hlex, hbegins⟩
    obtain ⟨hu, lexemes', hlex', htokens⟩ := TypeName.tokens_of_parseWithin hparse
    obtain rfl : lexemes' = lexemes := Except.ok.inj (hlex'.symm.trans hlex)
    exact ⟨u, hu, htokens ▸ hbegins⟩
  · rintro ⟨u, hu, hbegins⟩
    obtain ⟨lexemes, hlex, htokens⟩ := TypeName.exists_lex_display hu
    exact ⟨u.display, u, lexemes, TypeName.parse_of_display hu, hlex, htokens ▸ hbegins⟩

/-- Legal tokens that are taken are viable. -/
theorem viable_of_after? (h : Reading.init.after? .unlimited us = some r)
    (hus : ∀ t ∈ us, t.Legal) : Viable us := by
  obtain ⟨u, hu, hbegins⟩ := Reading.exists_tokens_of_after? h hus
  exact viable_iff_exists_wellFormed.2 ⟨u, hu, hbegins.trans (List.prefix_append _ _)⟩

/-- Tokens are not viable any more with the one at which reading stops. -/
theorem not_viable_of_stops (h : Reading.init.after? .unlimited us = some r)
    (hstops : r.Stops .unlimited t) : ¬ Viable (us ++ [t]) := by
  intro hviable
  obtain ⟨u, hu, hbegins⟩ := viable_iff_exists_wellFormed.1 hviable
  rcases List.prefix_concat_iff.1 hbegins with heq | hbegins
  · obtain ⟨rfl, heof⟩ := List.append_inj' heq rfl
    obtain ⟨r', hr', hresult⟩ := Reading.exists_result?_of_tokens hu (Limits.allows_unlimited _)
    obtain rfl := Option.some.inj (h.symm.trans hr')
    rw [hstops.result (List.cons.inj heof).1] at hresult
    cases hresult
  · obtain ⟨r', hr'⟩ := Reading.exists_after?_of_prefix hu hbegins
    obtain ⟨q, hq, hstep⟩ := Reading.after?_concat_eq_some_iff.1 hr'
    obtain rfl := Option.some.inj (h.symm.trans hq)
    have hnext := hstops.next
    rw [hstep.next?] at hnext
    cases hnext

end

/-! ## Primitive types in the place of arguments -/

/-- The tokens directly after which an argument or the bound of a wildcard begins. -/
def argumentOpeners : List Token :=
  [.punctuation .leftAngle, .punctuation .comma, .keyword .«extends», .keyword .super]

/-- The token with a given number is a primitive type in the place of an argument or a bound, and is
followed neither by brackets nor by arguments of its own. -/
def BareArgument (ts : List Token) (k : Nat) : Prop :=
  ∃ before o p u after, ts = before ++ o :: .keyword (Primitive.keyword p) :: u :: after ∧
    k = before.length + 1 ∧ o ∈ argumentOpeners ∧
    u ≠ .punctuation .leftBracket ∧ u ≠ .punctuation .leftAngle

/-- The last token of an open type is one after which an argument or a bound begins. -/
theorem OpenType.exists_opener (o : OpenType) :
    ∃ ts t, o.tokens = ts ++ [t] ∧ t ∈ argumentOpeners := by
  obtain ⟨s, pk, x, as, v⟩ := o
  have hlast : ∀ us : List Token, ∀ t ∈ argumentOpeners,
      ∃ ts u, us ++ [t] = ts ++ [u] ∧ u ∈ argumentOpeners := fun us t ht => ⟨us, t, rfl, ht⟩
  cases v with
  | covariant | contravariant =>
    have := hlast (packageTokens pk ++ .identifier x.text :: .punctuation .leftAngle ::
      commaTokens as ++ [.punctuation .question])
    simpa [OpenType.tokens, Variance.tokens] using this _ (by simp [argumentOpeners])
  | invariant =>
    rcases List.eq_nil_or_concat as with rfl | ⟨as, a, rfl⟩
    · have := hlast (packageTokens pk ++ [.identifier x.text])
      simpa [OpenType.tokens] using this (.punctuation .leftAngle) (by simp [argumentOpeners])
    · have := hlast (packageTokens pk ++ .identifier x.text :: .punctuation .leftAngle ::
        commaTokens as ++ a.tokens)
      simpa [OpenType.tokens] using this (.punctuation .comma) (by simp [argumentOpeners])

namespace Reading

section
variable {limits : Limits} {r r' : Reading} {t o : Token} {us ws before : List Token}
  {p : Primitive}

/-- After a complete type a bracket can follow. -/
theorem exists_step_leftBracket (limits : Limits) {u : TypeName} (h : r.stage.type? = some u) :
    ∃ r', Step limits r (.punctuation .leftBracket) r' := by
  obtain ⟨i, s, os, g⟩ := r
  exact ⟨_, .openBracket h⟩

/-- A primitive type in the place of an argument stands after a token with which arguments begin. -/
theorem exists_opener_of_stage_primitive {q : OpenType} {qs : List OpenType}
    (h : init.after? limits us = some r) (hus : ∀ t ∈ us, t.Legal) (hp : r.stage = .primitive p)
    (hq : r.enclosing = q :: qs) :
    ∃ before o, us = before ++ [o, .keyword p.keyword] ∧ o ∈ argumentOpeners := by
  obtain ⟨ts, o, ho, hmem⟩ := q.exists_opener
  have htokens := (wellFormed_and_tokens_of_after? h wellFormed_init hus).2
  refine ⟨openTokens qs ++ ts, o, ?_, hmem⟩
  simpa [tokens, hp, hq, ho, Stage.tokens, init] using htokens.symm

/-- The keyword of a primitive type begins this type. -/
theorem Step.stage_eq_primitive (h : Step limits r (.keyword p.keyword) r') :
    r'.stage = .primitive p := by
  generalize hk : p.keyword = k at h
  cases h with
  | @primitive _ _ _ _ p' _ =>
    have heq : some p = some p' := by
      rw [← Primitive.ofKeyword?_keyword p, ← Primitive.ofKeyword?_keyword p', hk]
    rw [Option.some.inj heq]
  | @bound _ _ _ _ _ v hv => cases v <;> cases p <;> cases hk <;> cases hv

/-- A primitive type that is not the first token is read in the place of an argument. -/
theorem stage_eq_primitive_of_after?
    (h : init.after? limits (before ++ [o, .keyword p.keyword]) = some r)
    (hus : ∀ t ∈ before ++ [o, .keyword p.keyword], t.Legal) :
    r.stage = .primitive p ∧ ∃ q qs, r.enclosing = q :: qs := by
  have hsplit : before ++ [o, .keyword p.keyword] = (before ++ [o]) ++ [.keyword p.keyword] := by
    simp
  have htokens := (wellFormed_and_tokens_of_after? h wellFormed_init hus).2
  rw [hsplit] at h
  obtain ⟨q, -, hstep⟩ := after?_concat_eq_some_iff.1 h
  have hstage := hstep.stage_eq_primitive
  refine ⟨hstage, ?_⟩
  cases hos : r.enclosing with
  | cons q qs => exact ⟨q, qs, rfl⟩
  | nil =>
    have hlength := congrArg List.length htokens
    simp [tokens, hos, hstage, Stage.tokens, init] at hlength

/-- Of the tokens that are taken, only the last one can be a primitive type in the place of an
argument that is followed neither by brackets nor by arguments. -/
theorem eq_of_bareArgument {k : Nat} (h : init.after? limits us = some r)
    (hus : ∀ t ∈ us, t.Legal) (hbare : BareArgument (us ++ ws) k) (hk : k < us.length) :
    k + 1 = us.length ∧ ∃ p q qs u vs, r.stage = .primitive p ∧ r.enclosing = q :: qs ∧
      ws = u :: vs ∧ u ≠ .punctuation .leftAngle := by
  obtain ⟨before, o, p, u, after, heq, rfl, ho, hbracket, hangle⟩ := hbare
  have hsplit : us ++ ws = (before ++ [o, .keyword p.keyword]) ++ u :: after := by simp [heq]
  obtain ⟨vs, rfl⟩ : before ++ [o, .keyword p.keyword] <+: us := by
    refine List.prefix_of_prefix_length_le (hsplit ▸ List.prefix_append _ _)
      (List.prefix_append us ws) ?_
    rw [List.length_append]
    exact hk
  rw [List.append_assoc, List.append_cancel_left_eq] at hsplit
  have hlegal := (List.forall_mem_append.1 hus).1
  obtain ⟨q, hq, hrest⟩ := exists_after?_of_append h
  obtain ⟨hstage, c, cs, hos⟩ := stage_eq_primitive_of_after? hq hlegal
  cases vs with
  | nil =>
    cases hrest
    exact ⟨by simp, p, c, cs, u, after, hstage, hos, hsplit, hangle⟩
  | cons v vs =>
    obtain ⟨rfl, -⟩ := List.cons.inj hsplit
    obtain ⟨q', hstep, -⟩ := after?_cons_eq_some_iff.1 hrest
    obtain ⟨i, s, os, g⟩ := q
    cases hstage
    cases hstep with
    | openBracket => exact absurd rfl hbracket
    | name hg | primitive hg => rcases hg with hg | hg <;> cases hg
    | comma ha | closeList ha => cases ha

end

end Reading

/-! ## Offending tokens -/

/-- The token with a given number is the first one at fault. The tokens before it are viable and
hold no primitive type in the place of an argument. If it is no such type itself, the tokens up to
it are not viable any more; if it is one, a bracket could follow, but the tokens up to the next one
are not viable. -/
structure FirstOffending (ts : List Token) (k : Nat) : Prop where
  viable : Viable (ts.take k)
  noBare : ∀ j < k, ¬ BareArgument ts j
  offends : ¬ Viable (ts.take (k + 1)) ∨
    BareArgument ts k ∧ Viable (ts.take (k + 1) ++ [.punctuation .leftBracket]) ∧
      ¬ Viable (ts.take (k + 2))

namespace Reading

section
variable {r : Reading} {t : Token} {us : List Token} (hr : init.after? .unlimited us = some r)
  (hus : ∀ t ∈ us, t.Legal) (hstops : r.Stops .unlimited t) (vs : List Token)
include hr hus hstops

/-- A token that cannot be the next one offends, if the fault lies there. -/
theorem firstOffending_of_fault_eq (hk : (r.fault .unlimited t).2 = us.length) :
    FirstOffending (us ++ t :: vs) us.length where
  viable := by
    rw [List.take_left]
    exact viable_of_after? hr hus
  noBare j hj hbare := by
    obtain ⟨-, p, q, qs, u, ws, hp, hq, hws, hu⟩ := eq_of_bareArgument hr hus hbare hj
    obtain ⟨rfl, -⟩ := List.cons.inj hws
    obtain ⟨ws, rfl, hstart⟩ := exists_of_stage_primitive hr hp
    rw [fault_of_stage_primitive hp hq hu, List.length_append] at hk
    exact absurd (hstart.symm.trans hk) (Nat.ne_of_lt (Nat.lt_succ_self _))
  offends := by
    rw [List.take_length_add_append]
    exact .inl (not_viable_of_stops hr hstops)

/-- A primitive type in the place of an argument offends if reading stops after it. -/
theorem firstOffending_of_stage_primitive {p : Primitive} {o : OpenType} {os : List OpenType}
    (hp : r.stage = .primitive p) (hos : r.enclosing = o :: os)
    (ht : t ≠ .punctuation .leftAngle) : FirstOffending (us ++ t :: vs) r.start := by
  obtain ⟨before, o', hbefore, ho'⟩ := exists_opener_of_stage_primitive hr hus hp hos
  obtain ⟨ws, hws, hstart⟩ := exists_of_stage_primitive hr hp
  obtain rfl : before ++ [o'] = ws := by
    rw [hbefore, List.append_cons] at hws
    exact (List.append_inj' hws rfl).1
  have hlength : us.length = r.start + 1 := by
    rw [hws, List.length_append, hstart]
    rfl
  have htype : r.stage.type? = some (.primitive p 0) := by
    rw [hp]
    rfl
  obtain ⟨r', hbracket⟩ := exists_step_leftBracket .unlimited htype
  have ht' : t ≠ .punctuation .leftBracket := by
    rintro rfl
    have hnext := hstops.next
    rw [hbracket.next?] at hnext
    cases hnext
  refine ⟨?_, fun j hj hbare => ?_, .inr ⟨?_, ?_, ?_⟩⟩
  · have hbegins : (us ++ t :: vs).take r.start = before ++ [o'] := by
      rw [hws, List.append_assoc, hstart, List.take_left]
    rw [hws] at hr hus
    obtain ⟨q, hq, -⟩ := exists_after?_of_append hr
    rw [hbegins]
    exact viable_of_after? hq (List.forall_mem_append.1 hus).1
  · have hlast := (eq_of_bareArgument hr hus hbare (by omega)).1
    omega
  · have hnumber : r.start = before.length + 1 := by rw [hstart, List.length_append]; rfl
    exact ⟨before, o', p, t, vs, by simp [hbefore], hnumber, ho', ht', ht⟩
  · have hafter := after?_concat_eq_some_iff.2 ⟨r, hr, hbracket⟩
    rw [← hlength, List.take_left]
    exact viable_of_after? hafter (List.forall_mem_append.2 ⟨hus, by simp [Token.Legal]⟩)
  · have hnext : r.start + 2 = us.length + 1 := by omega
    rw [hnext, List.take_length_add_append]
    exact not_viable_of_stops hr hstops

/-- The token at which the fault lies is the first one that offends. -/
theorem firstOffending_fault : FirstOffending (us ++ t :: vs) (r.fault .unlimited t).2 := by
  rcases fault_cases .unlimited r t with hk | ⟨p, o, os, hp, hos, ht, hk⟩
  · rw [position_of_after? hr] at hk
    rw [hk]
    exact firstOffending_of_fault_eq hr hus hstops vs hk
  · rw [hk]
    exact firstOffending_of_stage_primitive hr hus hstops vs hp hos ht

end

end Reading

/-! ## Rejected texts -/

namespace TypeName

section
variable {input : Text} {lexemes : List Lexeme} {d : Diagnostic}

/-- A text of tokens that is rejected is reported at one of its lexemes, and at no other one: at the
first token that offends. -/
theorem parse_error_offending (hlex : lex input = .ok lexemes) (h : parse input = .error d)
    (hd : d.kind ≠ .empty) :
    ∃ k x, lexemes[k]? = some x ∧ x.span = d.span ∧
      (∀ j y, lexemes[j]? = some y → y.span = d.span → j = k) ∧
      FirstOffending (lexemes.map Lexeme.token) k := by
  obtain ⟨ts, hts, hlegal⟩ := exists_tokens_of_lex hlex
  have hne : ts ≠ [] := by
    rintro rfl
    have hempty : parse input = .error (.empty "type name" input) :=
      parseWithin_of_no_tokens hlex hts
    rw [hempty] at h
    cases h
    exact hd rfl
  obtain ⟨us, t, vs, r, x, heq, hr, hstops, hx, rfl⟩ :=
    (parseWithin_eq_error_iff hlex hts hne).1 h
  refine ⟨_, x, hx, rfl, fun j y hy hspan => eq_of_span_eq hlex hy hx hspan, ?_⟩
  rw [hts, heq]
  exact Reading.firstOffending_fault hr (legal_of_append_cons hlegal heq) hstops vs

/-- In `A<int>` the primitive type is reported. It is the `>` after it that cannot follow. -/
theorem parse_error_offending_int :
    let opened : List Token := [.identifier ['A'], .punctuation .leftAngle]
    parse "A<int>".toList =
        .error ((Fault.primitiveArgument .int).within ⟨2, 5⟩ "A<int>".toList) ∧
      Viable opened ∧ ¬ Viable (opened ++ [.keyword .int, .punctuation .rightAngle]) := by
  intro opened
  have hlex : lex "A<int>".toList = .ok
      [⟨.identifier ['A'], ⟨0, 1⟩⟩, ⟨.punctuation .leftAngle, ⟨1, 2⟩⟩, ⟨.keyword .int, ⟨2, 5⟩⟩,
        ⟨.punctuation .rightAngle, ⟨5, 6⟩⟩, ⟨.eof, ⟨6, 6⟩⟩] := by
    decide +kernel
  have h : parse "A<int>".toList =
      .error ((Fault.primitiveArgument .int).within ⟨2, 5⟩ "A<int>".toList) := by
    decide +kernel
  obtain ⟨k, x, -, -, hplace, hfirst⟩ :=
    parse_error_offending hlex h (by simp [Fault.within, Fault.kind])
  obtain rfl := hplace 2 _ rfl rfl
  refine ⟨h, hfirst.viable, fun hclosed => ?_⟩
  rcases hfirst.offends with hint | ⟨-, -, hint⟩
  · exact hint (hclosed.of_prefix ⟨[.punctuation .rightAngle], rfl⟩)
  · exact hint hclosed

end

end TypeName

end JavaNames
