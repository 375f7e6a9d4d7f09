import JavaNames.Proofs.Lexing.Tiling
import JavaNames.Proofs.Reading.Spelling
import JavaNames.TypeName.Projections

/-!
# The grammar of type names

Reading accepts exactly the tokens of well-formed type names. One direction is the invariant of
`JavaNames.Proofs.Reading.Spelling`. For the other one, the tokens of a type name take a reading
from a place where a type name can begin to the stage of this type name, and leave the open types
around it alone (`Reading.after?_tokens`). This is an induction on the type name, its arguments and
the rest of a list of arguments together; what comes after a type name has no part in it, since the
stage of a complete type name still has all its continuations.
-/

namespace JavaNames

/-! ## Complete types -/

/-- The stage of a type name that has just been read. -/
def Stage.ofType : TypeName → Stage
  | .primitive p 0 => .primitive p
  | .reference package name [] 0 => .named package name
  | t => .closed t

/-- The type name that is complete at its stage. -/
@[simp] theorem Stage.type?_ofType (t : TypeName) : (Stage.ofType t).type? = some t := by
  unfold Stage.ofType
  split <;> rfl

/-- A type that is not primitive is complete as an argument. -/
theorem Stage.argument?_ofType {t : TypeName} (h : t.isBarePrimitive = false) (v : Variance) :
    (Stage.ofType t).argument? v = some (.type v t) := by
  unfold Stage.ofType
  split
  · cases h
  · rfl
  · rfl

/-- An array is closed by its last bracket. -/
theorem Stage.ofType_addDimensions_one (t : TypeName) :
    Stage.ofType (t.addDimensions 1) = .closed (t.addDimensions 1) := by
  match t with
  | .primitive _ _ => rfl
  | .reference _ _ [] _ => rfl
  | .reference _ _ (_ :: _) _ => rfl

@[simp] theorem TypeName.addDimensions_primitive (p : Primitive) (m n : Nat) :
    (TypeName.primitive p m).addDimensions n = .primitive p (m + n) := rfl

@[simp] theorem TypeName.addDimensions_reference (pk : List Identifier) (x : Identifier)
    (as : List Argument) (m n : Nat) :
    (TypeName.reference pk x as m).addDimensions n = .reference pk x as (m + n) := rfl

/-- Shallower lists of arguments are allowed as well. -/
theorem Limits.allows_of_le {l : Limits} {m n : Nat} (h : l.allows n = true) (hmn : m ≤ n) :
    l.allows m = true := by
  cases hl : l.nesting with
  | none => simp [allows, hl]
  | some k =>
    simp only [allows, hl, decide_eq_true_eq] at h ⊢
    exact Nat.le_trans hmn h

/-- What stands before the bound of a wildcard is a question mark and a keyword. -/
theorem Variance.eq_invariant_or (v : Variance) :
    v = .invariant ∨ ∃ k, v.tokens = [.punctuation .question, .keyword k] := by
  cases v with
  | invariant => exact .inl rfl
  | covariant | contravariant => exact .inr ⟨_, rfl⟩

namespace Reading

section
variable {l : Limits} {i s : Nat} {q : List OpenType} {g : Stage}

/-! ## Names and brackets -/

/-- A package and a name are read after a dot. -/
theorem after?_dotted (qk : List Identifier) (x : Identifier) (i : Nat) (pk : List Identifier) :
    ∃ j, after? l ⟨i, s, q, .dotted pk⟩ (packageTokens qk ++ [.identifier x.text]) =
      some ⟨j, s, q, .named (pk ++ qk) x⟩ := by
  induction qk generalizing i pk with
  | nil =>
    refine ⟨i + 1, ?_⟩
    rw [List.append_nil]
    exact Step.segment.after?_cons
  | cons y qk ih =>
    obtain ⟨j, hj⟩ := ih (i + 1 + 1) (pk ++ [y])
    refine ⟨j, ?_⟩
    rw [List.append_assoc] at hj
    exact (Step.segment.after?_cons.trans Step.dot.after?_cons).trans hj

/-- A package and a name are read where a type name begins. -/
theorem after?_name (hg : g.StartsType) (pk : List Identifier) (x : Identifier) :
    ∃ j, after? l ⟨i, s, q, g⟩ (packageTokens pk ++ [.identifier x.text]) =
      some ⟨j, i, q, .named pk x⟩ := by
  cases pk with
  | nil => exact ⟨i + 1, (Step.name hg).after?_cons⟩
  | cons y pk =>
    obtain ⟨j, hj⟩ := after?_dotted (l := l) (s := i) (q := q) pk x (i + 1 + 1) [y]
    exact ⟨j, ((Step.name hg).after?_cons.trans Step.dot.after?_cons).trans hj⟩

/-- Brackets after a type add dimensions to it. -/
theorem after?_bracketTokens (n : Nat) (i : Nat) (t : TypeName) :
    ∃ j, after? l ⟨i, s, q, .ofType t⟩ (bracketTokens n) =
      some ⟨j, s, q, .ofType (t.addDimensions n)⟩ := by
  induction n generalizing i t with
  | zero => exact ⟨i, by rw [TypeName.addDimensions_zero]; rfl⟩
  | succ n ih =>
    obtain ⟨j, hj⟩ := ih (i + 1 + 1) (t.addDimensions 1)
    refine ⟨j, ?_⟩
    rw [← TypeName.addDimensions_add, Nat.add_comm 1 n, Stage.ofType_addDimensions_one] at hj
    exact ((Step.openBracket (Stage.type?_ofType t)).after?_cons.trans
      Step.closeBracket.after?_cons).trans hj

/-! ## Types and arguments -/

mutual

/-- The tokens of a type name are read where a type name can begin. -/
theorem after?_tokens {i s : Nat} {q : List OpenType} {g : Stage} (hg : g.StartsType) :
    ∀ t : TypeName, t.WellFormed → l.allows (q.length + t.nesting) = true →
      ∃ j, after? l ⟨i, s, q, g⟩ t.tokens = some ⟨j, i, q, .ofType t⟩
  | .primitive p n, _, _ => by
    obtain ⟨j, hj⟩ := after?_bracketTokens (l := l) (s := i) (q := q) n (i + 1)
      (.primitive p 0)
    rw [TypeName.addDimensions_primitive, Nat.zero_add] at hj
    exact ⟨j, (Step.primitive hg).after?_cons.trans hj⟩
  | .reference pk x as n, ⟨_, _, has⟩, hl => by
    have htokens : (TypeName.reference pk x as n).tokens =
        (packageTokens pk ++ [.identifier x.text]) ++ argumentTokens as ++ bracketTokens n := by
      simp [TypeName.tokens]
    obtain ⟨j₁, h₁⟩ := after?_name (l := l) (i := i) (s := s) (q := q) hg pk x
    obtain ⟨j₂, h₂⟩ := after?_argumentTokens (i := j₁) (s := i) (q := q) pk x as has hl
    obtain ⟨j₃, h₃⟩ := after?_bracketTokens (l := l) (s := i) (q := q) n j₂
      (.reference pk x as 0)
    rw [TypeName.addDimensions_reference, Nat.zero_add] at h₃
    refine ⟨j₃, ?_⟩
    rw [htokens, List.append_assoc, after?_append_of_eq_some h₁, after?_append_of_eq_some h₂, h₃]

/-- The arguments of a class, if it has some, are read after its name. -/
theorem after?_argumentTokens {i s : Nat} {q : List OpenType} (pk : List Identifier)
    (x : Identifier) : ∀ as : List Argument, WellFormedArguments as →
      l.allows (q.length + nestingOfArguments as) = true →
      ∃ j, after? l ⟨i, s, q, .named pk x⟩ (argumentTokens as) =
        some ⟨j, s, q, .ofType (.reference pk x as 0)⟩
  | [], _, _ => ⟨i, rfl⟩
  | a :: as, ⟨ha, has⟩, hl => by
    have hopen : l.allows (q.length + 1) = true :=
      Limits.allows_of_le hl (by simp only [nestingOfArguments]; omega)
    have hla : l.allows (q.length + 1 + a.nesting) = true :=
      Limits.allows_of_le hl (by simp only [nestingOfArguments]; omega)
    have hlas : l.allows (q.length + nestingOfArguments as) = true :=
      Limits.allows_of_le hl (by simp only [nestingOfArguments]; omega)
    obtain ⟨j₁, s₁, v, g, h₁, hg⟩ := after?_argument (i := i + 1) (s := s)
      (o := ⟨s, pk, x, [], .invariant⟩) (q := q) rfl a ha hla
    obtain ⟨j₂, h₂⟩ := after?_moreTokens (i := j₁) (s := s₁) (o := ⟨s, pk, x, [], v⟩) (q := q)
      hg as has hlas
    exact ⟨j₂, (Step.openList hopen).after?_cons.trans ((after?_append_of_eq_some h₁).trans h₂)⟩

/-- The tokens of an argument are read where an argument begins. -/
theorem after?_argument {i s : Nat} {o : OpenType} {q : List OpenType}
    (ho : o.variance = .invariant) : ∀ a : Argument, a.WellFormed →
      l.allows (q.length + 1 + a.nesting) = true →
      ∃ j s' v g, after? l ⟨i, s, o :: q, .argumentStart⟩ a.tokens =
        some ⟨j, s', { o with variance := v } :: q, g⟩ ∧ g.argument? v = some a
  | .wildcard, _, _ => by
    cases o
    cases ho
    exact ⟨i + 1, s, .invariant, .wildcard, Step.wildcard.after?_cons, rfl⟩
  | .type v t, ⟨hp, ht⟩, hl => by
    rcases v.eq_invariant_or with rfl | ⟨k, hv⟩
    · obtain ⟨j, h⟩ := after?_tokens (i := i) (s := s) (q := o :: q) (.inr rfl) t ht hl
      cases o
      cases ho
      exact ⟨j, i, .invariant, .ofType t, h, Stage.argument?_ofType hp _⟩
    · obtain ⟨j, h⟩ := after?_tokens (i := i + 1 + 1) (s := s)
        (q := { o with variance := v } :: q) (.inl rfl) t ht hl
      refine ⟨j, i + 1 + 1, v, .ofType t, ?_, Stage.argument?_ofType hp _⟩
      rw [Argument.tokens, hv]
      exact (Step.wildcard.after?_cons.trans (Step.bound hv).after?_cons).trans h

/-- The rest of a list of arguments is read after one of its arguments. -/
theorem after?_moreTokens {i s : Nat} {o : OpenType} {q : List OpenType} {g : Stage}
    {a : Argument} (ha : g.argument? o.variance = some a) :
    ∀ as : List Argument, WellFormedArguments as →
      l.allows (q.length + nestingOfArguments as) = true →
      ∃ j, after? l ⟨i, s, o :: q, g⟩ (moreTokens as) =
        some ⟨j, o.start, q, .closed (.reference o.package o.name (o.arguments ++ a :: as) 0)⟩
  | [], _, _ => ⟨i + 1, (Step.closeList ha).after?_cons⟩
  | b :: bs, ⟨hb, hbs⟩, hl => by
    have hlb : l.allows (q.length + 1 + b.nesting) = true :=
      Limits.allows_of_le hl (by simp only [nestingOfArguments]; omega)
    have hlbs : l.allows (q.length + nestingOfArguments bs) = true :=
      Limits.allows_of_le hl (by simp only [nestingOfArguments]; omega)
    obtain ⟨j₁, s₁, v, g', h₁, hg'⟩ := after?_argument (i := i + 1) (s := s)
      (o := { o with arguments := o.arguments ++ [a], variance := .invariant }) (q := q) rfl b
      hb hlb
    obtain ⟨j₂, h₂⟩ := after?_moreTokens (i := j₁) (s := s₁)
      (o := { o with arguments := o.arguments ++ [a], variance := v }) (q := q) hg' bs hbs hlbs
    simp only [List.append_assoc, List.singleton_append] at h₂
    exact ⟨j₂, (Step.comma ha).after?_cons.trans ((after?_append_of_eq_some h₁).trans h₂)⟩

end

end

/-- A well-formed type name is complete after its tokens, if its arguments are not nested too
deep. -/
theorem exists_result?_of_tokens {l : Limits} {t : TypeName} (h : t.WellFormed)
    (hl : l.allows t.nesting = true) :
    ∃ r, init.after? l t.tokens = some r ∧ r.result? = some t := by
  obtain ⟨j, hj⟩ := after?_tokens (l := l) (i := 0) (s := 0) (q := [])
    (g := .typeStart) (.inl rfl) t h (by simpa using hl)
  exact ⟨_, hj, Stage.type?_ofType t⟩

end Reading

/-! ## Texts -/

namespace TypeName

/-- The lexemes of a text spell a type name exactly if their tokens up to the end can be read, and
leave it complete. -/
theorem ofLexemes_eq_ok_iff {limits : Limits} {input : Text} {lexemes : List Lexeme}
    {ts : List Token} {t : TypeName} (h : lexemes.map Lexeme.token = ts ++ [.eof])
    (hts : .eof ∉ ts) : ofLexemes limits input lexemes = .ok t ↔
      ∃ r, Reading.init.after? limits ts = some r ∧ r.result? = some t := by
  rw [ofLexemes, h, ← Reading.run_eq_ok_iff hts]
  cases ts with
  | nil =>
    have hfin : Reading.init.finish limits = .error (Reading.init.fault limits .eof) := rfl
    simp [hfin]
  | cons u ts =>
    have hu : u ≠ .eof := fun h => hts (h ▸ .head _)
    split
    · next heq => cases heq
    · next heq => exact absurd (List.cons.inj heq).1 hu
    · split
      · next heq =>
        rw [heq]
        simp
      · next heq =>
        rw [heq]
        simp

/-- A text is read as the type name that is complete after its tokens. -/
theorem parseWithin_eq_ok_iff_after? {limits : Limits} {input : Text} {lexemes : List Lexeme}
    {ts : List Token} {t : TypeName} (hlex : lex input = .ok lexemes)
    (hts : lexemes.map Lexeme.token = ts ++ [.eof]) : parseWithin limits input = .ok t ↔
      ∃ r, Reading.init.after? limits ts = some r ∧ r.result? = some t := by
  rw [parseWithin, hlex]
  exact ofLexemes_eq_ok_iff hts (eof_not_mem_of_lex hlex hts)

/-- What a text is read as is well formed, and spelled by the tokens of the text. -/
theorem tokens_of_parseWithin {limits : Limits} {input : Text} {t : TypeName}
    (h : parseWithin limits input = .ok t) :
    t.WellFormed ∧ ∃ lexemes, lex input = .ok lexemes ∧
      lexemes.map Lexeme.token = t.tokens ++ [.eof] := by
  cases hlex : lex input with
  | error d =>
    rw [parseWithin, hlex] at h
    cases h
  | ok lexemes =>
    obtain ⟨ts, hts, hlegal⟩ := exists_tokens_of_lex hlex
    obtain ⟨r, hr, hresult⟩ := (parseWithin_eq_ok_iff_after? hlex hts).1 h
    obtain ⟨hwf, rfl⟩ := Reading.tokens_eq_of_after? hr hlegal hresult
    exact ⟨hwf, lexemes, rfl, hts⟩

/-- A text of the tokens of a well-formed type name is read as this type name, if its arguments are
not nested too deep. -/
theorem parseWithin_of_tokens {limits : Limits} {input : Text} {lexemes : List Lexeme}
    {t : TypeName} (hlex : lex input = .ok lexemes)
    (htokens : lexemes.map Lexeme.token = t.tokens ++ [.eof]) (h : t.WellFormed)
    (hl : limits.allows t.nesting = true) : parseWithin limits input = .ok t :=
  (parseWithin_eq_ok_iff_after? hlex htokens).2 (Reading.exists_result?_of_tokens h hl)

/-- A text is read as a type name exactly if its tokens are those of the type name, and the type
name is well formed. -/
theorem parse_eq_ok_iff_tokens {input : Text} {t : TypeName} :
    parse input = .ok t ↔
      ∃ lexemes, lex input = .ok lexemes ∧
        lexemes.map Lexeme.token = t.tokens ++ [.eof] ∧ t.WellFormed := by
  constructor
  · intro h
    obtain ⟨hwf, lexemes, hlex, htokens⟩ := tokens_of_parseWithin h
    exact ⟨lexemes, hlex, htokens, hwf⟩
  · rintro ⟨lexemes, hlex, htokens, hwf⟩
    exact parseWithin_of_tokens hlex htokens hwf (Limits.allows_unlimited _)

end TypeName

end JavaNames
