import JavaNames.Proofs.Reading.Grammar
import JavaNames.TypeName.Display

/-!
# Reading what is displayed

The display form of a well-formed type name is cut into the tokens of the type name
(`TypeName.lexes_render`), so reading it gives the type name back (`TypeName.parse_of_display`). The
statement about tokens is an induction on the type name, its arguments and the rest of a list of
arguments together. It speaks of any text that may follow, as long as this text does not go on with
a word: an identifier at the end of a type name is a token of its own only before such a text.
-/

namespace JavaNames

/-! ## Parts of display forms -/

section
variable {rest : Text} {ts : List Token}

/-- Brackets do not go on with a word. -/
theorem endsWord_brackets (n : Nat) (h : EndsWord rest) : EndsWord (brackets n ++ rest) := by
  cases n with
  | zero => exact h
  | succ n => exact endsWord_cons.2 (isIdentifierPart_symbol .leftBracket)

/-- A list of arguments does not go on with a word. -/
theorem endsWord_renderArguments (q : Bool) (as : List Argument) (h : EndsWord rest) :
    EndsWord (renderArguments q as ++ rest) := by
  cases as with
  | nil => exact h
  | cons a as => exact endsWord_cons.2 (isIdentifierPart_symbol .leftAngle)

/-- What follows an argument does not go on with a word. -/
theorem endsWord_renderMore (q : Bool) (as : List Argument) :
    EndsWord (renderMore q as ++ rest) := by
  cases as with
  | nil => exact endsWord_cons.2 (isIdentifierPart_symbol .rightAngle)
  | cons a as => exact endsWord_cons.2 (isIdentifierPart_symbol .comma)

/-- Brackets are cut into brackets. -/
theorem lexes_brackets (n : Nat) (h : Lexes rest ts) :
    Lexes (brackets n ++ rest) (bracketTokens n ++ ts) := by
  induction n with
  | zero => exact h
  | succ n ih => exact .punctuation .leftBracket (.punctuation .rightBracket ih)

/-- A name with its package is cut into segments and dots. -/
theorem lexes_qualify {pk : List Identifier} {x : Identifier}
    (hpk : ∀ s ∈ pk, isLegalIdentifier s.text = true) (hx : isLegalIdentifier x.text = true)
    (hrest : EndsWord rest) (h : Lexes rest ts) :
    Lexes (qualify pk x.text ++ rest) (packageTokens pk ++ .identifier x.text :: ts) := by
  induction pk with
  | nil => exact .identifier hx hrest h
  | cons s pk ih =>
    obtain ⟨hs, hpk⟩ := List.forall_mem_cons.1 hpk
    have hdot : EndsWord ('.' :: (qualify pk x.text ++ rest)) :=
      endsWord_cons.2 (isIdentifierPart_symbol .dot)
    have := Lexes.identifier hs hdot (.punctuation .dot (ih hpk))
    simpa [qualify, packageTokens] using this

/-- A bound begins with a question mark and a keyword, each followed by a blank. -/
theorem Variance.marker_covariant : Variance.covariant.marker =
    '?' :: ' ' :: (Keyword.«extends».spelling.toList ++ [' ']) := by
  decide +kernel

theorem Variance.marker_contravariant : Variance.contravariant.marker =
    '?' :: ' ' :: (Keyword.super.spelling.toList ++ [' ']) := by
  decide +kernel

/-- What stands before the type of an argument is cut into the tokens of its variance. -/
theorem lexes_marker (v : Variance) (h : Lexes rest ts) :
    Lexes (v.marker ++ rest) (v.tokens ++ ts) := by
  have hblank : EndsWord (' ' :: rest) :=
    endsWord_cons.2 (isIdentifierPart_of_isWhiteSpace isWhiteSpace_space)
  have hrest : Lexes (' ' :: rest) ts := .blank isWhiteSpace_space h
  cases v with
  | invariant => exact h
  | covariant =>
    rw [Variance.marker_covariant, List.cons_append, List.cons_append, List.append_assoc]
    exact .punctuation .question (.blank isWhiteSpace_space (.keyword _ hblank hrest))
  | contravariant =>
    rw [Variance.marker_contravariant, List.cons_append, List.cons_append, List.append_assoc]
    exact .punctuation .question (.blank isWhiteSpace_space (.keyword _ hblank hrest))

end

/-! ## Display forms -/

mutual

/-- The display form of a well-formed type name is cut into its tokens. -/
theorem TypeName.lexes_render {rest : Text} {ts : List Token} (hrest : EndsWord rest)
    (h : Lexes rest ts) : ∀ t : TypeName, t.WellFormed →
      Lexes (t.render true ++ rest) (t.tokens ++ ts)
  | .primitive p n, _ => by
    rw [TypeName.render, List.append_assoc]
    exact .keyword p.keyword (endsWord_brackets n hrest) (lexes_brackets n h)
  | .reference pk x as n, ⟨hpk, hx, has⟩ => by
    have hn := endsWord_brackets n hrest
    have hargs := lexes_renderArguments (lexes_brackets n h) as has
    have := lexes_qualify hpk hx (endsWord_renderArguments true as hn) hargs
    simpa [TypeName.render, TypeName.tokens] using this

/-- The display form of an argument is cut into its tokens. -/
theorem Argument.lexes_render {rest : Text} {ts : List Token} (hrest : EndsWord rest)
    (h : Lexes rest ts) : ∀ a : Argument, a.WellFormed →
      Lexes (a.render true ++ rest) (a.tokens ++ ts)
  | .wildcard, _ => .punctuation .question h
  | .type v t, ⟨_, ht⟩ => by
    have := lexes_marker v (TypeName.lexes_render hrest h t ht)
    simpa [Argument.render, Argument.tokens] using this

/-- The display form of a list of arguments is cut into its tokens. -/
theorem lexes_renderArguments {rest : Text} {ts : List Token} (h : Lexes rest ts) :
    ∀ as : List Argument, WellFormedArguments as →
      Lexes (renderArguments true as ++ rest) (argumentTokens as ++ ts)
  | [], _ => h
  | a :: as, ⟨ha, has⟩ => by
    have hmore := lexes_renderMore h as has
    have := Argument.lexes_render (endsWord_renderMore true as) hmore a ha
    simpa [renderArguments, argumentTokens, Punctuation.symbol] using this.punctuation .leftAngle

/-- The display form of the arguments after the first one is cut into their tokens. -/
theorem lexes_renderMore {rest : Text} {ts : List Token} (h : Lexes rest ts) :
    ∀ as : List Argument, WellFormedArguments as →
      Lexes (renderMore true as ++ rest) (moreTokens as ++ ts)
  | [], _ => h.punctuation .rightAngle
  | a :: as, ⟨ha, has⟩ => by
    have hmore := lexes_renderMore h as has
    have := Argument.lexes_render (endsWord_renderMore true as) hmore a ha
    simpa [renderMore, moreTokens, Punctuation.symbol] using
      (this.blank isWhiteSpace_space).punctuation .comma

end

namespace TypeName

/-- The tokens of a display form are those of the type name. -/
theorem exists_lex_display {t : TypeName} (h : t.WellFormed) :
    ∃ lexemes, lex t.display = .ok lexemes ∧
      lexemes.map Lexeme.token = t.tokens ++ [.eof] := by
  have := TypeName.lexes_render endsWord_nil .nil t h
  simpa [display] using this.lex

/-- A well-formed type name is read back from its display form. -/
theorem parse_of_display {t : TypeName} (h : t.WellFormed) : parse t.display = .ok t := by
  obtain ⟨lexemes, hlex, htokens⟩ := exists_lex_display h
  exact parseWithin_of_tokens hlex htokens h (Limits.allows_unlimited _)

/-- Reading the display form of a well-formed type name gives the type name, so two of them with one
display form are the same. -/
theorem parse_display {t : TypeName} (ht : t.WellFormed) :
    parse t.display = .ok t ∧ ∀ u : TypeName, u.WellFormed → u.display = t.display → u = t := by
  refine ⟨parse_of_display ht, fun u hu h => ?_⟩
  have hparse := parse_of_display hu
  rw [h, parse_of_display ht] at hparse
  exact (Except.ok.inj hparse).symm

/-- For example, `java.Map<int[][], ? super L<L<?>>>[]` is read as the type name it displays. -/
theorem parse_display_nested :
    let list (a : Argument) : TypeName := .reference [] ⟨['L']⟩ [a] 0
    let t : TypeName := .reference [⟨"java".toList⟩] ⟨"Map".toList⟩
      [.type .invariant (.primitive .int 2), .type .contravariant (list (.type .invariant
        (list .wildcard)))] 1
    t.WellFormed ∧ parse t.display = .ok t := by
  intro list t
  have ht : t.WellFormed := by
    refine ⟨?_, by decide +kernel, ⟨rfl, trivial⟩, ⟨rfl, ?_⟩, trivial⟩
    · simp only [List.mem_singleton, forall_eq]
      decide +kernel
    · refine ⟨by simp, by decide +kernel, ⟨rfl, ?_⟩, trivial⟩
      exact ⟨by simp, by decide +kernel, trivial, trivial⟩
  exact ⟨ht, (parse_display ht).1⟩

end TypeName

end JavaNames
