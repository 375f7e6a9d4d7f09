import JavaNames.Proofs.RoundTrip
import Mathlib.Control.Monad.Basic

/-!
# Canonical spacing

A text that is read as a type name differs from the display form of this type name in blanks only.
Between two tokens of a display form stands a space if the first one is a comma or if one of them is
the keyword of a bounded wildcard, and nothing else (`gap`). A text that is spaced in this way is
determined by its tokens (`Tiles.spacedAfter_iff`), and the display form of a type name is what its
tokens determine (`TypeName.spellAfter_tokens`). So a text is the display form of what it is read as
exactly if it is spaced in this way (`TypeName.display_eq_iff_canonicallySpaced`).
-/

namespace JavaNames

/-! ## Spaces between tokens -/

/-- What stands between two tokens in canonical spacing: a space after a comma and on both sides of
the keyword of a bounded wildcard. Nothing stands in front of the first token. -/
def gap : Option Token → Token → Text
  | some (.punctuation .comma), _ => [' ']
  | some (.punctuation .question), .keyword .«extends» => [' ']
  | some (.punctuation .question), .keyword .super => [' ']
  | some (.keyword .«extends»), _ => [' ']
  | some (.keyword .super), _ => [' ']
  | _, _ => []

/-- From the end of a token of a text on, each lexeme follows the one before it after the gap that
the two ask for. -/
def SpacedAfter (text : Text) (before : Option Token) (stop : Nat) : List Lexeme → Prop
  | [] => True
  | x :: xs =>
    (⟨stop, x.span.start⟩ : Span).slice text = gap before x.token ∧
      SpacedAfter text (some x.token) x.span.stop xs

/-- The lexemes of a text stand in it with the gaps that they ask for, from its beginning to its
end. -/
def CanonicallySpaced (text : Text) (lexemes : List Lexeme) : Prop :=
  SpacedAfter text none 0 lexemes

/-- What is written of tokens in canonical spacing, after a token. -/
def spellAfter (before : Option Token) : List Token → Text
  | [] => []
  | t :: ts => gap before t ++ (t.spelling ++ spellAfter (some t) ts)

theorem blank_gap (before : Option Token) (t : Token) : Blank (gap before t) := by
  unfold gap
  split <;> simp

/-! ## Texts in canonical spacing -/

/-- Blanks in front of a token are told from it. -/
theorem Token.Legal.append_inj {t : Token} {a b r s : Text} (ht : t.Legal) (ha : Blank a)
    (hb : Blank b) : a ++ (t.spelling ++ r) = b ++ (t.spelling ++ s) ↔ a = b ∧ r = s := by
  obtain ⟨c, cs, hspelling, hc⟩ := ht.exists_first
  have htake (a r : Text) (ha : Blank a) :
      (a ++ (t.spelling ++ r)).takeWhile Unicode.isWhiteSpace = a := by
    rw [List.takeWhile_append_of_pos ha, hspelling, List.cons_append,
      List.takeWhile_cons_of_neg (by simp [hc]), List.append_nil]
  constructor
  · intro h
    have hab := congrArg (List.takeWhile Unicode.isWhiteSpace) h
    rw [htake a r ha, htake b s hb] at hab
    rw [hab] at h
    exact ⟨hab, List.append_cancel_left (List.append_cancel_left h)⟩
  · rintro ⟨rfl, rfl⟩
    rfl

/-- A text is spaced canonically exactly if it is what is written of its tokens. -/
theorem Tiles.spacedAfter_iff {offset : Nat} {rest : Text} {lexemes : List Lexeme}
    (h : Tiles offset rest lexemes) {front : Text} (hfront : byteLength front = offset)
    (before : Option Token) : SpacedAfter (front ++ rest) before offset lexemes ↔
      rest = spellAfter before (lexemes.map Lexeme.token) := by
  induction h generalizing front before with
  | @eof offset b hb =>
    subst hfront
    have hslice := Span.slice_append front b []
    rw [List.append_nil] at hslice
    simp [SpacedAfter, spellAfter, Span.point, hslice, Token.spelling]
  | @token offset b rest t lexemes hb ht h ih =>
    subst hfront
    have hlength : byteLength (front ++ (b ++ t.spelling)) =
        byteLength front + byteLength b + byteLength t.spelling := by
      simp [Nat.add_assoc]
    have hnext := ih hlength (some t)
    simp only [List.append_assoc] at hnext
    rw [SpacedAfter, List.map_cons, spellAfter, Span.slice_append, hnext,
      ht.append_inj hb (blank_gap before t)]

/-! ## Display forms -/

section
variable {before : Option Token} {s : Text} {ts : List Token}

@[simp] theorem gap_none (u : Token) : gap none u = [] := rfl

/-- The tokens with which a type name can end ask for no gap after them. -/
theorem gap_primitive (p : Primitive) (u : Token) : gap (some (.keyword p.keyword)) u = [] := by
  cases p <;> rfl

/-- After a token that asks for no gap, tokens are written as at the beginning. -/
theorem spellAfter_eq_none (h : ∀ u, gap before u = []) (ts : List Token) :
    spellAfter before ts = spellAfter none ts := by
  cases ts with
  | nil => rfl
  | cons t ts => rw [spellAfter, spellAfter, h, gap_none]

/-- Brackets are written without gaps. -/
theorem spellAfter_bracketTokens (n : Nat) :
    spellAfter none (bracketTokens n ++ ts) = brackets n ++ spellAfter none ts := by
  induction n with
  | zero => rfl
  | succ n ih =>
    have hclosed : spellAfter (some (.punctuation .rightBracket)) (bracketTokens n ++ ts) =
        brackets n ++ spellAfter none ts := (spellAfter_eq_none (fun _ => rfl) _).trans ih
    exact congrArg (fun r => '[' :: ']' :: r) hclosed

/-- A name with its package is written without gaps. -/
theorem spellAfter_packageTokens (h : ∀ u, gap before u = s) (pk : List Identifier)
    (x : Identifier) : spellAfter before (packageTokens pk ++ .identifier x.text :: ts) =
      s ++ qualify pk x.text ++ spellAfter none ts := by
  induction pk generalizing before s with
  | nil =>
    show gap before _ ++ (x.text ++ spellAfter (some (.identifier x.text)) ts) = _
    rw [h, spellAfter_eq_none (fun _ => rfl) ts]
    simp [qualify]
  | cons y pk ih =>
    have hgap : ∀ u, gap (some (.punctuation .dot)) u = [] := fun _ => rfl
    show gap before _ ++ (y.text ++ '.' :: spellAfter (some (.punctuation .dot))
      (packageTokens pk ++ .identifier x.text :: ts)) = _
    rw [h, ih hgap]
    simp [qualify]

end

mutual

/-- A type name is written of its tokens as it is displayed. -/
theorem TypeName.spellAfter_tokens {before : Option Token} {s : Text}
    (h : ∀ u, gap before u = s) (ts : List Token) : ∀ t : TypeName,
      spellAfter before (t.tokens ++ ts) = s ++ t.render true ++ spellAfter none ts
  | .primitive p n => by
    show gap before _ ++ (p.spelling.toList ++ spellAfter (some (.keyword p.keyword))
      (bracketTokens n ++ ts)) = _
    rw [h, spellAfter_eq_none (gap_primitive p), spellAfter_bracketTokens]
    simp [TypeName.render]
  | .reference pk x as n => by
    have htokens : (TypeName.reference pk x as n).tokens ++ ts = packageTokens pk ++
        .identifier x.text :: (argumentTokens as ++ (bracketTokens n ++ ts)) := by
      simp [TypeName.tokens]
    rw [htokens, spellAfter_packageTokens h, spellAfter_argumentTokens, spellAfter_bracketTokens]
    simp [TypeName.render]

/-- An argument is written of its tokens as it is displayed, unless it is followed by what would
bound it. -/
theorem Argument.spellAfter_tokens {before : Option Token} {s : Text}
    (h : ∀ u, gap before u = s) {ts : List Token}
    (hts : spellAfter (some (.punctuation .question)) ts = spellAfter none ts) : ∀ a : Argument,
      spellAfter before (a.tokens ++ ts) = s ++ a.render true ++ spellAfter none ts
  | .wildcard => by
    show gap before _ ++ '?' :: spellAfter (some (.punctuation .question)) ts = _
    rw [h, hts]
    simp [Argument.render]
  | .type .invariant t => TypeName.spellAfter_tokens h ts t
  | .type .covariant t => by
    have hgap : ∀ u, gap (some (.keyword .«extends»)) u = [' '] := fun _ => rfl
    show gap before _ ++ '?' :: ' ' :: (Keyword.«extends».spelling.toList ++
      spellAfter (some (.keyword .«extends»)) (t.tokens ++ ts)) = _
    rw [h, TypeName.spellAfter_tokens hgap ts t, Argument.render, Variance.marker_covariant]
    simp
  | .type .contravariant t => by
    have hgap : ∀ u, gap (some (.keyword .super)) u = [' '] := fun _ => rfl
    show gap before _ ++ '?' :: ' ' :: (Keyword.super.spelling.toList ++
      spellAfter (some (.keyword .super)) (t.tokens ++ ts)) = _
    rw [h, TypeName.spellAfter_tokens hgap ts t, Argument.render,
      Variance.marker_contravariant]
    simp

/-- A list of arguments is written of its tokens as it is displayed. -/
theorem spellAfter_argumentTokens (ts : List Token) : ∀ as : List Argument,
    spellAfter none (argumentTokens as ++ ts) = renderArguments true as ++ spellAfter none ts
  | [] => rfl
  | a :: as => by
    obtain ⟨hquestion, hmore⟩ := spellAfter_moreTokens ts as
    have hgap : ∀ u, gap (some (.punctuation .leftAngle)) u = [] := fun _ => rfl
    have htokens : argumentTokens (a :: as) ++ ts =
        .punctuation .leftAngle :: (a.tokens ++ (moreTokens as ++ ts)) := by
      simp [argumentTokens]
    rw [htokens]
    show '<' :: spellAfter (some (.punctuation .leftAngle)) _ = _
    rw [Argument.spellAfter_tokens hgap hquestion a, hmore]
    simp [renderArguments]

/-- The arguments after the first one are written of their tokens as they are displayed, also
after a wildcard. -/
theorem spellAfter_moreTokens (ts : List Token) : ∀ as : List Argument,
    spellAfter (some (.punctuation .question)) (moreTokens as ++ ts) =
        spellAfter none (moreTokens as ++ ts) ∧
      spellAfter none (moreTokens as ++ ts) = renderMore true as ++ spellAfter none ts
  | [] => by
    refine ⟨rfl, ?_⟩
    show '>' :: spellAfter (some (.punctuation .rightAngle)) ts = _
    rw [spellAfter_eq_none (fun _ => rfl)]
    rfl
  | a :: as => by
    obtain ⟨hquestion, hmore⟩ := spellAfter_moreTokens ts as
    have hgap : ∀ u, gap (some (.punctuation .comma)) u = [' '] := fun _ => rfl
    have htokens : moreTokens (a :: as) ++ ts =
        .punctuation .comma :: (a.tokens ++ (moreTokens as ++ ts)) := by
      simp [moreTokens]
    rw [htokens]
    refine ⟨rfl, ?_⟩
    show ',' :: spellAfter (some (.punctuation .comma)) _ = _
    rw [Argument.spellAfter_tokens hgap hquestion a, hmore]
    simp [renderMore]

end

namespace TypeName

/-- Up to the end of the text, a type name is written of its tokens as it is displayed. -/
theorem spellAfter_eq_display (t : TypeName) :
    spellAfter none (t.tokens ++ [.eof]) = t.display := by
  have hend : spellAfter none [.eof] = [] := rfl
  rw [TypeName.spellAfter_tokens gap_none, hend]
  simp [display]

/-- A text that is read as a type name has the tokens of its display form, and it is the display
form exactly if it is spaced canonically. -/
theorem display_eq_iff_canonicallySpaced {input : Text} {t : TypeName}
    (h : parse input = .ok t) :
    ∃ lexemes lexemes', lex input = .ok lexemes ∧ lex t.display = .ok lexemes' ∧
      lexemes'.map Lexeme.token = lexemes.map Lexeme.token ∧
      (t.display = input ↔ CanonicallySpaced input lexemes) := by
  obtain ⟨hwf, lexemes, hlex, htokens⟩ := tokens_of_parseWithin h
  obtain ⟨lexemes', hlex', htokens'⟩ := exists_lex_display hwf
  refine ⟨lexemes, lexemes', hlex, hlex', htokens'.trans htokens.symm, ?_⟩
  have hspaced := (tiles_of_lex hlex).spacedAfter_iff byteLength_nil none
  rw [htokens, spellAfter_eq_display, List.nil_append] at hspaced
  exact eq_comm.trans hspaced.symm

/-- For example, `A<? extends B, int[]>` is spaced canonically, since it is a display form. -/
theorem canonicallySpaced_display_bounded :
    ∃ lexemes, lex "A<? extends B, int[]>".toList = .ok lexemes ∧
      CanonicallySpaced "A<? extends B, int[]>".toList lexemes := by
  have h : parse "A<? extends B, int[]>".toList =
      .ok (.reference [] ⟨['A']⟩ [.type .covariant (.reference [] ⟨['B']⟩ [] 0),
        .type .invariant (.primitive .int 1)] 0) := by
    decide +kernel
  obtain ⟨lexemes, -, hlex, -, -, hspaced⟩ := display_eq_iff_canonicallySpaced h
  exact ⟨lexemes, hlex, hspaced.1 (by decide +kernel)⟩

end TypeName

end JavaNames
