import JavaNames.Proofs.Placement

/-!
# Nothing is lost in lexing

A text is told from its lexemes up to the blanks between them (`Lossless`): they lie in it one after
the other without overlapping, each at what is written of its token, whatever they leave out is
blank, and no word stops before its end. What concerns one lexeme comes from the place where it
stands (`Lexeme.StandsIn`), and what concerns several, or what is left out between them, from the
tiling (`Tiles`).

In the other direction, tokens that are written with a space between any two of them are found again
(`Lexes.intercalate`). The space is there for two words that follow each other; any token is found
again before a text that does not go on with a word (`Lexes.token`).
-/

namespace JavaNames

/-! ## Lexemes of a text -/

/-- Lexemes give back their text, up to its blanks. -/
structure Lossless (t : Text) (lexemes : List Lexeme) : Prop where
  /-- The lexemes lie in the text, between its characters. -/
  within : ∀ x ∈ lexemes, x.span.Within t
  /-- They do not overlap, and stand in the order of the text. -/
  ordered : lexemes.Pairwise fun x y => x.span.stop ≤ y.span.start
  /-- The last one is the end of the text, an empty one, and no other lexeme is empty. -/
  ends : ∃ front, lexemes = front ++ [⟨.eof, .point (byteLength t)⟩] ∧
    ∀ x ∈ front, x.token ≠ .eof ∧ x.span.start < x.span.stop
  /-- A character that lies under none of them is a blank. -/
  blank : ∀ a c b, t = a ++ c :: b →
    (∀ x ∈ lexemes, ¬ (x.span.start ≤ byteLength a ∧ byteLength a < x.span.stop)) →
    Unicode.isWhiteSpace c = true
  /-- Under each of them lies what is written of its token. -/
  spelling : ∀ x ∈ lexemes, x.span.slice t = x.token.spelling
  /-- Identifiers are legal. -/
  legal : ∀ x ∈ lexemes, ∀ w, x.token = .identifier w → isLegalIdentifier w = true
  /-- A word is followed by no character that could continue it. -/
  maximal : ∀ x ∈ lexemes, x.token.IsWord → ∀ a c b, t = a ++ c :: b →
    byteLength a = x.span.stop → isIdentifierPart c = false

section
variable {offset : Nat} {t : Text} {lexemes : List Lexeme}

/-- A character of a tiled text that lies under no lexeme is a blank. -/
theorem Tiles.isWhiteSpace (h : Tiles offset t lexemes) {a b : Text} {c : Char}
    (hcut : t = a ++ c :: b)
    (hout : ∀ x ∈ lexemes,
      ¬ (x.span.start ≤ offset + byteLength a ∧ offset + byteLength a < x.span.stop)) :
    Unicode.isWhiteSpace c = true := by
  induction h generalizing a with
  | eof hb =>
    subst hcut
    exact hb c (by simp)
  | @token offset blanks rest t lexemes hb ht hrest ih =>
    obtain ⟨hfirst, hlater⟩ := List.forall_mem_cons.1 hout
    rcases List.cut_of_append_eq hcut with ⟨e, rfl⟩ | ⟨a', rfl, hcut'⟩
    · exact hb c (by simp)
    rcases List.cut_of_append_eq hcut' with ⟨e, hspelling⟩ | ⟨a'', rfl, hcut''⟩
    · -- the character is one of those that are written of the token
      have hsize := c.utf8Size_pos
      have hunder : byteLength a' < byteLength t.spelling := by
        rw [hspelling, byteLength_append, byteLength_cons]
        omega
      simp only [byteLength_append] at hfirst
      omega
    · simp only [byteLength_append, ← Nat.add_assoc] at hlater
      exact ih hcut'' hlater

/-- A word of a text is followed by no character that could continue it. -/
theorem Lexeme.StandsIn.isIdentifierPart_eq_false {x : Lexeme} (h : x.StandsIn t)
    (hx : x.token.IsWord) {a b : Text} {c : Char} (hcut : t = a ++ c :: b)
    (hstop : byteLength a = x.span.stop) : isIdentifierPart c = false := by
  obtain ⟨before, after, rfl, hspan, hends⟩ := h
  have hlength : byteLength (before ++ x.token.spelling) = byteLength a := by
    rw [hstop, hspan, byteLength_append]
  -- what follows the word follows as many bytes as the character does
  have hafter := dropBytes_byteLength (before ++ x.token.spelling) after
  rw [hlength, List.append_assoc, hcut, dropBytes_byteLength] at hafter
  exact endsWord_cons.1 (hafter ▸ hends hx)

/-- The lexemes of a text give it back, up to its blanks. -/
theorem lossless_of_lex (h : lex t = .ok lexemes) : Lossless t lexemes where
  within x hx := (standsIn_of_lex h x hx).within
  ordered := (tiles_of_lex h).pairwise.imp And.right
  ends := by
    obtain ⟨front, heq, hfront⟩ := (tiles_of_lex h).exists_front
    rw [Nat.zero_add] at heq
    refine ⟨front, heq, fun x hx => ?_⟩
    obtain ⟨hlegal, hlt⟩ := hfront x hx
    exact ⟨hlegal.ne_eof, hlt⟩
  blank a c b hcut hout := (tiles_of_lex h).isWhiteSpace hcut (by simpa using hout)
  spelling := slice_span_of_lex h
  legal x hx w hw := by
    obtain ⟨front, rfl, hfront⟩ := (tiles_of_lex h).exists_front
    rcases List.mem_append.1 hx with hx | hx
    · have hlegal := (hfront x hx).1
      rwa [hw] at hlegal
    · obtain rfl := List.mem_singleton.1 hx
      cases hw
  maximal x hx hword a c b := (standsIn_of_lex h x hx).isIdentifierPart_eq_false hword

end

/-! ## Tokens with spaces between them -/

/-- Legal tokens with a space between any two of them are found again. -/
theorem Lexes.intercalate {ts : List Token} (h : ∀ u ∈ ts, u.Legal) :
    Lexes ([' '].intercalate (ts.map Token.spelling)) ts := by
  induction ts with
  | nil => exact .nil
  | cons u ts ih =>
    obtain ⟨hu, hts⟩ := List.forall_mem_cons.1 h
    cases ts with
    | nil =>
      rw [List.map_singleton, List.intercalate_singleton, ← List.append_nil u.spelling]
      exact .token hu endsWord_nil .nil
    | cons v ts =>
      rw [List.map_cons, List.map_cons, List.intercalate_cons_cons, List.append_assoc,
        ← List.map_cons]
      have hspace := isIdentifierPart_of_isWhiteSpace isWhiteSpace_space
      exact .token hu (endsWord_cons.2 hspace) (.blank isWhiteSpace_space (ih hts))

/-- The lexemes of a text give it back, up to its blanks, and legal tokens with a space between any
two of them are found again. -/
theorem lossless_lex (t : Text) (ts : List Token) :
    (∀ lexemes, lex t = .ok lexemes → Lossless t lexemes) ∧
    ((∀ u ∈ ts, u.Legal) → ∃ lexemes,
      lex ([' '].intercalate (ts.map Token.spelling)) = .ok lexemes ∧
        lexemes.map Lexeme.token = ts ++ [.eof]) :=
  ⟨fun _ => lossless_of_lex, fun hts => (Lexes.intercalate hts).lex⟩

end JavaNames
