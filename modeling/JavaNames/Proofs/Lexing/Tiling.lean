import JavaNames.Proofs.Lexing

/-!
# Lexemes in their text

The lexemes of a text lie in it one after the other, each at its own spelling, with nothing but
blanks before, between and after them, and the end of the text at its last byte (`Tiles`,
`tiles_of_lex`). What is cut off before the end is a legal token (`exists_tokens_of_lex`), and no
token is empty, so the lexemes begin at different places: the span of a lexeme tells which one it is
(`eq_of_span_eq`).

Where a single lexeme stands is `Lexeme.StandsIn`: the text under its span is what is written of its
token (`slice_span_of_lex`), and what follows a word does not go on with it.
-/

namespace JavaNames

/-! ## Blanks -/

/-- A text of blanks. -/
def Blank (t : Text) : Prop :=
  ∀ c ∈ t, Unicode.isWhiteSpace c = true

@[simp] theorem blank_nil : Blank [] := by simp [Blank]

@[simp] theorem blank_cons {c : Char} {t : Text} :
    Blank (c :: t) ↔ Unicode.isWhiteSpace c = true ∧ Blank t := by
  simp [Blank]

/-- What is spelled like an identifier begins with a character that is no blank. -/
theorem exists_first_of_hasIdentifierShape {w : Text} (h : hasIdentifierShape w = true) :
    ∃ c cs, w = c :: cs ∧ Unicode.isWhiteSpace c = false := by
  cases w with
  | nil => cases h
  | cons c cs =>
    rw [hasIdentifierShape, Bool.and_eq_true] at h
    exact ⟨c, cs, rfl, isWhiteSpace_of_isIdentifierPart (isIdentifierPart_of_start h.1)⟩

/-- What is written of a token begins with a character that is no blank. -/
theorem Token.Legal.exists_first {t : Token} (h : t.Legal) :
    ∃ c cs, t.spelling = c :: cs ∧ Unicode.isWhiteSpace c = false := by
  cases t with
  | keyword k => exact exists_first_of_hasIdentifierShape (hasIdentifierShape_keyword k)
  | literal l => exact exists_first_of_hasIdentifierShape (hasIdentifierShape_literal l)
  | punctuation p => exact ⟨p.symbol, [], rfl, isWhiteSpace_symbol p⟩
  | identifier w =>
    have hw : isLegalIdentifier w = true := h
    rw [isLegalIdentifier, Bool.and_eq_true] at hw
    exact exists_first_of_hasIdentifierShape hw.1
  | eof => cases h

/-- A token ends after its beginning. -/
theorem Token.Legal.lt_add_byteLength {t : Token} (h : t.Legal) (start : Nat) :
    start < start + byteLength t.spelling := by
  obtain ⟨c, cs, hspelling, -⟩ := h.exists_first
  rw [hspelling, byteLength_cons]
  exact Nat.lt_add_of_pos_right (Nat.add_pos_left c.utf8Size_pos _)

/-! ## Tilings -/

/-- Lexemes that lie in a text, whose first character stands at an offset, as they were cut from
it. -/
inductive Tiles : Nat → Text → List Lexeme → Prop
  /-- There are only blanks up to the end. -/
  | eof {offset : Nat} {b : Text} (hb : Blank b) :
    Tiles offset b [⟨.eof, .point (offset + byteLength b)⟩]
  /-- After blanks there is a token, and then the rest of the text. -/
  | token {offset : Nat} {b rest : Text} {t : Token} {lexemes : List Lexeme} (hb : Blank b)
    (ht : t.Legal) (h : Tiles (offset + byteLength b + byteLength t.spelling) rest lexemes) :
    Tiles offset (b ++ (t.spelling ++ rest))
      (⟨t, ⟨offset + byteLength b, offset + byteLength b + byteLength t.spelling⟩⟩ :: lexemes)

section
variable {offset : Nat} {t : Text} {lexemes : List Lexeme}

/-- A blank in front of a text moves its lexemes. -/
theorem Tiles.blank {c : Char} (hc : Unicode.isWhiteSpace c = true)
    (h : Tiles (offset + c.utf8Size) t lexemes) : Tiles offset (c :: t) lexemes := by
  have hstart (b : Text) : offset + c.utf8Size + byteLength b = offset + byteLength (c :: b) :=
    Nat.add_assoc _ _ _
  cases h with
  | eof hb =>
    rw [hstart]
    exact .eof (blank_cons.2 ⟨hc, hb⟩)
  | token hb ht h =>
    rw [hstart] at h ⊢
    exact .token (blank_cons.2 ⟨hc, hb⟩) ht h

/-- A token in front of a text stands at the offset. -/
theorem Tiles.cons {t : Token} {rest : Text} (ht : t.Legal)
    (h : Tiles (offset + byteLength t.spelling) rest lexemes) :
    Tiles offset (t.spelling ++ rest)
      (⟨t, ⟨offset, offset + byteLength t.spelling⟩⟩ :: lexemes) :=
  .token blank_nil ht h

/-- The lexemes of a text tile it, wherever it stands. -/
theorem tiles_of_lexFrom (h : lexFrom offset t = .ok lexemes) : Tiles offset t lexemes := by
  fun_induction lexFrom offset t generalizing lexemes with
  | case1 offset =>
    cases h
    exact .eof blank_nil
  | case2 offset c cs hc ih => exact .blank hc (ih h)
  | case3 offset c cs hc p hp ih =>
    obtain ⟨rest, hrest, rfl⟩ := Except.map_eq_ok_iff.1 h
    obtain rfl := Punctuation.ofChar?_eq_some_iff.1 hp
    exact .cons (t := .punctuation p) trivial (ih hrest)
  | case4 offset c cs hc hp hs word stop =>
    rename_i ih
    obtain ⟨rest, hrest, rfl⟩ := Except.map_eq_ok_iff.1 h
    have hword := Token.legal_ofWord (hasIdentifierShape_takeWhile hs cs)
    have htiles := ih hrest
    have hspelling : (Token.ofWord word).spelling = word := Token.spelling_ofWord word
    have htext : c :: cs = (Token.ofWord word).spelling ++ cs.dropWhile isIdentifierPart := by
      rw [hspelling, List.cons_append, List.takeWhile_append_dropWhile]
    rw [htext]
    have hstop : stop = offset + byteLength (Token.ofWord word).spelling := by rw [hspelling]
    rw [hstop] at htiles ⊢
    exact .cons hword htiles
  | case5 offset c cs hc hp hs => cases h

/-- The lexemes of a text tile it. -/
theorem tiles_of_lex (h : lex t = .ok lexemes) : Tiles 0 t lexemes :=
  tiles_of_lexFrom (lex_eq_ok_iff.1 h)

/-! ## Tokens -/

/-- The end of a tiled text is its last lexeme, and before it stand legal tokens at spans that are
not empty. -/
theorem Tiles.exists_front (h : Tiles offset t lexemes) :
    ∃ front, lexemes = front ++ [⟨.eof, .point (offset + byteLength t)⟩] ∧
      ∀ x ∈ front, x.token.Legal ∧ x.span.start < x.span.stop := by
  induction h with
  | eof => exact ⟨[], rfl, by simp⟩
  | @token offset b rest t lexemes _ ht _ ih =>
    obtain ⟨front, rfl, hfront⟩ := ih
    have hend : offset + byteLength (b ++ (t.spelling ++ rest)) =
        offset + byteLength b + byteLength t.spelling + byteLength rest := by
      simp [Nat.add_assoc]
    rw [hend]
    exact ⟨_ :: front, rfl, List.forall_mem_cons.2 ⟨⟨ht, ht.lt_add_byteLength _⟩, hfront⟩⟩

/-- Before the end of a tiled text stand legal tokens. -/
theorem Tiles.exists_tokens (h : Tiles offset t lexemes) :
    ∃ ts, lexemes.map Lexeme.token = ts ++ [.eof] ∧ ∀ t ∈ ts, t.Legal := by
  obtain ⟨front, rfl, hfront⟩ := h.exists_front
  refine ⟨front.map Lexeme.token, by simp, ?_⟩
  rw [List.forall_mem_map]
  exact fun x hx => (hfront x hx).1

/-- The tokens of a text end with the end of the text, and before it stand legal tokens. -/
theorem exists_tokens_of_lex (h : lex t = .ok lexemes) :
    ∃ ts, lexemes.map Lexeme.token = ts ++ [.eof] ∧ ∀ t ∈ ts, t.Legal :=
  (tiles_of_lex h).exists_tokens

/-- Up to the end of a text there are legal tokens. -/
theorem legal_of_lex {ts : List Token} (h : lex t = .ok lexemes)
    (hts : lexemes.map Lexeme.token = ts ++ [.eof]) : ∀ t ∈ ts, t.Legal := by
  obtain ⟨us, hus, hlegal⟩ := exists_tokens_of_lex h
  obtain rfl : us = ts := List.append_cancel_right (hus.symm.trans hts)
  exact hlegal

/-- The end of a text is none of the tokens before it. -/
theorem eof_not_mem_of_lex {ts : List Token} (h : lex t = .ok lexemes)
    (hts : lexemes.map Lexeme.token = ts ++ [.eof]) : .eof ∉ ts :=
  Token.eof_not_mem (legal_of_lex h hts)

end

/-! ## Places -/

/-- A token is a word. -/
def Token.IsWord : Token → Prop
  | .keyword _ | .literal _ | .identifier _ => True
  | .punctuation _ | .eof => False

/-- A lexeme stands in a text: its token is written there at its span, and if it is a word, the text
after it does not go on with it. -/
def Lexeme.StandsIn (x : Lexeme) (t : Text) : Prop :=
  ∃ before after, t = before ++ (x.token.spelling ++ after) ∧
    x.span = ⟨byteLength before, byteLength before + byteLength x.token.spelling⟩ ∧
    (x.token.IsWord → EndsWord after)

section
variable {offset : Nat} {t : Text} {lexemes : List Lexeme}

/-- Lexemes stand at or after the offset of their text. -/
theorem Tiles.le_start (h : Tiles offset t lexemes) : ∀ x ∈ lexemes, offset ≤ x.span.start := by
  induction h with
  | eof => simp [Span.point]
  | token _ _ _ ih =>
    refine List.forall_mem_cons.2 ⟨Nat.le_add_right _ _, fun x hx => ?_⟩
    have := ih x hx
    omega

/-- Before the last lexeme of a text, each has characters, and ends before those that follow it
begin. -/
theorem Tiles.pairwise (h : Tiles offset t lexemes) :
    lexemes.Pairwise fun x y => x.span.start < x.span.stop ∧ x.span.stop ≤ y.span.start := by
  induction h with
  | eof => exact List.pairwise_singleton _ _
  | token _ ht hrest ih =>
    exact List.pairwise_cons.2
      ⟨fun y hy => ⟨ht.lt_add_byteLength _, hrest.le_start y hy⟩, ih⟩

/-- Each lexeme begins before those that follow it. -/
theorem Tiles.pairwise_start (h : Tiles offset t lexemes) :
    lexemes.Pairwise fun x y => x.span.start < y.span.start :=
  h.pairwise.imp fun hxy => Nat.lt_of_lt_of_le hxy.1 hxy.2

/-- Each lexeme of a text stands in it. -/
theorem standsIn_of_lexFrom (h : lexFrom offset t = .ok lexemes) {front : Text}
    (hfront : byteLength front = offset) : ∀ x ∈ lexemes, x.StandsIn (front ++ t) := by
  fun_induction lexFrom offset t generalizing lexemes front with
  | case1 offset =>
    cases h
    subst hfront
    rw [List.forall_mem_singleton]
    exact ⟨front, [], rfl, rfl, nofun⟩
  | case2 offset c cs hc ih =>
    subst hfront
    have hlength : byteLength (front ++ [c]) = byteLength front + c.utf8Size := by simp
    have hrest := ih h hlength
    rwa [List.append_assoc] at hrest
  | case3 offset c cs hc p hp ih =>
    obtain ⟨rest, hlex, rfl⟩ := Except.map_eq_ok_iff.1 h
    obtain rfl := Punctuation.ofChar?_eq_some_iff.1 hp
    subst hfront
    have hlength : byteLength (front ++ [p.symbol]) = byteLength front + p.symbol.utf8Size := by
      simp
    have hrest := ih hlex hlength
    rw [List.append_assoc] at hrest
    exact List.forall_mem_cons.2 ⟨⟨front, cs, rfl, rfl, nofun⟩, hrest⟩
  | case4 offset c cs hc hp hs word stop =>
    rename_i ih
    obtain ⟨rest, hlex, rfl⟩ := Except.map_eq_ok_iff.1 h
    subst hfront
    have hrest := ih hlex (byteLength_append front word)
    have htext : front ++ c :: cs = front ++ (word ++ cs.dropWhile isIdentifierPart) := by
      rw [List.cons_append, List.takeWhile_append_dropWhile]
    rw [List.append_assoc, ← htext] at hrest
    refine List.forall_mem_cons.2 ⟨⟨front, cs.dropWhile isIdentifierPart, ?_, ?_,
      fun _ => endsWord_dropWhile cs⟩, hrest⟩
    · rw [Token.spelling_ofWord, htext]
    · rw [Token.spelling_ofWord]
  | case5 offset c cs hc hp hs => cases h

/-- Each lexeme of a text stands in it. -/
theorem standsIn_of_lex (h : lex t = .ok lexemes) : ∀ x ∈ lexemes, x.StandsIn t :=
  standsIn_of_lexFrom (lex_eq_ok_iff.1 h) byteLength_nil

/-- What lies under the span of a lexeme of a text is what is written of its token. -/
theorem slice_span_of_lex (h : lex t = .ok lexemes) :
    ∀ x ∈ lexemes, x.span.slice t = x.token.spelling := by
  intro x hx
  obtain ⟨before, after, rfl, hspan, -⟩ := standsIn_of_lex h x hx
  rw [hspan, Span.slice_append]

/-- The span of a lexeme tells which one it is. -/
theorem eq_of_span_eq (h : lex t = .ok lexemes) {i j : Nat} {x y : Lexeme}
    (hi : lexemes[i]? = some x) (hj : lexemes[j]? = some y) (hspan : x.span = y.span) : i = j := by
  have hpairs := List.pairwise_iff_getElem.1 (tiles_of_lex h).pairwise_start
  obtain ⟨hil, rfl⟩ := List.getElem?_eq_some_iff.1 hi
  obtain ⟨hjl, rfl⟩ := List.getElem?_eq_some_iff.1 hj
  rcases Nat.lt_trichotomy i j with hlt | heq | hlt
  · have := hpairs i j hil hjl hlt
    rw [hspan] at this
    exact absurd this (Nat.lt_irrefl _)
  · exact heq
  · have := hpairs j i hjl hil hlt
    rw [hspan] at this
    exact absurd this (Nat.lt_irrefl _)

end

end JavaNames
