import JavaNames.Proofs.Lexing.Tiling
import JavaNames.TypeName.Reading

/-!
# Characters that are part of no lexeme

Which characters cannot stand in a text is told by each of them and the one before it (`Stray`): a
stray character is no blank and no punctuation and begins no word, and if it could continue a word,
there is none before it to go on with. The lexer keeps more in mind, namely whether it is inside a
word, but it never passes a stray character, so a character before another one is part of a word if
it can be. A text with stray characters is rejected at the first one
(`lex_eq_error_iff_firstStray`), wherever this is, and what stands before it has lexemes.

That nothing else of a text matters where it is cut is `exists_front_of_lexFrom`: the lexemes up to
a place that no word goes on across are followed by those of the rest, whatever the rest is.
-/

namespace JavaNames

/-! ## Places between words -/

/-- No word goes on from a text into the text that follows it. -/
def Apart (t rest : Text) : Prop :=
  ∀ c ∈ t.getLast?, isIdentifierPart c = true → EndsWord rest

section
variable {offset : Nat} {t rest : Text} {c : Char} {lexemes : List Lexeme}

@[simp] theorem apart_nil : Apart [] rest := by simp [Apart]

/-- A single character is followed by no word that goes on with it if it is no part of one. -/
theorem apart_singleton (h : isIdentifierPart c = false) : Apart [c] rest := by
  simp [Apart, h]

theorem Apart.tail (h : Apart (c :: t) rest) : Apart t rest := by
  cases t with
  | nil => exact apart_nil
  | cons d t => exact h

/-- A word at the beginning of a text does not reach across a place between words. -/
theorem Apart.takeWhile_append (h : Apart (c :: t) rest) (hc : isIdentifierPart c = true) :
    (t ++ rest).takeWhile isIdentifierPart = t.takeWhile isIdentifierPart ∧
      (t ++ rest).dropWhile isIdentifierPart = t.dropWhile isIdentifierPart ++ rest ∧
      Apart (t.dropWhile isIdentifierPart) rest := by
  induction t generalizing c with
  | nil =>
    have hrest : EndsWord rest := h c rfl hc
    obtain ⟨htake, hdrop⟩ := takeWhile_append_of_head [] hrest
    exact ⟨htake, hdrop, apart_nil⟩
  | cons d t ih =>
    cases hd : isIdentifierPart d with
    | true =>
      obtain ⟨htake, hdrop, hapart⟩ := ih h.tail hd
      simp [hd, htake, hdrop, hapart]
    | false => simpa [hd] using h.tail

/-- The lexemes of a text up to its end do not depend on what follows it, as long as no word goes
on there; and after them stand those of what follows. -/
theorem exists_front_of_lexFrom (h : lexFrom offset t = .ok lexemes) :
    ∃ front, lexemes = front ++ [⟨.eof, .point (offset + byteLength t)⟩] ∧
      ∀ rest, Apart t rest →
        lexFrom offset (t ++ rest) = (lexFrom (offset + byteLength t) rest).map (front ++ ·) := by
  fun_induction lexFrom offset t generalizing lexemes with
  | case1 offset =>
    cases h
    refine ⟨[], rfl, fun rest _ => ?_⟩
    rw [List.nil_append, byteLength_nil, Nat.add_zero]
    cases lexFrom offset rest <;> rfl
  | case2 offset c cs hc ih =>
    obtain ⟨front, rfl, happend⟩ := ih h
    rw [byteLength_cons, ← Nat.add_assoc]
    refine ⟨front, rfl, fun rest hrest => ?_⟩
    rw [List.cons_append, lexFrom_blank hc, happend rest hrest.tail]
  | case3 offset c cs hc p hp ih =>
    obtain ⟨xs, hxs, rfl⟩ := Except.map_eq_ok_iff.1 h
    obtain ⟨front, rfl, happend⟩ := ih hxs
    rw [byteLength_cons, ← Nat.add_assoc]
    refine ⟨_ :: front, rfl, fun rest hrest => ?_⟩
    rw [List.cons_append, lexFrom_punctuation (by simpa using hc) hp, happend rest hrest.tail,
      Except.map_map]
    rfl
  | case4 offset c cs hc hp hs word stop =>
    rename_i ih
    obtain ⟨xs, hxs, rfl⟩ := Except.map_eq_ok_iff.1 h
    obtain ⟨front, rfl, happend⟩ := ih hxs
    have hlength : offset + byteLength (c :: cs) =
        stop + byteLength (cs.dropWhile isIdentifierPart) := by
      rw [Nat.add_assoc, ← byteLength_append, List.cons_append, List.takeWhile_append_dropWhile]
    rw [hlength]
    refine ⟨_ :: front, rfl, fun rest hrest => ?_⟩
    obtain ⟨htake, hdrop, hapart⟩ := hrest.takeWhile_append (isIdentifierPart_of_start hs)
    rw [List.cons_append, lexFrom_word (by simpa using hc) hp hs, htake, hdrop,
      happend rest hapart, Except.map_map]
    rfl
  | case5 offset c cs hc hp hs => cases h

end

/-! ## Stray characters -/

/-- A character after a text is part of no lexeme. -/
structure Stray (front : Text) (c : Char) : Prop where
  /-- It is no blank. -/
  blank : Unicode.isWhiteSpace c = false
  /-- It is no punctuation. -/
  punctuation : ∀ p : Punctuation, c ≠ p.symbol
  /-- It begins no word. -/
  start : isIdentifierStart c = false
  /-- It continues no word: it cannot, or what stands directly before it cannot be part of one. -/
  continues : ¬ (isIdentifierPart c = true ∧ ∃ d ∈ front.getLast?, isIdentifierPart d = true)

/-- A text is cut at the first stray character. -/
structure FirstStray (t front : Text) (c : Char) : Prop where
  /-- The character stands after the front. -/
  cut : ∃ rest, t = front ++ c :: rest
  /-- It is a stray character there. -/
  stray : Stray front c
  /-- No character of the front is. -/
  first : ∀ before d after, front = before ++ d :: after → ¬ Stray before d

section
variable {offset : Nat} {t front : Text} {c : Char} {lexemes : List Lexeme}

/-- No word goes on with a stray character. -/
theorem Stray.apart (h : Stray front c) (rest : Text) : Apart front (c :: rest) := by
  intro d hd hpart
  rw [endsWord_cons, Bool.eq_false_iff]
  exact fun hc => h.continues ⟨hc, d, hd, hpart⟩

/-- A stray character is one after more text, unless this text is what it could continue. -/
theorem Stray.append {before : Text} (h : Stray front c)
    (hbefore : front = [] → Apart before [c]) : Stray (before ++ front) c where
  blank := h.blank
  punctuation := h.punctuation
  start := h.start
  continues := by
    rintro ⟨hc, d, hd, hpart⟩
    cases front with
    | nil =>
      rw [List.append_nil] at hd
      have hends := hbefore rfl d hd hpart
      rw [endsWord_cons, hc] at hends
      cases hends
    | cons e es =>
      rw [List.getLast?_append, List.getLast?_cons, Option.some_or,
        ← List.getLast?_cons] at hd
      exact h.continues ⟨hc, d, hd, hpart⟩

/-- A stray character after a text with lexemes ends the reading. -/
theorem lexFrom_stray (h : lexFrom offset front = .ok lexemes) (hc : Stray front c)
    (rest : Text) :
    lexFrom offset (front ++ c :: rest) = .error (offset + byteLength front, c) := by
  obtain ⟨_, -, happend⟩ := exists_front_of_lexFrom h
  have hinvalid : lexFrom (offset + byteLength front) (c :: rest) =
      .error (offset + byteLength front, c) :=
    lexFrom_invalid hc.blank (Punctuation.ofChar?_eq_none_iff.2 hc.punctuation) hc.start
  rw [happend _ (hc.apart rest), hinvalid]
  rfl

/-- The reading ends at a stray character after a text with lexemes. -/
theorem exists_stray_of_lexFrom {place : Nat} (h : lexFrom offset t = .error (place, c)) :
    ∃ front rest, t = front ++ c :: rest ∧ place = offset + byteLength front ∧ Stray front c ∧
      ∃ lexemes, lexFrom offset front = .ok lexemes := by
  fun_induction lexFrom offset t with
  | case1 offset => cases h
  | case2 offset b cs hb ih =>
    obtain ⟨front, rest, rfl, rfl, hc, xs, hxs⟩ := ih h
    have hapart : Apart [b] [c] := apart_singleton (isIdentifierPart_of_isWhiteSpace hb)
    refine ⟨b :: front, rest, rfl, by rw [byteLength_cons, Nat.add_assoc],
      hc.append fun _ => hapart, xs, ?_⟩
    rw [lexFrom_blank hb, hxs]
  | case3 offset b cs hb p hp ih =>
    obtain ⟨front, rest, rfl, rfl, hc, xs, hxs⟩ := ih (Except.map_eq_error_iff.1 h)
    obtain rfl := Punctuation.ofChar?_eq_some_iff.1 hp
    have hapart : Apart [p.symbol] [c] := apart_singleton (isIdentifierPart_symbol p)
    refine ⟨p.symbol :: front, rest, rfl, by rw [byteLength_cons, Nat.add_assoc],
      hc.append fun _ => hapart, ?_⟩
    rw [lexFrom_punctuation (isWhiteSpace_symbol p) hp, hxs]
    exact ⟨_, rfl⟩
  | case4 offset b cs hb hp hs word stop =>
    rename_i ih
    obtain ⟨front, rest, hcut, rfl, hc, xs, hxs⟩ := ih (Except.map_eq_error_iff.1 h)
    -- what follows a word does not go on with it, be it the stray character or what precedes it
    have hends := endsWord_dropWhile cs
    rw [hcut] at hends
    refine ⟨word ++ front, rest, ?_, ?_, hc.append fun hnil => ?_, ?_⟩
    · rw [List.append_assoc, ← hcut, List.cons_append, List.takeWhile_append_dropWhile]
    · rw [byteLength_append, Nat.add_assoc]
    · rw [hnil] at hends
      exact fun _ _ _ => endsWord_cons.2 (endsWord_cons.1 hends)
    · rw [lexFrom_word_append _ (hasIdentifierShape_takeWhile hs cs) hends.of_append, hxs]
      exact ⟨_, rfl⟩
  | case5 offset b cs hb hp hs =>
    cases h
    have hc : Stray [] c :=
      ⟨by simpa using hb, Punctuation.ofChar?_eq_none_iff.1 hp, by simpa using hs, by simp⟩
    exact ⟨[], cs, rfl, rfl, hc, _, lexFrom_nil⟩

/-- A text with a stray character has no lexemes: the reading ends there, or earlier. -/
theorem exists_lexFrom_eq_error (offset : Nat) (hc : Stray front c) (rest : Text) :
    ∃ e, lexFrom offset (front ++ c :: rest) = .error e := by
  cases h : lexFrom offset front with
  | ok lexemes => exact ⟨_, lexFrom_stray h hc rest⟩
  | error e =>
    obtain ⟨before, after, rfl, -, he, lexemes, hbefore⟩ := exists_stray_of_lexFrom h
    rw [List.append_assoc]
    exact ⟨_, lexFrom_stray hbefore he _⟩

/-- A text that ends the reading ends it in the same way whatever follows. -/
theorem lexFrom_append_of_error {e : Nat × Char} (h : lexFrom offset t = .error e)
    (rest : Text) : lexFrom offset (t ++ rest) = .error e := by
  obtain ⟨front, after, rfl, hplace, hc, lexemes, hfront⟩ := exists_stray_of_lexFrom h
  rw [List.append_assoc, List.cons_append, lexFrom_stray hfront hc, ← hplace]

/-- A text has lexemes exactly if it has no stray character. -/
theorem exists_lexFrom_eq_ok_iff : (∃ lexemes, lexFrom offset t = .ok lexemes) ↔
    ∀ front c rest, t = front ++ c :: rest → ¬ Stray front c := by
  constructor
  · rintro ⟨lexemes, h⟩ front c rest rfl hc
    obtain ⟨e, he⟩ := exists_lexFrom_eq_error offset hc rest
    cases h.symm.trans he
  · intro hnone
    cases h : lexFrom offset t with
    | ok lexemes => exact ⟨lexemes, rfl⟩
    | error e =>
      obtain ⟨front, rest, hcut, -, hc, -⟩ := exists_stray_of_lexFrom h
      exact absurd hc (hnone front e.2 rest hcut)

/-- The reading ends at the first stray character. -/
theorem lexFrom_eq_error_iff {place : Nat} : lexFrom offset t = .error (place, c) ↔
    ∃ front, FirstStray t front c ∧ place = offset + byteLength front := by
  constructor
  · intro h
    obtain ⟨front, rest, hcut, hplace, hc, hfront⟩ := exists_stray_of_lexFrom h
    exact ⟨front, ⟨⟨rest, hcut⟩, hc, exists_lexFrom_eq_ok_iff.1 hfront⟩, hplace⟩
  · rintro ⟨front, h, rfl⟩
    obtain ⟨rest, rfl⟩ := h.cut
    obtain ⟨lexemes, hfront⟩ := exists_lexFrom_eq_ok_iff.2 h.first
    exact lexFrom_stray hfront h.stray rest

end

/-! ## Reports -/

/-- A text is cut into lexemes unless it has stray characters. If it has, it is rejected with a
report of the first one, at its place, and what stands before it is cut into lexemes. Read as a type
name it is rejected with the same report, whatever is wrong with the tokens before. -/
theorem lex_eq_error_iff_firstStray (t : Text) :
    ((∃ d, lex t = .error d) ↔ ∃ front c rest, t = front ++ c :: rest ∧ Stray front c) ∧
    (∀ d, lex t = .error d ↔ ∃ front c, FirstStray t front c ∧
      d = .invalidCharacter c (byteLength front) "type name" t) ∧
    ∀ front c, FirstStray t front c →
      (∃ lexemes, lex front = .ok lexemes) ∧
      ∀ limits, TypeName.parseWithin limits t =
        .error (.invalidCharacter c (byteLength front) "type name" t) := by
  have hreport (d : Diagnostic) : lex t = .error d ↔ ∃ front c, FirstStray t front c ∧
      d = .invalidCharacter c (byteLength front) "type name" t := by
    rw [lex_eq_error_iff]
    constructor
    · rintro ⟨place, c, h, rfl⟩
      obtain ⟨front, hfirst, rfl⟩ := lexFrom_eq_error_iff.1 h
      exact ⟨front, c, hfirst, by rw [Nat.zero_add]⟩
    · rintro ⟨front, c, hfirst, rfl⟩
      exact ⟨_, c, lexFrom_eq_error_iff.2 ⟨front, hfirst, (Nat.zero_add _).symm⟩, rfl⟩
  refine ⟨⟨?_, ?_⟩, hreport, fun front c hfirst => ⟨?_, fun limits => ?_⟩⟩
  · rintro ⟨d, hd⟩
    obtain ⟨front, c, hfirst, -⟩ := (hreport d).1 hd
    obtain ⟨rest, hcut⟩ := hfirst.cut
    exact ⟨front, c, rest, hcut, hfirst.stray⟩
  · rintro ⟨front, c, rest, rfl, hc⟩
    obtain ⟨e, he⟩ := exists_lexFrom_eq_error 0 hc rest
    exact ⟨_, lex_eq_error_iff.2 ⟨e.1, e.2, he, rfl⟩⟩
  · obtain ⟨lexemes, h⟩ := exists_lexFrom_eq_ok_iff.2 hfirst.first
    exact ⟨lexemes, lex_eq_ok_iff.2 h⟩
  · rw [TypeName.parseWithin, (hreport _).2 ⟨front, c, hfirst, rfl⟩]

end JavaNames
