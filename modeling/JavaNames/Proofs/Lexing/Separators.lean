import JavaNames.Proofs.Lexing.Strays
import Mathlib.Control.Monad.Basic

/-!
# Lexing at separators

A separator, which is a blank or punctuation, is part of no word. So the lexer carries nothing across
it, and a text that is cut at a separator is lexed piece by piece: it has the lexemes of what stands
before the separator, then the separator itself if it is punctuation, then the lexemes of what stands
after it, at their new places (`lex_append_separator`). If one of the two pieces is rejected, the
whole is rejected for the same character, and the first piece comes first.

Two facts meet here. Lexemes up to a place between words do not depend on what follows
(`exists_front_of_lexFrom`, `lexFrom_append_of_error`), and the offset at which a text stands is only
added to the places of its lexemes (`lexFrom_add`).
-/

namespace JavaNames

/-! ## Moved texts -/

/-- The span some bytes further on. -/
def Span.shift (n : Nat) (s : Span) : Span :=
  ⟨n + s.start, n + s.stop⟩

/-- The lexeme some bytes further on. -/
def Lexeme.shift (n : Nat) (x : Lexeme) : Lexeme :=
  { x with span := x.span.shift n }

/-- What becomes of a text that stands some bytes further on, given what becomes of it where it
stands. -/
def shiftOutcome (n : Nat) :
    Except (Nat × Char) (List Lexeme) → Except (Nat × Char) (List Lexeme)
  | .ok lexemes => .ok (lexemes.map (Lexeme.shift n))
  | .error (place, c) => .error (n + place, c)

/-- A lexeme in front is moved with the others. -/
theorem shiftOutcome_map_cons (n : Nat) (x : Lexeme) (r : Except (Nat × Char) (List Lexeme)) :
    shiftOutcome n (r.map (x :: ·)) = (shiftOutcome n r).map (x.shift n :: ·) := by
  cases r <;> rfl

/-- The place of a character is moved with it. -/
theorem shift_ofChar (n offset : Nat) (c : Char) :
    (Span.ofChar offset c).shift n = .ofChar (n + offset) c := by
  simp [Span.shift, Span.ofChar, Nat.add_assoc]

/-- A text that stands further on has the same lexemes further on, or is rejected for the same
character. -/
theorem lexFrom_add (n offset : Nat) (t : Text) :
    lexFrom (n + offset) t = shiftOutcome n (lexFrom offset t) := by
  fun_induction lexFrom offset t with
  | case1 offset =>
    rw [lexFrom_nil]
    rfl
  | case2 offset c cs hc ih => rw [lexFrom_blank hc, Nat.add_assoc, ih]
  | case3 offset c cs hc p hp ih =>
    rw [lexFrom_punctuation (by simpa using hc) hp, Nat.add_assoc, ih, shiftOutcome_map_cons,
      Lexeme.shift, shift_ofChar]
  | case4 offset c cs hc hp hs word stop =>
    rename_i ih
    rw [lexFrom_word (by simpa using hc) hp hs, Nat.add_assoc, ih, shiftOutcome_map_cons]
    rfl
  | case5 offset c cs hc hp hs =>
    rw [lexFrom_invalid (by simpa using hc) hp (by simpa using hs)]
    rfl

/-! ## Tokens of a text -/

/-- The tokens of a text do not depend on where it stands. -/
theorem lexes_of_lex {t : Text} {lexemes : List Lexeme} {ts : List Token}
    (h : lex t = .ok lexemes) (hts : lexemes.map Lexeme.token = ts ++ [.eof]) : Lexes t ts := by
  intro offset
  refine ⟨lexemes.map (Lexeme.shift offset), ?_, ?_⟩
  · rw [← Nat.add_zero offset, lexFrom_add, lex_eq_ok_iff.1 h]
    rfl
  · rw [List.map_map, ← hts]
    rfl

/-- The tokens of a text are followed by those of another one that no word goes on into. -/
theorem Lexes.append {a b : Text} {ts us : List Token} (ha : Lexes a ts) (hb : Lexes b us)
    (hab : Apart a b) : Lexes (a ++ b) (ts ++ us) := by
  intro offset
  obtain ⟨xs, hxs, hts⟩ := ha offset
  obtain ⟨front, rfl, happend⟩ := exists_front_of_lexFrom hxs
  obtain ⟨ys, hys, hus⟩ := hb (offset + byteLength a)
  rw [List.map_append] at hts
  refine ⟨front ++ ys, ?_, ?_⟩
  · rw [happend b hab, hys]
    rfl
  · rw [List.map_append, hus, List.append_cancel_right hts, List.append_assoc]

/-! ## Separators -/

/-- A character that stands between words: a blank or punctuation. -/
def IsSeparator (c : Char) : Prop :=
  Unicode.isWhiteSpace c = true ∨ ∃ p : Punctuation, c = p.symbol

/-- The lexemes that a separator at an offset is: one if it is punctuation, and none if it is a
blank. -/
def separatorLexemes (offset : Nat) (c : Char) : List Lexeme :=
  match Punctuation.ofChar? c with
  | some p => [⟨.punctuation p, .ofChar offset c⟩]
  | none => []

section
variable {c : Char} (hc : IsSeparator c)
include hc

/-- A separator is no part of a word. -/
theorem IsSeparator.isIdentifierPart_eq_false : isIdentifierPart c = false := by
  rcases hc with hblank | ⟨p, rfl⟩
  · exact isIdentifierPart_of_isWhiteSpace hblank
  · exact isIdentifierPart_symbol p

/-- No word goes on across a separator. -/
theorem IsSeparator.apart (t rest : Text) : Apart t (c :: rest) :=
  fun _ _ _ => endsWord_cons.2 hc.isIdentifierPart_eq_false

/-- After a separator the rest of the text is cut into lexemes. -/
theorem lexFrom_separator (offset : Nat) (t : Text) :
    lexFrom offset (c :: t) =
      (lexFrom (offset + c.utf8Size) t).map (separatorLexemes offset c ++ ·) := by
  rcases hc with hblank | ⟨p, rfl⟩
  · have hnone : Punctuation.ofChar? c = none := by
      rw [Punctuation.ofChar?_eq_none_iff]
      rintro p rfl
      rw [isWhiteSpace_symbol] at hblank
      cases hblank
    rw [lexFrom_blank hblank, separatorLexemes, hnone]
    cases lexFrom (offset + c.utf8Size) t <;> rfl
  · have hp := Punctuation.ofChar?_symbol p
    rw [lexFrom_punctuation (isWhiteSpace_symbol p) hp, separatorLexemes, hp]
    rfl

/-- What becomes of a text after a separator is what becomes of it alone, moved, and in front of it
stand the lexemes of the text before the separator and the separator. -/
theorem exists_front_of_separator {a : Text} {xs : List Lexeme} (h : lexFrom 0 a = .ok xs) :
    ∃ front, xs = front ++ [⟨.eof, .point (byteLength a)⟩] ∧ ∀ b,
      lexFrom 0 (a ++ c :: b) =
        (shiftOutcome (byteLength a + c.utf8Size) (lexFrom 0 b)).map fun ys =>
          front ++ (separatorLexemes (byteLength a) c ++ ys) := by
  obtain ⟨front, hfront, happend⟩ := exists_front_of_lexFrom h
  rw [Nat.zero_add] at hfront happend
  refine ⟨front, hfront, fun b => ?_⟩
  rw [happend _ (hc.apart a b), lexFrom_separator hc, ← lexFrom_add, Nat.add_zero, Except.map_map]

end

/-! ## Texts cut at a separator -/

/-- A text that is cut at a separator is lexed piece by piece: its lexemes are those of the first
piece up to its end, the separator, and those of the second piece at their new places. If the first
piece is rejected, the text is rejected with the same report, and otherwise with that of the second
piece, if it is rejected, at its new place. -/
theorem lex_append_separator {a b : Text} {c : Char} (hc : IsSeparator c) :
    (∀ xs ys, lex a = .ok xs → lex b = .ok ys →
      ∃ front, xs = front ++ [⟨.eof, .point (byteLength a)⟩] ∧
        lex (a ++ c :: b) = .ok (front ++ (separatorLexemes (byteLength a) c ++
          ys.map (Lexeme.shift (byteLength a + c.utf8Size))))) ∧
    (∀ d, lex a = .error d → lex (a ++ c :: b) = .error { d with input := a ++ c :: b }) ∧
    ∀ xs d, lex a = .ok xs → lex b = .error d →
      lex (a ++ c :: b) = .error
        { d with span := d.span.shift (byteLength a + c.utf8Size), input := a ++ c :: b } := by
  refine ⟨fun xs ys hxs hys => ?_, fun d hd => ?_, fun xs d hxs hd => ?_⟩
  · obtain ⟨front, hfront, happend⟩ := exists_front_of_separator hc (lex_eq_ok_iff.1 hxs)
    refine ⟨front, hfront, lex_eq_ok_iff.2 ?_⟩
    rw [happend, lex_eq_ok_iff.1 hys]
    rfl
  · obtain ⟨place, e, he, rfl⟩ := lex_eq_error_iff.1 hd
    exact lex_eq_error_iff.2 ⟨place, e, lexFrom_append_of_error he _, rfl⟩
  · obtain ⟨front, -, happend⟩ := exists_front_of_separator hc (lex_eq_ok_iff.1 hxs)
    obtain ⟨place, e, he, rfl⟩ := lex_eq_error_iff.1 hd
    refine lex_eq_error_iff.2 ⟨byteLength a + c.utf8Size + place, e, ?_, ?_⟩
    · rw [happend, he]
      rfl
    · simp [Diagnostic.invalidCharacter, Fault.within, shift_ofChar]

/-- Before `<` stand two bytes in `é<T` and in `é<1`, so what stands after it is found at the third
byte. -/
theorem lex_append_leftAngle :
    lex "é<T".toList = .ok [⟨.identifier ['é'], ⟨0, 2⟩⟩, ⟨.punctuation .leftAngle, ⟨2, 3⟩⟩,
        ⟨.identifier ['T'], ⟨3, 4⟩⟩, ⟨.eof, ⟨4, 4⟩⟩] ∧
      lex "é<1".toList = .error (.invalidCharacter '1' 3 "type name" "é<1".toList) := by
  have hc : IsSeparator '<' := .inr ⟨.leftAngle, rfl⟩
  have ha : lex ['é'] = .ok [⟨.identifier ['é'], ⟨0, 2⟩⟩, ⟨.eof, ⟨2, 2⟩⟩] := by decide +kernel
  have hb : lex ['T'] = .ok [⟨.identifier ['T'], ⟨0, 1⟩⟩, ⟨.eof, ⟨1, 1⟩⟩] := by decide +kernel
  have hb' : lex ['1'] = .error (.invalidCharacter '1' 0 "type name" ['1']) := by decide +kernel
  obtain ⟨front, hfront, h⟩ := (lex_append_separator hc).1 _ _ ha hb
  obtain rfl : [⟨.identifier ['é'], ⟨0, 2⟩⟩] = front := List.append_cancel_right hfront
  exact ⟨h, (lex_append_separator hc).2.2 _ _ ha hb'⟩

end JavaNames
