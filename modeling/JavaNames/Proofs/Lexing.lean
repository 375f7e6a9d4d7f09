import JavaNames.Lexeme
import JavaNames.Proofs.CharacterClasses
import JavaNames.Proofs.General

/-!
# Lexing

What is written of a token is cut off as this token: punctuation before any text
(`Lexes.punctuation`), and a word before any text that does not go on with it (`Lexes.word`). Since
tokens do not depend on the place where a text stands, `Lexes` relates a text to its tokens at every
offset. The tokens that are cut off are legal (`Token.Legal`): keywords, literal words, punctuation
and legal identifiers.
-/

namespace JavaNames

/-! ## Legal tokens -/

/-- A token can stand before the end of a text: it is not the end, and no illegal identifier. -/
def Token.Legal : Token → Prop
  | .identifier w => isLegalIdentifier w = true
  | .eof => False
  | .keyword _ | .literal _ | .punctuation _ => True

/-- A legal token is not the end of a text. -/
theorem Token.Legal.ne_eof {t : Token} (h : t.Legal) : t ≠ .eof := by
  rintro rfl
  exact h

/-- The end of a text is not among the tokens before it. -/
theorem Token.eof_not_mem {ts : List Token} (h : ∀ t ∈ ts, t.Legal) : Token.eof ∉ ts :=
  fun heof => (h _ heof).ne_eof rfl

/-- The token of a word is legal if the word is spelled like an identifier. -/
theorem Token.legal_ofWord {w : Text} (h : hasIdentifierShape w = true) : (ofWord w).Legal := by
  unfold ofWord
  split
  · trivial
  · next hk =>
    split
    · trivial
    · next hl => simp [Legal, isLegalIdentifier, isReserved, h, hk, hl]

/-- A first character and the characters that continue it are spelled like an identifier. -/
theorem hasIdentifierShape_takeWhile {c : Char} (h : isIdentifierStart c = true) (cs : Text) :
    hasIdentifierShape (c :: cs.takeWhile isIdentifierPart) = true := by
  simp [hasIdentifierShape, h, List.all_takeWhile]

/-- The lexemes of a text are those of the text that stands at the beginning. -/
theorem lex_eq_ok_iff {t : Text} {lexemes : List Lexeme} :
    lex t = .ok lexemes ↔ lexFrom 0 t = .ok lexemes := by
  rw [lex]
  split
  · next h => simp [h]
  · next h => simp [h]

/-- A text without lexemes is reported with the character that is part of none. -/
theorem lex_eq_error_iff {t : Text} {d : Diagnostic} :
    lex t = .error d ↔ ∃ place c, lexFrom 0 t = .error (place, c) ∧
      d = .invalidCharacter c place "type name" t := by
  rw [lex]
  split
  · next h => simp [h]
  · next place c h =>
    rw [h]
    constructor
    · intro hd
      exact ⟨place, c, rfl, (Except.error.inj hd).symm⟩
    · rintro ⟨_, _, heq, rfl⟩
      obtain ⟨rfl, rfl⟩ := Prod.mk.inj (Except.error.inj heq)
      rfl

/-! ## Texts of given tokens -/

/-- A text is cut into the given tokens before its end, wherever it stands. -/
def Lexes (t : Text) (ts : List Token) : Prop :=
  ∀ offset, ∃ lexemes, lexFrom offset t = .ok lexemes ∧
    lexemes.map Lexeme.token = ts ++ [.eof]

/-- The first character of a text, if there is one, cannot continue an identifier. -/
def EndsWord (t : Text) : Prop :=
  ∀ c ∈ t.head?, isIdentifierPart c = false

@[simp] theorem endsWord_nil : EndsWord [] := by simp [EndsWord]

@[simp] theorem endsWord_cons {c : Char} {t : Text} :
    EndsWord (c :: t) ↔ isIdentifierPart c = false := by
  simp [EndsWord]

/-- A word ends where a text begins that does not go on with it. -/
theorem EndsWord.takeWhile_append {t : Text} (h : EndsWord t) {w : Text}
    (hw : w.all isIdentifierPart = true) :
    (w ++ t).takeWhile isIdentifierPart = w ∧ (w ++ t).dropWhile isIdentifierPart = t := by
  rw [List.all_eq_true] at hw
  obtain ⟨htake, hdrop⟩ : t.takeWhile isIdentifierPart = [] ∧ t.dropWhile isIdentifierPart = t :=
    takeWhile_append_of_head [] h
  rw [List.takeWhile_append_of_pos hw, List.dropWhile_append_of_pos hw, htake, hdrop]
  exact ⟨List.append_nil w, rfl⟩

/-- Where a word ends begins a text that does not go on with it. -/
theorem endsWord_dropWhile (t : Text) : EndsWord (t.dropWhile isIdentifierPart) :=
  eq_false_of_mem_head?_dropWhile

/-- A beginning of a text that does not go on with a word does not go on with it. -/
theorem EndsWord.of_append {s t : Text} (h : EndsWord (s ++ t)) : EndsWord s := by
  cases s with
  | nil => exact endsWord_nil
  | cons c s => exact h

/-- A word is cut off as a lexeme before any text that does not go on with it. -/
theorem lexFrom_word_append {w t : Text} (offset : Nat) (hw : hasIdentifierShape w = true)
    (ht : EndsWord t) : lexFrom offset (w ++ t) =
      (lexFrom (offset + byteLength w) t).map
        (⟨.ofWord w, ⟨offset, offset + byteLength w⟩⟩ :: ·) := by
  cases w with
  | nil => cases hw
  | cons c cs =>
    rw [hasIdentifierShape, Bool.and_eq_true] at hw
    obtain ⟨hc, hcs⟩ := hw
    have hpart := isIdentifierPart_of_start hc
    obtain ⟨htake, hdrop⟩ := ht.takeWhile_append hcs
    rw [List.cons_append, lexFrom_word (isWhiteSpace_of_isIdentifierPart hpart)
      (ofChar?_of_isIdentifierPart hpart) hc, htake, hdrop]

namespace Lexes

section
variable {t : Text} {ts : List Token}

theorem nil : Lexes [] [] := fun _ => ⟨_, lexFrom_nil, rfl⟩

/-- The tokens of a text that is at the beginning. -/
theorem lex (h : Lexes t ts) :
    ∃ lexemes, JavaNames.lex t = .ok lexemes ∧ lexemes.map Lexeme.token = ts ++ [.eof] := by
  obtain ⟨lexemes, hl, hts⟩ := h 0
  exact ⟨lexemes, lex_eq_ok_iff.2 hl, hts⟩

/-- A blank is no token. -/
theorem blank {c : Char} (hc : Unicode.isWhiteSpace c = true) (h : Lexes t ts) :
    Lexes (c :: t) ts := by
  intro offset
  rw [lexFrom_blank hc]
  exact h _

/-- Punctuation is a token before any text. -/
theorem punctuation (p : Punctuation) (h : Lexes t ts) :
    Lexes (p.symbol :: t) (.punctuation p :: ts) := by
  intro offset
  obtain ⟨lexemes, hl, hts⟩ := h (offset + p.symbol.utf8Size)
  rw [lexFrom_punctuation (isWhiteSpace_symbol p) (Punctuation.ofChar?_symbol p), hl]
  exact ⟨_, rfl, by simp [hts]⟩

/-- A word is a token before any text that does not go on with it. -/
theorem word {w : Text} (hw : hasIdentifierShape w = true) (ht : EndsWord t) (h : Lexes t ts) :
    Lexes (w ++ t) (.ofWord w :: ts) := by
  intro offset
  obtain ⟨lexemes, hl, hts⟩ := h (offset + byteLength w)
  rw [lexFrom_word_append offset hw ht, hl]
  exact ⟨_, rfl, by simp [hts]⟩

/-- A legal identifier is its token. -/
theorem identifier {w : Text} (hw : isLegalIdentifier w = true) (ht : EndsWord t)
    (h : Lexes t ts) : Lexes (w ++ t) (.identifier w :: ts) := by
  simp only [isLegalIdentifier, Bool.and_eq_true, Bool.not_eq_true'] at hw
  rw [← Token.ofWord_of_not_reserved hw.2]
  exact word hw.1 ht h

/-- A keyword is its token. -/
theorem keyword (k : Keyword) (ht : EndsWord t) (h : Lexes t ts) :
    Lexes (k.spelling.toList ++ t) (.keyword k :: ts) := by
  have hk : Token.ofWord k.spelling.toList = .keyword k := by simp [Token.ofWord]
  rw [← hk]
  exact word (hasIdentifierShape_keyword k) ht h

/-- A literal word is its token. -/
theorem literal (l : Literal) (ht : EndsWord t) (h : Lexes t ts) :
    Lexes (l.spelling.toList ++ t) (.literal l :: ts) := by
  have hl : Token.ofWord l.spelling.toList = .literal l := by cases l <;> decide +kernel
  rw [← hl]
  exact word (hasIdentifierShape_literal l) ht h

/-- A legal token is found again before any text that does not go on with a word. -/
theorem token {u : Token} (hu : u.Legal) (ht : EndsWord t) (h : Lexes t ts) :
    Lexes (u.spelling ++ t) (u :: ts) := by
  cases u with
  | keyword k => exact keyword k ht h
  | literal l => exact literal l ht h
  | punctuation p => exact punctuation p h
  | identifier w => exact identifier hu ht h
  | eof => exact absurd rfl hu.ne_eof

end

end Lexes

end JavaNames
