import JavaNames.Token
import JavaNames.Unicode.WhiteSpace

/-!
# Lexemes

A lexeme is a token together with its place in a text. `lex` cuts a text into lexemes: blanks are
passed over, punctuation stands for itself, and a character that can begin an identifier opens a word,
which goes on as far as characters can continue it. Any other character ends the reading. The last
lexeme is the end of the text, an empty one.
-/

namespace JavaNames

/-- A token and where it stands. -/
structure Lexeme where
  token : Token
  span : Span
  deriving DecidableEq, Repr

/-- The lexemes of a text whose first character stands at `offset`, or the first character that is
part of no lexeme, with its offset. -/
def lexFrom (offset : Nat) : Text → Except (Nat × Char) (List Lexeme)
  | [] => .ok [⟨.eof, .point offset⟩]
  | c :: cs =>
    if Unicode.isWhiteSpace c then lexFrom (offset + c.utf8Size) cs
    else
      match Punctuation.ofChar? c with
      | some p =>
        (lexFrom (offset + c.utf8Size) cs).map (⟨.punctuation p, .ofChar offset c⟩ :: ·)
      | none =>
        if isIdentifierStart c then
          let word := c :: cs.takeWhile isIdentifierPart
          let stop := offset + byteLength word
          (lexFrom stop (cs.dropWhile isIdentifierPart)).map (⟨.ofWord word, ⟨offset, stop⟩⟩ :: ·)
        else .error (offset, c)
termination_by t => t.length
decreasing_by
  · simp
  · simp
  · exact Nat.lt_succ_of_le (length_dropWhile_le _ _)

/-- The lexemes of a text. -/
def lex (t : Text) : Except Diagnostic (List Lexeme) :=
  match lexFrom 0 t with
  | .ok lexemes => .ok lexemes
  | .error (offset, c) => .error (.invalidCharacter c offset "type name" t)

section
variable {offset : Nat} {c : Char} {cs : Text}

@[simp] theorem lexFrom_nil : lexFrom offset [] = .ok [⟨.eof, .point offset⟩] := by
  rw [lexFrom]

/-- A blank is passed over. -/
theorem lexFrom_blank (h : Unicode.isWhiteSpace c = true) :
    lexFrom offset (c :: cs) = lexFrom (offset + c.utf8Size) cs := by
  rw [lexFrom, if_pos h]

/-- Punctuation is a lexeme of one character. -/
theorem lexFrom_punctuation {p : Punctuation} (h : Unicode.isWhiteSpace c = false)
    (hp : Punctuation.ofChar? c = some p) :
    lexFrom offset (c :: cs) =
      (lexFrom (offset + c.utf8Size) cs).map (⟨.punctuation p, .ofChar offset c⟩ :: ·) := by
  rw [lexFrom, if_neg (by simp [h]), hp]

/-- A word goes on as far as characters can continue it. -/
theorem lexFrom_word (h : Unicode.isWhiteSpace c = false) (hp : Punctuation.ofChar? c = none)
    (hs : isIdentifierStart c = true) :
    lexFrom offset (c :: cs) =
      (lexFrom (offset + byteLength (c :: cs.takeWhile isIdentifierPart))
        (cs.dropWhile isIdentifierPart)).map
        (⟨.ofWord (c :: cs.takeWhile isIdentifierPart),
          ⟨offset, offset + byteLength (c :: cs.takeWhile isIdentifierPart)⟩⟩ :: ·) := by
  rw [lexFrom, if_neg (by simp [h]), hp]
  simp only [hs, if_true]

/-- A character that begins no lexeme ends the reading. -/
theorem lexFrom_invalid (h : Unicode.isWhiteSpace c = false) (hp : Punctuation.ofChar? c = none)
    (hs : isIdentifierStart c = false) : lexFrom offset (c :: cs) = .error (offset, c) := by
  rw [lexFrom, if_neg (by simp [h]), hp]
  simp [hs]

end

end JavaNames
