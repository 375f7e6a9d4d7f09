import JavaNames.Identifier
import JavaNames.Unicode.WhiteSpace
import JavaNames.Vocabulary.Punctuation

/-!
# Classes of characters

Blanks, punctuation and the characters of identifiers have no character in common. The tables of
Unicode settle this by evaluation over the few blanks and the seven punctuation characters; whatever
rests on it reads no table again. Keywords and literal words are spelled like identifiers.
-/

namespace JavaNames

/-! ## Disjoint classes -/

/-- A blank is no letter, no number, and none of the two symbols of identifiers. -/
theorem isIdentifierPart_of_isWhiteSpace {c : Char} (h : Unicode.isWhiteSpace c = true) :
    isIdentifierPart c = false := by
  have key : ∀ r ∈ Unicode.whiteSpaceRuns, ∀ n ∈ r.toList,
      isIdentifierPart (Char.ofNat n) = false := by decide +kernel
  obtain ⟨r, hr, hc⟩ := Unicode.exists_run_of_covers h
  simpa using key r hr _ (Unicode.Run.mem_toList_of_contains hc)

/-- A punctuation character is no part of an identifier. -/
@[simp] theorem isIdentifierPart_symbol (p : Punctuation) : isIdentifierPart p.symbol = false := by
  cases p <;> decide +kernel

/-- A punctuation character is no blank. -/
@[simp] theorem isWhiteSpace_symbol (p : Punctuation) :
    Unicode.isWhiteSpace p.symbol = false := by
  cases p <;> decide +kernel

/-- A space is a blank. -/
@[simp] theorem isWhiteSpace_space : Unicode.isWhiteSpace ' ' = true := by decide +kernel

section
variable {c : Char} (h : isIdentifierPart c = true)
include h

/-- A character of an identifier is no blank. -/
theorem isWhiteSpace_of_isIdentifierPart : Unicode.isWhiteSpace c = false := by
  rw [Bool.eq_false_iff]
  intro hw
  rw [isIdentifierPart_of_isWhiteSpace hw] at h
  cases h

/-- A character of an identifier is no punctuation. -/
theorem ofChar?_of_isIdentifierPart : Punctuation.ofChar? c = none := by
  rw [Punctuation.ofChar?_eq_none_iff]
  rintro p rfl
  rw [isIdentifierPart_symbol] at h
  cases h

end

/-! ## Reserved words -/

/-- Every keyword is spelled like an identifier. -/
@[simp] theorem hasIdentifierShape_keyword (k : Keyword) :
    hasIdentifierShape k.spelling.toList = true := by
  have h : ∀ k ∈ Keyword.all, hasIdentifierShape k.spelling.toList = true := by decide +kernel
  exact h k k.mem_all

/-- Every literal word is spelled like an identifier. -/
@[simp] theorem hasIdentifierShape_literal (l : Literal) :
    hasIdentifierShape l.spelling.toList = true := by
  cases l <;> decide +kernel

end JavaNames
