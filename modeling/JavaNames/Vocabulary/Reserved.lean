import JavaNames.Vocabulary.Keyword
import JavaNames.Vocabulary.Literal

/-!
# Reserved words

The words that no identifier may be spelled like: the keywords and the literal words.
-/

namespace JavaNames

/-- All reserved words: the keywords, then the literal words. -/
def reservedWords : List String :=
  Keyword.all.map Keyword.spelling ++ Literal.all.map Literal.spelling

/-- Whether a word is a keyword or a literal word. -/
def isReserved (word : Text) : Bool :=
  (Keyword.ofText? word).isSome || (Literal.ofText? word).isSome

/-- A word is reserved exactly if it is one of the listed words. -/
theorem isReserved_iff_mem {word : Text} :
    isReserved word = true ↔ word ∈ reservedWords.map String.toList := by
  simp only [isReserved, Bool.or_eq_true, Option.isSome_iff_exists, Keyword.ofText?_eq_some_iff,
    Literal.ofText?_eq_some_iff]
  simp [reservedWords, eq_comm]

end JavaNames
