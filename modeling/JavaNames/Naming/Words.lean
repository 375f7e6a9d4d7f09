import JavaNames.Identifier
import JavaNames.Unicode.LetterCase

/-!
# Words

The words of a text are the stretches of it that a name can be built from. An underscore separates
words, and so does every character that cannot be part of an identifier; before the first word, so does
every character that cannot begin one. A word that is itself written in camel case consists of humps:
one begins where a capital follows a small letter, and at the last of several capitals if a small
letter follows it (`XMLFile` is `XML`, `File`).
-/

namespace JavaNames

/-! ## Words -/

/-- Whether a character can be part of a word. -/
def isWordPart (c : Char) : Bool :=
  isIdentifierPart c && c != '_'

/-- Whether a character can begin the first word of a text. -/
def isWordStart (c : Char) : Bool :=
  isIdentifierStart c && c != '_'

/-- The longest stretches of characters that can be parts of words. -/
def stretches : Text → List Text
  | [] => []
  | c :: cs =>
    if isWordPart c then
      (c :: cs.takeWhile isWordPart) :: stretches (cs.dropWhile isWordPart)
    else stretches cs
termination_by t => t.length
decreasing_by
  · exact Nat.lt_succ_of_le (length_dropWhile_le _ _)
  · simp

/-- The words of a text. -/
def words (t : Text) : List Text :=
  stretches (t.dropWhile fun c => !isWordStart c)

section
variable {c : Char} {cs : Text}

@[simp] theorem stretches_nil : stretches [] = [] := by
  rw [stretches]

/-- A stretch goes on as far as it can. -/
theorem stretches_cons_of_part (h : isWordPart c = true) :
    stretches (c :: cs) =
      (c :: cs.takeWhile isWordPart) :: stretches (cs.dropWhile isWordPart) := by
  rw [stretches, if_pos h]

/-- What is no part of a word is passed over. -/
theorem stretches_cons_of_not_part (h : isWordPart c = false) :
    stretches (c :: cs) = stretches cs := by
  rw [stretches, if_neg (by simp [h])]

end

/-! ## Humps -/

/-- Whether a hump begins at a character, given the characters around it. -/
def isHumpStart (before c : Char) (after : Option Char) : Bool :=
  (Unicode.isLowercase before && Unicode.isUppercase c) ||
    (Unicode.isUppercase before && Unicode.isUppercase c && after.any Unicode.isLowercase)

/-- The humps of a word. -/
def humps : Text → List Text
  | [] => []
  | [c] => [[c]]
  | c :: d :: cs =>
    if isHumpStart c d cs.head? then [c] :: humps (d :: cs)
    else (humps (d :: cs)).modifyHead (c :: ·)

end JavaNames
