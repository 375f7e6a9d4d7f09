import JavaNames.Naming.Words
import JavaNames.Unicode.CaseMapping

/-!
# Joining words

Words are joined to one text in one of two ways. In the way of constants and of lower-case names each
hump is recased as a whole, with underscores between the humps (`joinSnake`). In the way of camel case
the words follow each other without a separator, and capitals show where they begin (`joinCamel`).

The case mapping of a character may be a sequence, and may hold marks that no identifier begins with.
Of each mapped character only what can stand at its place is written (`writable`).

A capital in the middle of camel case stands between two small letters. If there is one word, its
capitals stay where the text written so far ends in a small letter and a small letter follows in the
word; of several words each begins with a capital under the same condition, and the rest of it is in
small letters. The text written so far matters only by its last character.
-/

namespace JavaNames

/-- What can be written of a text: after other text, the characters that can continue an identifier;
at the beginning, those from the first one on that can begin one. -/
def writable (continued : Bool) (t : Text) : Text :=
  (if continued then t else t.dropWhile fun c => !isIdentifierStart c).filter isIdentifierPart

/-! ## Underscores -/

/-- The recased parts with underscores between them. Nothing is written for a part of which nothing
can be written. -/
def joinSnake (recase : Char → Text) (continued : Bool) : List Text → Text
  | [] => []
  | part :: parts =>
    match writable continued (part.flatMap recase) with
    | [] => joinSnake recase continued parts
    | c :: cs =>
      (if continued then '_' :: c :: cs else c :: cs) ++ joinSnake recase true parts

/-! ## Camel case -/

/-- The last character of a text that has been continued by another one. -/
def lastWritten (before : Option Char) (t : Text) : Option Char :=
  t.getLast?.or before

/-- Whether the next character follows a small letter. -/
def afterSmall (last : Option Char) : Bool :=
  last.any Unicode.isLowercase

/-- The characters of a word after its first one, in small letters. If humps are kept, a capital stays
between two small letters. -/
def recaseTail (keepHumps : Bool) (last : Option Char) : Text → Text
  | [] => []
  | c :: cs =>
    let keeps := keepHumps && Unicode.isUppercase c && afterSmall last &&
      cs.head?.any Unicode.isLowercase
    let written := if keeps then [c] else writable last.isSome (Unicode.toLower c)
    written ++ recaseTail keepHumps (lastWritten last written) cs

/-- A word, beginning with a capital or with a small letter. -/
def recaseWord (keepHumps capital : Bool) (last : Option Char) : Text → Text
  | [] => []
  | c :: cs =>
    let written :=
      writable last.isSome (if capital then Unicode.toUpper c else Unicode.toLower c)
    written ++ recaseTail keepHumps (lastWritten last written) cs

/-- Whether a word after the first one begins with a capital: it does if it follows a small letter, and
its second character becomes a small letter. -/
def opensHump (last : Option Char) (word : Text) : Bool :=
  afterSmall last && word.tail.head?.any fun c => (Unicode.toLower c).all Unicode.isLowercase

/-- The words after the first one. -/
def joinRest (last : Option Char) : List Text → Text
  | [] => []
  | word :: rest =>
    let written := recaseWord false (opensHump last word) last word
    written ++ joinRest (lastWritten last written) rest

/-- Words in camel case, beginning with a capital or with a small letter. -/
def joinCamel (capital : Bool) : List Text → Text
  | [] => []
  | word :: rest =>
    let written := recaseWord rest.isEmpty capital none word
    written ++ joinRest written.getLast? rest

end JavaNames
