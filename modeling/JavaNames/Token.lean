import JavaNames.Identifier
import JavaNames.Vocabulary.Primitive
import JavaNames.Vocabulary.Punctuation

/-!
# Tokens

The symbols that a type name is made of: keywords, literal words, punctuation and identifiers, and the
end of the text, which is a token of its own. A word is a keyword or a literal word if it is spelled
like one, and an identifier otherwise; what its spelling is like is not looked at.
-/

namespace JavaNames

/-- A symbol of a type name. -/
inductive Token
  | keyword (k : Keyword)
  | literal (l : Literal)
  | punctuation (p : Punctuation)
  | identifier (word : Text)
  | eof
  deriving DecidableEq, Repr

namespace Token

/-- The token that a word is. -/
def ofWord (word : Text) : Token :=
  match Keyword.ofText? word with
  | some k => .keyword k
  | none =>
    match Literal.ofText? word with
    | some l => .literal l
    | none => .identifier word

/-- How a token is written. The end of the text is written as nothing. -/
def spelling : Token → Text
  | .keyword k => k.spelling.toList
  | .literal l => l.spelling.toList
  | .punctuation p => [p.symbol]
  | .identifier word => word
  | .eof => []

/-- How a token is named in messages. -/
def description : Token → String
  | .keyword k => "keyword '" ++ k.spelling ++ "'"
  | .literal l => "literal '" ++ l.spelling ++ "'"
  | .punctuation p => p.description
  | .identifier word => "identifier '" ++ String.ofList word ++ "'"
  | .eof => "end of input"

/-- The keyword of a keyword token. -/
def keyword? : Token → Option Keyword
  | .keyword k => some k
  | _ => none

/-- The primitive type that a token names. -/
def primitive? (t : Token) : Option Primitive :=
  t.keyword?.bind Primitive.ofKeyword?

/-- The text of an identifier token. -/
def identifier? : Token → Option Text
  | .identifier word => some word
  | _ => none

/-- Whether a token is a keyword or a literal word, and names no primitive type. -/
def isReservedWord : Token → Bool
  | .keyword k => (Primitive.ofKeyword? k).isNone
  | .literal _ => true
  | _ => false

/-- A word that is not reserved is an identifier. -/
theorem ofWord_of_not_reserved {word : Text} (h : isReserved word = false) :
    ofWord word = .identifier word := by
  simp only [isReserved, Bool.or_eq_false_iff, Option.isSome_eq_false_iff,
    Option.isNone_iff_eq_none] at h
  simp [ofWord, h]

/-- The spelling of the token of a word is the word. -/
@[simp] theorem spelling_ofWord (word : Text) : (ofWord word).spelling = word := by
  unfold ofWord
  split
  · next k h => exact (Keyword.ofText?_eq_some_iff.1 h).symm
  · split
    · next l h => exact (Literal.ofText?_eq_some_iff.1 h).symm
    · rfl

end Token

end JavaNames
