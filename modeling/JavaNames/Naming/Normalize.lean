import JavaNames.Naming.Convention
import JavaNames.Naming.Recasing

/-!
# Normalization

A text is normalized to an identifier by joining its words as a convention asks for. If the result is
spelled like a reserved word, an underscore in front of it makes it an identifier. There is no result
for a text without words.
-/

namespace JavaNames

/-- The words of a text, joined as a convention asks for. -/
def Convention.assemble (convention : Convention) (words : List Text) : Text :=
  match convention with
  | .camelCase => joinCamel true words
  | .methodName | .variableName => joinCamel false words
  | .upperCase | .constantName => joinSnake Unicode.toUpper false (words.flatMap humps)
  | .lowerCase => joinSnake Unicode.toLower false (words.flatMap humps)

/-- A text that is no reserved word. -/
def escape (t : Text) : Text :=
  if isReserved t then '_' :: t else t

/-- The identifier that a text is normalized to. -/
def normalize (convention : Convention) (t : Text) : Except Failure Identifier :=
  if t.isEmpty then .error (.rejected (.empty "text to normalize" t))
  else
    let assembled := convention.assemble (words t)
    if assembled.isEmpty then .error (.rejected (.noWords t))
    else
      match Identifier.ofKnownLegal (escape assembled) with
      | .ok x => .ok x
      | .error v => .error (.violated v)

end JavaNames
