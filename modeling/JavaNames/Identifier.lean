import JavaNames.Diagnostic
import JavaNames.Unicode.Alphabetic
import JavaNames.Unicode.Numeric
import JavaNames.Vocabulary.Reserved

/-!
# Identifiers

An identifier begins with a letter, a dollar sign or an underscore, goes on with those and with
numbers, and is no reserved word. `Identifier.parse` accepts exactly these texts and names the first
rule that another text breaks: there must be a character, the first one must be able to begin an
identifier, the others must be able to continue one, and the whole must not be reserved.

An `Identifier` is any text in the role of a name. That the names which reach a type name are legal is
a property of the operations, stated about them and not built into the type.
-/

namespace JavaNames

/-! ## Characters -/

/-- Whether a character can begin an identifier. -/
def isIdentifierStart (c : Char) : Bool :=
  Unicode.isAlphabetic c || c == '$' || c == '_'

/-- Whether a character can continue an identifier. -/
def isIdentifierPart (c : Char) : Bool :=
  isIdentifierStart c || Unicode.isNumeric c

/-- What can begin an identifier can continue one. -/
theorem isIdentifierPart_of_start {c : Char} (h : isIdentifierStart c = true) :
    isIdentifierPart c = true := by
  simp [isIdentifierPart, h]

/-! ## Texts -/

/-- Whether a text is spelled like an identifier, be it reserved or not. -/
def hasIdentifierShape : Text → Bool
  | [] => false
  | c :: cs => isIdentifierStart c && cs.all isIdentifierPart

/-- Whether a text can be used as an identifier. -/
def isLegalIdentifier (t : Text) : Bool :=
  hasIdentifierShape t && !isReserved t

/-- The first character that cannot continue an identifier, with its byte offset in a text whose
first character stands at `offset`. -/
def firstNonPart? (offset : Nat) : Text → Option (Nat × Char)
  | [] => none
  | c :: cs =>
    if isIdentifierPart c then firstNonPart? (offset + c.utf8Size) cs else some (offset, c)

@[simp] theorem firstNonPart?_eq_none_iff {t : Text} {offset : Nat} :
    firstNonPart? offset t = none ↔ t.all isIdentifierPart = true := by
  induction t generalizing offset with
  | nil => simp [firstNonPart?]
  | cons c cs ih => by_cases h : isIdentifierPart c <;> simp [firstNonPart?, h, ih]

/-- The first rule for identifiers that a text breaks, if it breaks one. -/
def identifierDefect? : Text → Option Diagnostic
  | [] => some (.empty "identifier" [])
  | c :: cs =>
    if !isIdentifierStart c then some (.invalidStart c (c :: cs))
    else
      match firstNonPart? c.utf8Size cs with
      | some (offset, d) => some (.invalidCharacter d offset "identifier" (c :: cs))
      | none =>
        if isReserved (c :: cs) then
          some ((Fault.reservedWord (c :: cs)).within (.whole (c :: cs)) (c :: cs))
        else none

/-- The legal identifiers are the texts without a defect. -/
theorem identifierDefect?_eq_none_iff {t : Text} :
    identifierDefect? t = none ↔ isLegalIdentifier t = true := by
  cases t with
  | nil => simp [identifierDefect?, isLegalIdentifier, hasIdentifierShape]
  | cons c cs =>
    by_cases hc : isIdentifierStart c = true
    · cases h : firstNonPart? c.utf8Size cs with
      | none =>
        have := firstNonPart?_eq_none_iff.1 h
        simp [identifierDefect?, isLegalIdentifier, hasIdentifierShape, hc, h, this]
      | some x =>
        have : ¬ cs.all isIdentifierPart = true := fun h' => by
          rw [firstNonPart?_eq_none_iff.2 h'] at h
          cases h
        simp [identifierDefect?, isLegalIdentifier, hasIdentifierShape, hc, h, this]
    · simp [identifierDefect?, isLegalIdentifier, hasIdentifierShape, hc]

/-! ## Names -/

/-- A text in the role of a name. -/
structure Identifier where
  text : Text
  deriving DecidableEq, Repr

namespace Identifier

/-- Reads a text as an identifier. -/
def parse (t : Text) : Except Diagnostic Identifier :=
  match identifierDefect? t with
  | some d => .error d
  | none => .ok ⟨t⟩

/-- The identifier with a text that the caller knows to be legal. -/
def ofKnownLegal (t : Text) : Except Violation Identifier :=
  match identifierDefect? t with
  | some d => .error (.illegalIdentifier d)
  | none => .ok ⟨t⟩

/-- Reading accepts the legal identifiers, and keeps their text. -/
theorem parse_eq_ok_iff {t : Text} {x : Identifier} :
    parse t = .ok x ↔ isLegalIdentifier t = true ∧ x = ⟨t⟩ := by
  rw [← identifierDefect?_eq_none_iff, parse]
  cases identifierDefect? t <;> simp [eq_comm]

/-- A promise about a text is kept exactly if the text is legal. -/
theorem ofKnownLegal_eq_ok_iff {t : Text} {x : Identifier} :
    ofKnownLegal t = .ok x ↔ isLegalIdentifier t = true ∧ x = ⟨t⟩ := by
  rw [← identifierDefect?_eq_none_iff, ofKnownLegal]
  cases identifierDefect? t <;> simp [eq_comm]

end Identifier

end JavaNames
