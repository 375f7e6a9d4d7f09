import JavaNames.Unicode.Alphabetic
import JavaNames.Unicode.Numeric

/-!
# Line breaks

Where a line of a report can end. Characters are classified by how they behave at the ends of a line,
and two neighbours are kept together or not by their classes (`breaksBetween`), or, with blanks between
them, by fewer rules (`breaksAtBlanks`): a closing bracket does not begin a line, and nothing is parted
from an opening bracket before it, whatever blanks there are. After a hyphen a line can end only inside
a compound word, so a sign in front of a number stays with it.

The classes are those of printable ASCII characters; all others are treated like letters. The rules
stand for those of the third-party library that lays reports out; no theorem is about them.
-/

namespace JavaNames

/-- How a character behaves at the ends of a line. -/
inductive BreakClass
  | letter
  | digit
  /-- An opening bracket. -/
  | opening
  /-- A closing brace. -/
  | closing
  /-- A closing parenthesis or square bracket, which stays with a word after it. -/
  | closingParenthesis
  | quotation
  | exclamation
  /-- A comma or a point. -/
  | separator
  | slash
  | hyphen
  | bar
  /-- A sign in front of a number. -/
  | leadingSign
  /-- A sign after a number. -/
  | trailingSign
  deriving DecidableEq, Repr

namespace BreakClass

/-- The class of a character that is no blank. -/
def ofChar (c : Char) : BreakClass :=
  match c with
  | '(' | '[' | '{' => .opening
  | '}' => .closing
  | ')' | ']' => .closingParenthesis
  | '"' | '\'' => .quotation
  | '!' | '?' => .exclamation
  | ',' | '.' | ':' | ';' => .separator
  | '/' => .slash
  | '-' => .hyphen
  | '|' => .bar
  | '$' | '+' | '\\' => .leadingSign
  | '%' => .trailingSign
  | _ => if c.isDigit then .digit else .letter

/-- Whether a character cannot begin a line, not even after blanks. -/
def neverBegins : BreakClass → Bool
  | .closing | .closingParenthesis | .exclamation | .separator | .slash => true
  | _ => false

/-- Whether a line can end at the blanks between two characters. -/
def breaksAtBlanks : BreakClass → BreakClass → Bool
  | .opening, _ => false
  | .quotation, .opening => false
  | _, b => !b.neverBegins

/-- Whether a line can end between two neighbours. -/
def breaksBetween : BreakClass → BreakClass → Bool
  | .opening, _ | .quotation, _ => false
  | _, .quotation | _, .bar | _, .hyphen => false
  | .letter, .letter | .letter, .digit | .digit, .letter | .digit, .digit => false
  | .letter, .leadingSign | .letter, .trailingSign | .letter, .opening => false
  | .digit, .leadingSign | .digit, .trailingSign | .digit, .opening => false
  | .leadingSign, .letter | .leadingSign, .digit | .leadingSign, .opening => false
  | .trailingSign, .letter | .trailingSign, .digit | .trailingSign, .opening => false
  | .closing, .leadingSign | .closing, .trailingSign => false
  | .closingParenthesis, .leadingSign | .closingParenthesis, .trailingSign => false
  | .closingParenthesis, .letter | .closingParenthesis, .digit => false
  | .separator, .letter | .separator, .digit => false
  | .slash, .digit | .hyphen, .digit => false
  | _, b => !b.neverBegins

end BreakClass

/-- Whether a character can be part of a compound word, beside its hyphens. -/
def isCompoundPart (c : Char) : Bool :=
  Unicode.isAlphabetic c || Unicode.isNumeric c

/-- Whether a line can end before the character `next`, given the last character before it that is no
blank, the character `before` that one, and the number of blanks between `last` and `next`. -/
def canBreak (before last : Option Char) (blanks : Nat) (next : Char) : Bool :=
  match last, blanks with
  | none, 0 => false
  | none, _ + 1 => !(BreakClass.ofChar next).neverBegins
  | some '-', 0 => before.any isCompoundPart && isCompoundPart next
  | some c, 0 => (BreakClass.ofChar c).breaksBetween (.ofChar next)
  | some c, _ + 1 => (BreakClass.ofChar c).breaksAtBlanks (.ofChar next)

end JavaNames
