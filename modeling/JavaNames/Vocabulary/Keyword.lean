import JavaNames.Text
import JavaNames.Vocabulary.Section

/-!
# Keywords

The fifty reserved keywords of the language, in alphabetical order, each with its spelling and the
role it plays. A keyword is recognized by its exact spelling: there are no aliases, and case matters.
-/

namespace JavaNames

/-- A reserved keyword. -/
inductive Keyword
  | «abstract» | assert | boolean | «break» | byte | case | «catch» | char | «class» | const
  | «continue» | default | «do» | double | «else» | enum | «extends» | final | finally | float
  | «for» | goto | «if» | implements | «import» | instanceof | int | interface | long | native
  | new | package | «private» | «protected» | «public» | «return» | short | static | strictfp
  | super | switch | synchronized | this | throw | throws | transient | «try» | void | volatile
  | while
  deriving DecidableEq, Repr

/-- The role of a keyword. A `typeRelation` relates one type to another, and an `unused` keyword is
reserved without a meaning in the grammar. -/
inductive KeywordCategory
  | modifier
  | declaration
  | statement
  | expression
  | typeRelation
  | primitiveType
  | unused
  deriving DecidableEq, Repr

namespace Keyword

/-- All keywords, in alphabetical order. -/
def all : List Keyword :=
  [.«abstract», .assert, .boolean, .«break», .byte, .case, .«catch», .char, .«class», .const,
   .«continue», .default, .«do», .double, .«else», .enum, .«extends», .final, .finally, .float,
   .«for», .goto, .«if», .implements, .«import», .instanceof, .int, .interface, .long, .native,
   .new, .package, .«private», .«protected», .«public», .«return», .short, .static, .strictfp,
   .super, .switch, .synchronized, .this, .throw, .throws, .transient, .«try», .void, .volatile,
   .while]

/-- The spelling of a keyword. -/
def spelling : Keyword → String
  | .«abstract» => "abstract"
  | .assert => "assert"
  | .boolean => "boolean"
  | .«break» => "break"
  | .byte => "byte"
  | .case => "case"
  | .«catch» => "catch"
  | .char => "char"
  | .«class» => "class"
  | .const => "const"
  | .«continue» => "continue"
  | .default => "default"
  | .«do» => "do"
  | .double => "double"
  | .«else» => "else"
  | .enum => "enum"
  | .«extends» => "extends"
  | .final => "final"
  | .finally => "finally"
  | .float => "float"
  | .«for» => "for"
  | .goto => "goto"
  | .«if» => "if"
  | .implements => "implements"
  | .«import» => "import"
  | .instanceof => "instanceof"
  | .int => "int"
  | .interface => "interface"
  | .long => "long"
  | .native => "native"
  | .new => "new"
  | .package => "package"
  | .«private» => "private"
  | .«protected» => "protected"
  | .«public» => "public"
  | .«return» => "return"
  | .short => "short"
  | .static => "static"
  | .strictfp => "strictfp"
  | .super => "super"
  | .switch => "switch"
  | .synchronized => "synchronized"
  | .this => "this"
  | .throw => "throw"
  | .throws => "throws"
  | .transient => "transient"
  | .«try» => "try"
  | .void => "void"
  | .volatile => "volatile"
  | .while => "while"

/-- The role of a keyword. -/
def category : Keyword → KeywordCategory
  | .«abstract» | .final | .native | .«private» | .«protected» | .«public» | .static | .strictfp |
    .synchronized | .transient | .volatile => .modifier
  | .«class» | .enum | .«import» | .interface | .package | .throws | .void => .declaration
  | .assert | .«break» | .case | .«catch» | .«continue» | .default | .«do» | .«else» | .finally |
    .«for» | .«if» | .«return» | .switch | .throw | .«try» | .while => .statement
  | .instanceof | .new | .this => .expression
  | .«extends» | .implements | .super => .typeRelation
  | .boolean | .byte | .char | .double | .float | .int | .long | .short => .primitiveType
  | .const | .goto => .unused

/-- Every keyword is defined in the section on keywords. -/
def definedIn (_ : Keyword) : Section :=
  .keywords

/-- The keyword that a word spells. -/
def ofText? (word : Text) : Option Keyword :=
  all.find? fun k => k.spelling.toList == word

@[simp] theorem mem_all (k : Keyword) : k ∈ all := by
  cases k <;> decide

@[simp] theorem ofText?_spelling (k : Keyword) : ofText? k.spelling.toList = some k := by
  have h : ∀ k ∈ all, ofText? k.spelling.toList = some k := by decide +kernel
  exact h k k.mem_all

/-- A keyword is recognized by its spelling and by nothing else. -/
theorem ofText?_eq_some_iff {word : Text} {k : Keyword} :
    ofText? word = some k ↔ word = k.spelling.toList := by
  refine ⟨fun h => ?_, fun h => h ▸ ofText?_spelling k⟩
  have := List.find?_some h
  exact (beq_iff_eq.1 this).symm

end Keyword

end JavaNames
