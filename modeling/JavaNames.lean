import JavaNames.Unicode.Alphabetic
import JavaNames.Unicode.Numeric
import JavaNames.Unicode.WhiteSpace
import JavaNames.Unicode.LetterCase
import JavaNames.Unicode.CaseMapping
import JavaNames.Text
import JavaNames.Vocabulary.Keyword
import JavaNames.Vocabulary.Literal
import JavaNames.Vocabulary.Primitive
import JavaNames.Vocabulary.Punctuation
import JavaNames.Vocabulary.Reserved
import JavaNames.Diagnostic
import JavaNames.Identifier
import JavaNames.IdentifierSet
import JavaNames.Lexeme
import JavaNames.TypeName
import JavaNames.TypeName.Dimensions
import JavaNames.TypeName.Display
import JavaNames.TypeName.Reference
import JavaNames.TypeName.Limits
import JavaNames.TypeName.Reading
import JavaNames.TypeName.Tokens
import JavaNames.Naming.Convention
import JavaNames.Naming.Normalize
import JavaNames.Report
import JavaNames.TypeName.Assembly
import JavaNames.TypeName.Projections
import JavaNames.Proofs.General
import JavaNames.Proofs.CharacterClasses
import JavaNames.Proofs.Lexing
import JavaNames.Proofs.Reading.Steps
import JavaNames.Proofs.Reading.Spelling
import JavaNames.Proofs.Reading.Grammar
import JavaNames.Proofs.RoundTrip
import JavaNames.Proofs.Unicode.Marks
import JavaNames.Proofs.Unicode.CaseForms
import JavaNames.Proofs.Naming.Words
import JavaNames.Proofs.Naming.Joining
import JavaNames.Proofs.Naming.Normalize
import JavaNames.Proofs.Naming.Settled
import JavaNames.Proofs.Naming.Idempotence
import JavaNames.Proofs.Lexing.Tiling
import JavaNames.Proofs.Reading.Faults
import JavaNames.Proofs.Reading.Prefixes
import JavaNames.Proofs.Reading.Nesting
import JavaNames.Proofs.Naming.CamelCase
import JavaNames.Proofs.Spacing
import JavaNames.Proofs.Construction
import JavaNames.Proofs.Reading.Kinds
import JavaNames.Proofs.BinaryName
import JavaNames.Proofs.Reading.Blanks
import JavaNames.Proofs.Identifier
import JavaNames.Proofs.Placement
import JavaNames.Proofs.Naming.Capitals
import JavaNames.Proofs.Naming.Interchange
import JavaNames.Proofs.Lexing.Strays
import JavaNames.Proofs.Lexing.Separators
import JavaNames.Proofs.Lexing.Lossless
import JavaNames.Proofs.Naming.Underscores
import JavaNames.Proofs.Naming.Shape
import JavaNames.Proofs.Naming.Gaps
import JavaNames.Proofs.ShortNames
import JavaNames.Proofs.Dimensions
import JavaNames.TypeName.Descent
import JavaNames.Proofs.Descent.Steps
import JavaNames.Proofs.Descent.Calls
import JavaNames.Proofs.Descent.Agreement
import JavaNames.Proofs.Descent.Halting
