import Treegram.Builtin.Blocks
import Treegram.Builtin.Commands
import Treegram.Builtin.Declarations
import Treegram.Builtin.Grammar
import Treegram.Builtin.Load
import Treegram.Builtin.Notations
import Treegram.Builtin.Pieces
import Treegram.Builtin.Tactics
import Treegram.Builtin.Terms
import Treegram.Builtin.Words
import Treegram.Command
import Treegram.Command.Arguments
import Treegram.Event
import Treegram.Grammar.Basic
import Treegram.Grammar.Defect
import Treegram.Grammar.Draft
import Treegram.Grammar.Reach
import Treegram.Grammar.Reader
import Treegram.Grammar.Written
import Treegram.Json.Decimal
import Treegram.Json.Quoted
import Treegram.Json.Reader
import Treegram.Json.Scalar
import Treegram.Json.Token
import Treegram.Json.Value
import Treegram.Language.Basic
import Treegram.Language.Load
import Treegram.Language.Matcher
import Treegram.Language.Numbering
import Treegram.Language.Symbol
import Treegram.Language.TokenSource
import Treegram.Language.Unavailable
import Treegram.Ordered
import Treegram.Pattern.Bracket
import Treegram.Pattern.CharSet
import Treegram.Pattern.Escape
import Treegram.Pattern.Expr
import Treegram.Pattern.Flags
import Treegram.Pattern.Footprint
import Treegram.Pattern.Marked
import Treegram.Pattern.Outline
import Treegram.Pattern.Reader
import Treegram.Pattern.Term
import Treegram.Proofs.Builtin.Grammar
import Treegram.Proofs.Builtin.Lexing
import Treegram.Proofs.Builtin.Names
import Treegram.Proofs.Builtin.Strings
import Treegram.Proofs.Grammar.Assembly
import Treegram.Proofs.Grammar.History
import Treegram.Proofs.Grammar.LeftRecursion
import Treegram.Proofs.Grammar.Reachability
import Treegram.Proofs.Grammar.Reference
import Treegram.Proofs.Grammar.Respelling
import Treegram.Proofs.Grammar.RoundTrip
import Treegram.Proofs.Grammar.Verdict
import Treegram.Proofs.Grammar.Written
import Treegram.Proofs.Json.ByteReader
import Treegram.Proofs.Json.Decimal
import Treegram.Proofs.Json.Lexeme
import Treegram.Proofs.Json.Quoted
import Treegram.Proofs.Json.Reading
import Treegram.Proofs.Json.Rewriting
import Treegram.Proofs.Json.RowTagging
import Treegram.Proofs.Json.Segments
import Treegram.Proofs.Json.Spelling
import Treegram.Proofs.Json.Strict
import Treegram.Proofs.Json.Tagging
import Treegram.Proofs.Json.Tree
import Treegram.Proofs.Json.TreeTagging
import Treegram.Proofs.Language.Acceptance
import Treegram.Proofs.Language.Aliases
import Treegram.Proofs.Language.Contents
import Treegram.Proofs.Language.Externals
import Treegram.Proofs.Language.Fields
import Treegram.Proofs.Language.InlineTokens
import Treegram.Proofs.Language.Layout
import Treegram.Proofs.Language.Lexing
import Treegram.Proofs.Language.LongestMatch
import Treegram.Proofs.Language.Moves
import Treegram.Proofs.Language.Pairs
import Treegram.Proofs.Language.PatternVerdict
import Treegram.Proofs.Language.Phases
import Treegram.Proofs.Language.References
import Treegram.Proofs.Language.Refusals
import Treegram.Proofs.Language.RuleOrder
import Treegram.Proofs.Language.RuleSymbols
import Treegram.Proofs.Language.StartRule
import Treegram.Proofs.Language.Steps
import Treegram.Proofs.Language.Supertypes
import Treegram.Proofs.Language.Table
import Treegram.Proofs.Language.TokenMeaning
import Treegram.Proofs.Language.TokenSource
import Treegram.Proofs.Language.Tokens
import Treegram.Proofs.Language.Uses
import Treegram.Proofs.Pattern.Classes
import Treegram.Proofs.Pattern.Escaping
import Treegram.Proofs.Pattern.Folding
import Treegram.Proofs.Pattern.Frames
import Treegram.Proofs.Pattern.Judging
import Treegram.Proofs.Pattern.Lexemes
import Treegram.Proofs.Pattern.Locality
import Treegram.Proofs.Pattern.Matching
import Treegram.Proofs.Pattern.Meaning
import Treegram.Proofs.Pattern.Progress
import Treegram.Proofs.Pattern.Reading
import Treegram.Proofs.Pattern.Room
import Treegram.Proofs.Pattern.TextSet
import Treegram.Proofs.Pattern.Translation
import Treegram.Proofs.Scan.Cursor
import Treegram.Proofs.Scan.Offsets
import Treegram.Proofs.Scan.RawString
import Treegram.Proofs.Scan.Scanning
import Treegram.Proofs.Unicode.ByteOrder
import Treegram.Rule.Basic
import Treegram.Rule.Combinators
import Treegram.Scan.Cursor
import Treegram.Scan.RawString
import Treegram.Unicode.Alphabetic
import Treegram.Unicode.Boundaries
import Treegram.Unicode.Letter
import Treegram.Unicode.Mark
import Treegram.Unicode.Number
import Treegram.Unicode.Property
import Treegram.Unicode.Punctuation
import Treegram.Unicode.Ranges
import Treegram.Unicode.Separator
import Treegram.Unicode.SimpleFold
import Treegram.Unicode.Symbol
import Treegram.Unicode.Utf8
import Treegram.Main
