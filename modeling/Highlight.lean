import Highlight.Unicode.CodeSet
import Highlight.Unicode.Category
import Highlight.Unicode.Script
import Highlight.Unicode.Property
import Highlight.Unicode.Word
import Highlight.Unicode.CaseFold
import Highlight.Unicode.Lower
import Highlight.Unicode.Width
import Highlight.Unicode.Printable
import Highlight.Unicode.Age
import Highlight.Unicode.Boundary
import Highlight.Unicode.Alphanumeric
import Highlight.Regex.CharClass
import Highlight.Regex.ByteSequence
import Highlight.Regex.Syntax
import Highlight.Regex.Tree
import Highlight.Regex.Footprint
import Highlight.Regex.Property
import Highlight.Regex.Escape
import Highlight.Regex.Parse
import Highlight.Regex.Program
import Highlight.Regex.Search
import Highlight.Text.Subject
import Highlight.Error
import Highlight.Pattern
import Highlight.Style
import Highlight.Span
import Highlight.LineState
import Highlight.Quote
import Highlight.Text.Trim
import Highlight.Grammar.Basic
import Highlight.Grammar.Tokenize
import Highlight.Language
import Highlight.Grammar.Builtin
import Highlight.Toml.Value
import Highlight.Toml.Document
import Highlight.Toml.Read
import Highlight.Toml.Parse
import Highlight.Grammar.Table
import Highlight.Registry
import Highlight.LineCache
import Highlight.Settings
import Highlight.Text.Debug
import Highlight.Terminal
import Highlight.Cli
import Highlight.Main
import Highlight.Proofs.CacheAgreement
import Highlight.Proofs.Machine
import Highlight.Proofs.Fragment
import Highlight.Proofs.Backtrack
import Highlight.Proofs.Offsets
import Highlight.Proofs.MatchBounds
import Highlight.Proofs.QuoteAware
import Highlight.Proofs.SpanBounds
import Highlight.Proofs.RegistryInvariant
import Highlight.Proofs.StaleLines
import Highlight.Proofs.CommentScan
import Highlight.Proofs.LoopRounds
import Highlight.Proofs.Painting
import Highlight.Proofs.Registration
import Highlight.Proofs.SettingsSteps
import Highlight.Proofs.GrammarTables
import Highlight.Proofs.ExtensionKeys
import Highlight.Proofs.VisitedSet
import Highlight.Proofs.LeftmostFirst
import Highlight.Proofs.RangeSearch
import Highlight.Proofs.AsciiBytes
import Highlight.Proofs.FirstMatch
import Highlight.Proofs.AsciiClasses
import Highlight.Proofs.QuotedStrings
import Highlight.Proofs.NumberRule
import Highlight.Proofs.MinusRule
import Highlight.Proofs.ScriptOperators
import Highlight.Proofs.Completeness
import Highlight.Proofs.Keywords
import Highlight.Proofs.TerminalRuns
import Highlight.Proofs.Reads
import Highlight.Proofs.ConfigRules
import Highlight.Proofs.KeyValueLines
import Highlight.Proofs.MarkupRules
import Highlight.Proofs.MarkupTags
import Highlight.Proofs.TagSpans
import Highlight.Proofs.RegistrySpans
