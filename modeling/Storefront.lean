import Storefront.Service.Configuration
import Storefront.Service.Http
import Storefront.Marking
import Storefront.Proofs.Dictionary
import Storefront.Proofs.Json.Structure
import Storefront.Proofs.Document.Stripping
import Storefront.Proofs.Document.Validity
import Storefront.Proofs.Store.Collection
import Storefront.Proofs.Store.Outcome
import Storefront.Proofs.Store.Operation
import Storefront.Proofs.Store.Soundness
import Storefront.Proofs.Store.Concurrency
import Storefront.Proofs.Expansion.Obstruction
import Storefront.Proofs.Store.Atomicity
import Storefront.Proofs.Service.Deletion
import Storefront.Proofs.Store.Isolation
import Storefront.Proofs.Store.Request
import Storefront.Proofs.Json.Position
import Storefront.Proofs.Expansion.Agreement
import Storefront.Proofs.Expansion.Growth
import Storefront.Proofs.Expansion.Divergence
import Storefront.Proofs.Store.LastState
import Storefront.Proofs.Grammar.Reading
import Storefront.Proofs.Predicate.Derivation
import Storefront.Proofs.Predicate.Unambiguity
import Storefront.Proofs.Predicate.Completeness
import Storefront.Proofs.Predicate.Soundness
import Storefront.Proofs.Token.Lexing
import Storefront.Proofs.Predicate.Parsing
import Storefront.Proofs.Token.Quotation
import Storefront.Proofs.Token.Words
import Storefront.Proofs.Text.Classes
import Storefront.Proofs.Token.Layout
import Storefront.Proofs.Token.Numeral
import Storefront.Proofs.Predicate.Naming
import Storefront.Proofs.Predicate.Literals
import Storefront.Proofs.Filter.Derivation
import Storefront.Proofs.Filter.Completeness
import Storefront.Proofs.Filter.Soundness
import Storefront.Proofs.Filter.Parsing
import Storefront.Proofs.Filter.Lexemes
import Storefront.Proofs.Filter.Writing
import Storefront.Proofs.Json.Order
import Storefront.Proofs.Expansion.Filling
import Storefront.Proofs.Expansion.Independence
import Storefront.Proofs.Expansion.Decoration
import Storefront.Proofs.Expansion.Attachment
import Storefront.Proofs.Expansion.Strictness
import Storefront.Proofs.Store.Order
import Storefront.Proofs.Store.Expansion
import Storefront.Proofs.Store.Strictness
import Storefront.Proofs.Store.Paging
import Storefront.Proofs.Catalog.Paging
import Storefront.Proofs.Catalog.Marks
import Storefront.Proofs.Catalog.MarkedExpansion
import Storefront.Proofs.Catalog.Findings
import Storefront.Proofs.Variant.Marking
import Storefront.Proofs.Filter.Marking
import Storefront.Proofs.Query.Structure
import Storefront.Proofs.Query.Evaluation
import Storefront.Proofs.Query.Marking
import Storefront.Proofs.Query.Operands
import Storefront.Proofs.Query.Wire
import Storefront.Proofs.Query.Algebra
import Storefront.Proofs.Query.Intervals
import Storefront.Proofs.Token.Closing
import Storefront.Proofs.Predicate.Lexemes
import Storefront.Proofs.Predicate.Grouping
import Storefront.Proofs.Store.Conjunction
import Storefront.Proofs.Traversal
import Storefront.Proofs.Predicate.Parameters
import Storefront.Proofs.Store.Rejection
import Storefront.Proofs.Store.Failures
import Storefront.Proofs.Json.Path
import Storefront.Proofs.Predicate.Writing
import Storefront.Proofs.Filter.Membership
import Storefront.Proofs.Filter.Keywords
import Storefront.Proofs.Predicate.Binding
import Storefront.Proofs.Predicate.SetOperators
import Storefront.Proofs.Catalog.Staging
import Storefront.Proofs.Service.Addressing
import Storefront.Proofs.Service.Run
import Storefront.Proofs.Service.Health
import Storefront.Proofs.Service.Calls
import Storefront.Proofs.Service.Parameters
import Storefront.Proofs.Service.Merging
import Storefront.Proofs.Decimal.Rounding
import Storefront.Proofs.Query.Integers
import Storefront.Proofs.Text.Lowercase
import Storefront.Proofs.Query.LetterCase
import Storefront.Proofs.Grammar.Precedence
import Storefront.Proofs.Token.Segmentation
import Storefront.Proofs.Store.Listing
import Storefront.Proofs.Store.Keeping
import Storefront.Proofs.Decimal.Numeral
import Storefront.Proofs.Json.Composition
import Storefront.Proofs.Expansion.Syntax
import Storefront.Proofs.Json.Comparison
import Storefront.Proofs.Predicate.Comparisons
import Storefront.Proofs.Document.Calendar
import Storefront.Proofs.Document.Chronology
import Storefront.Proofs.Store.Stamps
import Storefront.Proofs.Query.Localization
import Storefront.Proofs.Grammar.Cursor
import Storefront.Proofs.Predicate.Programs
import Storefront.Proofs.Filter.Programs
import Storefront.Proofs.Grammar.Progress
import Storefront.Proofs.Text.Utf8
import Storefront.Proofs.Service.Uri
import Storefront.Proofs.Service.Body
import Storefront.Proofs.Service.Urls
