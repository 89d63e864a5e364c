import TextCatalog.Main
import TextCatalog.Proofs.Traversal
import TextCatalog.Proofs.Text.Classes
import TextCatalog.Proofs.Text.Context
import TextCatalog.Proofs.Text.Folding
import TextCatalog.Proofs.Text.Normal
import TextCatalog.Proofs.Text.Padded
import TextCatalog.Proofs.Text.Utf8
import TextCatalog.Proofs.Instant.Calendar
import TextCatalog.Proofs.Instant.Column
import TextCatalog.Proofs.Instant.Short
import TextCatalog.Proofs.Json.Counts
import TextCatalog.Proofs.Json.Fields
import TextCatalog.Proofs.Json.Grammar
import TextCatalog.Proofs.Json.Leading
import TextCatalog.Proofs.Json.Length
import TextCatalog.Proofs.Json.Literal
import TextCatalog.Proofs.Json.RoundTrip
import TextCatalog.Proofs.Json.Unambiguity
import TextCatalog.Proofs.Record.Consistency
import TextCatalog.Proofs.Record.Document
import TextCatalog.Proofs.Record.FrequencyMap
import TextCatalog.Proofs.Record.Measures
import TextCatalog.Proofs.Record.Palindrome
import TextCatalog.Proofs.Record.Properties
import TextCatalog.Proofs.Filter.Document
import TextCatalog.Proofs.Filter.Params
import TextCatalog.Proofs.Filter.Validation
import TextCatalog.Proofs.Pattern.Extension
import TextCatalog.Proofs.Pattern.Occurrences
import TextCatalog.Proofs.Pattern.Openers
import TextCatalog.Proofs.Pattern.Prefers
import TextCatalog.Proofs.Pattern.Search
import TextCatalog.Proofs.Pattern.Spells
import TextCatalog.Proofs.Query.Addition
import TextCatalog.Proofs.Query.Clause
import TextCatalog.Proofs.Query.ClauseCue
import TextCatalog.Proofs.Query.ClauseLength
import TextCatalog.Proofs.Query.ClauseMatch
import TextCatalog.Proofs.Query.ClauseOrdinal
import TextCatalog.Proofs.Query.Confluence
import TextCatalog.Proofs.Query.Counted
import TextCatalog.Proofs.Query.Decisive
import TextCatalog.Proofs.Query.Document
import TextCatalog.Proofs.Query.Exclusion
import TextCatalog.Proofs.Query.Feasible
import TextCatalog.Proofs.Query.Fields
import TextCatalog.Proofs.Query.Insensitive
import TextCatalog.Proofs.Query.Lengths
import TextCatalog.Proofs.Query.Letters
import TextCatalog.Proofs.Query.Meaning
import TextCatalog.Proofs.Query.Numbers
import TextCatalog.Proofs.Query.Palindrome
import TextCatalog.Proofs.Query.Phrase
import TextCatalog.Proofs.Query.Position
import TextCatalog.Proofs.Query.Soundness
import TextCatalog.Proofs.Query.WordCount
import TextCatalog.Proofs.Table.Basic
import TextCatalog.Proofs.Table.Cell
import TextCatalog.Proofs.Table.Decoding
import TextCatalog.Proofs.Table.Migration
import TextCatalog.Proofs.Table.Row
import TextCatalog.Proofs.Table.Selection
import TextCatalog.Proofs.Store.Agreement
import TextCatalog.Proofs.Store.Contents
import TextCatalog.Proofs.Store.Damage
import TextCatalog.Proofs.Store.Faithful
import TextCatalog.Proofs.Store.Putting
import TextCatalog.Proofs.Web.Address
import TextCatalog.Proofs.Web.Change
import TextCatalog.Proofs.Web.Form
import TextCatalog.Proofs.Web.Interpretation
import TextCatalog.Proofs.Web.Ledger
import TextCatalog.Proofs.Web.Posting
