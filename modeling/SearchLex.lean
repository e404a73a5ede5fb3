import SearchLex.Main
import SearchLex.Datum.JsonReader
import SearchLex.Proofs.Counters
import SearchLex.Proofs.Places
import SearchLex.Proofs.Reading
import SearchLex.Proofs.Limits
import SearchLex.Proofs.Answer
import SearchLex.Proofs.LimitedAnswer
import SearchLex.Proofs.EarliestFailure
import SearchLex.Proofs.Lexemes
import SearchLex.Proofs.Reference
import SearchLex.Proofs.Refinement
import SearchLex.Proofs.Adjacency
import SearchLex.Proofs.Coverage
import SearchLex.Proofs.Accounting
import SearchLex.Proofs.Grammar
import SearchLex.Proofs.Concatenation
import SearchLex.Proofs.Agreement
import SearchLex.Proofs.Spacing
import SearchLex.Proofs.Rendering
import SearchLex.Proofs.WellFormed
import SearchLex.Proofs.JsonText
import SearchLex.Proofs.Deliveries
import SearchLex.Proofs.CommandRun
import SearchLex.Proofs.JsonOutput
import SearchLex.Proofs.ErrorReports
import SearchLex.Proofs.LogLines
import SearchLex.Proofs.Fields
import SearchLex.Proofs.UniqueKeys
import SearchLex.Proofs.Layers
import SearchLex.Proofs.RoundTrips
import SearchLex.Proofs.Installation
import SearchLex.Proofs.Cursor
import SearchLex.Proofs.Carets
import SearchLex.Proofs.Retention
import SearchLex.Proofs.Shortfall
import SearchLex.Proofs.Phrases
import SearchLex.Proofs.Tallies
import SearchLex.Proofs.CallEvents
