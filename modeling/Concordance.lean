import Concordance.Analysis.Fuzzy
import Concordance.Analysis.Occurrence
import Concordance.Analysis.Token
import Concordance.Calendar.Date
import Concordance.Calendar.Moment
import Concordance.Calendar.Reading
import Concordance.Calendar.Timestamp
import Concordance.Document
import Concordance.Engine.Basic
import Concordance.Engine.Search
import Concordance.Failure
import Concordance.Index.Snapshot
import Concordance.Json.Reading
import Concordance.Json.Writing
import Concordance.Log.Configuration
import Concordance.Log.Context
import Concordance.Log.Event
import Concordance.Log.ExceptionInfo
import Concordance.Log.Filling
import Concordance.Log.Level
import Concordance.Log.Placeholder
import Concordance.Log.Record
import Concordance.Number.Binary64
import Concordance.Number.Lenient
import Concordance.Number.Reading
import Concordance.Number.Rounded
import Concordance.Number.Shortest
import Concordance.Number.Text
import Concordance.Proofs.BooleanEvaluation
import Concordance.Proofs.CandidateSet
import Concordance.Proofs.Consistency
import Concordance.Proofs.Earning
import Concordance.Proofs.EngineRun
import Concordance.Proofs.EngineState
import Concordance.Proofs.EvaluationOutcome
import Concordance.Proofs.ExactCredit
import Concordance.Proofs.FloatCredit
import Concordance.Proofs.GovernedTokens
import Concordance.Proofs.Indexing
import Concordance.Proofs.Interleaving
import Concordance.Proofs.Literal
import Concordance.Proofs.LowerCase
import Concordance.Proofs.NumberText
import Concordance.Proofs.Numeral
import Concordance.Proofs.OptionsKey
import Concordance.Proofs.Outcome
import Concordance.Proofs.QueryNotation
import Concordance.Proofs.QueryWords
import Concordance.Proofs.Quoted
import Concordance.Proofs.RankedCandidates
import Concordance.Proofs.Retrieval
import Concordance.Proofs.Reward
import Concordance.Proofs.Rounding
import Concordance.Proofs.RoundingBounds
import Concordance.Proofs.SetAlgebra
import Concordance.Proofs.SettingsBounds
import Concordance.Proofs.ShortestDecimal
import Concordance.Proofs.TokenOrder
import Concordance.Proofs.Vocabulary
import Concordance.Proofs.Words
import Concordance.Query.Evaluation
import Concordance.Query.Token
import Concordance.Raised
import Concordance.Search.Candidates
import Concordance.Search.Credit
import Concordance.Search.Filter
import Concordance.Search.Findings
import Concordance.Search.Highlight
import Concordance.Search.Options
import Concordance.Search.Places
import Concordance.Search.Response
import Concordance.Search.Scoring
import Concordance.Series
import Concordance.Settings
import Concordance.Statistics.Insertion
import Concordance.Statistics.Window
import Concordance.Telemetry.Basic
import Concordance.Telemetry.Exposition
import Concordance.Text.Basic
import Concordance.Text.Quoted
import Concordance.Trace.Attribute
import Concordance.Trace.Program
import Concordance.Trace.Resource
import Concordance.Trace.Span
import Concordance.Unicode.Alphanumeric
import Concordance.Unicode.Blank
import Concordance.Unicode.Casing
import Concordance.Unicode.Digit
import Concordance.Unicode.Printable
import Concordance.Unicode.Ranges
import Concordance.Validation
import Concordance.Value.Basic
import Concordance.Value.Component
import Concordance.Value.Literal
import Concordance.Value.Obstacle
import Concordance.Value.Requirement
import Concordance.Proofs.QueryNotation
import Concordance.Proofs.EvaluationOutcome
import Concordance.Proofs.GovernedTokens
import Concordance.Proofs.TokenOrder
import Concordance.Proofs.DocumentAlone
import Concordance.Proofs.Verdict
import Concordance.Proofs.RankingAlone
import Concordance.Proofs.TypoTolerance
import Concordance.Proofs.FilteredAnswer
import Concordance.Proofs.CandidateOrder
import Concordance.Proofs.EngineHistory
import Concordance.Proofs.Refusal
import Concordance.Proofs.RefusedUpdate
import Concordance.Proofs.FailedSearch
import Concordance.Proofs.CappedAnswer
import Concordance.Proofs.WindowStatistics
import Concordance.Proofs.ServedSearches
import Concordance.Proofs.QuerySubstance
import Concordance.Proofs.EditDistance
import Concordance.Proofs.SingleEdit
import Concordance.Proofs.LeftmostOccurrences
import Concordance.Proofs.MarkedText
import Concordance.Proofs.WholeWords
import Concordance.Proofs.IndexShortcut
import Concordance.Proofs.QuotedStretches
import Concordance.Proofs.LowerInContext
import Concordance.Proofs.NormalizedWords
import Concordance.Proofs.TokenPlaces
import Concordance.Proofs.QuotedPhrase
import Concordance.Proofs.InnerOperators
import Concordance.Proofs.IntegerRounding
import Concordance.Proofs.FilterOrder
import Concordance.Proofs.IntegerRange
import Concordance.Proofs.AlikeSnapshots
import Concordance.Proofs.HiddenFields
import Concordance.Proofs.SeparatedWords
import Concordance.Proofs.UnfitValues
import Concordance.Proofs.TakenEntries
import Concordance.Proofs.CreditedWords
import Concordance.Proofs.FamiliesAndInstruments
import Concordance.Proofs.InsertionOrder
import Concordance.Proofs.RecentSamples
import Concordance.Proofs.ScoredPoints
import Concordance.Proofs.WordsOverFragments
import Concordance.Proofs.ClassifiedOccurrences
