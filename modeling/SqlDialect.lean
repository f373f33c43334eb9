import SqlDialect.Db2.Dialect
import SqlDialect.Query.Step
import SqlDialect.Pattern.Automaton
import SqlDialect.Pattern.Build
import SqlDialect.Pattern.CharKind
import SqlDialect.Text.Age
import SqlDialect.Text.CaseFold
import SqlDialect.Text.Property
import SqlDialect.Proofs.Alignment
import SqlDialect.Proofs.BindingRuns
import SqlDialect.Proofs.Commuting
import SqlDialect.Proofs.ConditionLists
import SqlDialect.Proofs.Connections
import SqlDialect.Proofs.CorrelationNames
import SqlDialect.Proofs.DeferredQueries
import SqlDialect.Proofs.Documents.Reading
import SqlDialect.Proofs.Documents.Settings
import SqlDialect.Proofs.ExistenceCheck
import SqlDialect.Proofs.FragmentRuns
import SqlDialect.Proofs.InPlace.Building
import SqlDialect.Proofs.InPlace.Existence
import SqlDialect.Proofs.InPlace.Session
import SqlDialect.Proofs.MatchOperators
import SqlDialect.Proofs.Membership
import SqlDialect.Proofs.Names.ByteOffsets
import SqlDialect.Proofs.Names.Reading
import SqlDialect.Proofs.NumberedForm
import SqlDialect.Proofs.Patterns.Matching
import SqlDialect.Proofs.RowWindows
import SqlDialect.Proofs.StandardForm
import SqlDialect.Proofs.TemporalNames
import SqlDialect.Proofs.Timestamps.Order
import SqlDialect.Proofs.Timestamps.Validity
import SqlDialect.Proofs.Tokens.Clauses
import SqlDialect.Proofs.Tokens.Statement
import SqlDialect.Proofs.ValueIndependence
import SqlDialect.Proofs.Wildcards
