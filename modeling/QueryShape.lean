import QueryShape.CommandLine.Answer
import QueryShape.Main
import QueryShape.Query.FilterValue
import QueryShape.Query.Step
import QueryShape.Proofs.ConditionTranslation
import QueryShape.Proofs.FilterTranslation
import QueryShape.Proofs.WellFormedClause
import QueryShape.Proofs.BuilderReach
import QueryShape.Proofs.ClauseRoundTrip
import QueryShape.Proofs.FilterMeaning
import QueryShape.Proofs.TrimmedTexts
import QueryShape.Proofs.EmbeddedValues
import QueryShape.Proofs.NestingLimit
import QueryShape.Proofs.FilterWords
import QueryShape.Proofs.FilterElements
import QueryShape.Proofs.FilterGrammar
import QueryShape.Proofs.ShortForms
import QueryShape.Proofs.ShortTexts
import QueryShape.Proofs.RelationshipTrees
import QueryShape.Proofs.RelationshipGrammar
import QueryShape.Proofs.SqlConditions
import QueryShape.Proofs.SqlGrammar
import QueryShape.Proofs.ClauseText
import QueryShape.Proofs.SharedPatterns
import QueryShape.Proofs.ClauseTruth
import QueryShape.Proofs.RepeatedNames
import QueryShape.Proofs.RelationshipLoads
import QueryShape.Proofs.LoadedRecords
import QueryShape.Proofs.ReferenceView
import QueryShape.Proofs.ListAndRecord
import QueryShape.Proofs.HiddenAttribute
import QueryShape.Proofs.WellFormedQuery
import QueryShape.Proofs.EncodedParameters
import QueryShape.Proofs.LimitAgreement
import QueryShape.Proofs.RelationTests
import QueryShape.Proofs.PlainRequests
import QueryShape.Proofs.SqlPieces
import QueryShape.Proofs.SqlTemplate
import QueryShape.Proofs.BuiltQueries
import QueryShape.Proofs.SqlNames
import QueryShape.Proofs.ListFailures
import QueryShape.Proofs.ListMembership
import QueryShape.Proofs.ShownColumns
import QueryShape.Proofs.KeyLookup
import QueryShape.Proofs.NestingReports
import QueryShape.Proofs.AppendedFilters
import QueryShape.Proofs.RegisteredLoads
import QueryShape.Proofs.WholeRecords
import QueryShape.Proofs.FirstLexeme
import QueryShape.Proofs.NumeralGrammar
import QueryShape.Proofs.ScalarTexts
import QueryShape.Proofs.IdTexts
import QueryShape.Proofs.IntegerTexts
import QueryShape.Proofs.ValueOrder
import QueryShape.Proofs.NumericStrings
import QueryShape.Proofs.ConverseRelations
import QueryShape.Proofs.PatternPieces
import QueryShape.Proofs.PatternExpressions
import QueryShape.Proofs.RecordShapes
import QueryShape.Proofs.RestrictedRecords
import QueryShape.Proofs.RelationshipForms
import QueryShape.Proofs.IndependentLoads
import QueryShape.Proofs.InPlaceCalls
import QueryShape.Proofs.LiteralReader
import QueryShape.Proofs.NumberTexts
import QueryShape.Proofs.SqlLiterals
import QueryShape.Proofs.CompactTexts
