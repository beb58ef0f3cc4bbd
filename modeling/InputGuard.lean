import InputGuard.Directive.Argument
import InputGuard.Directive.Cache
import InputGuard.Directive.Compile
import InputGuard.Directive.Error
import InputGuard.Directive.Literal
import InputGuard.Directive.TypeGraph
import InputGuard.Directive.TypeRef
import InputGuard.Fault
import InputGuard.Format.Address
import InputGuard.Format.Base64
import InputGuard.Format.Basic
import InputGuard.Format.Card
import InputGuard.Format.Domain
import InputGuard.Format.Duration
import InputGuard.Format.Guid
import InputGuard.Guard.Binding
import InputGuard.Guard.Config
import InputGuard.Guard.Declaration
import InputGuard.Guard.Interceptor
import InputGuard.Guard.Resolver
import InputGuard.Guard.Service
import InputGuard.Number.Basic
import InputGuard.Number.Binary64
import InputGuard.Number.Numeral
import InputGuard.Number.Rounding
import InputGuard.Number.Shortest
import InputGuard.Pattern.Reader
import InputGuard.Pattern.Search
import InputGuard.Pattern.Syntax
import InputGuard.Proofs.AcceptedTexts
import InputGuard.Proofs.AddedRules
import InputGuard.Proofs.AnnotatedServices
import InputGuard.Proofs.ArgumentRoutes
import InputGuard.Proofs.Backtracking
import InputGuard.Proofs.BareSchemas
import InputGuard.Proofs.Base64Texts
import InputGuard.Proofs.BinaryIntegers
import InputGuard.Proofs.CacheHistory
import InputGuard.Proofs.CalendarDays
import InputGuard.Proofs.CharacterClasses
import InputGuard.Proofs.CheckDigits
import InputGuard.Proofs.CompactDates
import InputGuard.Proofs.CompilationCalls
import InputGuard.Proofs.CompilationErrors
import InputGuard.Proofs.CompilationFrame
import InputGuard.Proofs.CompilationRuns
import InputGuard.Proofs.Completeness
import InputGuard.Proofs.ConformingValues
import InputGuard.Proofs.ContextFreeChecks
import InputGuard.Proofs.ConversionReach
import InputGuard.Proofs.DateFaults
import InputGuard.Proofs.DateForms
import InputGuard.Proofs.DateReadings
import InputGuard.Proofs.DateTexts
import InputGuard.Proofs.DeclaredTexts
import InputGuard.Proofs.DeclaredValues
import InputGuard.Proofs.DefinitionOrder
import InputGuard.Proofs.Digits
import InputGuard.Proofs.DomainNames
import InputGuard.Proofs.DurationTexts
import InputGuard.Proofs.ExactNumbers
import InputGuard.Proofs.ExactTimestamps
import InputGuard.Proofs.Filling
import InputGuard.Proofs.FiniteNumbers
import InputGuard.Proofs.FormatFaults
import InputGuard.Proofs.FreshSchemas
import InputGuard.Proofs.Growth
import InputGuard.Proofs.GuardedCalls
import InputGuard.Proofs.GuardedFields
import InputGuard.Proofs.GuidShapes
import InputGuard.Proofs.InstalledGuards
import InputGuard.Proofs.IntegerMultiples
import InputGuard.Proofs.IntegerNumerals
import InputGuard.Proofs.IsoForms
import InputGuard.Proofs.IsoReadings
import InputGuard.Proofs.LayoutReadings
import InputGuard.Proofs.ListArguments
import InputGuard.Proofs.Lookup
import InputGuard.Proofs.MailAddresses
import InputGuard.Proofs.Milliseconds
import InputGuard.Proofs.NearestNumbers
import InputGuard.Proofs.NetworkAddresses
import InputGuard.Proofs.NumberFaults
import InputGuard.Proofs.OperationAnswers
import InputGuard.Proofs.Outcomes
import InputGuard.Proofs.PassedValues
import InputGuard.Proofs.PatternLanguages
import InputGuard.Proofs.PeerLaws
import InputGuard.Proofs.PlacedIssues
import InputGuard.Proofs.PositionLabels
import InputGuard.Proofs.PreferenceScopes
import InputGuard.Proofs.PrintedMoments
import InputGuard.Proofs.ReachedRules
import InputGuard.Proofs.RecursionDepth
import InputGuard.Proofs.Refinements
import InputGuard.Proofs.Relaxation
import InputGuard.Proofs.Reordering
import InputGuard.Proofs.RepeatedItems
import InputGuard.Proofs.ReportedParts
import InputGuard.Proofs.RuleOrder
import InputGuard.Proofs.SameReading
import InputGuard.Proofs.SeparateArguments
import InputGuard.Proofs.SeparatedTexts
import InputGuard.Proofs.SortedLists
import InputGuard.Proofs.SortedRuns
import InputGuard.Proofs.StableSorts
import InputGuard.Proofs.StoreFrame
import InputGuard.Proofs.StrictChecks
import InputGuard.Proofs.SwitchedOffOptions
import InputGuard.Proofs.TextFaults
import InputGuard.Proofs.TimestampTexts
import InputGuard.Proofs.UnmemoizedReading
import InputGuard.Proofs.ValueOrder
import InputGuard.Proofs.WholeNumerals
import InputGuard.Proofs.WrittenDates
import InputGuard.Proofs.WrittenIssues
import InputGuard.Report
import InputGuard.Schema.ArrayRule
import InputGuard.Schema.Basic
import InputGuard.Schema.DateRule
import InputGuard.Schema.Definition
import InputGuard.Schema.Describe
import InputGuard.Schema.Issue
import InputGuard.Schema.NumberRule
import InputGuard.Schema.ObjectRule
import InputGuard.Schema.Refine
import InputGuard.Schema.Store
import InputGuard.Schema.StringOperation
import InputGuard.Schema.StringRule
import InputGuard.Schema.Validate
import InputGuard.Schema.Visit
import InputGuard.Text.Basic
import InputGuard.Text.Encoding
import InputGuard.Text.Integer
import InputGuard.Text.Quoted
import InputGuard.Text.Reading
import InputGuard.Text.Similarity
import InputGuard.Time.Calendar
import InputGuard.Time.Iso
import InputGuard.Time.Layout
import InputGuard.Time.Moment
import InputGuard.Time.Timestamp
import InputGuard.Unicode.Blank
import InputGuard.Unicode.Case
import InputGuard.Unicode.CaseTable
import InputGuard.Unicode.Digit
import InputGuard.Unicode.Fold
import InputGuard.Unicode.Identifier
import InputGuard.Unicode.Normal
import InputGuard.Unicode.NormalTable
import InputGuard.Unicode.Printable
import InputGuard.Unicode.Ranges
import InputGuard.Unicode.Word
import InputGuard.Value.Basic
import InputGuard.Value.Options
import InputGuard.Value.Order
import InputGuard.Value.Sorting
import InputGuard.Value.Text
