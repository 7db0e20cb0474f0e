import ChartScript.Arguments
import ChartScript.Builtin
import ChartScript.Candle
import ChartScript.Candle.PriceField
import ChartScript.Candle.Record
import ChartScript.Candle.Ring
import ChartScript.Chart
import ChartScript.Chart.Report
import ChartScript.Color
import ChartScript.CommandLine
import ChartScript.Engine
import ChartScript.Evaluation
import ChartScript.Files
import ChartScript.Files.Path
import ChartScript.Indicator
import ChartScript.Json
import ChartScript.Json.Reader
import ChartScript.Json.Writer
import ChartScript.Lexer
import ChartScript.Loaded.Column
import ChartScript.Loaded.Evaluation
import ChartScript.Loaded.Memory
import ChartScript.Main
import ChartScript.Memory
import ChartScript.Numeral.Dyadic
import ChartScript.Numeral.Reading
import ChartScript.Numeral.Scaled
import ChartScript.Numeral.Shortest
import ChartScript.Operation
import ChartScript.Recorder
import ChartScript.Script
import ChartScript.Syntax
import ChartScript.Syntax.Cursor
import ChartScript.Syntax.Display
import ChartScript.Syntax.Expression
import ChartScript.Syntax.Parser
import ChartScript.Table
import ChartScript.Text.Blank
import ChartScript.Text.Letter
import ChartScript.Text.Quoted
import ChartScript.Text.Ranges
import ChartScript.Text.Visible
import ChartScript.Token
import ChartScript.Value
import ChartScript.Workspace
import ChartScript.Proofs.AlignedChart
import ChartScript.Proofs.BoundedRing
import ChartScript.Proofs.EvaluationSteps
import ChartScript.Proofs.InputOffers
import ChartScript.Proofs.JoinedSources
import ChartScript.Proofs.NoLookAhead
import ChartScript.Proofs.ParseCache
import ChartScript.Proofs.ReadBack
import ChartScript.Proofs.RepeatedTicks
import ChartScript.Proofs.VariableReads
import ChartScript.Proofs.DeclaredInputs
import ChartScript.Proofs.EvaluationErrors
import ChartScript.Proofs.Resolution
import ChartScript.Proofs.NamedSeries
import ChartScript.Proofs.PlainRoster
import ChartScript.Proofs.KeptInputs
import ChartScript.Proofs.DrawingCalls
import ChartScript.Proofs.OncePerBar
import ChartScript.Proofs.PlotsOfCalls
import ChartScript.Proofs.EmptyWindow
import ChartScript.Proofs.NamedArguments
import ChartScript.Proofs.Places
import ChartScript.Proofs.DroppedVersions
import ChartScript.Proofs.StrayVersions
import ChartScript.Proofs.TokenPlaces
import ChartScript.Proofs.ErrorOrigins
import ChartScript.Proofs.MissingArguments
import ChartScript.Proofs.TypeErrors
import ChartScript.Proofs.CutPrograms
import ChartScript.Proofs.DisplayedLiterals
import ChartScript.Proofs.LayeredOperators
import ChartScript.Proofs.ParserProgress
import ChartScript.Proofs.NodePlaces
import ChartScript.Proofs.Footprints
import ChartScript.Proofs.ExchangedAssignments
import ChartScript.Proofs.WindowedIndicators
import ChartScript.Proofs.ComposedHistory
import ChartScript.Proofs.ScriptedAverage
import ChartScript.Proofs.SavedScripts
import ChartScript.Proofs.RelativeStrength
import ChartScript.Proofs.BoundedAverages
import ChartScript.Proofs.CommandAnswers
import ChartScript.Proofs.DeclarationCalls
import ChartScript.Proofs.Extremes
import ChartScript.Proofs.ImmutablePast
import ChartScript.Proofs.LoadedColumns
import ChartScript.Proofs.LoadedStates
import ChartScript.Proofs.LoadedEvaluation
import ChartScript.Proofs.LoadedRuns
import ChartScript.Proofs.ReadableLiterals
