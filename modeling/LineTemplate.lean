import LineTemplate.Json.Parser
import LineTemplate.Json.Printer
import LineTemplate.Template.Code
import LineTemplate.Template.Expansion
import LineTemplate.Template.Options
import LineTemplate.Template.Trail
import LineTemplate.Text.Case
import LineTemplate.Text.IdentifierTable
import LineTemplate.Text.Utf8
import LineTemplate.Script.Lexer
import LineTemplate.Script.Tree
import LineTemplate.Script.Parser
import LineTemplate.Script.Store
import LineTemplate.Script.Iteration
import LineTemplate.Script.Interpreter
import LineTemplate.Script.Exchange
import LineTemplate.Evaluation.Failure
import LineTemplate.Evaluation.Helper
import LineTemplate.Evaluation.Output
import LineTemplate.Evaluation.Binding
import LineTemplate.Evaluation.Engine
import LineTemplate.Evaluation.Session
import LineTemplate.Evaluation.Described
import LineTemplate.File.Loader
import LineTemplate.Log.Logger
import LineTemplate.Log.Family
import LineTemplate.Config.Settings
import LineTemplate.Config.Assignments
import LineTemplate.Command.Run
import LineTemplate.Main
import LineTemplate.Number.Power
import LineTemplate.Proofs.Template.Escaping
import LineTemplate.Proofs.Template.Inlining
import LineTemplate.Proofs.Template.Joining
import LineTemplate.Proofs.Template.Outcome
import LineTemplate.Proofs.Template.ScriptLines
import LineTemplate.Proofs.Template.SourceMap
import LineTemplate.Proofs.Script.Placing
import LineTemplate.Proofs.Evaluation.Lines
import LineTemplate.Proofs.Evaluation.Failing
import LineTemplate.Proofs.Evaluation.Returning
import LineTemplate.Proofs.Template.Nesting
import LineTemplate.Proofs.Template.Coverage
import LineTemplate.Proofs.Evaluation.Verbatim
import LineTemplate.Proofs.File.Ways
import LineTemplate.File.History
import LineTemplate.Proofs.File.Keeping
import LineTemplate.Proofs.File.Containment
import LineTemplate.Proofs.Script.Leading
import LineTemplate.Proofs.Script.Effects
import LineTemplate.Proofs.Script.Interpreting
import LineTemplate.Proofs.Evaluation.Effects
import LineTemplate.Proofs.Evaluation.Tracing
import LineTemplate.Proofs.Evaluation.SessionSteps
import LineTemplate.Proofs.Evaluation.Logging
import LineTemplate.Proofs.Evaluation.ScopeSetup
import LineTemplate.Proofs.Evaluation.SharedScopes
import LineTemplate.Proofs.Template.LineForms
import LineTemplate.Proofs.Template.FieldReading
import LineTemplate.Proofs.Log.Contexts
import LineTemplate.Proofs.Log.Delivery
import LineTemplate.Proofs.Script.LoopCode
import LineTemplate.Proofs.Evaluation.Turns
import LineTemplate.Proofs.Evaluation.Loops
import LineTemplate.Proofs.Evaluation.ListsAndLoops
import LineTemplate.Proofs.Evaluation.LastLine
import LineTemplate.Proofs.File.Names
import LineTemplate.Proofs.File.Listing
import LineTemplate.Proofs.Template.Shifting
import LineTemplate.Proofs.Template.Chains
import LineTemplate.Proofs.Template.Dependence
import LineTemplate.Proofs.Evaluation.Attribution
import LineTemplate.Proofs.Evaluation.OptionChecks
import LineTemplate.Proofs.File.Accepting
import LineTemplate.Proofs.Log.EntryLines
import LineTemplate.Proofs.Number.Rounding
import LineTemplate.Proofs.Number.Numerals
import LineTemplate.Proofs.Evaluation.Kinds
import LineTemplate.Proofs.Evaluation.Finished
import LineTemplate.Proofs.Evaluation.Decorating
import LineTemplate.Proofs.Evaluation.Expansions
import LineTemplate.Proofs.Evaluation.DecoratedLists
import LineTemplate.Proofs.Script.TextLiterals
import LineTemplate.Proofs.Template.CodeLiterals
