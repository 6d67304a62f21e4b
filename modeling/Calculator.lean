import Calculator.Unicode.Alphanumeric
import Calculator.Unicode.Whitespace
import Calculator.Quoted
import Calculator.Utf8
import Calculator.Number.Text
import Calculator.Number.Remainder
import Calculator.Token
import Calculator.Fault
import Calculator.Settings
import Calculator.Literal
import Calculator.Session
import Calculator.TokenStream
import Calculator.Log
import Calculator.Main
import Calculator.Proofs.StreamSteps
import Calculator.Proofs.SourceLines
import Calculator.Proofs.LineDecoding
import Calculator.Proofs.Numeral
import Calculator.Proofs.TextScan
import Calculator.Proofs.CharacterClasses
import Calculator.Proofs.WordTokens
import Calculator.Proofs.Lexeme
import Calculator.Proofs.FailingSource
import Calculator.Proofs.IntactTokens
import Calculator.Proofs.Segmentation
import Calculator.Proofs.GrammarInduction
import Calculator.Proofs.SyntaxTree
import Calculator.Proofs.GrammarAcceptance
import Calculator.Proofs.Script
import Calculator.Proofs.ScriptEvaluation
import Calculator.Proofs.EvaluatorJourney
import Calculator.Proofs.Resynchronisation
import Calculator.Proofs.ScriptSession
import Calculator.Proofs.SessionOfTokens
import Calculator.Proofs.ScriptSeparation
import Calculator.Proofs.SeparatedRuns
import Calculator.Proofs.JoinedTexts
import Calculator.Proofs.SeparatorComposition
import Calculator.Proofs.WorkableDialects
import Calculator.Proofs.SessionVisits
import Calculator.Proofs.FaultOrigin
import Calculator.Proofs.TableGrowth
import Calculator.Proofs.UsableNames
import Calculator.Proofs.ExtendedRuns
import Calculator.Proofs.FaultCauses
import Calculator.Proofs.Redeclaration
import Calculator.Proofs.Findings
import Calculator.Proofs.TextPositions
import Calculator.Proofs.BoundedRuns
import Calculator.Proofs.AlikeSessions
import Calculator.Proofs.ChainedRuns
import Calculator.Proofs.DoubleBits
import Calculator.Proofs.ExactRounding
import Calculator.Proofs.Magnitudes
import Calculator.Proofs.ExactRemainder
import Calculator.Proofs.NumberText
import Calculator.Proofs.WrittenTokens
import Calculator.Proofs.FullSinks
import Calculator.Proofs.MessageLines
import Calculator.Proofs.Transcript
import Calculator.Proofs.FailingTokens
import Calculator.Proofs.FailingReader
import Calculator.Proofs.StatementExtent
import Calculator.Proofs.TreeEvaluation
import Calculator.Proofs.UnfinishedTree
import Calculator.Proofs.TreeBuilding
import Calculator.Proofs.TwoPhases
import Calculator.Proofs.EarliestRejection
import Calculator.Proofs.MentionedNames
import Calculator.Proofs.CallRecords
import Calculator.Proofs.OrderedMap
import Calculator.Proofs.CharacterList
import Calculator.Proofs.TextTokens
import Calculator.Proofs.WhitespaceSeparation
import Calculator.Proofs.ExchangedCharacters
import Calculator.Proofs.SeparatorChoice
import Calculator.Proofs.PrintedResults
import Calculator.Proofs.NumberReading
import Calculator.Proofs.WatchedScan
import Calculator.Proofs.LineBounds
