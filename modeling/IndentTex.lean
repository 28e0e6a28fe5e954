import IndentTex.Main
import IndentTex.Proofs.Lockstep
import IndentTex.Proofs.Progress
import IndentTex.Proofs.Grammar
import IndentTex.Proofs.Grammar.Soundness
import IndentTex.Proofs.Grammar.Completeness
import IndentTex.Proofs.Outline
import IndentTex.Proofs.EntryPoints
import IndentTex.Proofs.Grammar.Extension
import IndentTex.Proofs.Composition
import IndentTex.Proofs.Grammar.Tidy
import IndentTex.Proofs.Grammar.Nesting
import IndentTex.Proofs.Nesting
import IndentTex.Proofs.Grammar.Document
import IndentTex.Proofs.Passage
import IndentTex.Proofs.Conservation
import IndentTex.Proofs.Balance
import IndentTex.Proofs.Request
import IndentTex.Proofs.Depth
import IndentTex.Proofs.Session
import IndentTex.Proofs.Rounds
import IndentTex.Proofs.Termination
import IndentTex.Proofs.Faults
import IndentTex.Proofs.Registry
import IndentTex.Proofs.Refusal
import IndentTex.Proofs.CallOrder
import IndentTex.Proofs.Grammar.Shifting
import IndentTex.Proofs.Bodies
import IndentTex.Proofs.Consumption
import IndentTex.Proofs.Brackets
import IndentTex.Proofs.Braces
import IndentTex.Proofs.Aligned
import IndentTex.Proofs.PlainText
import IndentTex.Proofs.PlainDocument
import IndentTex.Proofs.Delimiter
import IndentTex.Proofs.LiteralBlock
import IndentTex.Proofs.RawArgument
import IndentTex.Proofs.Resolution
import IndentTex.Proofs.WrittenArguments
import IndentTex.Proofs.Reindentation
import IndentTex.Proofs.Location
import IndentTex.Proofs.LevelBound
import IndentTex.Proofs.Report
import IndentTex.Proofs.Interpreter.Session
import IndentTex.Proofs.Interpreter.Separation
import IndentTex.Proofs.OutputName
import IndentTex.Proofs.Margins
import IndentTex.Proofs.BlankLines
import IndentTex.Proofs.ControlName
import IndentTex.Simulation.Host
