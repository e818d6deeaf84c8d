import Scriptlet.Main
import Scriptlet.Program.Disposal
import Scriptlet.Program.Flatten
import Scriptlet.Program.RightRecursive
import Scriptlet.Source.Session
import Scriptlet.Token.Lexeme
import Scriptlet.Token.Session
import Scriptlet.Proofs.Program.Division
import Scriptlet.Proofs.Program.Reading
import Scriptlet.Proofs.Program.Acceptance
import Scriptlet.Proofs.Program.Viability
import Scriptlet.Proofs.Token.Recognition
import Scriptlet.Proofs.Token.Factorisation
import Scriptlet.Proofs.Binary64.Rounding
import Scriptlet.Proofs.Binary64.WholeNumber
import Scriptlet.Proofs.Token.Junction
import Scriptlet.Proofs.Token.Relexing
import Scriptlet.Proofs.Token.Stopping
import Scriptlet.Proofs.Token.Failure
import Scriptlet.Proofs.Token.NumberRules
import Scriptlet.Proofs.Program.Leniency
import Scriptlet.Proofs.Script.Truncation
import Scriptlet.Proofs.Token.Tiling
import Scriptlet.Proofs.Token.Concatenation
import Scriptlet.Proofs.Program.Concatenation
import Scriptlet.Proofs.Program.Exchange
import Scriptlet.Proofs.Script.Confinement
import Scriptlet.Proofs.Program.RightRecursion
import Scriptlet.Proofs.Program.Shortening
import Scriptlet.Proofs.Script.Shortening
import Scriptlet.Proofs.Program.Trials
import Scriptlet.Proofs.Script.Story
import Scriptlet.Proofs.Source.History
import Scriptlet.Proofs.Token.History
import Scriptlet.Proofs.Token.Closing
import Scriptlet.Proofs.Token.Progress
import Scriptlet.Proofs.Source.Address
import Scriptlet.Proofs.Binary64.CorrectRounding
import Scriptlet.Proofs.Token.Numeral
import Scriptlet.Proofs.Token.Exclusion
import Scriptlet.Proofs.Program.Atomicity
import Scriptlet.Proofs.CommandLine.FrontEnd
import Scriptlet.Proofs.Text.Quoting
import Scriptlet.Proofs.Binary64.Inspection
import Scriptlet.Proofs.CommandLine.TokenLines
import Scriptlet.Proofs.Program.Dismantling
