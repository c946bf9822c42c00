import LineScript.Main
import LineScript.Service.Handlers
import LineScript.Value.Construct
import LineScript.Archive.Signature
import LineScript.Proofs.Run.Locality
import LineScript.Proofs.Run.LimitOrder
import LineScript.Proofs.Json.Escapes
import LineScript.Proofs.Json.Numerals
import LineScript.Proofs.Json.RoundTrip
import LineScript.Proofs.Program.Alphabet
import LineScript.Proofs.Run.WorkerReply
import LineScript.Proofs.Run.WorkerMode
import LineScript.Proofs.Program.Counts
import LineScript.Proofs.Service.Ceilings
import LineScript.Proofs.Program.Variables
import LineScript.Proofs.Run.Framing
import LineScript.Proofs.Run.Arrangement
import LineScript.Proofs.Archive.History
import LineScript.Proofs.Arithmetic.Exact
import LineScript.Proofs.Archive.Addressing
import LineScript.Proofs.Run.ExactlyOnce
import LineScript.Service.Floor
import LineScript.Proofs.Archive.RunLog
import LineScript.Proofs.Service.Recording
import LineScript.Proofs.Arithmetic.Derivation
import LineScript.Proofs.Arithmetic.Spelling
import LineScript.Proofs.Arithmetic.Marks
import LineScript.Proofs.Arithmetic.Operands
import LineScript.Proofs.Arithmetic.Shown
import LineScript.Proofs.Arithmetic.Whitelist
import LineScript.Proofs.CommandLine.Agreement
import LineScript.Proofs.Expression.Interpolation
import LineScript.Proofs.Arithmetic.Failures
import LineScript.Proofs.Expression.Integers
import LineScript.Proofs.Decimal.Order
import LineScript.Proofs.Expression.Names
import LineScript.Proofs.Service.Capping
import LineScript.Proofs.Expression.Literals
import LineScript.Proofs.Program.InPlace
import LineScript.Proofs.Program.Binding
import LineScript.Proofs.Service.Answers
import LineScript.Proofs.Arithmetic.NamedTokens
import LineScript.Proofs.Expression.Mentions
import LineScript.Proofs.Program.IntegerCalls
import LineScript.Proofs.Archive.AppendOnly
import LineScript.Proofs.Archive.StartUp
import LineScript.Proofs.Program.Extraction
import LineScript.Proofs.Program.Growth
import LineScript.Proofs.Program.Hosts
import LineScript.Proofs.Run.Memory
