import ClientScript.CommandLine.Run
import ClientScript.Editing
import ClientScript.Encoding.Writer
import ClientScript.FileTree
import ClientScript.Json.Writer
import ClientScript.Main
import ClientScript.Proofs.Append
import ClientScript.Proofs.Filter
import ClientScript.Proofs.Dump.Script
import ClientScript.Proofs.Emission.Recut
import ClientScript.Proofs.Emission.Refusal
import ClientScript.Proofs.Encoding.Depth
import ClientScript.Proofs.Emission.Independence
import ClientScript.Proofs.Occurrence
import ClientScript.Proofs.Emission.Culprit
import ClientScript.Proofs.Emission.Variables
import ClientScript.Proofs.Emission.Prune
import ClientScript.Proofs.Editing
import ClientScript.Proofs.FileTree
import ClientScript.Proofs.Output
import ClientScript.Proofs.CommandLine.Emission
import ClientScript.Proofs.CommandLine.Dumps
import ClientScript.Emission.Printer
import ClientScript.Proofs.Encoding.Acceptance
import ClientScript.Proofs.Literal
import ClientScript.Proofs.Emission.Hook
import ClientScript.Proofs.Emission.Context
import ClientScript.Proofs.Text.Brackets
import ClientScript.Proofs.Emission.Bracketing
import ClientScript.Proofs.Emission.Rendering
import ClientScript.Proofs.Emission.Calculation
import ClientScript.Proofs.Sharing
import ClientScript.Proofs.Runs
import ClientScript.Proofs.Dump.Prune
import ClientScript.Proofs.Emission.Evidence
import ClientScript.Proofs.Emission.Payload
import ClientScript.Proofs.Emission.Labels
import ClientScript.Proofs.Emission.Balance
import ClientScript.Proofs.Replaced
import ClientScript.Proofs.Emission.Congruence
import ClientScript.Proofs.Emission.Flattening
import ClientScript.Proofs.Emission.ResultTypes
import ClientScript.Proofs.Emission.Printer
