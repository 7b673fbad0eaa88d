import ServiceScript.FileSystem
import ServiceScript.Main
import ServiceScript.Proofs.Exec.HereDocument
import ServiceScript.Proofs.Exec.ModifierRun
import ServiceScript.Proofs.Request.Decoding
import ServiceScript.Proofs.Request.Outcome
import ServiceScript.Proofs.Request.Text
import ServiceScript.Proofs.Script.Completion
import ServiceScript.Proofs.Script.Written
import ServiceScript.Proofs.Shell.Reader
import ServiceScript.Proofs.Text.Delimited
import ServiceScript.Proofs.Unit.OneLine
import ServiceScript.Script.Sink
import ServiceScript.Proofs.Dict
import ServiceScript.Proofs.Text.Trimmed
import ServiceScript.Proofs.Unit.Printing
import ServiceScript.Proofs.Unit.Image
import ServiceScript.Proofs.Request.HandOver
import ServiceScript.Proofs.Request.Truncation
import ServiceScript.Proofs.Shell.Commands
import ServiceScript.Proofs.Request.Provisioning
import ServiceScript.Proofs.Unit.Concatenation
import ServiceScript.Proofs.Request.IdleLine
import ServiceScript.Proofs.Unit.Overlay
import ServiceScript.Proofs.Script.Writing
import ServiceScript.Proofs.FileSystem
import ServiceScript.Proofs.Request.Writing
import ServiceScript.Proofs.Json.Token
import ServiceScript.Proofs.Json.Value
import ServiceScript.Proofs.Unit.ModelText
import ServiceScript.Proofs.Exec.Wrapping
import ServiceScript.Proofs.Shell.Quoting
import ServiceScript.Proofs.Exec.Guard
import ServiceScript.Proofs.Run
import ServiceScript.Proofs.Request.Placement
import ServiceScript.Proofs.Unit.Order
import ServiceScript.Proofs.Request.BreakingOff
import ServiceScript.Proofs.Text.Utf8
import ServiceScript.Proofs.UnitName
import ServiceScript.Proofs.Path
import ServiceScript.Proofs.LogLevel
import ServiceScript.Proofs.CommandLine.Settings
