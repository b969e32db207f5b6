import LineEcho.Main
import LineEcho.Proofs.Transfer.Completion
import LineEcho.Proofs.Transfer.Attempts
import LineEcho.Proofs.Transfer.Counting
import LineEcho.Proofs.Transfer.EchoTimeout
import LineEcho.Proofs.Transfer.Lifecycle
import LineEcho.Proofs.Transfer.Normalizing
import LineEcho.Proofs.Wire.Progress
import LineEcho.Proofs.Wire.Streams
import LineEcho.Proofs.CutOff
import LineEcho.Proofs.Server.Subscriptions
import LineEcho.Proofs.Config.Partial
import LineEcho.Proofs.Execution.Documents
import LineEcho.Proofs.Config.Saving
import LineEcho.Proofs.Config.Founding
import LineEcho.Proofs.Echo.BufferSize
import LineEcho.Proofs.Output.Decoding
