import RecordGate.Gate.Session
import RecordGate.Host.Start
import RecordGate.Main
import RecordGate.Proofs.Fragment.Words
import RecordGate.Proofs.Gate.Sandbox
import RecordGate.Proofs.Gate.Statelessness
import RecordGate.Proofs.Protocol.ToolCalls
import RecordGate.Proofs.Script.Confinement
import RecordGate.Proofs.Script.Decode
import RecordGate.Proofs.Script.Sanitized
import RecordGate.Protocol.Line
import RecordGate.Settings.CommandLine
import RecordGate.Proofs.Fragment.Statement
import RecordGate.Proofs.Query.Resolution
import RecordGate.Proofs.Name.Outline
import RecordGate.Proofs.Name.Plural
import RecordGate.Proofs.Query.Refusal
import RecordGate.Proofs.Name.Casing
import RecordGate.Proofs.Query.Relevance
import RecordGate.Proofs.Tools.ModelNames
import RecordGate.Proofs.Name.DoublePlural
import RecordGate.Proofs.Name.Recovered
import RecordGate.Proofs.Name.Passes
import RecordGate.Proofs.Query.Recompilation
import RecordGate.Proofs.Tools.Limit
import RecordGate.Proofs.Gate.Envelopes
import RecordGate.Proofs.Gate.Discretion
import RecordGate.Proofs.Text.Utf8
import RecordGate.Proofs.Tools.Listing
import RecordGate.Proofs.Name.LetterCase
import RecordGate.Proofs.Name.Separation
import RecordGate.Proofs.Settings.Layers
import RecordGate.Proofs.Json.RoundTrip
