import StreamRecorder.AudioFormat
import StreamRecorder.Bits
import StreamRecorder.Buffer
import StreamRecorder.Codec
import StreamRecorder.CodecData.AacEld
import StreamRecorder.CodecData.Alac
import StreamRecorder.Command
import StreamRecorder.Config
import StreamRecorder.Config.File
import StreamRecorder.Config.Json
import StreamRecorder.DryRun
import StreamRecorder.Engine
import StreamRecorder.Engine.Faulty
import StreamRecorder.Engine.Memory
import StreamRecorder.Engine.Script
import StreamRecorder.Engine.Traced
import StreamRecorder.Json.Fault
import StreamRecorder.Json.Number
import StreamRecorder.Json.Quoted
import StreamRecorder.Json.Record
import StreamRecorder.Json.Scan
import StreamRecorder.Json.Skip
import StreamRecorder.Json.Value
import StreamRecorder.Json.Written
import StreamRecorder.Layout
import StreamRecorder.Notice
import StreamRecorder.OutputPath
import StreamRecorder.Owned
import StreamRecorder.Plan
import StreamRecorder.Proofs.AacConfigs
import StreamRecorder.Proofs.Accounts
import StreamRecorder.Proofs.Admission
import StreamRecorder.Proofs.AlacCookies
import StreamRecorder.Proofs.Arrivals
import StreamRecorder.Proofs.BitFields
import StreamRecorder.Proofs.BitStrings
import StreamRecorder.Proofs.Bookkeeping
import StreamRecorder.Proofs.ConfigFields
import StreamRecorder.Proofs.ConfigFiles
import StreamRecorder.Proofs.Delivery
import StreamRecorder.Proofs.Diary
import StreamRecorder.Proofs.Drafts
import StreamRecorder.Proofs.DryEngine
import StreamRecorder.Proofs.FileNames
import StreamRecorder.Proofs.Following
import StreamRecorder.Proofs.Grammar
import StreamRecorder.Proofs.Handles
import StreamRecorder.Proofs.Interleaving
import StreamRecorder.Proofs.Isolation
import StreamRecorder.Proofs.Layouts
import StreamRecorder.Proofs.Lexemes
import StreamRecorder.Proofs.Lifecycle
import StreamRecorder.Proofs.Meanings
import StreamRecorder.Proofs.Moves
import StreamRecorder.Proofs.Naming
import StreamRecorder.Proofs.Negotiation
import StreamRecorder.Proofs.PlanTexts
import StreamRecorder.Proofs.Protocol
import StreamRecorder.Proofs.Rehearsal
import StreamRecorder.Proofs.Renegotiation
import StreamRecorder.Proofs.Requests
import StreamRecorder.Proofs.Scanning
import StreamRecorder.Proofs.Scarcity
import StreamRecorder.Proofs.SilenceLengths
import StreamRecorder.Proofs.Sound
import StreamRecorder.Proofs.StreamTexts
import StreamRecorder.Proofs.Timing
import StreamRecorder.Proofs.Tracks
import StreamRecorder.Proofs.Transcript
import StreamRecorder.Proofs.Unrecorded
import StreamRecorder.Proofs.Written
import StreamRecorder.Recorder
import StreamRecorder.RecorderError
import StreamRecorder.Shared
import StreamRecorder.Silence
import StreamRecorder.SinkError
import StreamRecorder.StreamParams
import StreamRecorder.Studio
import StreamRecorder.Text.Binary64
import StreamRecorder.Text.Blank
import StreamRecorder.Text.Duration
import StreamRecorder.Text.Extending
import StreamRecorder.Text.Hex
import StreamRecorder.Text.Printable
import StreamRecorder.Text.Quoted
import StreamRecorder.Text.Shortest
import StreamRecorder.Timeline
