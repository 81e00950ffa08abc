import DroneSession.UpdateRate
import DroneSession.Telemetry.Worker
import DroneSession.Video.Worker
import DroneSession.Recording.Recorder
import DroneSession.Recording.Path
import DroneSession.Recording.Playback
import DroneSession.Recording.Device
import DroneSession.Recording.PlayerDeck
import DroneSession.Autopilot.Loop
import DroneSession.Flight.Manual
import DroneSession.Settings
import DroneSession.Subscription.Basic
import DroneSession.Pipeline.Basic
import DroneSession.Number.Literal
import DroneSession.Yaml.Character
import DroneSession.Yaml.Plain
import DroneSession.Yaml.Token
import DroneSession.Yaml.QuotedText
import DroneSession.Yaml.BlockText
import DroneSession.Yaml.Lexer
import DroneSession.Yaml.Document
import DroneSession.Yaml.Value
import DroneSession.Yaml.Render
import DroneSession.Document.Format
import DroneSession.Proofs.Autopilot.Operation
import DroneSession.Proofs.Autopilot.Coherence
import DroneSession.Proofs.Autopilot.Log
import DroneSession.Proofs.Autopilot.EventProtocol
import DroneSession.Proofs.Autopilot.Flight
import DroneSession.Proofs.Autopilot.StaleCommand
import DroneSession.Proofs.LittleEndian
import DroneSession.Proofs.Telemetry.Grammar
import DroneSession.Proofs.Recording.Output
import DroneSession.Proofs.Recording.Recorder
import DroneSession.Proofs.Recording.Reader
import DroneSession.Proofs.Recording.Tick
import DroneSession.Proofs.Recording.Playback
import DroneSession.Proofs.Recording.Replay
import DroneSession.Proofs.Recording.Format
import DroneSession.Proofs.Recording.Reading
import DroneSession.Proofs.Recording.Endurance
import DroneSession.Proofs.Recording.Outcome
import DroneSession.Proofs.Telemetry.ControlWord
import DroneSession.Proofs.Telemetry.RoundTrip
import DroneSession.Proofs.Worker.Delivery
import DroneSession.Proofs.Autopilot.Deactivation
import DroneSession.Proofs.Worker.Service
import DroneSession.Proofs.Worker.Reports
import DroneSession.Proofs.Worker.Exit
import DroneSession.Proofs.Worker.Watching
import DroneSession.Proofs.Worker.Failures
import DroneSession.Proofs.Video.Resync
import DroneSession.Proofs.Pipeline.Schedule
import DroneSession.Proofs.Pipeline.Decoding
import DroneSession.Proofs.Pipeline.Replay
import DroneSession.Proofs.Pipeline.Passive
import DroneSession.Proofs.Pipeline.Sharing
import DroneSession.Proofs.Pipeline.Holding
import DroneSession.Proofs.Pipeline.Retaining
import DroneSession.Proofs.Pipeline.Window
import DroneSession.Proofs.Pipeline.Ending
import DroneSession.Proofs.Autopilot.Conservation
import DroneSession.Proofs.Autopilot.Retirement
import DroneSession.Proofs.Worker.Quiet
import DroneSession.Proofs.Telemetry.LatestRecord
import DroneSession.Proofs.Video.Publishing
import DroneSession.Proofs.Autopilot.Timetable
import DroneSession.Proofs.Flight.Bounds
import DroneSession.Proofs.Autopilot.Composition
import DroneSession.Proofs.Autopilot.Actions
import DroneSession.Proofs.Autopilot.SafeCommand
import DroneSession.Proofs.Telemetry.Corruption
import DroneSession.Proofs.Telemetry.OptionLoop
import DroneSession.Proofs.Yaml.Decoding
import DroneSession.Proofs.Flight.Origin
import DroneSession.Proofs.Autopilot.Arrangement
import DroneSession.Proofs.Autopilot.Loading
import DroneSession.Proofs.Pipeline.SecondRecording
import DroneSession.Proofs.Recording.TickRounding
import DroneSession.Proofs.Recording.Naming
import DroneSession.Proofs.Video.Framing
import DroneSession.Proofs.Recording.Delivery
import DroneSession.Proofs.Subscription.Throttling
import DroneSession.Proofs.Subscription.Following
import DroneSession.Proofs.Document.RoundTrip
