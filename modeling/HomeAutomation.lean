import HomeAutomation.Device.House
import HomeAutomation.Main
import HomeAutomation.Proofs.Engine.CriticalSection
import HomeAutomation.Proofs.Engine.LostEdge
import HomeAutomation.Proofs.Engine.Refinement
import HomeAutomation.Replay.Report
import HomeAutomation.Service.Installation
import HomeAutomation.Proofs.Engine.Acknowledgement
import HomeAutomation.Proofs.Engine.Result
import HomeAutomation.Proofs.Engine.DedupSkip
import HomeAutomation.Proofs.Device.Mirror
import HomeAutomation.Proofs.Engine.Mirroring
import HomeAutomation.Proofs.Rule.Sameness
import HomeAutomation.Proofs.Engine.Correspondence
import HomeAutomation.Proofs.Engine.Registration
import HomeAutomation.Proofs.Text.LowerCase
import HomeAutomation.Proofs.Text.Normal
import HomeAutomation.Proofs.Rule.Spacing
import HomeAutomation.Proofs.Rule.Location
import HomeAutomation.Proofs.Engine.Naming
import HomeAutomation.Proofs.Rule.Acceptance
import HomeAutomation.Proofs.Engine.Commands
import HomeAutomation.Proofs.Service.Restart
import HomeAutomation.Proofs.Service.Unfiled
import HomeAutomation.Proofs.Engine.Execution
import HomeAutomation.Proofs.Engine.Coherence
import HomeAutomation.Proofs.Service.Overlap
import HomeAutomation.Proofs.Engine.FaultIsolation
import HomeAutomation.Proofs.Sensor.Readings
import HomeAutomation.Proofs.Event.KeyIndex
import HomeAutomation.Proofs.Engine.SharedEvents
import HomeAutomation.Proofs.Rule.Parameters
import HomeAutomation.Proofs.Number.Nearest
import HomeAutomation.Proofs.Number.Written
import HomeAutomation.Proofs.Number.Layout
import HomeAutomation.Proofs.Rule.Description
import HomeAutomation.Proofs.Json.RoundTrip
import HomeAutomation.Proofs.Device.Wire
import HomeAutomation.Proofs.Device.Failure
import HomeAutomation.Proofs.Engine.Hearing
import HomeAutomation.Proofs.Service.EventValues
import HomeAutomation.Proofs.Home.Config
import HomeAutomation.Proofs.Home.Directory
import HomeAutomation.Proofs.Engine.Handles
import HomeAutomation.Proofs.Json.Token
import HomeAutomation.Proofs.Json.Grammar
import HomeAutomation.Proofs.Text.Lines
import HomeAutomation.Proofs.Replay.Snapshots
import HomeAutomation.Proofs.Text.Canonical
import HomeAutomation.Proofs.Poller.Bookkeeping
