import LockFleet.Broker.ClientQueue
import LockFleet.Broker.Settings
import LockFleet.Calendar.Relative
import LockFleet.Command.Basic
import LockFleet.Device.Schema
import LockFleet.Device.Store
import LockFleet.Payload
import LockFleet.Rehearsal.Observation
import LockFleet.Proofs.Command.Outcome
import LockFleet.Proofs.Device.Names
import LockFleet.Proofs.Device.Patrol
import LockFleet.Proofs.Device.Stranding
import LockFleet.Proofs.Hub.Refinement
import LockFleet.Proofs.Json.Values
import LockFleet.Proofs.Router.Stopping
import LockFleet.Proofs.Json.Records
import LockFleet.Proofs.Command.Identity
import LockFleet.Proofs.Report.RoundTrip
import LockFleet.Proofs.Command.Wire
import LockFleet.Proofs.Broker.Session
import LockFleet.Proofs.Command.Sending
import LockFleet.Proofs.Broker.Sharing
import LockFleet.Proofs.Broker.Capacity
import LockFleet.Proofs.Router.Addressing
import LockFleet.Proofs.Hub.Working
import LockFleet.Proofs.Command.Independence
import LockFleet.Proofs.Hub.Matching
import LockFleet.Proofs.Command.Answering
import LockFleet.Proofs.Command.Bystanders
import LockFleet.Proofs.Device.Separation
import LockFleet.Proofs.Hub.Shutdown
import LockFleet.Proofs.Rhythm
import LockFleet.Proofs.Command.Sweeping
import LockFleet.Proofs.Command.Upkeep
import LockFleet.Proofs.Hub.Endurance
import LockFleet.Proofs.Broker.Address
import LockFleet.Proofs.Hub.Scanning
import LockFleet.Proofs.Topic.Selection
import LockFleet.Proofs.Broker.Abandoning
import LockFleet.Proofs.Device.Writing
import LockFleet.Proofs.Command.Building
