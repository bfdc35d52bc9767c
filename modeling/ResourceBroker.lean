import ResourceBroker.Adapter.Run
import ResourceBroker.Adapter.Scripted
import ResourceBroker.Client
import ResourceBroker.Main
import ResourceBroker.Proofs.Broker.Verdict
import ResourceBroker.Proofs.Broker.Observation
import ResourceBroker.Proofs.Broker.Restart
import ResourceBroker.Proofs.Broker.LateOutcome
import ResourceBroker.Proofs.Underway
import ResourceBroker.Proofs.Broker.Loopback
import ResourceBroker.Proofs.Broker.Adapters
import ResourceBroker.Proofs.Broker.Cycle
import ResourceBroker.Proofs.Broker.TwoStates
import ResourceBroker.Proofs.Broker.Moment
import ResourceBroker.Proofs.Broker.Ledger
import ResourceBroker.Proofs.Config.Rules
import ResourceBroker.Proofs.Definition.Contents
import ResourceBroker.Proofs.Json.Literal
import ResourceBroker.Proofs.Json.Parser
import ResourceBroker.Proofs.Json.RoundTrip
import ResourceBroker.Proofs.Resource.Codec
import ResourceBroker.Proofs.Identity
import ResourceBroker.Proofs.Message.Codec
import ResourceBroker.Proofs.Message.Wire
import ResourceBroker.Proofs.Json.Line
import ResourceBroker.Proofs.Server.Stream
import ResourceBroker.Proofs.Calendar
import ResourceBroker.Proofs.Timestamp
import ResourceBroker.Proofs.Message.Framing
import ResourceBroker.Proofs.Server.History
import ResourceBroker.Proofs.Server.Admission
import ResourceBroker.Proofs.Server.Journal
import ResourceBroker.Proofs.Broker.Discretion
import ResourceBroker.Proofs.Broker.Request
import ResourceBroker.Proofs.Broker.Delivery
import ResourceBroker.Proofs.Server.Cycle
import ResourceBroker.Proofs.Server.Departure
import ResourceBroker.Proofs.Server.Dialogue
import ResourceBroker.Proofs.RequestHandler.Dispatch
import ResourceBroker.Proofs.Client.Conversation
import ResourceBroker.Proofs.Resource.Typed
import ResourceBroker.Proofs.SortedMap
import ResourceBroker.Proofs.Json.Spacing
import ResourceBroker.Proofs.Definition.Violations
import ResourceBroker.Proofs.Definition.Reordered
import ResourceBroker.Proofs.CommandLine.Settings
import ResourceBroker.Proofs.Broker.Report
