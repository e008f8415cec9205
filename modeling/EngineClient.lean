import EngineClient.Proofs.Call.Desk
import EngineClient.Main
import EngineClient.Simulation.Bench
import EngineClient.Simulation.Host
import EngineClient.Proofs.Client.Provenance
import EngineClient.Proofs.Session.Listing
import EngineClient.Proofs.Frame.Schedules
import EngineClient.Proofs.Client.Chunks
import EngineClient.Proofs.Client.Reports
import EngineClient.Proofs.Dispatcher.Timer
import EngineClient.Proofs.Client.Timer
import EngineClient.Proofs.Frame.Acceptance
import EngineClient.Proofs.Client.Postings
import EngineClient.Proofs.Client.Routing
import EngineClient.Proofs.Client.SendOrder
import EngineClient.Proofs.Json.Portable
import EngineClient.Proofs.Message.Wire
import EngineClient.Proofs.Connection.Failures
import EngineClient.Proofs.Dispatcher.Likeness
import EngineClient.Proofs.Client.Malformed
import EngineClient.Proofs.Dispatcher.Lulls
import EngineClient.Proofs.Client.Lulls
import EngineClient.Proofs.Dispatcher.Backoff
import EngineClient.Proofs.Client.Backoff
import EngineClient.Proofs.Link.Receiving
import EngineClient.Proofs.Message.Spelling
import EngineClient.Proofs.Message.Results
import EngineClient.Proofs.Client.Reordering
import EngineClient.Proofs.Restart.Policy
import EngineClient.Proofs.Client.Identifiers
import EngineClient.Proofs.Client.Prefixes
import EngineClient.Proofs.CommandLine.Arguments
