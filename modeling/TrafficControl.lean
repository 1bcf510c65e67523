import TrafficControl.Main
import TrafficControl.Proofs.Client.Outcome
import TrafficControl.Transport.Connecting
import TrafficControl.Proofs.Traffic.Turn
import TrafficControl.Proofs.Traffic.Notices
import TrafficControl.Proofs.Traffic.History
import TrafficControl.Proofs.Bytes.Reads
import TrafficControl.Proofs.Bytes.Takes
import TrafficControl.Proofs.Protocol.ValueTakes
import TrafficControl.Proofs.Query.ReadAnswer
import TrafficControl.Proofs.Protocol.ValueReads
import TrafficControl.Proofs.Protocol.MessageReads
import TrafficControl.Proofs.Transport.Delivery
import TrafficControl.Proofs.Query.Answering
import TrafficControl.Proofs.Query.EndToEnd
import TrafficControl.Proofs.Traffic.Replies
import TrafficControl.Proofs.Traffic.Detached
import TrafficControl.Proofs.Entity.Adoption
import TrafficControl.Proofs.Traffic.VehicleRepository
import TrafficControl.Proofs.Query.Taking
import TrafficControl.Proofs.Query.Phases
import TrafficControl.Proofs.Query.Ending
import TrafficControl.Proofs.Query.Coherence
import TrafficControl.Proofs.Query.OwnAnswers
import TrafficControl.Proofs.Query.Dialogue
import TrafficControl.Proofs.Traffic.Conservation
import TrafficControl.Proofs.Protocol.MessageTakes
import TrafficControl.Proofs.Protocol.MessageGrammar
import TrafficControl.Proofs.Protocol.Canonical
import TrafficControl.Proofs.Client.Triple
import TrafficControl.Proofs.Query.Inversion
import TrafficControl.Proofs.Traffic.Roles
import TrafficControl.Proofs.Query.Faultless
import TrafficControl.Proofs.Traffic.Accessors
import TrafficControl.Proofs.Traffic.Operations
import TrafficControl.Proofs.Protocol.LengthAgreement
import TrafficControl.Proofs.Query.Lengths
import TrafficControl.Proofs.Traffic.Course
import TrafficControl.Proofs.Traffic.Forgetting
import TrafficControl.Proofs.Traffic.AnyOrder
import TrafficControl.Proofs.Traffic.Freshness
import TrafficControl.Proofs.Traffic.Reachable
import TrafficControl.Proofs.Query.Reordering
import TrafficControl.Proofs.Query.Verdict
import TrafficControl.Proofs.Traffic.Told
import TrafficControl.Proofs.Query.Alike
import TrafficControl.Proofs.Traffic.FailedTicks
import TrafficControl.Proofs.Entity.Signals
import TrafficControl.Proofs.CommandLine.Questions
import TrafficControl.Proofs.Traffic.Reported
import TrafficControl.Proofs.CommandLine.Talking
import TrafficControl.Proofs.CommandLine.Visits
import TrafficControl.Proofs.CommandLine.Parts
import TrafficControl.Proofs.CommandLine.Script
import TrafficControl.Proofs.Text.ByteOrder
import TrafficControl.Proofs.Traffic.Acts
import TrafficControl.Proofs.Traffic.Teleport
import TrafficControl.Proofs.Traffic.Retirement
import TrafficControl.Proofs.Traffic.ListedVehicles
import TrafficControl.Proofs.Transport.Attempts
import TrafficControl.Proofs.Transport.Pieces
import TrafficControl.Proofs.Entity.Syncing
import TrafficControl.Proofs.Entity.Setters
import TrafficControl.Proofs.Protocol.Encodability
import TrafficControl.Proofs.Query.Unsent
import TrafficControl.Proofs.Protocol.Truncation
import TrafficControl.Proofs.Bytes.Shrinking
import TrafficControl.Proofs.Bytes.Strides
import TrafficControl.Proofs.Protocol.Unrolling
import TrafficControl.Proofs.Protocol.Consumption
import TrafficControl.Proofs.Protocol.Expecting
import TrafficControl.Proofs.Protocol.Place
