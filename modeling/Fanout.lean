import Fanout.Channel
import Fanout.Error.Document
import Fanout.Node.Document
import Fanout.Rehearsal.Clock
import Fanout.Rehearsal.Cues
import Fanout.Rehearsal.Opening
import Fanout.Rehearsal.Redaction
import Fanout.Relay.Receipt
import Fanout.Proofs.Relay.KeyCoverage
import Fanout.Proofs.Relay.PairwiseFanout
import Fanout.Proofs.Relay.Settlement
import Fanout.Proofs.Relay.BoundedDelivery
import Fanout.Proofs.Relay.Acknowledgement
import Fanout.Proofs.Retry.Persistence
import Fanout.Proofs.Retry.Lifecycle
import Fanout.Proofs.Jid.Address
import Fanout.Proofs.Session.Isolation
import Fanout.Proofs.Relay.DistinctRecipients
import Fanout.Proofs.Relay.RetrySession
import Fanout.Proofs.Tracker.Table
import Fanout.Proofs.Retry.Exclusion
import Fanout.Proofs.Session.Operation
import Fanout.Proofs.Cipher.States
import Fanout.Proofs.Session.Conversation
import Fanout.Proofs.SenderKey.Coherence
import Fanout.Proofs.Session.Records
import Fanout.Proofs.Session.Handshake
import Fanout.Proofs.Message.Depth
import Fanout.Proofs.Jid.Spelling
import Fanout.Proofs.Host.Overheard
import Fanout.Proofs.Devices.Resolution
import Fanout.Proofs.Session.Batch
import Fanout.Proofs.Relay.Heeding
import Fanout.Proofs.Relay.RetryPass
import Fanout.Proofs.Relay.Resending
import Fanout.Proofs.Relay.RetryLimit
import Fanout.Proofs.ParticipantHash
import Fanout.Proofs.Tracker.Bound
import Fanout.Proofs.Credentials.Updates
import Fanout.Proofs.Relay.DeviceIdentity
import Fanout.Proofs.Session.Prekeys
import Fanout.Proofs.Devices.Answer
import Fanout.Proofs.Relay.Sharing
import Fanout.Proofs.Relay.ClockSums
import Fanout.Proofs.Retry.Backoff
