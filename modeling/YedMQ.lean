import YedMQ.Raft.ClockAgreement
import YedMQ.Topic.SharedFilters
import YedMQ.Topic.RetainedHistory
import YedMQ.Raft.Snapshots
import YedMQ.Raft.SessionState.PayloadSafety
import YedMQ.Session.SessionActor.Duplicates
import YedMQ.Raft.SessionState.Deliveries
import YedMQ.Session.SessionActor.AckOrder
import YedMQ.Session.SessionActor.PublishOrder
import YedMQ.Plugin.MessagePublish
import YedMQ.Plugin.ReceiveLoop
import YedMQ.Session.SessionActor.Mediation
import YedMQ.Raft.SessionState.LinearizableReads
import YedMQ.Router.DeliveredOnce
import YedMQ.Session.EndedSessions
import YedMQ.Raft.Topic.TrieSize
import YedMQ.Raft.StoredSnapshot
import YedMQ.Mqtt.V3.ReadPacket
import YedMQ.Session.Deadlines
import YedMQ.Router.MessageDeadlines
import YedMQ.Router.LocalFanOut
import YedMQ.Mqtt.ConnectionWrites
import YedMQ.Raft.Transfer
import YedMQ.Raft.SessionState.Forwarding
