import ZAF.Framework.System
import ZAF.Framework.Continuation
import ZAF.Framework.Mutex
import ZAF.Framework.Ring
import ZAF.Framework.Combine
import ZAF.Framework.SwapRemove
import ZAF.Framework.Stack
import ZAF.Framework.Family
import ZAF.Framework.Fifo
import ZAF.Framework.Multimap
import ZAF.Framework.Counting
import ZAF.Framework.Rounds
import ZAF.Framework.TwoEnded
import ZAF.SWSR.Queue
import ZAF.SWSR.Content
import ZAF.SWSR.Batch
import ZAF.SWSR.SelfQueue
import ZAF.SWSR.Concurrent
import ZAF.SWSR.Refinement
import ZAF.ActorBehaviorX.Delivery
import ZAF.ActorBehaviorX.Tokens
import ZAF.ActorBehaviorX.InOrder
import ZAF.ActorBehaviorX.Wakeup
import ZAF.ActorBehaviorX.Termination
import ZAF.ActorBehaviorX.Receiver
import ZAF.ActorBehaviorX.Scheduling
import ZAF.ActorBehaviorX.Consumption
import ZAF.Message.Hash
import ZAF.Message.Body
import ZAF.Message.Handler
import ZAF.Message.Dispatch
import ZAF.ActorBehavior.Machine
import ZAF.ActorBehavior.Step
import ZAF.ActorBehavior.Ordering
import ZAF.ActorBehavior.Custody
import ZAF.ActorBehavior.Ownership
import ZAF.ActorBehavior.RequestTable
import ZAF.ActorBehavior.RequestHandlers
import ZAF.ActorBehavior.RequestEntries
import ZAF.ActorBehavior.RecvPoll
import ZAF.ActorBehavior.Registry
import ZAF.ActorBehavior.Responses
import ZAF.ActorBehavior.Nesting
import ZAF.ActorBehavior.Replies
import ZAF.ActorBehavior.Matching
import ZAF.Framework.WaitFor
import ZAF.ActorNetwork.Network
import ZAF.ActorNetwork.Pairing
import ZAF.ActorNetwork.Deadlock
import ZAF.Framework.Wire
import ZAF.Framework.Desk
import ZAF.Serialization.Types
import ZAF.Serialization.Traits
import ZAF.Serialization.Serializer
import ZAF.Serialization.Codec
import ZAF.Serialization.Parts
import ZAF.Serialization.RoundTrip
import ZAF.Serialization.Failures
import ZAF.Serialization.Overwrite
import ZAF.Serialization.Shapes
import ZAF.Serialization.Acceptance
import ZAF.Message.Encoding
import ZAF.Message.Transparency
import ZAF.NetGate.Handle
import ZAF.ActorBehavior.Timing
import ZAF.ActorBehavior.Throws
import ZAF.NetGate.Sender
import ZAF.NetGate.Framing
import ZAF.NetGate.Stopping
import ZAF.NetGate.ActorInfo
import ZAF.NetGate.Peers
import ZAF.NetGate.Links
import ZAF.NetGate.Handshake
import ZAF.NetGate.Agreement
import ZAF.NetGate.Lookups
import ZAF.NetGate.Growth
import ZAF.NetGate.Retries
import ZAF.NetGate.Recovery
import ZAF.NetGate.Wiring
import ZAF.NetGate.Cluster
import ZAF.NetGate.Routing
import ZAF.NetGate.Forwarded
import ZAF.NetGate.Arrival
import ZAF.NetGate.Replies
import ZAF.EventLoop.Timeout
import ZAF.EventLoop.Deadline
import ZAF.EventLoop.DelayedSend
import ZAF.ActorSystem.Identity
import ZAF.ActorSystem.Identifier
import ZAF.ActorGroup.Detached
import ZAF.ActorGroup.Await
import ZAF.ActorGroup.Terminators
import ZAF.ActorGroup.Destruction
import ZAF.ActorGroup.Waking
import ZAF.ActorGroup.Ending
import ZAF.ActorEngine.Executors
import ZAF.ActorEngine.Conservation
import ZAF.ActorEngine.Rebalance
import ZAF.ActorEngine.Service
import ZAF.ActorEngine.ServiceRound
import ZAF.ActorEngine.Isolation
import ZAF.EventLoop.Hosting
import ZAF.CountPointer.Pointer
import ZAF.CountPointer.Exactness
import ZAF.CountPointer.Origin
import ZAF.CountPointer.Registration
