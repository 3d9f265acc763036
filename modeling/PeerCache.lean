import PeerCache.Flight.Session
import PeerCache.Main
import PeerCache.Peer.Hooks
import PeerCache.Peer.Network
import PeerCache.Scenario.ClusterScript
import PeerCache.Scenario.FlightScript
import PeerCache.Scenario.GroupScript
import PeerCache.View
import PeerCache.Proofs.Flight.Evolution
import PeerCache.Proofs.Flight.Leaders
import PeerCache.Proofs.Flight.Followers
import PeerCache.Proofs.Flight.Sightings
import PeerCache.Proofs.Flight.Excerpt
import PeerCache.Proofs.Flight.Separation
import PeerCache.Proofs.Flight.Onlookers
import PeerCache.Proofs.Flight.WaitCycles
import PeerCache.Proofs.Group.Transition
import PeerCache.Proofs.Group.Leaders
import PeerCache.Proofs.Group.Origins
import PeerCache.Proofs.Group.Invalidation
import PeerCache.Proofs.Group.CollapsedRemoval
import PeerCache.Proofs.Group.StoreHistory
import PeerCache.Proofs.Ring.Placement
import PeerCache.Proofs.Ring.Ownership
import PeerCache.Proofs.Ring.ClosedForm
import PeerCache.Proofs.Ring.Stability
import PeerCache.Proofs.Peer.Pick
import PeerCache.Proofs.Peer.Registration
import PeerCache.Proofs.Cluster.GroupMoves
import PeerCache.Proofs.Cluster.GroupRuns
import PeerCache.Proofs.Group.Fallback
import PeerCache.Proofs.Cluster.SingleOwner
import PeerCache.Proofs.Cluster.Waiting
import PeerCache.Proofs.Peer.Forwarding
import PeerCache.Proofs.Peer.WireFormat
import PeerCache.Proofs.Peer.Expiry
import PeerCache.Proofs.Peer.ClockTime
import PeerCache.Proofs.Peer.Hops
import PeerCache.Proofs.Group.Accounting
import PeerCache.Proofs.Url.Escaping
import PeerCache.Proofs.Url.Segments
import PeerCache.Proofs.Url.Origin
import PeerCache.Proofs.Peer.Addressing
import PeerCache.Proofs.Group.Dialogue
import PeerCache.Proofs.Group.LoadCourse
import PeerCache.Proofs.Group.RemovalCourse
import PeerCache.Proofs.Group.RemovalFanOut
import PeerCache.Proofs.Group.RemovalReport
import PeerCache.Proofs.Group.Recounting
import PeerCache.Proofs.Peer.NodeHistory
import PeerCache.Proofs.Peer.CallOutcome
import PeerCache.Proofs.Peer.RemoteCall
import PeerCache.Proofs.Cluster.Stores
import PeerCache.Proofs.Cluster.Delivery
import PeerCache.Proofs.Cluster.Removal
import PeerCache.Proofs.Cluster.RemovalRuns
import PeerCache.Proofs.Cluster.RemovalReach
import PeerCache.Proofs.Cluster.SelfRemoval
import PeerCache.Proofs.Group.OwnFailures
import PeerCache.Proofs.Peer.Rejection
import PeerCache.Proofs.Peer.BufferHistory
import PeerCache.Proofs.Peer.Methods
import PeerCache.Proofs.Text.Numerals
import PeerCache.Proofs.Group.Questions
import PeerCache.Proofs.Group.Results
import PeerCache.Proofs.Cluster.Attendance
import PeerCache.Proofs.Peer.Readings
import PeerCache.Proofs.Program.Serving
