import PullSecrets.Cluster.ApiServer
import PullSecrets.Cluster.Memory
import PullSecrets.Main
import PullSecrets.Proofs.Accounts
import PullSecrets.Proofs.Addresses
import PullSecrets.Proofs.Attempts
import PullSecrets.Proofs.AuditTrail
import PullSecrets.Proofs.ByteOrder
import PullSecrets.Proofs.Callers
import PullSecrets.Proofs.CanonicalPodDefault
import PullSecrets.Proofs.CarriedAlong
import PullSecrets.Proofs.ChosenCluster
import PullSecrets.Proofs.Confidentiality
import PullSecrets.Proofs.Courses
import PullSecrets.Proofs.Documents
import PullSecrets.Proofs.Drift
import PullSecrets.Proofs.EmptyPlaces
import PullSecrets.Proofs.Encodings
import PullSecrets.Proofs.FailStop
import PullSecrets.Proofs.FailureReports
import PullSecrets.Proofs.Incomplete
import PullSecrets.Proofs.Independence
import PullSecrets.Proofs.JoinedCredentials
import PullSecrets.Proofs.Layers
import PullSecrets.Proofs.Layouts
import PullSecrets.Proofs.Listing
import PullSecrets.Proofs.Literals
import PullSecrets.Proofs.MemberOrder
import PullSecrets.Proofs.Metadata
import PullSecrets.Proofs.OpenGate
import PullSecrets.Proofs.Pairs
import PullSecrets.Proofs.Questions
import PullSecrets.Proofs.ReadValues
import PullSecrets.Proofs.Readback
import PullSecrets.Proofs.Refinement
import PullSecrets.Proofs.Replies
import PullSecrets.Proofs.Rules
import PullSecrets.Proofs.Served
import PullSecrets.Proofs.Session
import PullSecrets.Proofs.Snapshots
import PullSecrets.Proofs.StoredCredential
import PullSecrets.Proofs.Sync
import PullSecrets.Proofs.Times
import PullSecrets.Proofs.Traffic
import PullSecrets.Proofs.Undisclosed
import PullSecrets.Proofs.UserHeaders
import PullSecrets.Proofs.Warrants
import PullSecrets.Proofs.WholeNumbers
import PullSecrets.Proofs.WireTypes
import PullSecrets.Server.Handler
