import Courier.Main
import Courier.Pool.SlotTrial
import Courier.Clientele
import Courier.Driver
import Courier.Sending
import Courier.WebSocket.Opening
import Courier.Proofs.Sending.Course
import Courier.Proofs.Refusals
import Courier.Proofs.Driver.Course
import Courier.Proofs.Clientele.Teardown
import Courier.Proofs.Delivery.Outcome
import Courier.Proofs.Pool.Limits
import Courier.Proofs.Pool.Shutdown
import Courier.Rehearsal.Offline
import Courier.Pool.Occupancy
import Courier.Proofs.Pool.Occupancy
import Courier.Pool.Settlement
import Courier.Proofs.Pool.Reasons
import Courier.Proofs.Pool.Requests
import Courier.Proofs.Pool.Settlement
import Courier.Proofs.Pool.Queue.Precedence
import Courier.Proofs.Driver.Hooks
import Courier.Proofs.Proxy
import Courier.Proofs.Credentials
import Courier.Proofs.Dialing
import Courier.Proofs.Pool.Queue.Reservations
import Courier.Proofs.Pool.Blocked
import Courier.Proofs.Opening.Subscription
import Courier.Proofs.Driver.Completion
import Courier.Proofs.Authorization
import Courier.Proofs.WebSocket.Fields
import Courier.Proofs.AbsoluteUri
import Courier.Proofs.Authority
import Courier.Proofs.Pool.Capacity
import Courier.Proofs.Sending.Counter
