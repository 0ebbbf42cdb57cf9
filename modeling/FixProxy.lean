import FixProxy.Lib.Run
import FixProxy.Step
import FixProxy.World
import FixProxy.Lib.Index
import FixProxy.Lib.Matching
import FixProxy.Router
import FixProxy.View
import FixProxy.Proofs.RouterSafety
import FixProxy.Proofs.RouterIndex
import FixProxy.Proofs.SessionEnd
import FixProxy.Proofs.Moves
import FixProxy.Proofs.RequestMoves
import FixProxy.Proofs.ClientMoves
import FixProxy.Proofs.ServerMoves
import FixProxy.Proofs.Reachable
import FixProxy.Deployment
import FixProxy.Proofs.Routes
import FixProxy.Proofs.NoAbort
import FixProxy.Proofs.ExactIndex
import FixProxy.Proofs.ReadyRequests
import FixProxy.Proofs.Subscriptions
import FixProxy.Proofs.UpstreamLoss
import FixProxy.Proofs.FailedForward
import FixProxy.Proofs.Authenticity
import FixProxy.Proofs.Rejects
import FixProxy.Proofs.Persistence
import FixProxy.Proofs.KeepAlive
import FixProxy.Proofs.Trades
import FixProxy.Proofs.Positions
import FixProxy.Proofs.RosterMoves
import FixProxy.Proofs.Register
import FixProxy.Proofs.RosterSteps
import FixProxy.Proofs.Discipline
import FixProxy.Proofs.Deaths
import FixProxy.Proofs.Usernames
import FixProxy.Proofs.Asks
import FixProxy.Proofs.Gate
import FixProxy.Proofs.Timestamps
import FixProxy.Proofs.Orders
import FixProxy.Proofs.Relay
import FixProxy.Proofs.Farewells
import FixProxy.Proofs.Connection
import FixProxy.Proofs.Snapshots
import FixProxy.Lib.Stream
import FixProxy.Proofs.Chunks
import FixProxy.Proofs.Outcomes
import FixProxy.Proofs.Isolation
import FixProxy.Proofs.Conduct
import FixProxy.Proofs.Pending
import FixProxy.Lib.Pairing
import FixProxy.Proofs.Desk
import FixProxy.Proofs.Pairs
import FixProxy.Lib.Watchdog
import FixProxy.Proofs.Supervision
import FixProxy.Proofs.Inquiries
import FixProxy.Proofs.Echoes
import FixProxy.Proofs.Feeds
import FixProxy.Proofs.Updates
import FixProxy.Proofs.Intake
import FixProxy.Proofs.Numbering
import FixProxy.Lib.Journal
import FixProxy.Auth.Session
import FixProxy.Proofs.Steady
import FixProxy.Proofs.Texts
import FixProxy.Proofs.Admission
import FixProxy.Proofs.Callbacks
import FixProxy.Proofs.Lifecycle
import FixProxy.Proofs.Deadlines
import FixProxy.Lib.Gather
import FixProxy.Config
import FixProxy.Proofs.Users
import FixProxy.Proofs.Issuance
import FixProxy.Lib.Metronome
import FixProxy.Proofs.Pacing
import FixProxy.Proofs.Refinement
import FixProxy.Proofs.Replies
import FixProxy.Lib.Loop
import FixProxy.Proofs.Picture
import FixProxy.Proofs.Visits
import FixProxy.Wire
import FixProxy.Proofs.Framing
