import Ratsnest.Document.Board
import Ratsnest.Json.Lemmas
import Ratsnest.Manual
import Ratsnest.Proofs.Crawl.Layers
import Ratsnest.Proofs.Crawl.Scan
import Ratsnest.Proofs.Distance.Gap
import Ratsnest.Proofs.Document.Board
import Ratsnest.Proofs.Geometry.ArcApproach
import Ratsnest.Proofs.Journal.Timeline
import Ratsnest.Proofs.Manual.Atomic
import Ratsnest.Proofs.RipUp.Exact
import Ratsnest.Proofs.Short.Contact
import Ratsnest.Proofs.StaleMarks.Answers
import Ratsnest.Proofs.Subnet.Partition
import Ratsnest.Proofs.Synthesis.Apart
import Ratsnest.Proofs.Synthesis.RippedUp
import Ratsnest.Proofs.Synthesis.Routed
import Ratsnest.Proofs.Synthesis.Verdict
import Ratsnest.RipUp
import Ratsnest.Scalar.Float
import Ratsnest.Proofs.Short.Ledger
import Ratsnest.Proofs.Synthesis.Accounts
import Ratsnest.Proofs.Manual.Connected
import Ratsnest.Proofs.Spanning.Foremost
import Ratsnest.Proofs.Synthesis.Greedy
import Ratsnest.Proofs.Scalar.Packing
import Ratsnest.Proofs.Scalar.Rounded
import Ratsnest.Proofs.Geometry.Located
import Ratsnest.Proofs.Geometry.Occupied
import Ratsnest.Proofs.Distance.Occupied
import Ratsnest.Proofs.Crawl.Loosened
import Ratsnest.Proofs.Subnet.Loosened
import Ratsnest.Proofs.Short.Marked
import Ratsnest.Proofs.Synthesis.Selection
import Ratsnest.Proofs.Synthesis.Footprint
import Ratsnest.Proofs.Geometry.Symmetric
import Ratsnest.Proofs.Distance.Symmetric
import Ratsnest.Proofs.Synthesis.Overlap
import Ratsnest.Proofs.Geometry.Turns
import Ratsnest.Proofs.Geometry.Redrawn
import Ratsnest.Proofs.NetList.Agreement
import Ratsnest.Proofs.Store.Fresh
import Ratsnest.Proofs.NetList.Unused
