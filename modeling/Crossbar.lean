import Crossbar.Channel.Session
import Crossbar.Delivery
import Crossbar.Proofs.Accounting
import Crossbar.Proofs.Allocation
import Crossbar.Proofs.Arbiter
import Crossbar.Proofs.Attribution
import Crossbar.Proofs.Capacity
import Crossbar.Proofs.ChannelHistory
import Crossbar.Proofs.Completeness
import Crossbar.Proofs.Cursor
import Crossbar.Proofs.Deadline
import Crossbar.Proofs.Enrolment
import Crossbar.Proofs.ExactlyOnce
import Crossbar.Proofs.FabricHistory
import Crossbar.Proofs.Fairness
import Crossbar.Proofs.FanOut
import Crossbar.Proofs.Frame
import Crossbar.Proofs.Independence
import Crossbar.Proofs.Interleaving
import Crossbar.Proofs.Ledger
import Crossbar.Proofs.Likeness
import Crossbar.Proofs.LinkHistory
import Crossbar.Proofs.LinkOrder
import Crossbar.Proofs.Liveness
import Crossbar.Proofs.Locality
import Crossbar.Proofs.OperationHistory
import Crossbar.Proofs.Overflow
import Crossbar.Proofs.Registry
import Crossbar.Proofs.Renewal
import Crossbar.Proofs.Retention
import Crossbar.Proofs.Retry
import Crossbar.Proofs.RingRefinement
import Crossbar.Proofs.RingTotals
import Crossbar.Proofs.Roll
import Crossbar.Proofs.Service
import Crossbar.Proofs.SessionHistory
import Crossbar.Proofs.Settling
import Crossbar.Proofs.Spread
import Crossbar.Proofs.Standing
import Crossbar.Proofs.Stock
import Crossbar.Proofs.Trade
import Crossbar.Proofs.Transition
import Crossbar.Proofs.Turns
import Crossbar.Proofs.Working
import Crossbar.Ring.Exchange
import Crossbar.Session.Step
