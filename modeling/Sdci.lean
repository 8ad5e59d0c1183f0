import Sdci.Bench
import Sdci.Json.Forms
import Sdci.Registry
import Sdci.Proofs.Run.Move
import Sdci.Proofs.Run.Calls
import Sdci.Proofs.Run.Dispatch
import Sdci.Proofs.Run.History
import Sdci.Proofs.Confirmation
import Sdci.Proofs.Supervision
import Sdci.Proofs.InFlight
import Sdci.Proofs.Exchange
import Sdci.Proofs.Synchrony
import Sdci.Proofs.Deadlines
import Sdci.Proofs.Completion
import Sdci.Proofs.KeptFrame
import Sdci.Proofs.Success
import Sdci.Proofs.Retry
import Sdci.Proofs.Codec.Access
import Sdci.Proofs.Codec.Seal
import Sdci.Proofs.Codec.Master
import Sdci.Proofs.Codec.Device
import Sdci.Proofs.Negotiation
import Sdci.Proofs.Admission
import Sdci.Proofs.Outstanding
import Sdci.Proofs.WireMode
import Sdci.Proofs.Discipline
import Sdci.Proofs.Halt
import Sdci.Proofs.ImageBounds
import Sdci.Proofs.Conversation
import Sdci.Proofs.AccessProtocol
import Sdci.Proofs.Ledger
import Sdci.Proofs.ParameterService
import Sdci.Proofs.Directory
import Sdci.Proofs.Identity
import Sdci.Proofs.Isolation
import Sdci.Proofs.Handing
import Sdci.Proofs.Validity
import Sdci.Proofs.WellFormed
import Sdci.Proofs.InputImage
import Sdci.Proofs.Submission
import Sdci.Proofs.Selection
import Sdci.Proofs.Refusal
import Sdci.Proofs.LocalService
import Sdci.Proofs.Switchover
import Sdci.Proofs.Codec.Malformed
import Sdci.Proofs.Codec.Positions
import Sdci.Proofs.Unreadable
import Sdci.Proofs.Codec.Corruption
import Sdci.Proofs.Handover
import Sdci.Proofs.OutputDelivery
import Sdci.Proofs.ControlCodes
import Sdci.Proofs.Course
import Sdci.Proofs.Counters
import Sdci.Proofs.Accounting
import Sdci.Proofs.CycleCalls
import Sdci.Proofs.FaultEntries
import Sdci.Proofs.Resends
import Sdci.Proofs.Commutation
import Sdci.Proofs.Expiry
import Sdci.Proofs.StoredParameters
import Sdci.Proofs.Delay.Parts
import Sdci.Proofs.Delay.Session
import Sdci.Proofs.Delay.Run
import Sdci.Proofs.Places
import Sdci.Proofs.SlotMap
import Sdci.Proofs.Codec.Answer
import Sdci.Proofs.Loops
