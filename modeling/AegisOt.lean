import AegisOt.Anchor.Proofs.Admission
import AegisOt.Anchor.Proofs.Monotonic
import AegisOt.Anchor.Proofs.Projectable
import AegisOt.Control.Proofs.Execution
import AegisOt.Coordination.Proofs.ActionIndex
import AegisOt.Coordination.Proofs.Atomicity
import AegisOt.Coordination.Proofs.Durability
import AegisOt.Coordination.Proofs.Historical
import AegisOt.Coordination.Proofs.Invariant
import AegisOt.Coordination.Proofs.LocalClose
import AegisOt.Coordination.Proofs.RecoveryAgreement
import AegisOt.Coordination.Proofs.RecoveryVerdict
import AegisOt.Coordination.Proofs.Replies
import AegisOt.Degraded.Proofs.AdmissionExact
import AegisOt.Degraded.Proofs.ConcurrentPublishers
import AegisOt.Degraded.Proofs.ConsumerLease
import AegisOt.Degraded.Proofs.DurableState
import AegisOt.Degraded.Proofs.Revocation
import AegisOt.Delegation.Proofs.Attenuation
import AegisOt.Delegation.Proofs.SigningOrder
import AegisOt.Evaluator.Proofs.Served
import AegisOt.Fleet.Proofs.Allocation
import AegisOt.Fleet.Proofs.QueueOrder
import AegisOt.Fleet.Proofs.Samples
import AegisOt.Fleet.Proofs.StudyCompletes
import AegisOt.Gateway.Proofs.SinglePermit
import AegisOt.Gateway.Proofs.TamperEvident
import AegisOt.Misc.Agreement
import AegisOt.Misc.AtomicFile
import AegisOt.Modbus.Proofs.ClientCalls
import AegisOt.Modbus.Proofs.Transfer
import AegisOt.Modbus.Proofs.Window
import AegisOt.Observation.Proofs.AcceptedOnce
import AegisOt.Plant.Checkpoint
import AegisOt.Plant.Proofs.ApplyAgrees
import AegisOt.Plant.Proofs.CheckpointRun
import AegisOt.Plant.Proofs.Restore
import AegisOt.Release.Proofs.Pinned
import AegisOt.Runtime.Proofs.KnownOutcome
import AegisOt.Runtime.Proofs.LedgerReload
import AegisOt.Runtime.Proofs.PlcAcknowledgment
import AegisOt.Runtime.Proofs.PlcAdmission
import AegisOt.Runtime.Proofs.PlcProcess
import AegisOt.Runtime.Proofs.PlcSingleUse
import AegisOt.Runtime.Proofs.SinglePending
import AegisOt.Traceability.Proofs.BuildAgrees
import AegisOt.Traceability.Proofs.ConsumedOnce
import AegisOt.Transport.Proofs.Agreement
import AegisOt.Transport.Proofs.CommitSkew
import AegisOt.Transport.Proofs.OneShot
import AegisOt.Transport.Proofs.StrictJsonExact
import AegisOt.Trust.Proofs.NoRollback
