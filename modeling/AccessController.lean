import AccessController.Main
import AccessController.Proofs.Array.Trace
import AccessController.Proofs.Assembler.Blame
import AccessController.Proofs.Cache.Elements
import AccessController.Proofs.Cache.Visible
import AccessController.Proofs.Controller.ArrayReady
import AccessController.Proofs.Controller.Starts
import AccessController.Proofs.Datapath.Configuration
import AccessController.Proofs.Engine.Rounds
import AccessController.Proofs.Instruction.Packing
import AccessController.Proofs.Machine.Accounting
import AccessController.Proofs.Machine.Atomicity
import AccessController.Proofs.Machine.Completion
import AccessController.Proofs.Machine.Cycles
import AccessController.Proofs.Machine.Deadline
import AccessController.Proofs.Machine.Erasure
import AccessController.Proofs.Machine.Pausing
import AccessController.Proofs.Machine.Recount
import AccessController.Proofs.Machine.Recovery
import AccessController.Proofs.Machine.Refinement
import AccessController.Proofs.Machine.Restart
import AccessController.Proofs.Machine.Synchronized
import AccessController.Proofs.Machine.Wiring
import AccessController.Proofs.Memory.History
