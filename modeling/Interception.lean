import Interception.Proofs.Connecting
import Interception.Proofs.Encoding
import Interception.Proofs.Enrolment
import Interception.Proofs.Exclusion
import Interception.Proofs.Header
import Interception.Proofs.Memory.Footprint
import Interception.Proofs.Memory.Redirection
import Interception.Proofs.Message
import Interception.Proofs.Registry.Order
import Interception.Proofs.Run.Milestone
import Interception.Proofs.ServiceName
import Interception.Proofs.SideFeatures
import Interception.Proofs.Silence
import Interception.Simulation.References
import Interception.Simulation.Rehearsal
import Interception.Simulation.Scenario
import Interception.Simulation.WindowEditing
