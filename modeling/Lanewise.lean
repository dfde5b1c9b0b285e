import Lanewise.Main
import Lanewise.Symbol.Table
import Lanewise.Proofs.Flow
import Lanewise.Proofs.Failure
import Lanewise.Proofs.Memory
import Lanewise.Proofs.Acceptance
import Lanewise.Proofs.Machine
import Lanewise.Proofs.Safety
import Lanewise.Proofs.Execution
import Lanewise.Proofs.Agreement
import Lanewise.Proofs.Vector
import Lanewise.Proofs.Leaving
import Lanewise.Proofs.Building
import Lanewise.Proofs.Collision
import Lanewise.Proofs.RoundTrip
import Lanewise.Proofs.Unambiguity
import Lanewise.Proofs.Operands
import Lanewise.Proofs.Aliasing
import Lanewise.Proofs.Refusal
import Lanewise.Proofs.Merging
import Lanewise.Proofs.HostData
import Lanewise.Proofs.Decoding
import Lanewise.Proofs.Dependence
import Lanewise.Proofs.Appending
import Lanewise.Proofs.Labels
import Lanewise.Proofs.Ranges
import Lanewise.Proofs.Listing
