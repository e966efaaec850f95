import Nightshift.Bench
import Nightshift.CapacityDecision
import Nightshift.AgSynchronization
import Nightshift.Closeout
import Nightshift.FreshnessHorizon
import Nightshift.ProviderDeferral
import Nightshift.SubstrateOrigin
import Nightshift.CapacityGate
import Nightshift.OperationalBench
import Nightshift.CanonicalBench
import Nightshift.ReservationApplicability
import Nightshift.RepositoryApplicability
import Nightshift.RuntimeSteps
import Nightshift.SavedCheckRetention
import Nightshift.PacketGraph
import Nightshift.SavedCheckAttention
import Nightshift.NqDisposition
import Nightshift.AttentionReplay
import Nightshift.OperationalExtraction
import Nightshift.ScheduleTiling
import Nightshift.RecordableObservation
import Nightshift.Progress
