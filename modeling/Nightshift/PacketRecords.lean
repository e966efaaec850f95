import Nightshift.Text
import Nightshift.Lib.OrderedMap

/-!
Orientation packet records. The field names are the source's; a nullable member
is an option.
-/

namespace Nightshift

structure AuthoringIdentityV1 where
  agent : String
  session : String
  authorityBasis : String
  deriving DecidableEq, Repr

structure CanonicalizationV1 where
  algorithm : String
  digestAlgorithm : String
  digestPreimage : String
  deriving DecidableEq, Repr

structure SourceEvidenceRefV1 where
  repository : String
  branch : String
  commit : String
  path : String
  fileDigest : String
  predecessorClassification : String
  deriving DecidableEq, Repr

structure RepositoryCustodyV1 where
  repository : String
  path : String
  branch : String
  commit : String
  remote : Option String
  remoteCommit : Option String
  worktreeClean : Bool
  discrepancy : Option String
  deriving DecidableEq, Repr

structure GlobalConstraintsV1 where
  allowedActions : List String
  forbiddenActions : List String
  invariants : List String
  deriving DecidableEq, Repr

structure CampaignIdentityV1 where
  codename : String
  canonicalSlug : String
  deriving DecidableEq, Repr

structure PredecessorRefV1 where
  campaign : String
  classification : String
  commit : String
  deriving DecidableEq, Repr

structure ExactWorkRefV1 where
  contractKind : String
  contractSchema : String
  repository : String
  branch : String
  commit : String
  path : String
  proposalRef : String
  deriving DecidableEq, Repr

structure ModelRoutingV1 where
  class_ : String
  reason : String
  maximumMutatingWorkers : Nat
  deriving DecidableEq, Repr

structure WorkItemV1 where
  id : String
  track : String
  campaign : CampaignIdentityV1
  predecessorLineage : List PredecessorRefV1
  dependencies : List String
  exactWorkRefs : List ExactWorkRefV1
  entryPredicates : List String
  allowedMutationSurfaces : List String
  forbiddenActions : List String
  acceptanceTests : List String
  stopConditions : List String
  expectedReceipts : List String
  closeoutRequirements : List String
  modelRouting : ModelRoutingV1
  deriving DecidableEq, Repr

structure WorkerBudgetV1 where
  maximumConcurrentMutatingWorkers : Nat
  recursiveWorkerSwarmsForbidden : Bool
  reservePosture : String
  deriving DecidableEq, Repr

structure SwitchyardRegistrationV1 where
  alias_ : String
  planRef : String
  transportFields : List String
  deriving DecidableEq, Repr

structure NightshiftPacketV1 where
  schema : String
  packetId : String
  packetDigest : String
  createdAt : Instant
  currentUntil : Instant
  authoring : AuthoringIdentityV1
  canonicalization : CanonicalizationV1
  sourceEvidence : List SourceEvidenceRefV1
  repositoryCustody : List RepositoryCustodyV1
  globalConstraints : GlobalConstraintsV1
  workItems : List WorkItemV1
  workerBudget : WorkerBudgetV1
  humanQuestionCriteria : List String
  switchyard : SwitchyardRegistrationV1
  deriving DecidableEq, Repr

inductive PacketError where
  | json (message : String)
  | foreignSchema
  | invalidField (field : String)
  | digestMismatch
  | notCurrent
  | unknownWorkItem (id : String)
  | dependencyCycle
  deriving DecidableEq, Repr

end Nightshift
