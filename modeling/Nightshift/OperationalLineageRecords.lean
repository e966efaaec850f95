import Nightshift.Text

/-!
Operational observation records: the signed Monitor record, the NQ
qualification artifact, and the lineage record Nightshift keeps of the two. A
Monitor time stays the text it was signed as; an NQ time is an instant.
-/

namespace Nightshift

inductive SubjectKindV1 where
  | host | serviceInstance | deploymentRelease | repositoryRevision | schedulerJob
  | ecadDesignRevision | toolchain | pdk | licenseEntitlement | worker | artifactSet
  | stageOccurrence
  deriving DecidableEq, Repr

inductive SubjectBasisV1 where
  | host (machineIdentity : String)
  | serviceInstance (serviceIdentity instanceIdentity : String)
  | deploymentRelease (deploymentIdentity releaseIdentity : String)
  | repositoryRevision (repositoryIdentity revisionIdentity : String)
  | schedulerJob (schedulerIdentity jobIdentity : String)
  | ecadDesignRevision (designIdentity revisionIdentity : String)
  | toolchain (toolchainIdentity : String)
  | pdk (pdkIdentity : String)
  | licenseEntitlement (entitlementIdentity : String)
  | worker (workerIdentity : String)
  | artifactSet (artifactSetIdentity : String)
  | stageOccurrence (runIdentity stageOccurrenceIdentity : String)
  deriving DecidableEq, Repr

structure OperationalSubjectV1 where
  kind : SubjectKindV1
  namespace_ : String
  basisContract : String
  stableBasis : SubjectBasisV1
  deriving DecidableEq, Repr

structure ProducerPrincipalV1 where
  principalId : String
  collectorId : String
  keyAlgorithm : String
  publicKeyHex : String
  publicKeyDigest : String
  producerClass : String
  deriving DecidableEq, Repr

inductive AcquisitionOutcomeV1 where
  | observationProduced | noResponse | commandFailed | producerUnavailable
  | receiverUnavailable | malformedInput | refused
  deriving DecidableEq, Repr

def AcquisitionOutcomeV1.text : AcquisitionOutcomeV1 → String
  | observationProduced => "observation_produced"
  | noResponse => "no_response"
  | commandFailed => "command_failed"
  | producerUnavailable => "producer_unavailable"
  | receiverUnavailable => "receiver_unavailable"
  | malformedInput => "malformed_input"
  | refused => "refused"

structure AcquisitionV1 where
  attemptId : String
  startedAt : String
  endedAt : String
  outcome : AcquisitionOutcomeV1
  diagnosticCode : String
  rawBasisDigest : Option String
  deriving DecidableEq, Repr

structure MonitorLineageV1 where
  epoch : String
  sequence : Nat
  predecessorObservationDigest : Option String
  deriving DecidableEq, Repr

inductive LocatorKindV1 where
  | localPath | hostLabel | dnsName | ipAddress | url | socket | schedulerDisplayName
  | repositoryCheckout
  deriving DecidableEq, Repr

structure LocatorV1 where
  kind : LocatorKindV1
  value : String
  observedAt : String
  deriving DecidableEq, Repr

structure ContentV1 where
  mediaType : String
  digestDomain : String
  digest : String
  byteLength : Nat
  deriving DecidableEq, Repr

structure CoverageV1 where
  expectedDimensions : List String
  observedDimensions : List String
  omittedDimensions : List String
  deriving DecidableEq, Repr

structure MonitorBodyV1 where
  schema : String
  producer : ProducerPrincipalV1
  subject : OperationalSubjectV1
  locators : List LocatorV1
  acquisition : AcquisitionV1
  lineage : MonitorLineageV1
  producerObservedAt : Option String
  payloadSchema : Option String
  payload : Option ContentV1
  attachments : List ContentV1
  coverage : CoverageV1
  grantsAuthority : Bool
  deriving DecidableEq, Repr

structure SignedMonitorV1 where
  body : MonitorBodyV1
  signatureDomain : String
  signerKeyIdentityDigest : String
  signatureHex : String
  deriving DecidableEq, Repr

structure ClaimSupportV1 where
  claimId : String
  proposition : String
  valueDigest : String
  monitorRecordDigest : String
  deriving DecidableEq, Repr

structure CannotTestifyV1 where
  claimId : String
  reason : String
  deriving DecidableEq, Repr

structure RefusalV1 where
  code : String
  exactBasisDigest : String
  detail : String
  deriving DecidableEq, Repr

structure NqInputV1 where
  inputId : String
  rawRecordDigest : String
  monitorRecordDigest : Option String
  subjectIdentityDigest : Option String
  producerIdentityDigest : Option String
  producerPrincipalId : Option String
  producerClass : Option String
  acquisitionOutcome : Option String
  producerObservedAt : Option Instant
  receiverCustodyAt : Instant
  payloadSchema : Option String
  claimSupport : List ClaimSupportV1
  cannotTestify : List CannotTestifyV1
  refusals : List RefusalV1
  deriving DecidableEq, Repr

structure ContradictionV1 where
  subjectIdentityDigest : String
  claimId : String
  firstInputId : String
  firstValueDigest : String
  secondInputId : String
  secondValueDigest : String
  deriving DecidableEq, Repr

structure NqArtifactV1 where
  schema : String
  profileId : String
  monitorContractHead : String
  evaluatedAt : Instant
  inputs : List NqInputV1
  contradictions : List ContradictionV1
  nonclaims : List String
  deriving DecidableEq, Repr

structure ExactArtifactCustodyV1 where
  rawBytesSha256 : String
  rawBytesLength : Nat
  semanticDigest : String
  deriving DecidableEq, Repr

structure OperationalObservationLineageV1 where
  schema : String
  lineageId : String
  monitorResultHead : String
  nqResultHead : String
  monitorCustody : ExactArtifactCustodyV1
  nqCustody : ExactArtifactCustodyV1
  nqProfileId : String
  nqInputId : String
  subject : OperationalSubjectV1
  subjectIdentityDigest : String
  producer : ProducerPrincipalV1
  producerIdentityDigest : String
  acquisitionOutcome : AcquisitionOutcomeV1
  acquisitionStartedAt : String
  acquisitionEndedAt : String
  producerObservedAt : Option String
  receiverCustodyAt : String
  nqQualifiedAt : String
  nightshiftAdmittedAt : String
  epoch : String
  sequence : Nat
  predecessorObservationDigest : Option String
  payloadSchema : Option String
  claimSupport : List ClaimSupportV1
  cannotTestify : List CannotTestifyV1
  refusals : List RefusalV1
  contradictions : List ContradictionV1
  nonclaims : List String
  deriving DecidableEq, Repr

inductive AdmissionDispositionV1 where
  | admitted | exactReplay
  deriving DecidableEq, Repr

end Nightshift
