import Nightshift.AdmissionRecords

/-!
The canonical observation cycle: the recurrence slot it answers, the facts it
retains, and the refusals of the store it lives in.
-/

namespace Nightshift.Canonical

open Diagnostic

structure RecurrenceLatestAdmissibleV1 where
  schedulerClockId : String
  at_ : Instant
  deriving DecidableEq, Repr

structure TemporalHoldExpiryV1 where
  schedulerClockId : String
  at_ : Instant
  deriving DecidableEq, Repr

inductive RecurrenceTriggerV1 where
  | scheduled | manual | event | catchUp
  deriving DecidableEq, Repr

inductive SlotTimingV1 where
  | onTime | late | catchUp | missed
  deriving DecidableEq, Repr

structure RecurrenceSlotV1 where
  schema : String
  slotId : String
  policyId : String
  configurationVersion : String
  subjectId : String
  scopeId : String
  schedulerClockId : String
  nominalDueAt : Instant
  latestAdmissible : RecurrenceLatestAdmissibleV1
  occurrence : Nat
  trigger : RecurrenceTriggerV1
  catchUpOf : Option String
  deriving DecidableEq, Repr

/-- The process-local witness of a slot claim; its nonce is a UUID as a number. -/
structure LiveCycleLeaseV1 where
  cycleId : String
  slotId : String
  processNonce : Nat
  deriving DecidableEq, Repr

inductive CycleStatusV1 where
  | observing | postureRecorded | awaitingAg | awaitingAgReconciliation | observationRequired
  | halted | closed | missed | recoveryRequired
  deriving DecidableEq, Repr

structure ObservationRecordV1 where
  schema : String
  observationId : String
  sourceAdmissions : List NqAdmissionProvenance
  continuityApplicability : List ContinuityApplicabilityV1
  substrateOriginApplicability : List SubstrateOriginApplicabilityV1
  externalEvidence : Option ComposedExternalEvidenceV1
  decisionExternalEvidence : Option ComposedDecisionRelativeEvidenceV1
  support : QualifiedSupportV1
  posture : OperationalPosture
  deriving DecidableEq, Repr

/-- The lineage of an observation, from its slot. -/
structure ObservationFamilyKeyV1 where
  policyId : String
  configurationVersion : String
  subjectId : String
  scopeId : String
  schedulerClockId : String
  deriving DecidableEq, Repr

/-- The supersession order inside one family. -/
structure ObservationOrderKeyV1 where
  occurrence : Nat
  nominalDueAt : Instant
  slotId : String
  deriving DecidableEq, Repr

inductive AttentionClassV1 where
  | display | attentionRequired | escalationRequested
  deriving DecidableEq, Repr

structure AttentionRecordV1 where
  class_ : AttentionClassV1
  sourcePostureId : String
  reasonCode : String
  displayText : Option String
  deriving DecidableEq, Repr

inductive TemporalDecisionV1 where
  | observe | hold | attention
  deriving DecidableEq, Repr

structure TemporalPostureV1 where
  policyId : String
  basisDigest : String
  holdExpiry : Option TemporalHoldExpiryV1
  evaluatedAt : Instant
  decision : TemporalDecisionV1
  deriving DecidableEq, Repr

structure TypedCoarseIntentV2 where
  schema : String
  intentId : String
  workflowId : String
  intentKind : String
  subjectId : String
  subjectDigest : String
  scopeId : String
  sourceObservationId : String
  sourceSupportId : String
  sourcePostureId : String
  immutableParameters : JsonValue
  compiledWork : String
  expectedAgWork : String
  deriving DecidableEq, Repr

inductive AgProgramCounterV1 where
  | observationRequired | proposalRecorded | standingRequired | admissiblePendingAuthorization
  | authorizationConsumed | dispatched | reconciliationRequired | settledObservationRequired
  | halted | completed
  deriving DecidableEq, Repr

structure AgOccurrenceReferenceV1 where
  schema : String
  campaignId : String
  occurrenceId : String
  stateDigest : String
  snapshotDigest : String
  programCounter : AgProgramCounterV1
  docketAttemptId : Option String
  settlementId : Option String
  externalDecisionRequestId : Option String
  exactSnapshot : JsonValue
  deriving DecidableEq, Repr

structure AgRefusalReferenceV1 where
  schema : String
  refusalDigest : String
  campaignId : String
  occurrenceId : String
  atStateDigest : String
  code : String
  evidence : Option String
  exactOutcome : JsonValue
  deriving DecidableEq, Repr

structure PreparedAgRequestV1 where
  schema : String
  requestDigest : String
  campaignId : String
  occurrenceId : String
  sourceIntentId : String
  exactRequest : JsonValue
  deriving DecidableEq, Repr

structure AuthoringContextProvenanceV1 where
  schema : String
  provenanceId : String
  producerComponent : String
  maudePlanRef : String
  maudeSessionId : String
  sourcePlanBytes : Nat
  campaignId : String
  occurrenceId : String
  proposalId : String
  exactWorkId : String
  sourceIntentId : String
  recordedAt : Instant
  deriving DecidableEq, Repr

structure AuthoringContextCustodyProvenanceV1 where
  schema : String
  custodyId : String
  handoffId : String
  sessionRecordId : String
  authoringContextProvenanceId : String
  campaignId : String
  occurrenceId : String
  proposalId : String
  exactWorkId : String
  producerPrincipalId : String
  producerKeyId : String
  sessionIssuerPrincipalId : String
  sessionIssuerKeyId : String
  targetRuntimeId : String
  targetRequestId : String
  maudeSessionId : String
  maudePlanRef : String
  authenticationMethod : String
  recordedAt : Instant
  deriving DecidableEq, Repr

/-- Lineage and custody committed together with a prepared request. -/
structure PreparedAuthoringEvidenceV1 where
  lineage : Option AuthoringContextProvenanceV1
  custody : Option AuthoringContextCustodyProvenanceV1
  deriving DecidableEq, Repr

structure ObservationCycleV1 where
  schema : String
  cycleId : String
  slot : RecurrenceSlotV1
  timing : SlotTimingV1
  status : CycleStatusV1
  version : Nat
  priorStateDigest : Option String
  stateDigest : String
  createdAt : String
  updatedAt : String
  observation : Option ObservationRecordV1
  attention : Option AttentionRecordV1
  temporalPosture : Option TemporalPostureV1
  intent : Option TypedCoarseIntentV2
  preparedAgRequest : Option PreparedAgRequestV1
  authoringContextProvenance : Option AuthoringContextProvenanceV1
  authoringContextCustody : Option AuthoringContextCustodyProvenanceV1
  ag : Option AgOccurrenceReferenceV1
  agRefusal : Option AgRefusalReferenceV1
  recoveryReason : Option String
  deriving DecidableEq, Repr

/-- An authenticated external-observation handoff, as the store reads it. -/
structure ExternalObservationHandoffV1 where
  handoffId : String
  producerPrincipalId : String
  producerKeyId : String
  targetRuntimeId : String
  observation : LocalComposeWorldObservationV1
  createdAt : Instant
  deriving DecidableEq, Repr

structure SteadyStateObservationHandoffV1 where
  handoffId : String
  producerPrincipalId : String
  producerKeyId : String
  targetRuntimeId : String
  observation : LocalComposeSteadyStateObservationV1
  createdAt : Instant
  deriving DecidableEq, Repr

/-- The facts of a posture that workflow preconditions are judged on. -/
structure DecisionBasisV1 where
  schema : String
  rule : SemanticIdentityV1
  /-- In order and without duplicates. -/
  atoms : List String
  deriving DecidableEq, Repr

/-- The refusals of SQLite that a statement of the store can meet. -/
inductive SqlError where
  | constraintViolation | integerOutOfRange
  deriving DecidableEq, Repr

inductive CanonicalStoreError where
  | sql (cause : SqlError)
  | json (message : String)
  | invalid (message : String)
  | duplicateSlot (slotId : String)
  | duplicateAgOccurrence (campaignId occurrenceId : String)
  | notDue (slotId : String)
  | missed (slotId : String)
  | cycleNotFound (cycleId : String)
  | stalePredecessor
  | illegalTransition (message : String)
  | wrongLiveLease
  | replay (message : String)
  | externalObservationConflict (message : String)
  deriving DecidableEq, Repr

end Nightshift.Canonical
