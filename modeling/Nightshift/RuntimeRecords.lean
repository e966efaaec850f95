import Nightshift.CanonicalPlatform

/-!
The records of the canonical runtime: the request for one observation cycle, the
compiled workflow proposal inside it, the request to open an AG occurrence, and
the authenticated authoring handoff. What the runtime calls and does not define
is added to the platform of the store.
-/

namespace Nightshift.Canonical

open Diagnostic

inductive AgOpenModeV1 where
  | genesis (genesis : JsonValue)
  | continuation (continuation : JsonValue)
  deriving DecidableEq, Repr

structure AgOpenOccurrenceRequestV1 where
  schema : String
  requestId : String
  campaignId : String
  occurrenceId : String
  subjectDigest : String
  scopeDigest : String
  sourceObservationId : String
  sourceSupportId : String
  sourcePostureId : String
  sourceIntentId : String
  mode : AgOpenModeV1
  proposalInput : JsonValue
  deriving DecidableEq, Repr

structure HmacAuthenticationV1 where
  schema : String
  keyId : String
  tag : String
  deriving DecidableEq, Repr

structure MaudeSessionCustodyV1 where
  schema : String
  sessionRecordId : String
  sessionIssuerPrincipalId : String
  sessionIssuerKeyId : String
  maudeSessionId : String
  maudePlanRef : String
  sourcePlanBytes : Nat
  recordedAt : Instant
  authentication : HmacAuthenticationV1
  deriving DecidableEq, Repr

structure MaudeAuthoringContextInputV1 where
  schema : String
  planRef : String
  sessionId : String
  planText : String
  deriving DecidableEq, Repr

structure MaudeAuthoringContextHandoffV1 where
  schema : String
  handoffId : String
  producerPrincipalId : String
  producerKeyId : String
  targetRuntimeId : String
  targetRequestId : String
  sessionCustody : MaudeSessionCustodyV1
  authoringContext : MaudeAuthoringContextInputV1
  createdAt : Instant
  authentication : HmacAuthenticationV1
  deriving DecidableEq, Repr

structure MaudeCustodyVerifierV1 where
  expectedPrincipalId : String
  expectedKeyId : String
  expectedSessionIssuerPrincipalId : String
  expectedSessionIssuerKeyId : String
  expectedRuntimeId : String
  producerKey : Bytes
  sessionIssuerKey : Bytes
  deriving DecidableEq, Repr

structure TemporalPolicyRequestV1 where
  policyId : String
  basisDigest : String
  holdExpiry : Option TemporalHoldExpiryV1
  deriving DecidableEq, Repr

structure PrecompiledWorkflowProposalV2 where
  schema : String
  workflowId : String
  intentKind : String
  subjectDigest : String
  immutableParameters : JsonValue
  agExecutorPlan : JsonValue
  campaignId : String
  occurrenceId : String
  mode : AgOpenModeV1
  proposalInput : JsonValue
  deriving DecidableEq, Repr

structure CanonicalCycleRequestV1 where
  schema : String
  requestId : String
  slot : RecurrenceSlotV1
  schedulerClockId : String
  evaluatedAt : Instant
  observationId : String
  policy : PosturePolicy
  inputs : DiagnosticInputs
  recurrence : RecurrenceEvidence
  externalEvidence : Option ExternalEvidenceReferenceV1
  decisionExternalEvidence : Option DecisionRelativeEvidenceReferenceV1
  temporalPolicy : Option TemporalPolicyRequestV1
  proposal : Option PrecompiledWorkflowProposalV2
  authoringContext : Option MaudeAuthoringContextHandoffV1
  deriving DecidableEq, Repr

inductive CanonicalRuntimeError where
  | store (error : CanonicalStoreError)
  | invalid (message : String)
  | presentEvidence (message : String)
  | nqAdmission (message : String)
  | diagnostic (message : String)
  | externalEvidence (message : String)
  | ag (message : String)
  deriving DecidableEq, Repr

inductive CycleRunOutcomeV1 where
  | missed (cycle : ObservationCycleV1)
  | postureOnly (cycle : ObservationCycleV1)
  | agOccurrenceOpened (cycle : ObservationCycleV1)
  deriving DecidableEq, Repr

/-- What one `run_cycle` draws: the UUIDs of its cycle and of its support query, and the nonce of
its lease. -/
structure Draws where
  cycleUuid : String
  processNonce : Nat
  queryUuid : String
  deriving DecidableEq, Repr

end Nightshift.Canonical

namespace Nightshift

open Diagnostic Canonical

structure RuntimePlatform extends CanonicalPlatform where
  /-- The text of a refusal of SQLite. -/
  sqlMessage : SqlError → String
  /-- `hmac_text` over a key, a domain and a payload. -/
  hmacText : (key domain payload : Bytes) → String
  /-- `serde_json::to_value` of the whole request. -/
  agRequestValue : AgOpenOccurrenceRequestV1 → JsonValue
  /-- `serde_jcs::to_vec` after the identity member was removed. -/
  agRequestCanonical : AgOpenOccurrenceRequestV1 → Bytes
  cycleRequestCanonical : CanonicalCycleRequestV1 → Bytes
  /-- Both the identity and the authoring context are removed. -/
  targetRequestCanonical : CanonicalCycleRequestV1 → Bytes
  /-- Both the identity and the authentication are removed. -/
  sessionCanonical : MaudeSessionCustodyV1 → Bytes
  handoffCanonical : MaudeAuthoringContextHandoffV1 → Bytes
  /-- Only the authentication is removed. -/
  sessionPreimage : MaudeSessionCustodyV1 → Bytes
  handoffPreimage : MaudeAuthoringContextHandoffV1 → Bytes
  /-- `SteadyStateEvidenceProfileV1::validate` -/
  validateDecisionProfile : SteadyStateEvidenceProfileV1 → Except String Unit

end Nightshift
