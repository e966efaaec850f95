import Nightshift.AgRequest

/-!
# Requests for one cycle

The compiled workflow proposal and the request it arrives in. Compilation binds
the proposal to the observation that was recorded for it, and derives both work
identities; a request is only valid with the digest of all of its members.
-/

namespace Nightshift.Canonical

open Checked Diagnostic PresentEvidence

def cycleRequestSchemaV1 : String := "nightshift.canonical_cycle_request.v1"
def precompiledProposalSchemaV2 : String := "nightshift.precompiled_workflow_proposal.v2"

/-- The plan schemas whose text is the domain of the plan identity. -/
def agExecutorPlanDomains : List String :=
  ["ag-effectd.docket-executor-plan/v1", "ag-effectd.docket-executor-plan/v2",
    "ag-effectd.docket-executor-systemd-plan/v2"]

variable (w : RuntimePlatform)

def agExecutorPlanIdentity (plan : JsonValue) : Except String String := do
  refuseIf (!w.isObject plan) "AG executor plan must be an exact typed object"
  let domain ← okOr (((w.member plan "schema").bind w.asStr).filter agExecutorPlanDomains.contains)
    "missing or unknown AG executor plan schema"
  .ok (agHashDomain w.toCanonicalPlatform domain plan.canonical)

namespace PrecompiledWorkflowProposalV2

def validate (proposal : PrecompiledWorkflowProposalV2) : Except String Unit := do
  refuseIf (proposal.schema != precompiledProposalSchemaV2)
    "unsupported precompiled workflow proposal schema"
  PresentEvidence.requireToken "workflow_id" proposal.workflowId
  PresentEvidence.requireToken "intent_kind" proposal.intentKind
  requireDigest "subject_digest" proposal.subjectDigest
  requireDigest "campaign_id" proposal.campaignId
  refuseIf (!w.isUuid proposal.occurrenceId)
    "occurrence_id must be an independently allocated UUID"
  refuseIf (!w.isObject proposal.immutableParameters)
    "immutable_parameters must be an exact typed object"
  refuseIf (!w.isObject proposal.proposalInput) "proposal_input must be an exact typed object"
  let expectedAgWork ← agExecutorPlanIdentity w proposal.agExecutorPlan
  let exact ← okOr ((w.member proposal.proposalInput "proposal").filter w.isObject)
    "proposal_input must contain one exact proposal object"
  let work ← okOr ((w.member exact "work").bind w.asStr) "exact proposal work must be a digest"
  refuseIf (work != expectedAgWork)
    "exact proposal work does not bind the sealed AG executor plan"

/-- The intent of the proposal on one observation. -/
def intentFor (proposal : PrecompiledWorkflowProposalV2) (observation : ObservationRecordV1) :
    Except String TypedCoarseIntentV2 := do
  let workSchema ← okOr (nestedString w proposal.proposalInput "proposal" "work_schema")
    "exact proposal work_schema must be a string"
  let compiledWork :=
    w.sha256 (w.compiledWorkValue proposal.immutableParameters workSchema).canonical
  let expectedAgWork ← agExecutorPlanIdentity w proposal.agExecutorPlan
  mapErr (·.display w) (TypedCoarseIntentV2.sealIntent w.toCanonicalPlatform
    { schema := ""
      intentId := ""
      workflowId := proposal.workflowId
      intentKind := proposal.intentKind
      subjectId := observation.posture.policy.subject.id
      subjectDigest := proposal.subjectDigest
      scopeId := observation.posture.policy.subject.scope.digest
      sourceObservationId := observation.observationId
      sourceSupportId := observation.support.supportId
      sourcePostureId := observation.posture.postureId
      immutableParameters := proposal.immutableParameters
      compiledWork, expectedAgWork })

/-- The request of the proposal on one observation and its intent. -/
def requestFor (proposal : PrecompiledWorkflowProposalV2) (observation : ObservationRecordV1)
    (intent : TypedCoarseIntentV2) : Except String AgOpenOccurrenceRequestV1 := do
  let request ← AgOpenOccurrenceRequestV1.sealRequest w
    { schema := agOpenRequestSchemaV1
      requestId := ""
      campaignId := proposal.campaignId
      occurrenceId := proposal.occurrenceId
      subjectDigest := proposal.subjectDigest
      scopeDigest := observation.posture.policy.subject.scope.digest
      sourceObservationId := observation.observationId
      sourceSupportId := observation.support.supportId
      sourcePostureId := observation.posture.postureId
      sourceIntentId := intent.intentId
      mode := proposal.mode
      proposalInput := proposal.proposalInput }
  request.validateFor w observation intent
  .ok request

def compile (proposal : PrecompiledWorkflowProposalV2) (observation : ObservationRecordV1) :
    Except String (TypedCoarseIntentV2 × AgOpenOccurrenceRequestV1) := do
  proposal.validate w
  let intent ← proposal.intentFor w observation
  let request ← proposal.requestFor w observation intent
  .ok (intent, request)

end PrecompiledWorkflowProposalV2

namespace CanonicalCycleRequestV1

/-- A reference to outside evidence needs an exact successor proposal. -/
def checkSuccessor (request : CanonicalCycleRequestV1) (absent genesis : String) :
    Except String Unit := do
  let proposal ← okOr request.proposal absent
  refuseIf (!proposal.mode.isContinuation) genesis

/-- The identity of the request before custody material is attached. -/
def authoringCustodyTargetRequestId (request : CanonicalCycleRequestV1) : String :=
  w.sha256 (w.targetRequestCanonical request)

def checkExternalReference (request : CanonicalCycleRequestV1)
    (reference : ExternalEvidenceReferenceV1) : Except String Unit := do
  reference.validate
  request.checkSuccessor "external application evidence requires an exact successor proposal"
    "external application evidence v1 applies only to a successor occurrence"

def checkDecisionReference (request : CanonicalCycleRequestV1)
    (reference : DecisionRelativeEvidenceReferenceV1) : Except String Unit := do
  w.validateDecisionReference reference
  refuseIf request.externalEvidence.isSome
    "cycle request cannot combine legacy and decision-relative evidence"
  request.checkSuccessor "decision-relative evidence requires an exact successor proposal"
    "decision-relative evidence applies only to a successor occurrence"

def checkAuthoringContext (request : CanonicalCycleRequestV1)
    (handoff : MaudeAuthoringContextHandoffV1) : Except String Unit := do
  handoff.validateUntrusted w
  refuseIf request.proposal.isNone
    "Maude authoring context cannot exist without an exact governed proposal"
  refuseIf (handoff.targetRequestId != request.authoringCustodyTargetRequestId w)
    "Maude authoring-context handoff targets a different cycle request"

def validate (request : CanonicalCycleRequestV1) : Except String Unit := do
  refuseIf (request.schema != cycleRequestSchemaV1)
    "unsupported canonical cycle request schema"
  requireDigest "request_id" request.requestId
  requireDigest "observation_id" request.observationId
  PresentEvidence.requireToken "scheduler_clock_id" request.schedulerClockId
  mapErr (·.display w) (request.slot.validate w.toCanonicalPlatform)
  request.policy.validate w.toDiagnosticPlatform
  request.inputs.validate w.toDiagnosticPlatform
  request.recurrence.validate w.toDiagnosticPlatform
  forEach request.externalEvidence.toList request.checkExternalReference
  forEach request.decisionExternalEvidence.toList (request.checkDecisionReference w)
  refuseIf (request.slot.schedulerClockId != request.schedulerClockId ||
      request.slot.subjectId != request.policy.subject.id ||
      request.slot.scopeId != request.policy.subject.scope.digest ||
      request.slot.policyId != request.policy.policyId)
    "cycle slot does not exactly bind scheduler/policy/subject/scope"
  forEach request.proposal.toList (·.validate w)
  forEach request.authoringContext.toList (request.checkAuthoringContext w)
  refuseIf (request.requestId != w.sha256 (w.cycleRequestCanonical request))
    "request_id does not match exact cycle preimage"

end CanonicalCycleRequestV1

end Nightshift.Canonical
