import Nightshift.ExternalEvidence
import Nightshift.NqAdmission

/-!
# The observation cycle

The validators of a recurrence slot, of the facts a cycle retains and of the
whole cycle snapshot. A snapshot is valid for one status only when exactly the
facts of that status are there and its digest binds it; validity says nothing
about how the snapshot was reached.
-/

namespace Nightshift.Canonical

open Checked Diagnostic PresentEvidence

def slotSchemaV1 : String := "nightshift.recurrence_slot.v1"
def cycleSchemaV1 : String := "nightshift.observation_cycle.v1"
def observationRecordSchemaV1 : String := "nightshift.observation_record.v1"
def observationRecordSchemaV2 : String := "nightshift.observation_record.v2"
def observationRecordSchemaV3 : String := "nightshift.observation_record.v3"
def observationRecordSchemaV4 : String := "nightshift.observation_record.v4"
def observationRecordSchemaV5 : String := "nightshift.observation_record.v5"
def observationRecordSchemaV6 : String := "nightshift.observation_record.v6"
def typedIntentSchemaV2 : String := "nightshift.typed_coarse_intent.v2"
def agReferenceSchemaV1 : String := "nightshift.ag_occurrence_reference.v1"
def agRefusalSchemaV1 : String := "nightshift.ag_refusal_reference.v1"
def preparedAgRequestSchemaV1 : String := "nightshift.prepared_ag_request.v1"
def authoringContextProvenanceSchemaV1 : String := "nightshift.authoring_context_provenance.v1"
def authoringContextProducerV1 : String := "nightshift.canonical_runtime"
def agProposalIdentityDomainV1 : String := "ag.governed-loop.proposal/v1"
def custodyProvenanceSchemaV1 : String := "nightshift.authoring_context_custody_provenance.v1"
def hmacAuthSchemaV1 : String := "maude.hmac_sha256.v1"

/-- `MAX_PLAN_BYTES` -/
def maxPlanBytes : Nat := 1048576

variable {α : Type}

/-- `map_err(CanonicalStoreError::Invalid)` -/
def invalid (result : Except String α) : Except CanonicalStoreError α := mapErr .invalid result

variable (w : CanonicalPlatform)

/-! ## Slots -/

def RecurrenceLatestAdmissibleV1.admits (latest : RecurrenceLatestAdmissibleV1)
    (schedulerClockId : String) (now : Instant) : Except String Bool := do
  PresentEvidence.requireToken "scheduler_clock_id" schedulerClockId
  PresentEvidence.requireToken "latest_admissible.scheduler_clock_id" latest.schedulerClockId
  refuseIf (schedulerClockId != latest.schedulerClockId)
    "recurrence instants use different scheduler clocks"
  .ok (now ≤ latest.at_)

def TemporalHoldExpiryV1.isActive (expiry : TemporalHoldExpiryV1) (schedulerClockId : String)
    (now : Instant) : Except String Bool := do
  PresentEvidence.requireToken "scheduler_clock_id" schedulerClockId
  PresentEvidence.requireToken "hold_expiry.scheduler_clock_id" expiry.schedulerClockId
  refuseIf (schedulerClockId != expiry.schedulerClockId)
    "hold instants use different scheduler clocks"
  .ok (now < expiry.at_)

namespace RecurrenceSlotV1

def validate (slot : RecurrenceSlotV1) : Except CanonicalStoreError Unit := do
  refuseIf (slot.schema != slotSchemaV1)
    (.invalid ("unsupported recurrence slot schema " ++ slot.schema))
  invalid (requireDigest "slot_id" slot.slotId)
  forEach
    [("policy_id", slot.policyId), ("configuration_version", slot.configurationVersion),
      ("subject_id", slot.subjectId), ("scope_id", slot.scopeId),
      ("scheduler_clock_id", slot.schedulerClockId)]
    fun (name, value) => invalid (PresentEvidence.requireToken name value)
  refuseIf (slot.latestAdmissible.schedulerClockId != slot.schedulerClockId)
    (.invalid "slot due/latest instants use different scheduler clocks")
  refuseIf (slot.latestAdmissible.at_ < slot.nominalDueAt)
    (.invalid "latest-admissible instant precedes nominal due instant")
  refuseIf ((slot.trigger == .catchUp) != slot.catchUpOf.isSome)
    (.invalid "catch-up trigger and catch_up_of linkage must appear together")
  refuseIf (slot.slotId != w.sha256 (w.recurrenceSlotCanonical slot))
    (.invalid "slot_id does not match exact recurrence-slot basis")

def timingAt (slot : RecurrenceSlotV1) (schedulerClockId : String) (now : Instant) :
    Except CanonicalStoreError SlotTimingV1 := do
  slot.validate w
  refuseIf (schedulerClockId != slot.schedulerClockId)
    (.invalid "runtime scheduler clock does not match slot clock")
  refuseIf (now < slot.nominalDueAt) (.notDue slot.slotId)
  if !(← invalid (slot.latestAdmissible.admits schedulerClockId now)) then .ok .missed
  else if slot.trigger = .catchUp then .ok .catchUp
  else if now = slot.nominalDueAt then .ok .onTime
  else .ok .late

def family (slot : RecurrenceSlotV1) : ObservationFamilyKeyV1 where
  policyId := slot.policyId
  configurationVersion := slot.configurationVersion
  subjectId := slot.subjectId
  scopeId := slot.scopeId
  schedulerClockId := slot.schedulerClockId

def orderKey (slot : RecurrenceSlotV1) : ObservationOrderKeyV1 where
  occurrence := slot.occurrence
  nominalDueAt := slot.nominalDueAt
  slotId := slot.slotId

end RecurrenceSlotV1

/-- The derived lexicographic order of the key. -/
def ObservationOrderKeyV1.precedes (a b : ObservationOrderKeyV1) : Bool :=
  a.occurrence < b.occurrence ||
    (a.occurrence == b.occurrence && (a.nominalDueAt < b.nominalDueAt ||
      (a.nominalDueAt == b.nominalDueAt && decide (a.slotId < b.slotId))))

/-! ## Observations -/

namespace ObservationRecordV1

/-- One composition binds the observation, its subject and scope, and its evaluation time. -/
def checkComposition (observation : ObservationRecordV1) (observationId subjectId scopeDigest :
    String) (admittedAt : Instant) (message : String) : Except CanonicalStoreError Unit :=
  refuseIf (observationId != observation.observationId ||
      subjectId != observation.posture.policy.subject.id ||
      scopeDigest != observation.posture.policy.subject.scope.digest ||
      w.toRfc3339 admittedAt != observation.posture.evaluatedAt)
    (.invalid message)

def checkExternal (observation : ObservationRecordV1) (composition : ComposedExternalEvidenceV1) :
    Except CanonicalStoreError Unit := do
  invalid (composition.validate w)
  let observationId ← invalid (composition.canonicalObservationId w)
  observation.checkComposition w observationId composition.subjectId composition.scopeDigest
    composition.admittedAt "composed external evidence does not bind the canonical observation"

def checkDecision (observation : ObservationRecordV1)
    (composition : ComposedDecisionRelativeEvidenceV1) (message : String) :
    Except CanonicalStoreError Unit := do
  invalid (w.validateDecisionComposition composition)
  let observationId ← invalid (w.decisionObservationId composition)
  observation.checkComposition w observationId composition.subjectId composition.scopeDigest
    composition.admittedAt message

def checkCover (observation : ObservationRecordV1) : Except CanonicalStoreError Unit :=
  invalid (validateAdmissionCover w observation.posture.inputEvidence observation.sourceAdmissions
    observation.continuityApplicability observation.substrateOriginApplicability)

/-- At most one composition, of either kind. -/
def checkEither (observation : ObservationRecordV1) (decisionMessage bothMessage : String) :
    Except CanonicalStoreError Unit :=
  match observation.externalEvidence, observation.decisionExternalEvidence with
  | none, none => .ok ()
  | some composition, none => observation.checkExternal w composition
  | none, some composition => observation.checkDecision w composition decisionMessage
  | some _, some _ => .error (.invalid bothMessage)

/-- What each record version may carry. -/
def checkSchema (observation : ObservationRecordV1) : Except CanonicalStoreError Unit := do
  let noContinuity := observation.continuityApplicability.isEmpty
  let noOrigins := observation.substrateOriginApplicability.isEmpty
  if observation.schema = observationRecordSchemaV1 then
    refuseIf (!(observation.sourceAdmissions.isEmpty && noContinuity && noOrigins &&
        observation.externalEvidence.isNone && observation.decisionExternalEvidence.isNone))
      (.invalid "v1 observation record cannot carry NQ admission provenance")
  else if observation.schema = observationRecordSchemaV2 then
    refuseIf (!(noContinuity && noOrigins && observation.externalEvidence.isNone &&
        observation.decisionExternalEvidence.isNone))
      (.invalid "v2 observation record cannot carry composed external evidence")
    observation.checkCover w
  else if observation.schema = observationRecordSchemaV3 then
    refuseIf (!noContinuity || !noOrigins || observation.decisionExternalEvidence.isSome)
      (.invalid "v3 observation record cannot carry decision-relative evidence")
    observation.checkCover w
    let composition ← okOr observation.externalEvidence
      (.invalid "v3 observation record requires composed external evidence")
    observation.checkExternal w composition
  else if observation.schema = observationRecordSchemaV4 then
    refuseIf (!noContinuity || !noOrigins || observation.externalEvidence.isSome)
      (.invalid "v4 observation record cannot carry legacy single-source evidence")
    observation.checkCover w
    let composition ← okOr observation.decisionExternalEvidence
      (.invalid "v4 observation record requires decision-relative evidence")
    observation.checkDecision w composition
      "decision-relative evidence does not bind canonical observation"
  else if observation.schema = observationRecordSchemaV5 then
    refuseIf noContinuity (.invalid "v5 observation record requires continuity applicability")
    refuseIf (!noOrigins)
      (.invalid "v5 observation record cannot carry substrate-origin applicability")
    observation.checkCover w
    observation.checkEither w "decision-relative evidence does not bind the canonical observation"
      "v5 observation cannot combine legacy and decision-relative evidence"
  else if observation.schema = observationRecordSchemaV6 then
    refuseIf noOrigins
      (.invalid "v6 observation record requires substrate-origin applicability")
    observation.checkCover w
    refuseIf (observation.substrateOriginApplicability.any (·.status != .applicable))
      (.invalid "v6 observation record cannot persist a relied-on non-applicable origin")
    observation.checkEither w "decision-relative evidence does not bind canonical observation"
      "v6 observation cannot combine legacy and decision-relative evidence"
  else throw (.invalid "unsupported observation record schema")

def validateForCycle (observation : ObservationRecordV1) (cycleId : String) :
    Except CanonicalStoreError Unit := do
  observation.checkSchema w
  invalid (requireDigest "observation_id" observation.observationId)
  invalid (observation.support.validateShape w.toDiagnosticPlatform)
  refuseIf (observation.support.observationCycleId != cycleId ||
      observation.support.observationId != observation.observationId ||
      observation.support.diagnosticInputsId != observation.posture.inputEvidence.inputsId ||
      observation.posture.presentSupport != some observation.support)
    (.invalid "observation/support/posture basis is not exact")
  refuseIf (observation.posture.current !=
      (observation.support.standing == .current && observation.posture.completeness == .complete &&
        observation.posture.coverage == .complete &&
        observation.posture.recurrenceAxis == .current))
    (.invalid "posture currentness does not correspond to exact support and retained axes")

end ObservationRecordV1

/-! ## Temporal posture -/

/-- The decision of the hold-expiry law. -/
def temporalDecision (holdExpiry : Option TemporalHoldExpiryV1) (schedulerClockId :
    TemporalHoldExpiryV1 → String) (now : Instant) :
    Except CanonicalStoreError TemporalDecisionV1 :=
  match holdExpiry with
  | some expiry => do
    if ← invalid (expiry.isActive (schedulerClockId expiry) now) then .ok .hold
    else .ok .attention
  | none => .ok .observe

namespace TemporalPostureV1

def evaluate (policyId basisDigest : String) (holdExpiry : Option TemporalHoldExpiryV1)
    (schedulerClockId : String) (now : Instant) : Except CanonicalStoreError TemporalPostureV1 := do
  invalid (PresentEvidence.requireToken "temporal policy_id" policyId)
  invalid (requireDigest "temporal basis_digest" basisDigest)
  let decision ← temporalDecision holdExpiry (fun _ => schedulerClockId) now
  .ok { policyId, basisDigest, holdExpiry, evaluatedAt := now, decision }

/-- The part of the cycle validator that reads the temporal posture. -/
def check (temporal : TemporalPostureV1) : Except CanonicalStoreError Unit := do
  invalid (PresentEvidence.requireToken "temporal policy_id" temporal.policyId)
  invalid (requireDigest "temporal basis_digest" temporal.basisDigest)
  let expected ← temporalDecision temporal.holdExpiry (·.schedulerClockId) temporal.evaluatedAt
  refuseIf (temporal.decision != expected)
    (.invalid "temporal posture does not match its distinct hold-expiry law")

end TemporalPostureV1

/-! ## Intents, requests and AG references -/

namespace TypedCoarseIntentV2

def validate (intent : TypedCoarseIntentV2) : Except CanonicalStoreError Unit := do
  refuseIf (intent.schema != typedIntentSchemaV2) (.invalid "unsupported typed intent schema")
  invalid (requireDigest "intent_id" intent.intentId)
  invalid (requireDigest "compiled_work" intent.compiledWork)
  invalid (requireDigest "expected_ag_work" intent.expectedAgWork)
  forEach
    [("workflow_id", intent.workflowId), ("intent_kind", intent.intentKind),
      ("subject_id", intent.subjectId), ("source_observation_id", intent.sourceObservationId),
      ("source_support_id", intent.sourceSupportId),
      ("source_posture_id", intent.sourcePostureId)]
    fun (name, value) => invalid (PresentEvidence.requireToken name value)
  invalid (requireDigest "subject_digest" intent.subjectDigest)
  invalid (requireDigest "scope_id" intent.scopeId)
  refuseIf (!w.isObject intent.immutableParameters)
    (.invalid "immutable_parameters must be a typed JSON object, never prose")
  refuseIf (intent.intentId != w.sha256 (w.intentCanonical intent))
    (.invalid "intent_id does not match typed intent preimage")

def sealIntent (intent : TypedCoarseIntentV2) : Except CanonicalStoreError TypedCoarseIntentV2 := do
  let open_ := { intent with schema := typedIntentSchemaV2, intentId := "" }
  let sealed := { open_ with intentId := w.sha256 (w.intentCanonical open_) }
  sealed.validate w
  .ok sealed

def validateForObservation (intent : TypedCoarseIntentV2) (observation : ObservationRecordV1) :
    Except CanonicalStoreError Unit := do
  intent.validate w
  refuseIf (intent.subjectId != observation.posture.policy.subject.id ||
      intent.scopeId != observation.posture.policy.subject.scope.digest ||
      intent.sourceObservationId != observation.observationId ||
      intent.sourceSupportId != observation.support.supportId ||
      intent.sourcePostureId != observation.posture.postureId)
    (.invalid "typed intent does not exactly bind the complete live posture basis")

end TypedCoarseIntentV2

def AgRefusalReferenceV1.validate (refusal : AgRefusalReferenceV1) :
    Except CanonicalStoreError Unit := do
  refuseIf (refusal.schema != agRefusalSchemaV1)
    (.invalid "unsupported AG refusal reference schema")
  invalid (requireDigest "refusal_digest" refusal.refusalDigest)
  invalid (requireDigest "campaign_id" refusal.campaignId)
  invalid (PresentEvidence.requireToken "occurrence_id" refusal.occurrenceId)
  invalid (requireDigest "at_state_digest" refusal.atStateDigest)
  invalid (PresentEvidence.requireToken "refusal code" refusal.code)
  forEach refusal.evidence.toList fun evidence => invalid (requireDigest "refusal evidence" evidence)
  refuseIf (!w.isObject refusal.exactOutcome)
    (.invalid "AG refusal exact outcome must be an object")
  refuseIf (w.sha256 refusal.exactOutcome.canonical != refusal.refusalDigest)
    (.invalid "AG refusal digest does not bind the exact outcome")

def PreparedAgRequestV1.validate (request : PreparedAgRequestV1) :
    Except CanonicalStoreError Unit := do
  refuseIf (request.schema != preparedAgRequestSchemaV1)
    (.invalid "unsupported prepared AG request schema")
  invalid (requireDigest "request_digest" request.requestDigest)
  invalid (requireDigest "campaign_id" request.campaignId)
  invalid (requireDigest "source_intent_id" request.sourceIntentId)
  refuseIf (!w.isUuid request.occurrenceId)
    (.invalid "prepared AG occurrence_id must be an independently allocated UUID")
  refuseIf (!w.isObject request.exactRequest)
    (.invalid "prepared AG request must retain an exact object")
  refuseIf (request.requestDigest != w.sha256 request.exactRequest.canonical)
    (.invalid "prepared AG request digest mismatch")

def AgOccurrenceReferenceV1.validate (ag : AgOccurrenceReferenceV1) :
    Except CanonicalStoreError Unit := do
  refuseIf (ag.schema != agReferenceSchemaV1)
    (.invalid "unsupported AG occurrence reference schema")
  invalid (requireDigest "campaign_id" ag.campaignId)
  invalid (requireDigest "state_digest" ag.stateDigest)
  invalid (requireDigest "snapshot_digest" ag.snapshotDigest)
  refuseIf (!w.isUuid ag.occurrenceId)
    (.invalid "AG occurrence_id must be an independently allocated UUID")
  forEach
    [("docket_attempt_id", ag.docketAttemptId), ("settlement_id", ag.settlementId),
      ("external_decision_request_id", ag.externalDecisionRequestId)]
    fun (name, value) => forEach value.toList fun value =>
      invalid (PresentEvidence.requireToken name value)
  refuseIf (!w.isObject ag.exactSnapshot) (.invalid "AG exact snapshot must be an object")
  refuseIf (w.sha256 ag.exactSnapshot.canonical != ag.snapshotDigest)
    (.invalid "AG snapshot digest does not match exact snapshot")

open AgProgramCounterV1 in
def agStatusCanFollow (prior next : AgProgramCounterV1) : Bool :=
  prior == next || match prior with
  | observationRequired => next != observationRequired
  | proposalRecorded => !([observationRequired, proposalRecorded].contains next)
  | standingRequired =>
    !([observationRequired, proposalRecorded, standingRequired].contains next)
  | admissiblePendingAuthorization =>
    [authorizationConsumed, dispatched, reconciliationRequired, settledObservationRequired, halted,
      completed].contains next
  | authorizationConsumed =>
    [dispatched, reconciliationRequired, settledObservationRequired, halted,
      completed].contains next
  | dispatched =>
    [reconciliationRequired, settledObservationRequired, halted, completed].contains next
  | reconciliationRequired => [settledObservationRequired, halted, completed].contains next
  | settledObservationRequired => [halted, completed].contains next
  | halted => [completed].contains next
  | completed => false

/-! ## Authoring lineage -/

/-- The big-endian bytes of a 128-bit length. -/
def be128 (n : Nat) : Bytes :=
  (List.range 16).map fun i => UInt8.ofNat (n / 256 ^ (15 - i) % 256)

/-- AG's domain-separated digest. -/
def agHashDomain (domain : String) (payload : Bytes) : String :=
  w.sha256 (utf8 "ag-ng\x00digest\x00v1\x00" ++ be128 (byteLength domain) ++ utf8 domain ++
    be128 payload.length ++ payload)

def agProposalIdentity (proposalInput : JsonValue) : Except String String := do
  let proposal ← okOr (w.member proposalInput "proposal")
    "proposal_input does not contain proposal"
  refuseIf (!w.isObject proposal) "proposal_input.proposal must be an object"
  .ok (agHashDomain w agProposalIdentityDomainV1 proposal.canonical)

def exactWorkIdentity (proposalInput : JsonValue) : Except String String := do
  let work ← okOr
    ((w.member proposalInput "proposal").bind fun proposal =>
      (w.member proposal "work").bind w.asStr)
    "proposal_input does not contain exact proposal work"
  requireDigest "exact proposal work" work
  .ok work

namespace AuthoringContextProvenanceV1

def validate (provenance : AuthoringContextProvenanceV1) : Except String Unit := do
  refuseIf (provenance.schema != authoringContextProvenanceSchemaV1)
    "unsupported authoring-context provenance schema"
  refuseIf (provenance.producerComponent != authoringContextProducerV1)
    "authoring-context producer component mismatch"
  forEach
    [("provenance_id", provenance.provenanceId), ("maude_plan_ref", provenance.maudePlanRef),
      ("campaign_id", provenance.campaignId), ("proposal_id", provenance.proposalId),
      ("exact_work_id", provenance.exactWorkId),
      ("source_intent_id", provenance.sourceIntentId)]
    fun (name, value) => requireDigest name value
  PresentEvidence.requireToken "maude_session_id" provenance.maudeSessionId
  refuseIf (!w.isUuid provenance.occurrenceId) "authoring-context occurrence_id must be a UUID"
  refuseIf (provenance.sourcePlanBytes == 0 || provenance.sourcePlanBytes > maxPlanBytes)
    "authoring-context source plan length is invalid"
  refuseIf (provenance.provenanceId != w.sha256 (w.authoringCanonical provenance))
    "authoring-context provenance_id does not bind the exact record"

def validateRelationship (provenance : AuthoringContextProvenanceV1)
    (campaignId occurrenceId proposalId exactWorkId sourceIntentId : String) :
    Except String Unit := do
  provenance.validate w
  refuseIf (provenance.campaignId != campaignId || provenance.occurrenceId != occurrenceId ||
      provenance.proposalId != proposalId || provenance.exactWorkId != exactWorkId ||
      provenance.sourceIntentId != sourceIntentId)
    "authoring-context provenance does not bind the exact governed relationship"

/-- The lineage against the request and the intent it was minted for. -/
def checkFor (provenance : AuthoringContextProvenanceV1) (request : PreparedAgRequestV1)
    (intent : TypedCoarseIntentV2) : Except CanonicalStoreError Unit := do
  let proposalInput ← okOr (w.member request.exactRequest "proposal_input")
    (.invalid "prepared AG request has no exact proposal_input")
  let proposalId ← invalid (agProposalIdentity w proposalInput)
  let exactWorkId ← invalid (exactWorkIdentity w proposalInput)
  invalid (provenance.validateRelationship w request.campaignId request.occurrenceId proposalId
    exactWorkId intent.intentId)

end AuthoringContextProvenanceV1

namespace AuthoringContextCustodyProvenanceV1

def validate (custody : AuthoringContextCustodyProvenanceV1) : Except String Unit := do
  refuseIf (custody.schema != custodyProvenanceSchemaV1)
    "unsupported authoring-context custody provenance schema"
  forEach
    [("custody_id", custody.custodyId), ("handoff_id", custody.handoffId),
      ("session_record_id", custody.sessionRecordId),
      ("authoring_context_provenance_id", custody.authoringContextProvenanceId),
      ("campaign_id", custody.campaignId), ("proposal_id", custody.proposalId),
      ("exact_work_id", custody.exactWorkId), ("target_request_id", custody.targetRequestId),
      ("maude_plan_ref", custody.maudePlanRef)]
    fun (name, value) => requireDigest name value
  refuseIf (!w.isUuid custody.occurrenceId) "custody occurrence_id must be a UUID"
  forEach
    [("producer_principal_id", custody.producerPrincipalId),
      ("producer_key_id", custody.producerKeyId),
      ("session_issuer_principal_id", custody.sessionIssuerPrincipalId),
      ("session_issuer_key_id", custody.sessionIssuerKeyId),
      ("target_runtime_id", custody.targetRuntimeId),
      ("maude_session_id", custody.maudeSessionId)]
    fun (name, value) => PresentEvidence.requireToken name value
  refuseIf (custody.authenticationMethod != hmacAuthSchemaV1)
    "unsupported custody authentication method"
  refuseIf (w.sha256 (w.authoringCustodyCanonical custody) != custody.custodyId)
    "custody_id does not bind the exact custody provenance"

def validateForAuthoring (custody : AuthoringContextCustodyProvenanceV1)
    (authoring : AuthoringContextProvenanceV1) : Except String Unit := do
  custody.validate w
  refuseIf (custody.authoringContextProvenanceId != authoring.provenanceId ||
      custody.campaignId != authoring.campaignId ||
      custody.occurrenceId != authoring.occurrenceId ||
      custody.proposalId != authoring.proposalId ||
      custody.exactWorkId != authoring.exactWorkId ||
      custody.maudeSessionId != authoring.maudeSessionId ||
      custody.maudePlanRef != authoring.maudePlanRef)
    "custody provenance does not bind the exact authoring lineage"

end AuthoringContextCustodyProvenanceV1

/-- Custody exists only for a lineage it binds. -/
def checkCustody (custody : Option AuthoringContextCustodyProvenanceV1)
    (provenance : Option AuthoringContextProvenanceV1) : Except CanonicalStoreError Unit :=
  match custody, provenance with
  | none, _ => .ok ()
  | some custody, some provenance => invalid (custody.validateForAuthoring w provenance)
  | some _, none => .error (.invalid "authoring custody exists without authoring-context lineage")

/-! ## Cycles -/

namespace ObservationCycleV1

/-- The digest over every member but `state_digest`. -/
def identity (cycle : ObservationCycleV1) : String := w.sha256 (w.cycleCanonical cycle)

def sealCycle (cycle : ObservationCycleV1) : ObservationCycleV1 :=
  let open_ := { cycle with stateDigest := "" }
  { open_ with stateDigest := open_.identity w }

/-- The AG reference is at the given program counter. -/
def agAt (cycle : ObservationCycleV1) (programCounter : AgProgramCounterV1) : Bool :=
  cycle.ag.any (·.programCounter == programCounter)

/-- Which facts go with which status. -/
def structural (cycle : ObservationCycleV1) : Bool :=
  match cycle.status with
  | .observing => cycle.observation.isNone && cycle.intent.isNone &&
      cycle.preparedAgRequest.isNone && cycle.ag.isNone
  | .postureRecorded => cycle.observation.isSome && cycle.intent.isNone &&
      cycle.preparedAgRequest.isNone && cycle.ag.isNone
  | .awaitingAg => cycle.observation.isSome && cycle.intent.isSome &&
      cycle.preparedAgRequest.isSome
  | .awaitingAgReconciliation => cycle.agAt .reconciliationRequired
  | .observationRequired => cycle.agAt .settledObservationRequired
  | .halted => cycle.agAt .halted
  | .closed => (cycle.observation.isSome && cycle.intent.isNone &&
      cycle.preparedAgRequest.isNone && cycle.ag.isNone) || cycle.agAt .completed ||
      cycle.agRefusal.isSome
  | .missed => cycle.timing == .missed && cycle.observation.isNone && cycle.intent.isNone &&
      cycle.ag.isNone
  | .recoveryRequired =>
    match cycle.preparedAgRequest with
    | some _ => cycle.observation.isSome && cycle.intent.isSome
    | none => cycle.intent.isNone && cycle.ag.isNone && cycle.agRefusal.isNone

def checkIntent (cycle : ObservationCycleV1) : Except CanonicalStoreError Unit :=
  match cycle.intent with
  | none => .ok ()
  | some intent => do
    let observation ← okOr cycle.observation (.invalid "intent exists without observation basis")
    intent.validateForObservation w observation

def checkAg (cycle : ObservationCycleV1) : Except CanonicalStoreError Unit :=
  match cycle.ag with
  | none => .ok ()
  | some ag => do
    ag.validate w
    refuseIf cycle.intent.isNone (.invalid "AG occurrence exists without an exact typed intent")

def checkRefusal (cycle : ObservationCycleV1) : Except CanonicalStoreError Unit :=
  match cycle.agRefusal with
  | none => .ok ()
  | some refusal => do
    refusal.validate w
    let request ← okOr cycle.preparedAgRequest
      (.invalid "AG refusal exists without prepared request")
    refuseIf (request.campaignId != refusal.campaignId ||
        request.occurrenceId != refusal.occurrenceId)
      (.invalid "AG refusal names the wrong prepared occurrence")

def checkRequest (cycle : ObservationCycleV1) : Except CanonicalStoreError Unit :=
  match cycle.preparedAgRequest with
  | none => .ok ()
  | some request => do
    request.validate w
    let intent ← okOr cycle.intent (.invalid "prepared AG request exists without intent")
    refuseIf (request.sourceIntentId != intent.intentId)
      (.invalid "prepared AG request does not bind the exact intent")

def checkAuthoring (cycle : ObservationCycleV1) : Except CanonicalStoreError Unit :=
  match cycle.authoringContextProvenance, cycle.preparedAgRequest, cycle.intent with
  | none, _, _ => .ok ()
  | some provenance, some request, some intent => provenance.checkFor w request intent
  | some _, _, _ => .error
      (.invalid "authoring-context provenance exists without its exact prepared request")

def validate (cycle : ObservationCycleV1) : Except CanonicalStoreError Unit := do
  refuseIf (cycle.schema != cycleSchemaV1) (.invalid "unsupported observation-cycle schema")
  invalid (PresentEvidence.requireToken "cycle_id" cycle.cycleId)
  cycle.slot.validate w
  invalid (requireDigest "state_digest" cycle.stateDigest)
  forEach cycle.priorStateDigest.toList fun prior =>
    invalid (requireDigest "prior_state_digest" prior)
  forEach cycle.observation.toList fun observation =>
    observation.validateForCycle w cycle.cycleId
  cycle.checkIntent w
  forEach cycle.temporalPosture.toList (·.check)
  cycle.checkAg w
  cycle.checkRefusal w
  cycle.checkRequest w
  cycle.checkAuthoring w
  checkCustody w cycle.authoringContextCustody cycle.authoringContextProvenance
  refuseIf (!cycle.structural)
    (.invalid "cycle status and retained semantic facts are inconsistent")
  refuseIf (cycle.stateDigest != cycle.identity w)
    (.invalid "observation-cycle state digest mismatch")

end ObservationCycleV1

end Nightshift.Canonical
