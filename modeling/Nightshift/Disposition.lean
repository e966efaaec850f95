import Nightshift.Dispatch

/-!
Dispositions and deferrals, and the pure graph that binds a dispatch, its
observation and disposition, the attempt's prior deferrals and the deferral of
a parked disposition.
-/

namespace Nightshift

open Checked

namespace ProviderAdmissionDispositionKindV1

def permitsAutomaticPark (k : ProviderAdmissionDispositionKindV1) : Bool :=
  k == .notAdmittedModelAtCapacity

end ProviderAdmissionDispositionKindV1

namespace ProviderAdmissionDispositionV1

def domain (schema : String) : Except ContractError String :=
  if schema == providerAdmissionDispositionSchemaV1 then
    .ok "nightshift.provider-admission-disposition.digest/v1\x00"
  else if schema == providerAdmissionDispositionSchemaV2 then
    .ok "nightshift.provider-admission-disposition.digest/v2\x00"
  else if schema == providerAdmissionDispositionSchemaV3 then
    .ok "nightshift.provider-admission-disposition.digest/v3\x00"
  else .error (.foreignSchema schema)

def computedDigest (w : Platform) (domain : String) (d : ProviderAdmissionDispositionV1) :
    String :=
  w.digestWithout domain "disposition_digest" (.disposition { d with dispositionDigest := "" })

/-- The disposition kind and mechanism state a V1 qualification outcome yields. -/
def expectedV1 : DeterministicProviderAdmissionOutcomeV1 →
    ProviderAdmissionDispositionKindV1 × ProviderMechanismStateV1
  | .rateLimited => (.notAdmittedRateLimited, .parkedNotAdmitted)
  | .providerUnavailable => (.notAdmittedProviderUnavailable, .parkedNotAdmitted)
  | .authenticationRefused => (.authenticationRefused, .admissionIndeterminate)
  | .transportError | .protocolError => (.admissionIndeterminate, .admissionIndeterminate)

def expectedV2 : DeterministicProviderAdmissionOutcomeV2 →
    ProviderAdmissionDispositionKindV1 × ProviderMechanismStateV1
  | .providerUnavailable => (.notAdmittedProviderUnavailable, .parkedNotAdmitted)
  | .executionCompleted => (.executionAdmitted, .providerCompleted)

def validateQualificationV1 (w : Platform) (d : ProviderAdmissionDispositionV1) (raw : Bytes) :
    Except ContractError Unit := do
  refuseIf (d.mapperSnapshotSchema != deterministicProviderAdmissionEvidenceSchemaV1 ||
      d.mapperSnapshot.representation != qualificationRepresentation)
    (.invalidField "qualification evidence schema")
  let evidence ← w.parseQualificationV1 raw
  evidence.validate w
  refuseIf (d.mapperSnapshotDigest != evidence.evidenceDigest ||
      d.workAttemptId != evidence.workAttemptId ||
      d.dispatchOccurrenceId != evidence.dispatchOccurrenceId ||
      d.providerRequestOccurrenceId != evidence.providerRequestOccurrenceId ||
      d.providerId != evidence.providerId || d.modelId != evidence.modelId ||
      d.receivedAt != evidence.receivedAt || d.responseCreated != evidence.responseCreated ||
      d.providerRetryAfter != evidence.retryAfter || d.providerExecution.isSome ||
      !d.acquisitionComplete)
    (.invalidField "qualification evidence disposition binding")
  refuseIf ((d.disposition, d.mechanismState) != expectedV1 evidence.outcome)
    (.invalidField "qualification evidence outcome binding")

def validateQualificationV2 (w : Platform) (d : ProviderAdmissionDispositionV1) (raw : Bytes) :
    Except ContractError Unit := do
  refuseIf (d.mapperSnapshotSchema != deterministicProviderAdmissionEvidenceSchemaV2 ||
      d.mapperSnapshot.representation != qualificationRepresentation)
    (.invalidField "qualification execution evidence schema")
  let evidence ← w.parseQualificationV2 raw
  evidence.validate w
  refuseIf (d.mapperSnapshotDigest != evidence.evidenceDigest ||
      d.workAttemptId != evidence.workAttemptId ||
      d.dispatchOccurrenceId != evidence.dispatchOccurrenceId ||
      d.providerRequestOccurrenceId != evidence.providerRequestOccurrenceId ||
      d.providerId != evidence.providerId || d.modelId != evidence.modelId ||
      d.receivedAt != evidence.receivedAt || d.responseCreated != evidence.responseCreated ||
      d.providerRetryAfter != evidence.retryAfter ||
      d.providerExecution != evidence.providerExecution || !d.acquisitionComplete)
    (.invalidField "qualification execution evidence disposition binding")
  refuseIf ((d.disposition, d.mechanismState) != expectedV2 evidence.outcome)
    (.invalidField "qualification execution evidence outcome binding")

def validateSwitchyard (w : Platform) (d : ProviderAdmissionDispositionV1) (raw : Bytes) :
    Except ContractError Unit := do
  refuseIf (d.mapperSnapshotSchema != switchyardSnapshotSchema ||
      d.mapperSnapshot.representation != "RFC8785_SWITCHYARD_MAPPER_SNAPSHOT")
    (.invalidField "mapper snapshot schema")
  w.switchyard.complete d raw

/-- The evidence family is chosen by the record schema. -/
def validateSnapshot (w : Platform) (d : ProviderAdmissionDispositionV1) (raw : Bytes) :
    Except ContractError Unit :=
  if d.schema == providerAdmissionDispositionSchemaV1 then d.validateSwitchyard w raw
  else if d.schema == providerAdmissionDispositionSchemaV2 then d.validateQualificationV1 w raw
  else d.validateQualificationV2 w raw

def validateKind (d : ProviderAdmissionDispositionV1) : Except ContractError Unit :=
  match d.disposition with
  | .executionAdmitted => do
    let execution ← okOr d.providerExecution (.invalidField "provider execution identity absence")
    execution.validate
    refuseIf (!d.responseCreated || execution.providerId != d.providerId ||
        execution.modelId != d.modelId ||
        execution.appServerSessionIdentity != d.appServerSessionIdentity ||
        execution.threadId != d.threadId || execution.turnId != d.turnId)
      (.invalidField "execution admission binding")
  | .notAdmittedModelAtCapacity | .notAdmittedProviderUnavailable | .notAdmittedRateLimited
  | .authenticationRefused =>
    refuseIf (d.providerExecution.isSome || d.responseCreated || !d.acquisitionComplete)
      (.invalidField "pre-admission refusal binding")
  | .quotaExhaustedFuelOwned => .error (.invalidField "FUEL-owned quota disposition")
  | .admissionIndeterminate =>
    refuseIf (d.providerExecution.isSome && !d.responseCreated)
      (.invalidField "indeterminate execution binding")

def validate (w : Platform) (d : ProviderAdmissionDispositionV1) : Except ContractError Unit := do
  let domain ← domain d.schema
  Availability.sealedDigest (d.computedDigest w domain) "disposition_digest" d.dispositionDigest
  Contract.each Availability.digest
    [("dispatch_digest", d.dispatchDigest), ("requirement_digest", d.requirementDigest),
      ("policy_digest", d.policyDigest), ("packet_digest", d.packetDigest),
      ("mapper_snapshot_digest", d.mapperSnapshotDigest)]
  Contract.each Contract.id
    [("run_id", d.runId), ("work_item_id", d.workItemId), ("work_attempt_id", d.workAttemptId),
      ("dispatch_occurrence_id", d.dispatchOccurrenceId), ("provider_id", d.providerId),
      ("model_id", d.modelId),
      ("provider_request_occurrence_id", d.providerRequestOccurrenceId),
      ("adapter_process_occurrence_id", d.adapterProcessOccurrenceId),
      ("app_server_session_identity", d.appServerSessionIdentity), ("thread_id", d.threadId),
      ("turn_id", d.turnId)]
  let raw ← d.mapperSnapshot.validate w
  d.validateSnapshot w raw
  refuseIf (d.willRetry || d.approvalResponseSent || !d.protectedEffectAbsent)
    (.invalidField "provider admission authority boundary")
  d.validateKind
  refuseIf ((d.providerRetryAfter.any fun retryAfter => retryAfter < d.receivedAt) ||
    d.authorityEffect != mechanismEvidenceOnly) (.invalidField "admission disposition boundary")

def permitsAutomaticPark (d : ProviderAdmissionDispositionV1) : Bool :=
  d.disposition.permitsAutomaticPark ||
    ((d.schema == providerAdmissionDispositionSchemaV2 ||
        d.schema == providerAdmissionDispositionSchemaV3) &&
      (d.disposition == .notAdmittedProviderUnavailable ||
        d.disposition == .notAdmittedRateLimited))

end ProviderAdmissionDispositionV1

namespace DeferredProviderDispatchV1

def computedDigest (w : Platform) (d : DeferredProviderDispatchV1) : String :=
  w.digestWithout "nightshift.deferred-provider-dispatch.digest/v1\x00"
    "deferred_dispatch_digest" (.deferred { d with deferredDispatchDigest := "" })

/-- `windows(2).any(|pair| pair[0] >= pair[1])` -/
def notIncreasing : List Nat → Bool
  | a :: b :: rest => a ≥ b || notIncreasing (b :: rest)
  | _ => false

def expectedWake (d : DeferredProviderDispatchV1) : Except ContractError Instant :=
  match d.wakeBasis with
  | .providerRetryAfter => okOr d.providerRetryAfter (.invalidField "provider_retry_after")
  | .policyBackoff => do
    refuseIf d.providerRetryAfter.isSome (.invalidField "unexpected provider_retry_after")
    okOr (checkedAddSeconds d.refusalReceivedAt d.backoffSeconds) (.invalidField "wake_at")

def validate (w : Platform) (d : DeferredProviderDispatchV1) : Except ContractError Unit := do
  Contract.schema d.schema deferredProviderDispatchSchemaV1
  Availability.sealedDigest (d.computedDigest w) "deferred_dispatch_digest"
    d.deferredDispatchDigest
  Contract.each Availability.digest
    [("requirement_digest", d.requirementDigest), ("policy_digest", d.policyDigest),
      ("disposition_digest", d.dispositionDigest), ("packet_digest", d.packetDigest)]
  Contract.each Contract.id
    [("run_id", d.runId), ("work_item_id", d.workItemId), ("work_attempt_id", d.workAttemptId),
      ("last_dispatch_occurrence_id", d.lastDispatchOccurrenceId),
      ("provider_id", d.providerId), ("model_id", d.modelId)]
  refuseIf (d.selectedModelOrdinal ≥ 16 || d.backoffOrdinal ≥ maximumDispatchOccurrences ||
      d.backoffSeconds == 0 || d.backoffSeconds > 86400 ||
      d.remainingModelOrdinals.length > 16 ||
      (d.remainingModelOrdinals.any fun ordinal =>
        ordinal ≥ 16 || ordinal ≤ d.selectedModelOrdinal) ||
      notIncreasing d.remainingModelOrdinals || !d.providerCapacityReleased ||
      d.semanticRetry || d.authorityEffect != localSchedulingOnly)
    (.invalidField "deferred dispatch boundary")
  let expected ← d.expectedWake
  refuseIf (d.wakeAt != expected || d.wakeAt ≤ d.refusalReceivedAt) (.invalidField "wake_at")

end DeferredProviderDispatchV1

namespace ProviderDeferralHistoryEntryV1

def validate (w : Platform) (e : ProviderDeferralHistoryEntryV1) : Except ContractError Unit := do
  e.dispatch.validate w
  e.disposition.validate w
  e.deferred.validate w

end ProviderDeferralHistoryEntryV1

namespace AvailabilityGraph

/-- The wake time and the exact seconds a deferral stands for. An overflow of
the backoff addition aborts the source; it is refused here. -/
def expectedDeferral (policy : ExecutionAvailabilityPolicyV1)
    (disposition : ProviderAdmissionDispositionV1) (deferred : DeferredProviderDispatchV1) :
    Except ContractError (Instant × Nat) :=
  match deferred.wakeBasis with
  | .providerRetryAfter => do
    let wake ← okOr disposition.providerRetryAfter (.invalidField "provider retry-after absence")
    let milliseconds := numMilliseconds wake disposition.receivedAt
    refuseIf (milliseconds ≤ 0 || milliseconds % 1000 != 0)
      (.invalidField "exact provider retry-after duration")
    .ok (wake, milliseconds.toNat / 1000)
  | .policyBackoff => do
    refuseIf (disposition.providerRetryAfter.isSome || deferred.providerRetryAfter.isSome)
      (.invalidField "policy backoff retry-after absence")
    let seconds ← okOr (policy.backoffSeconds[deferred.backoffOrdinal]?)
      (.invalidField "backoff ordinal")
    let wake ← okOr (checkedAddSeconds disposition.receivedAt seconds)
      (.invalidField "exact deferred wake derivation")
    .ok (wake, seconds)

def exactDeferralSeconds (policy : ExecutionAvailabilityPolicyV1)
    (disposition : ProviderAdmissionDispositionV1) (deferred : DeferredProviderDispatchV1) :
    Except ContractError Nat := do
  let expected ← expectedDeferral policy disposition deferred
  refuseIf (deferred.refusalReceivedAt != disposition.receivedAt ||
      deferred.providerRetryAfter != disposition.providerRetryAfter ||
      deferred.wakeAt != expected.1 || deferred.backoffSeconds != expected.2)
    (.invalidField "exact deferred wake derivation")
  .ok expected.2

def ownerFamilyMatches (dispatch : ProviderDispatchOccurrenceV1)
    (disposition : ProviderAdmissionDispositionV1) : Bool :=
  if disposition.schema == providerAdmissionDispositionSchemaV1 then
    dispatch.adapterId != holdingQualificationProducerId &&
      dispatch.adapterProtocol == switchyardAppServerProtocol
  else if disposition.schema == providerAdmissionDispositionSchemaV2 then
    dispatch.adapterId == holdingQualificationProducerId &&
      dispatch.adapterVersion == holdingQualificationProducerVersion &&
      dispatch.adapterProtocol == deterministicProviderAdmissionEvidenceSchemaV1
  else if disposition.schema == providerAdmissionDispositionSchemaV3 then
    dispatch.adapterId == holdingQualificationProducerId &&
      dispatch.adapterVersion == secondWatchQualificationProducerVersion &&
      dispatch.adapterProtocol == deterministicProviderAdmissionEvidenceSchemaV2
  else false

def validateDispatchDispositionOwnerFamily (dispatch : ProviderDispatchOccurrenceV1)
    (disposition : ProviderAdmissionDispositionV1) : Except ContractError Unit :=
  refuseIf (!ownerFamilyMatches dispatch disposition)
    (.invalidField "dispatch disposition owner-family graph")

def dispositionSourceObservation (w : Platform) (disposition : ProviderAdmissionDispositionV1) :
    Except ContractError DispositionSourceObservation := do
  let raw ← disposition.mapperSnapshot.validate w
  if disposition.schema == providerAdmissionDispositionSchemaV3 then
    let evidence ← w.parseQualificationV2 raw
    evidence.validate w
    .ok ⟨some evidence.rawEvidence, evidence.observedAt, holdingQualificationProducerId,
      secondWatchQualificationProducerVersion⟩
  else if disposition.schema == providerAdmissionDispositionSchemaV2 then
    let evidence ← w.parseQualificationV1 raw
    evidence.validate w
    .ok ⟨some evidence.rawEvidence, evidence.observedAt, holdingQualificationProducerId,
      holdingQualificationProducerVersion⟩
  else w.switchyard.source disposition raw

/-- The fallback suffix behind an ordinal, empty when fallback is not allowed. -/
def expectedRemaining (policy : ExecutionAvailabilityPolicyV1) (count ordinal : Nat) : List Nat :=
  if policy.allowOrderedModelFallback then List.range' (ordinal + 1) (count - (ordinal + 1))
  else []

/-- The digests, run and lane that dispatch and disposition share with the requirement. -/
def dispatchBound (requirement : ForemanExecutionAvailabilityRequirementV1)
    (policy : ExecutionAvailabilityPolicyV1) (dispatch : ProviderDispatchOccurrenceV1) : Bool :=
  dispatch.requirementDigest == requirement.requirementDigest &&
    dispatch.policyDigest == policy.policyDigest &&
    dispatch.packetDigest == requirement.packetDigest && dispatch.runId == requirement.runId &&
    dispatch.adapterId == requirement.adapterId &&
    dispatch.adapterVersion == requirement.adapterVersion &&
    dispatch.adapterProtocol == requirement.adapterProtocol

def dispositionBound (requirement : ForemanExecutionAvailabilityRequirementV1)
    (policy : ExecutionAvailabilityPolicyV1) (dispatch : ProviderDispatchOccurrenceV1)
    (disposition : ProviderAdmissionDispositionV1) : Bool :=
  disposition.dispatchDigest == dispatch.dispatchDigest &&
    disposition.requirementDigest == requirement.requirementDigest &&
    disposition.policyDigest == policy.policyDigest &&
    disposition.packetDigest == requirement.packetDigest &&
    disposition.runId == requirement.runId && disposition.workItemId == dispatch.workItemId &&
    disposition.workAttemptId == dispatch.workAttemptId &&
    disposition.dispatchOccurrenceId == dispatch.dispatchOccurrenceId &&
    disposition.providerId == dispatch.selection.providerId &&
    disposition.modelId == dispatch.selection.modelId &&
    disposition.adapterProcessOccurrenceId == dispatch.adapterProcessOccurrenceId &&
    disposition.appServerSessionIdentity == dispatch.appServerSessionIdentity

/-- The observation state a disposition kind requires. -/
def expectedObservationState (disposition : ProviderAdmissionDispositionV1)
    (observation : ExecutionAvailabilityObservationV1) :
    Except ContractError ExecutionAvailabilityStateV1 :=
  match disposition.disposition with
  | .notAdmittedModelAtCapacity => .ok .modelAtCapacity
  | .notAdmittedProviderUnavailable => .ok .providerUnavailable
  | .notAdmittedRateLimited => .ok .rateLimited
  | .authenticationRefused => .ok .authenticationRefused
  | .admissionIndeterminate => do
    refuseIf (!(observation.state == .unknown || observation.state == .transportError ||
      observation.state == .protocolError)) (.invalidField "indeterminate observation state")
    .ok observation.state
  | .executionAdmitted => .ok .available
  | .quotaExhaustedFuelOwned => .error (.invalidField "quota is FUEL-owned")

/-- The accumulators of the prior-deferral loop. -/
structure Prior where
  cumulativeSeconds : Nat
  dispatchIds : BTreeSet String
  refusalTime : Option Instant
  wakeTime : Option Instant
  modelOrdinal : Option Nat

def Prior.start : Prior := ⟨0, ∅, none, none, none⟩

/-- An ordinal neither falls back nor skips. -/
def ordinalProgresses (previous : Option Nat) (next : Nat) : Bool :=
  !(previous.any fun ordinal => next < ordinal || next > ordinal + 1)

def addSeconds (total seconds : Nat) : Except ContractError Nat := do
  refuseIf (total + seconds ≥ 2 ^ 64) (.invalidField "cumulative deferral overflow")
  .ok (total + seconds)

def validatePrior (w : Platform) (requirement : ForemanExecutionAvailabilityRequirementV1)
    (policy : ExecutionAvailabilityPolicyV1) (dispatch : ProviderDispatchOccurrenceV1)
    (selections : List ProviderModelSelectionV1) (prior : Prior)
    (indexed : Nat × ProviderDeferralHistoryEntryV1) : Except ContractError Prior := do
  let index := indexed.1
  let entry := indexed.2
  entry.validate w
  let d := entry.dispatch
  let s := entry.disposition
  let f := entry.deferred
  validateDispatchDispositionOwnerFamily d s
  let selection ← okOr (selections[f.selectedModelOrdinal]?)
    (.invalidField "prior deferred model ordinal")
  refuseIf (!dispatchBound requirement policy d || d.workItemId != dispatch.workItemId ||
      d.workAttemptId != dispatch.workAttemptId || d.adapterId != dispatch.adapterId ||
      d.adapterVersion != dispatch.adapterVersion ||
      d.adapterProtocol != dispatch.adapterProtocol || d.dispatchOrdinal != index + 1 ||
      d.selectedModelOrdinal != f.selectedModelOrdinal || d.selection != selection ||
      d.dispatchOccurrenceId != f.lastDispatchOccurrenceId ||
      !dispositionBound requirement policy d s ||
      f.dispositionDigest != s.dispositionDigest || !s.permitsAutomaticPark ||
      requirement.admittedAt > d.openedAt || d.openedAt > s.receivedAt ||
      (prior.wakeTime.any fun wake => d.openedAt < wake) ||
      (prior.wakeTime.any fun wake => s.receivedAt < wake) ||
      f.requirementDigest != requirement.requirementDigest ||
      f.policyDigest != policy.policyDigest || f.packetDigest != requirement.packetDigest ||
      f.runId != requirement.runId || f.workItemId != dispatch.workItemId ||
      f.workAttemptId != dispatch.workAttemptId || f.providerId != selection.providerId ||
      f.modelId != selection.modelId || f.backoffOrdinal != index ||
      f.remainingModelOrdinals !=
        expectedRemaining policy selections.length f.selectedModelOrdinal ||
      f.parkedResourceLockPolicy != policy.parkedResourceLockPolicy ||
      prior.dispatchIds.contains f.lastDispatchOccurrenceId ||
      (prior.refusalTime.any fun at_ => f.refusalReceivedAt < at_) ||
      (!policy.allowOrderedModelFallback && f.selectedModelOrdinal != 0) ||
      !ordinalProgresses prior.modelOrdinal f.selectedModelOrdinal)
    (.invalidField "prior deferral graph")
  let seconds ← exactDeferralSeconds policy s f
  let cumulative ← addSeconds prior.cumulativeSeconds seconds
  .ok { cumulativeSeconds := cumulative
        dispatchIds := prior.dispatchIds.insert f.lastDispatchOccurrenceId
        refusalTime := some f.refusalReceivedAt
        wakeTime := some f.wakeAt
        modelOrdinal := some f.selectedModelOrdinal }

/-- The deferral a parked disposition must bind. -/
def validateParked (w : Platform) (requirement : ForemanExecutionAvailabilityRequirementV1)
    (policy : ExecutionAvailabilityPolicyV1) (dispatch : ProviderDispatchOccurrenceV1)
    (disposition : ProviderAdmissionDispositionV1) (selections : List ProviderModelSelectionV1)
    (cumulativeSeconds : Nat) (parked : DeferredProviderDispatchV1) :
    Except ContractError Unit := do
  parked.validate w
  refuseIf (parked.requirementDigest != requirement.requirementDigest ||
      parked.policyDigest != policy.policyDigest ||
      parked.dispositionDigest != disposition.dispositionDigest ||
      parked.packetDigest != requirement.packetDigest || parked.runId != requirement.runId ||
      parked.workItemId != dispatch.workItemId ||
      parked.workAttemptId != dispatch.workAttemptId ||
      parked.lastDispatchOccurrenceId != dispatch.dispatchOccurrenceId ||
      parked.providerId != dispatch.selection.providerId ||
      parked.modelId != dispatch.selection.modelId ||
      parked.selectedModelOrdinal != dispatch.selectedModelOrdinal ||
      parked.refusalReceivedAt != disposition.receivedAt ||
      parked.backoffOrdinal + 1 != dispatch.dispatchOrdinal ||
      parked.parkedResourceLockPolicy != policy.parkedResourceLockPolicy ||
      !parked.providerCapacityReleased || parked.semanticRetry)
    (.invalidField "deferred dispatch graph")
  refuseIf (parked.remainingModelOrdinals !=
      expectedRemaining policy selections.length dispatch.selectedModelOrdinal)
    (.invalidField "ordered fallback suffix")
  let seconds ← exactDeferralSeconds policy disposition parked
  let cumulative ← addSeconds cumulativeSeconds seconds
  refuseIf (cumulative > policy.maximumTotalDeferralSeconds)
    (.invalidField "maximum cumulative deferral")

/-- Observation, disposition and dispatch describe one provider decision. -/
def validateObservation (w : Platform) (dispatch : ProviderDispatchOccurrenceV1)
    (observation : ExecutionAvailabilityObservationV1)
    (disposition : ProviderAdmissionDispositionV1) : Except ContractError Unit := do
  let source ← dispositionSourceObservation w disposition
  refuseIf (observation.providerId != dispatch.selection.providerId ||
      observation.modelId != dispatch.selection.modelId ||
      observation.modelClass != dispatch.selection.modelClass ||
      observation.receivedAt != disposition.receivedAt ||
      observation.observedAt != source.observedAt ||
      observation.providerRetryAfter != disposition.providerRetryAfter ||
      observation.sourceIdentity != source.identity ||
      observation.sourceVersion != source.version ||
      !observation.isCurrentAt disposition.receivedAt)
    (.invalidField "availability observation graph")
  let expected ← expectedObservationState disposition observation
  refuseIf (observation.state != expected) (.invalidField "disposition observation state")
  refuseIf (observation.exactEvidence != source.evidence)
    (.invalidField "exact observation source binding")

/-- The lane progression that the prior deferrals admit for this dispatch. -/
def validateProgression (policy : ExecutionAvailabilityPolicyV1)
    (dispatch : ProviderDispatchOccurrenceV1) (disposition : ProviderAdmissionDispositionV1)
    (prior : Prior) : Except ContractError Unit := do
  refuseIf ((prior.wakeTime.any fun wake => dispatch.openedAt < wake) ||
      (prior.wakeTime.any fun wake => disposition.receivedAt < wake) ||
      (!policy.allowOrderedModelFallback && dispatch.selectedModelOrdinal != 0) ||
      prior.cumulativeSeconds > policy.maximumTotalDeferralSeconds)
    (.invalidField "prior wake dispatch progression")
  refuseIf (!ordinalProgresses prior.modelOrdinal dispatch.selectedModelOrdinal)
    (.invalidField "ordered model deferral continuity")

/-- `validate_execution_availability_graph` -/
def validate (w : Platform) (requirement : ForemanExecutionAvailabilityRequirementV1)
    (policy : ExecutionAvailabilityPolicyV1) (dispatch : ProviderDispatchOccurrenceV1)
    (observation : ExecutionAvailabilityObservationV1)
    (disposition : ProviderAdmissionDispositionV1)
    (priorHistory : List ProviderDeferralHistoryEntryV1)
    (deferred : Option DeferredProviderDispatchV1) : Except ContractError Unit := do
  requirement.validate w
  policy.validate w
  dispatch.validate w
  observation.validate w
  disposition.validate w
  if disposition.mapperSnapshotSchema == switchyardSnapshotSchema then do
    let raw ← disposition.mapperSnapshot.validate w
    w.switchyard.graph requirement.ownerPins raw
  else .ok ()
  refuseIf (requirement.admittedAt > dispatch.openedAt ||
      dispatch.openedAt > disposition.receivedAt || requirement.policyId != policy.policyId ||
      requirement.policyDigest != policy.policyDigest ||
      !dispatchBound requirement policy dispatch ||
      dispatch.dispatchOrdinal > policy.maximumDispatchOccurrencesPerAttempt)
    (.invalidField "requirement policy dispatch graph")
  let selections ← okOr (requirement.workItemModelSelections[dispatch.workItemId]?)
    (.invalidField "dispatch work-item selection")
  refuseIf (selections[dispatch.selectedModelOrdinal]? != some dispatch.selection)
    (.invalidField "selected model ordinal")
  refuseIf (!dispositionBound requirement policy dispatch disposition)
    (.invalidField "dispatch disposition graph")
  validateDispatchDispositionOwnerFamily dispatch disposition
  validateObservation w dispatch observation disposition
  refuseIf (dispatch.dispatchOrdinal != priorHistory.length + 1 ||
      priorHistory.length ≥ policy.maximumDispatchOccurrencesPerAttempt)
    (.invalidField "dispatch ordinal prior deferral continuity")
  let prior ← ((List.range priorHistory.length).zip priorHistory).foldlM
    (validatePrior w requirement policy dispatch selections) Prior.start
  validateProgression policy dispatch disposition prior
  if disposition.permitsAutomaticPark then do
    let parked ← okOr deferred (.invalidField "deferred dispatch absence")
    validateParked w requirement policy dispatch disposition selections prior.cumulativeSeconds
      parked
  else refuseIf deferred.isSome (.invalidField "unlawful automatic park")
  refuseIf (disposition.mechanismState == .postAdmissionInterrupted &&
      (disposition.providerExecution.isNone || deferred.isSome))
    (.invalidField "post-admission resume-only law")

end AvailabilityGraph

end Nightshift
