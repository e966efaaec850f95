import Nightshift.CanonicalStore
import Nightshift.CycleRequest

/-!
# The canonical runtime

One observation cycle from its request to its AG occurrence, and the later
reading of AG status. Every call of the store is a transaction or a read of its
own, and other processes act in between. The ports are asked for each question
at most once in a call, so a function of the question is every behaviour they
can show in it. The journal keeps what no table does: when the origin head and
the compositions of a source were read, and when AG was asked to open.
-/

namespace Nightshift.Canonical

open Checked Diagnostic PresentEvidence Interleave

/-! ## The world of the runtime -/

inductive RuntimeEvent where
  | originHeadRead (subjectRef : String)
  | compositionsScanned (sourceObservationId : String)
  | occurrenceOpened (cycleId : String) (request : AgOpenOccurrenceRequestV1)
  deriving DecidableEq, Repr

structure World where
  store : Store
  journal : List RuntimeEvent

def World.note (event : RuntimeEvent) (t : World) : World :=
  { t with journal := t.journal ++ [event] }

variable {ε α : Type}

/-- `self.store.call(..)?` -/
def onStore (call : Call Store CanonicalStoreError α) : Call World CanonicalRuntimeError α :=
  (call.within World.store fun s t => { t with store := s }).mapErr .store

theorem run_onStore (call : Call Store CanonicalStoreError α) (t : World) :
    (onStore call).run t =
      (mapErr .store (call.run t.store).1, { t with store := (call.run t.store).2 }) := by
  have hwithin : (call.within World.store fun s t => { t with store := s }).run t =
      ((call.run t.store).1, { t with store := (call.run t.store).2 }) := by
    apply Call.run_within <;> intros <;> rfl
  rw [onStore, Call.run_mapErr, hwithin]

/-- The first action of a call goes into the journal with it. -/
def noting (event : RuntimeEvent) : Call World ε α → Call World ε α
  | .done result => .done result
  | .act update next => .act (fun t => (update t).note event) next

/-- A check that refuses as external evidence does. -/
def refusing (result : Except String α) : Call World CanonicalRuntimeError α :=
  Call.check (mapErr .externalEvidence result)

/-! ## Ports -/

structure AgOccurrencePortV1 where
  openOccurrence : AgOpenOccurrenceRequestV1 → Except String AgOccurrenceReferenceV1
  status : (campaignId occurrenceId : String) → Except String AgOccurrenceReferenceV1

structure CanonicalRuntime where
  nqAdmission : NqAdmissionPortV1
  presentEvidence : PresentEvidenceQueryV1 → Except String QualifiedSupportV1
  ag : AgOccurrencePortV1
  externalEvidenceProfile : Option ExternalEvidenceProfileV1
  decisionEvidenceProfile : Option SteadyStateEvidenceProfileV1

variable (w : RuntimePlatform)

namespace CanonicalRuntime

def new (nqAdmission : NqAdmissionPortV1)
    (presentEvidence : PresentEvidenceQueryV1 → Except String QualifiedSupportV1)
    (ag : AgOccurrencePortV1) : CanonicalRuntime :=
  ⟨nqAdmission, presentEvidence, ag, none, none⟩

def newWithExternalEvidenceProfile (nqAdmission : NqAdmissionPortV1)
    (presentEvidence : PresentEvidenceQueryV1 → Except String QualifiedSupportV1)
    (ag : AgOccurrencePortV1) (profile : ExternalEvidenceProfileV1) :
    Except CanonicalRuntimeError CanonicalRuntime := do
  mapErr .externalEvidence (profile.validate w.toCanonicalPlatform)
  .ok ⟨nqAdmission, presentEvidence, ag, some profile, none⟩

def newWithDecisionEvidenceProfile (nqAdmission : NqAdmissionPortV1)
    (presentEvidence : PresentEvidenceQueryV1 → Except String QualifiedSupportV1)
    (ag : AgOccurrencePortV1) (profile : SteadyStateEvidenceProfileV1) :
    Except CanonicalRuntimeError CanonicalRuntime := do
  mapErr .externalEvidence (w.validateDecisionProfile profile)
  .ok ⟨nqAdmission, presentEvidence, ag, none, some profile⟩

end CanonicalRuntime

/-! ## Outside evidence -/

/-- `max_by_key` of the order keys: of equal keys the later one in the list. -/
def later (latest : Option ObservationCycleV1) (cycle : ObservationCycleV1) :
    Option ObservationCycleV1 :=
  match latest with
  | none => some cycle
  | some current =>
    if cycle.slot.orderKey.precedes current.slot.orderKey then some current else some cycle

/-- The latest governed observation of the family before the slot. -/
def latestPredecessor (slot : RecurrenceSlotV1) (cycles : List ObservationCycleV1) :
    Option ObservationCycleV1 :=
  (cycles.filter fun cycle => cycle.slot.family == slot.family &&
    cycle.slot.orderKey.precedes slot.orderKey && cycle.observation.isSome &&
    cycle.ag.isSome).foldl later none

/-- The AG occurrence of that observation. -/
def governedPredecessor (slot : RecurrenceSlotV1) (cycles : List ObservationCycleV1)
    (absent ungoverned : String) : Except String AgOccurrenceReferenceV1 := do
  let predecessor ← okOr (latestPredecessor slot cycles) absent
  okOr predecessor.ag ungoverned

/-- The settled predecessor state of AG that the source was observed for. -/
def settledFor (predecessor : AgOccurrenceReferenceV1) (source : LocalComposeWorldObservationV1) :
    Bool :=
  predecessor.programCounter == .settledObservationRequired &&
    predecessor.docketAttemptId == some source.attemptId &&
    predecessor.settlementId == some source.settlementId

def otherTarget (composition existing : ComposedExternalEvidenceV1) : Bool :=
  existing.targetCampaignId != composition.targetCampaignId ||
    existing.targetOccurrenceId != composition.targetOccurrenceId

/-- The composition and its place in the lineage, up to the question to AG. -/
def composeFrom (profile : ExternalEvidenceProfileV1) (request : CanonicalCycleRequestV1)
    (reference : ExternalEvidenceReferenceV1) :
    Call World CanonicalRuntimeError (ExternalRow × ComposedExternalEvidenceV1) := do
  refusing (refuseIf (reference.profileId != profile.profileId)
    "cycle selected a different external-evidence profile")
  let found ← onStore
    (externalObservationForComposition w.toCanonicalPlatform reference.sourceObservationId)
  let row ← refusing (okOr found "referenced authenticated application evidence is absent")
  let proposal ← refusing (okOr request.proposal
    "external evidence requires an exact successor proposal")
  refusing (refuseIf (!proposal.mode.isContinuation)
    "external evidence v1 cannot create a genesis occurrence")
  let composition ← refusing (ComposedExternalEvidenceV1.compose w.toCanonicalPlatform reference
    profile row.observation row.custody request.evaluatedAt proposal.campaignId
    proposal.occurrenceId request.policy.subject.id proposal.subjectDigest
    request.policy.subject.scope.digest)
  let cycles ← onStore (listCycles w.toCanonicalPlatform)
  let predecessorAg ← refusing (governedPredecessor request.slot cycles
    "external evidence has no exact prior Nightshift observation in this lineage"
    "latest prior Nightshift observation has no governed occurrence relation")
  refusing (refuseIf (predecessorAg.campaignId != row.observation.campaignId ||
      predecessorAg.occurrenceId != row.observation.occurrenceId)
    "external evidence does not bind the latest exact governed predecessor")
  let observationId ← refusing (composition.canonicalObservationId w.toCanonicalPlatform)
  refusing (refuseIf (request.observationId != observationId)
    "cycle observation identity does not bind the exact external-evidence composition")
  return (row, composition)

/-- No recorded observation uses the source for another target. -/
def requireSoleTarget (row : ExternalRow) (composition : ComposedExternalEvidenceV1) :
    Call World CanonicalRuntimeError Unit := do
  let existing ← noting (.compositionsScanned row.observation.observationId)
    (onStore (externalCompositionsForSource w.toCanonicalPlatform row.observation.observationId))
  refusing (refuseIf (existing.any (otherTarget composition))
    "historical application evidence is already composed for another exact target")

def requireSettledSource (ag : AgOccurrencePortV1) (source : LocalComposeWorldObservationV1) :
    Call World CanonicalRuntimeError Unit := do
  let predecessor ← Call.check (mapErr .ag (ag.status source.campaignId source.occurrenceId))
  refusing (refuseIf (predecessor.campaignId != source.campaignId ||
      predecessor.occurrenceId != source.occurrenceId || !settledFor predecessor source)
    "external evidence source is not the exact settled predecessor state")

def composeExternalEvidence (runtime : CanonicalRuntime) (request : CanonicalCycleRequestV1) :
    Call World CanonicalRuntimeError (Option ComposedExternalEvidenceV1) :=
  match request.externalEvidence with
  | none => pure none
  | some reference => do
    let profile ← refusing (okOr runtime.externalEvidenceProfile
      "cycle references external evidence but ingress has no configured profile")
    let (row, composition) ← composeFrom w profile request reference
    requireSoleTarget w row composition
    requireSettledSource runtime.ag row.observation
    return some composition

def requireQualificationTargetArtifact (proposal : PrecompiledWorkflowProposalV2)
    (qualificationPlanDocumentDigest : String) : Except String Unit := do
  let target ← okOr ((w.member proposal.immutableParameters "plan_document").bind w.asStr)
    "decision-relative work lacks an exact target PlanDocument digest"
  requireDigest "target plan_document" target
  refuseIf (target != qualificationPlanDocumentDigest)
    "historical qualification does not apply to the target PlanDocument"

/-- Decision evidence looks for no other target of its sources. -/
def composeDecisionFrom (runtime : CanonicalRuntime) (profile : SteadyStateEvidenceProfileV1)
    (request : CanonicalCycleRequestV1) (reference : DecisionRelativeEvidenceReferenceV1) :
    Call World CanonicalRuntimeError ComposedDecisionRelativeEvidenceV1 := do
  refusing (refuseIf (reference.profileId != profile.profileId)
    "cycle selected a different decision-evidence profile")
  let found ← onStore (externalObservationForComposition w.toCanonicalPlatform
    reference.qualificationObservationId)
  let qualification ← refusing (okOr found "referenced historical qualification is absent")
  let proposal ← refusing (okOr request.proposal
    "decision evidence requires an exact successor proposal")
  refusing (requireQualificationTargetArtifact w proposal
    qualification.observation.planDocumentDigest)
  let found ← onStore (steadyStateObservationForComposition w.toCanonicalPlatform
    reference.steadyStateObservationId)
  let steady ← refusing (okOr found "referenced passive steady-state evidence is absent")
  let composition ← refusing (w.composeDecision reference profile qualification.observation
    qualification.custody steady.observation steady.custody request.evaluatedAt
    proposal.campaignId proposal.occurrenceId request.policy.subject.id proposal.subjectDigest
    request.policy.subject.scope.digest)
  refusing (requireQualificationTargetArtifact w proposal
    composition.qualification.planDocumentDigest)
  let cycles ← onStore (listCycles w.toCanonicalPlatform)
  let predecessorAg ← refusing (governedPredecessor request.slot cycles
    "decision evidence has no exact governed predecessor"
    "latest prior observation has no governed occurrence relation")
  refusing (refuseIf (predecessorAg.campaignId != qualification.observation.campaignId ||
      predecessorAg.occurrenceId != qualification.observation.occurrenceId)
    "qualification does not bind the latest exact governed predecessor")
  let observationId ← refusing (w.decisionObservationId composition)
  refusing (refuseIf (request.observationId != observationId)
    "cycle observation identity does not bind decision-relative composition")
  let predecessor ← Call.check (mapErr .ag (runtime.ag.status qualification.observation.campaignId
    qualification.observation.occurrenceId))
  refusing (refuseIf (!settledFor predecessor qualification.observation)
    "historical qualification source is not the exact settled predecessor")
  return composition

def composeDecisionExternalEvidence (runtime : CanonicalRuntime)
    (request : CanonicalCycleRequestV1) :
    Call World CanonicalRuntimeError (Option ComposedDecisionRelativeEvidenceV1) :=
  match request.decisionExternalEvidence with
  | none => pure none
  | some reference => do
    let profile ← refusing (okOr runtime.decisionEvidenceProfile
      "cycle references decision evidence but ingress has no configured profile")
    let composition ← composeDecisionFrom w runtime profile request reference
    return some composition

/-! ## Observing -/

/-- The origin history given to every delivered artifact: at most the head of one subject. -/
def historyOf (subjectRef : String) (head : Option SubstrateOriginApplicabilityV1) :
    BTreeMap String SubstrateOriginApplicabilityV1 :=
  match head with
  | none => ∅
  | some head => (∅ : BTreeMap String SubstrateOriginApplicabilityV1).insert subjectRef head

/-- The head is read here; nothing behind this compares it again. -/
def qualifySources (runtime : CanonicalRuntime) (request : CanonicalCycleRequestV1) :
    Call World CanonicalRuntimeError QualifiedNqAdmissionsV1 := do
  let head ← noting (.originHeadRead request.policy.subject.id)
    (onStore (substrateOriginHead w.toCanonicalPlatform request.policy.subject.id))
  Call.check (mapErr .nqAdmission (qualifyDeliveredInputsWithOriginHistory w.toCanonicalPlatform
    runtime.nqAdmission request.inputs (historyOf request.policy.subject.id head)))

/-- `let _ = self.store.mark_recovery_required(..); return Err(error)` -/
def failInto (cycleId stateDigest reason : String) (now : Instant)
    (error : CanonicalRuntimeError) : Call World CanonicalRuntimeError α := do
  Call.attempt (onStore
    (markRecoveryRequired w.toCanonicalPlatform cycleId stateDigest reason now))
  Call.check (.error error)

/-- A result, or the recovery of the cycle. -/
def orFail (result : Except String α) (cycleId stateDigest reason : String) (now : Instant)
    (error : String → CanonicalRuntimeError) : Call World CanonicalRuntimeError α :=
  match result with
  | .ok value => pure value
  | .error message => failInto w cycleId stateDigest reason now (error message)

def supportQuery (draws : Draws) (request : CanonicalCycleRequestV1) (cycleId : String) :
    PresentEvidenceQueryV1 where
  schema := ""
  queryId := ""
  observationCycleId := cycleId
  requestNonce := "support-query:" ++ draws.queryUuid
  observationId := request.observationId
  diagnosticInputsId := request.inputs.inputsId
  subjectId := request.policy.subject.id
  scopeId := request.policy.subject.scope.digest
  artifactIds := deliveredArtifactIds request.inputs

/-- The schema follows from what the record carries. -/
def observationSchema (qualified : QualifiedNqAdmissionsV1)
    (external : Option ComposedExternalEvidenceV1)
    (decision : Option ComposedDecisionRelativeEvidenceV1) : String :=
  if !qualified.substrateOrigins.isEmpty then observationRecordSchemaV6
  else if !qualified.continuity.isEmpty then observationRecordSchemaV5
  else if decision.isSome then observationRecordSchemaV4
  else if external.isSome then observationRecordSchemaV3
  else observationRecordSchemaV2

def observationRecord (request : CanonicalCycleRequestV1) (qualified : QualifiedNqAdmissionsV1)
    (external : Option ComposedExternalEvidenceV1)
    (decision : Option ComposedDecisionRelativeEvidenceV1) (support : QualifiedSupportV1)
    (posture : OperationalPosture) : ObservationRecordV1 where
  schema := observationSchema qualified external decision
  observationId := request.observationId
  sourceAdmissions := qualified.provenance
  continuityApplicability := qualified.continuity
  substrateOriginApplicability := qualified.substrateOrigins
  externalEvidence := external
  decisionExternalEvidence := decision
  support
  posture

/-- `{:?}` of a headline. -/
def headlineDebug : Headline → String
  | .clean => "Clean"
  | .conditionPresent => "ConditionPresent"
  | .incomplete => "Incomplete"

def attentionReason (observation : ObservationRecordV1) (temporal : Option TemporalPostureV1) :
    AttentionClassV1 × String :=
  if observation.support.standing = .contradictory ∨ observation.support.standing = .blind then
    (.escalationRequested, "support_not_decidable")
  else if observation.support.standing ≠ .current then (.attentionRequired, "support_not_current")
  else if temporal.any (·.decision == .attention) then
    (.attentionRequired, "temporal_hold_expired")
  else if observation.posture.condition = .conditionPresent then
    (.attentionRequired, "condition_present")
  else (.display, "posture_observed")

def attentionFor (observation : ObservationRecordV1) (temporal : Option TemporalPostureV1) :
    AttentionRecordV1 where
  class_ := (attentionReason observation temporal).1
  sourcePostureId := observation.posture.postureId
  reasonCode := (attentionReason observation temporal).2
  displayText := some (headlineDebug observation.posture.headline)

def temporalPosture (request : CanonicalCycleRequestV1) :
    Except CanonicalStoreError (Option TemporalPostureV1) :=
  match request.temporalPolicy with
  | none => .ok none
  | some policy => some <$> TemporalPostureV1.evaluate policy.policyId policy.basisDigest
      policy.holdExpiry request.schedulerClockId request.evaluatedAt

/-- A claimed cycle with its recorded observation, as its own process knows it. -/
structure Observed where
  lease : LiveCycleLeaseV1
  observation : ObservationRecordV1
  temporal : Option TemporalPostureV1
  recorded : ObservationCycleV1
  deriving DecidableEq, Repr

/-- Claim the slot, ask for present support, and record what was observed. -/
def observeCycle (runtime : CanonicalRuntime) (draws : Draws) (request : CanonicalCycleRequestV1)
    (qualified : QualifiedNqAdmissionsV1) (external : Option ComposedExternalEvidenceV1)
    (decision : Option ComposedDecisionRelativeEvidenceV1) :
    Call World CanonicalRuntimeError Observed := do
  let (claimed, lease) ← onStore (claimSlot w.toCanonicalPlatform draws.cycleUuid
    draws.processNonce request.slot request.schedulerClockId request.evaluatedAt)
  let query ← Call.check (mapErr .invalid
    ((supportQuery draws request claimed.cycleId).sealQuery w.toDiagnosticPlatform))
  let support ← orFail w (runtime.presentEvidence query) claimed.cycleId claimed.stateDigest
    "present_evidence_unavailable" request.evaluatedAt .presentEvidence
  let posture ← orFail w (evaluatePostureWithSupport w.toDiagnosticPlatform request.policy
    request.inputs request.recurrence request.evaluatedAt support) claimed.cycleId
    claimed.stateDigest "diagnostic_posture_refused" request.evaluatedAt .diagnostic
  let observation := observationRecord request qualified external decision support posture
  let temporal ← Call.check (mapErr .store (temporalPosture request))
  let recorded ← onStore (recordObservation w.toCanonicalPlatform lease claimed.stateDigest
    observation (attentionFor observation temporal) temporal request.evaluatedAt)
  return ⟨lease, observation, temporal, recorded⟩

/-! ## Submitting -/

/-- The temporal decision holds the cycle back. -/
def isHeld (temporal : Option TemporalPostureV1) : Bool := temporal.any (·.decision == .hold)

/-- Nothing may be proposed on this observation. -/
def notProposable (observed : Observed) : Bool :=
  isHeld observed.temporal || !observed.observation.posture.current ||
    observed.observation.support.standing != .current

def mintLineage (verified : Option VerifiedMaudeHandoffV1) (intent : TypedCoarseIntentV2)
    (agRequest : AgOpenOccurrenceRequestV1) (now : Instant) :
    Except String (Option AuthoringContextProvenanceV1) :=
  match verified with
  | none => .ok none
  | some verified => do
    let proposalId ← agProposalIdentity w.toCanonicalPlatform agRequest.proposalInput
    let exactWorkId ← exactWorkIdentity w.toCanonicalPlatform agRequest.proposalInput
    some <$> AuthoringContextProvenanceV1.mint w verified.handoff.authoringContext
      agRequest.campaignId agRequest.occurrenceId proposalId exactWorkId intent.intentId now

def mintCustody (verified : Option VerifiedMaudeHandoffV1)
    (lineage : Option AuthoringContextProvenanceV1) (now : Instant) :
    Except String (Option AuthoringContextCustodyProvenanceV1) :=
  match verified, lineage with
  | some verified, some lineage => some <$> AuthoringContextCustodyProvenanceV1.mint w verified
      lineage now
  | _, _ => .ok none

/-- Ask AG to open the occurrence; the question is in the journal whatever AG answers. -/
def openOccurrence (ag : AgOccurrencePortV1) (cycleId : String)
    (request : AgOpenOccurrenceRequestV1) :
    Call World CanonicalRuntimeError (Except String AgOccurrenceReferenceV1) :=
  .act (World.note (.occurrenceOpened cycleId request)) fun _ => pure (ag.openOccurrence request)

/-- Compile the proposal on the recorded observation, commit the prepared request and its claim,
and only then ask AG. -/
def submitOccurrence (runtime : CanonicalRuntime) (now : Instant)
    (verified : Option VerifiedMaudeHandoffV1) (observed : Observed)
    (proposal : PrecompiledWorkflowProposalV2) :
    Call World CanonicalRuntimeError CycleRunOutcomeV1 := do
  let (intent, agRequest) ← Call.check (mapErr .invalid (proposal.compile w observed.observation))
  let lineage ← Call.check (mapErr .invalid (mintLineage w verified intent agRequest now))
  let custody ← Call.check (mapErr .invalid (mintCustody w verified lineage now))
  let prepared ← Call.check (mapErr .store (agRequest.prepared w))
  let pending ← onStore (prepareAgOccurrence w.toCanonicalPlatform observed.lease
    observed.recorded.stateDigest intent prepared ⟨lineage, custody⟩ now)
  let answer ← openOccurrence runtime.ag observed.lease.cycleId agRequest
  let ag ← orFail w answer observed.lease.cycleId pending.stateDigest
    "ag_status_required_no_resubmit" now .ag
  let cycle ← onStore (attachAgOccurrence w.toCanonicalPlatform observed.lease
    pending.stateDigest ag now)
  return .agOccurrenceOpened cycle

def closePosture (now : Instant) (observed : Observed) :
    Call World CanonicalRuntimeError CycleRunOutcomeV1 := do
  let cycle ← onStore (closeWithoutProposal w.toCanonicalPlatform observed.lease
    observed.recorded.stateDigest now)
  return .postureOnly cycle

def concludeCycle (runtime : CanonicalRuntime) (request : CanonicalCycleRequestV1)
    (verified : Option VerifiedMaudeHandoffV1) (observed : Observed) :
    Call World CanonicalRuntimeError CycleRunOutcomeV1 :=
  match request.proposal with
  | none => closePosture w request.evaluatedAt observed
  | some proposal =>
    if notProposable observed then closePosture w request.evaluatedAt observed
    else submitOccurrence w runtime request.evaluatedAt verified observed proposal

/-! ## The calls -/

/-- Authoring context and verified custody come together. -/
def matchHandoff (context : Option MaudeAuthoringContextHandoffV1)
    (verified : Option VerifiedMaudeHandoffV1) : Except String Unit :=
  match context, verified with
  | none, none => .ok ()
  | some _, some _ => .ok ()
  | some _, none => .error "Maude authoring context requires authenticated custody ingress"
  | none, some _ => .error "verified Maude custody has no authoring-context handoff"

def missedReason : String := "slot_passed_exact_latest_admissible_instant"

/-- The part behind the evidence: a missed slot is recorded, any other is observed. -/
def runSlot (runtime : CanonicalRuntime) (draws : Draws) (request : CanonicalCycleRequestV1)
    (verified : Option VerifiedMaudeHandoffV1) (external : Option ComposedExternalEvidenceV1)
    (decision : Option ComposedDecisionRelativeEvidenceV1) :
    SlotTimingV1 → Call World CanonicalRuntimeError CycleRunOutcomeV1
  | .missed => do
    let cycle ← onStore (recordMissed w.toCanonicalPlatform draws.cycleUuid request.slot
      request.schedulerClockId request.evaluatedAt missedReason)
    return .missed cycle
  | _ => do
    let qualified ← qualifySources w runtime request
    let observed ← observeCycle w runtime draws request qualified external decision
    concludeCycle w runtime request verified observed

def runCycleInner (runtime : CanonicalRuntime) (draws : Draws) (request : CanonicalCycleRequestV1)
    (verified : Option VerifiedMaudeHandoffV1) :
    Call World CanonicalRuntimeError CycleRunOutcomeV1 := do
  Call.check (mapErr .invalid (request.validate w))
  Call.check (mapErr .invalid (matchHandoff request.authoringContext verified))
  let external ← composeExternalEvidence w runtime request
  let decision ← composeDecisionExternalEvidence w runtime request
  let timing ← Call.check (mapErr .store (request.slot.timingAt w.toCanonicalPlatform
    request.schedulerClockId request.evaluatedAt))
  runSlot w runtime draws request verified external decision timing

def runCycle (runtime : CanonicalRuntime) (draws : Draws) (request : CanonicalCycleRequestV1) :
    Call World CanonicalRuntimeError CycleRunOutcomeV1 :=
  runCycleInner w runtime draws request none

def runCycleWithAuthoringCustody (runtime : CanonicalRuntime) (draws : Draws)
    (request : CanonicalCycleRequestV1) (verifier : MaudeCustodyVerifierV1) :
    Call World CanonicalRuntimeError CycleRunOutcomeV1 := do
  let handoff ← Call.check (okOr request.authoringContext
    (.invalid "authenticated authoring-context ingress requires a handoff"))
  let verified ← Call.check (mapErr .invalid
    (verifier.verify w handoff (request.authoringCustodyTargetRequestId w)))
  runCycleInner w runtime draws request (some verified)

/-- What follows a read of AG status; the stored request is never sent again. -/
def reconcile (cycle : ObservationCycleV1) (cycleId : String) (now : Instant)
    (status : Except String AgOccurrenceReferenceV1) :
    Call World CanonicalRuntimeError ObservationCycleV1 :=
  match status with
  | .error message =>
    if cycle.status = .recoveryRequired then Call.check (.error (.ag message))
    else failInto w cycleId cycle.stateDigest "ag_status_unavailable_no_resubmit" now (.ag message)
  | .ok status =>
    if cycle.ag.isSome then
      onStore (recordAgStatus w.toCanonicalPlatform cycleId cycle.stateDigest status now)
    else onStore (recoverAgOccurrence w.toCanonicalPlatform cycleId cycle.stateDigest status now)

def syncAg (ag : AgOccurrencePortV1) (cycleId : String) (now : Instant) :
    Call World CanonicalRuntimeError ObservationCycleV1 := do
  let cycle ← onStore (getCycle w.toCanonicalPlatform cycleId)
  let request ← Call.check (okOr cycle.preparedAgRequest
    (.invalid "cycle has no prepared AG request"))
  reconcile w cycle cycleId now (ag.status request.campaignId request.occurrenceId)

/-- The calls of the runtime and of the commands beside it, with their arguments. -/
inductive RuntimeCall where
  | runCycle (runtime : CanonicalRuntime) (draws : Draws) (request : CanonicalCycleRequestV1)
  | runCycleWithAuthoringCustody (runtime : CanonicalRuntime) (draws : Draws)
      (request : CanonicalCycleRequestV1) (verifier : MaudeCustodyVerifierV1)
  | syncAg (ag : AgOccurrencePortV1) (cycleId : String) (now : Instant)
  | recoverAfterRestart (now : Instant)
  | recordAgRefusal (cycleId expectedDigest : String) (refusal : AgRefusalReferenceV1)
      (now : Instant)
  | recordExternalObservation (handoff : ExternalObservationHandoffV1) (receivedAt : Instant)
  | recordSteadyStateObservation (handoff : SteadyStateObservationHandoffV1) (receivedAt : Instant)

def RuntimeCall.call : RuntimeCall → Call World CanonicalRuntimeError Unit
  | runCycle runtime draws request => (Canonical.runCycle w runtime draws request).ignore
  | runCycleWithAuthoringCustody runtime draws request verifier =>
    (Canonical.runCycleWithAuthoringCustody w runtime draws request verifier).ignore
  | syncAg ag cycleId now => (Canonical.syncAg w ag cycleId now).ignore
  | recoverAfterRestart now =>
    (onStore (Canonical.recoverAfterRestart w.toCanonicalPlatform now)).ignore
  | recordAgRefusal cycleId expectedDigest refusal now =>
    (onStore (Canonical.recordAgRefusal w.toCanonicalPlatform cycleId expectedDigest refusal
      now)).ignore
  | recordExternalObservation handoff receivedAt =>
    (onStore (Canonical.recordExternalObservation w.toCanonicalPlatform handoff
      receivedAt)).ignore
  | recordSteadyStateObservation handoff receivedAt =>
    (onStore (Canonical.recordSteadyStateObservation w.toCanonicalPlatform handoff
      receivedAt)).ignore

end Nightshift.Canonical
