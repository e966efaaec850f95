import Nightshift.DiagnosticRecords

/-!
# Diagnostic execution projections

What Nightshift reads of an NQ artifact of either contract version. A version 1
artifact has no governed refusals and no clock qualification, and none is made
up for it.
-/

namespace Nightshift.Diagnostic

def nqDiagnosticExecutionSchema : String := "nq.diagnostic_execution.v1"
def nqDiagnosticExecutionV2Schema : String := "nq.diagnostic_execution.v2"

namespace AcquisitionInterval

def schemaName : AcquisitionInterval → String
  | v1 _ => nqDiagnosticExecutionSchema
  | v2 _ => nqDiagnosticExecutionV2Schema

def startedAt : AcquisitionInterval → String
  | v1 value => value.startedAt
  | v2 value => value.startedAt

def endedAt : AcquisitionInterval → String
  | v1 value => value.endedAt
  | v2 value => value.endedAt

def maximumErrorMs : AcquisitionInterval → Option Nat
  | v1 value => some value.clockUncertaintyMs
  | v2 value =>
    match value.qualification with
    | .bounded maximumErrorMs _ => some maximumErrorMs
    | .unqualified _ _ => none

def unqualifiedReason : AcquisitionInterval → Option (String × String)
  | v1 _ => none
  | v2 value =>
    match value.qualification with
    | .bounded _ _ => none
    | .unqualified code detail => some (code, detail)

def isV1 : AcquisitionInterval → Bool
  | v1 _ => true
  | v2 _ => false

/-- A clock is bounded exactly when it is not reported unqualified. -/
theorem unqualifiedReason_eq_none {interval : AcquisitionInterval} :
    interval.unqualifiedReason = none ↔ ∃ error, interval.maximumErrorMs = some error := by
  cases interval with
  | v1 value => simp [unqualifiedReason, maximumErrorMs]
  | v2 value => cases h : value.qualification <;> simp [unqualifiedReason, maximumErrorMs, h]

end AcquisitionInterval

namespace DiagnosticOutcome

def derivation : DiagnosticOutcome → DerivationV1
  | v1 value => value.derivation
  | v2 value => value.derivation

def condition : DiagnosticOutcome → ConditionV1
  | v1 value => value.condition
  | v2 value => value.condition

def coverage : DiagnosticOutcome → CoverageV1
  | v1 value => value.coverage
  | v2 value => value.coverage

end DiagnosticOutcome

namespace DiagnosticClaim

def schemaName : DiagnosticClaim → String
  | v1 _ => nqDiagnosticExecutionSchema
  | v2 _ => nqDiagnosticExecutionV2Schema

def claimId : DiagnosticClaim → String
  | v1 value => value.claimId
  | v2 value => value.claimId

def dependencyInputIds : DiagnosticClaim → List String
  | v1 value => value.dependencyInputIds
  | v2 value => value.dependencyInputIds

def dependencyRefusalIds : DiagnosticClaim → List String
  | v1 _ => []
  | v2 value => value.dependencyRefusalIds

def dependencyFailureIds : DiagnosticClaim → List String
  | v1 _ => []
  | v2 value => value.dependencyFailureIds

def stateBindingIds : DiagnosticClaim → List String
  | v1 value => value.stateBindingIds
  | v2 value => value.stateBindingIds

end DiagnosticClaim

namespace DiagnosticExecution

def schemaName : DiagnosticExecution → String
  | v1 _ => nqDiagnosticExecutionSchema
  | v2 _ => nqDiagnosticExecutionV2Schema

def artifactId : DiagnosticExecution → String
  | v1 value => value.artifactId
  | v2 value => value.artifactId

def producer : DiagnosticExecution → ProducerV1
  | v1 value => value.producer
  | v2 value => value.producer

def requestId : DiagnosticExecution → String
  | v1 value => value.requestId
  | v2 value => value.requestId

def runId : DiagnosticExecution → String
  | v1 value => value.runId
  | v2 value => value.runId

def completedAt : DiagnosticExecution → String
  | v1 value => value.completedAt
  | v2 value => value.completedAt

def providerIntakeIds : DiagnosticExecution → List String
  | v1 _ => []
  | v2 value => value.inputs.received.map (·.providerIntakeId)

def question : DiagnosticExecution → SemanticIdentityV1
  | v1 value => value.question
  | v2 value => value.question

def subject : DiagnosticExecution → SubjectV1
  | v1 value => value.subject
  | v2 value => value.subject

def profile : DiagnosticExecution → SemanticIdentityV1
  | v1 value => value.profile
  | v2 value => value.profile

def profileSemanticId : DiagnosticExecution → Option String
  | v1 _ => none
  | v2 value => some value.profileSemanticId

def vantage : DiagnosticExecution → SemanticIdentityV1
  | v1 value => value.vantage
  | v2 value => value.vantage

def stateModel : DiagnosticExecution → SemanticIdentityV1
  | v1 value => value.stateModel
  | v2 value => value.stateModel

def evaluator : DiagnosticExecution → SemanticIdentityV1
  | v1 value => value.evaluator
  | v2 value => value.evaluator

def thresholdPolicy : DiagnosticExecution → SemanticIdentityV1
  | v1 value => value.thresholdPolicy
  | v2 value => value.thresholdPolicy

def projection : DiagnosticExecution → ProjectionV1
  | v1 value => value.projection
  | v2 value => value.projection

def attemptInterval : DiagnosticExecution → AcquisitionInterval
  | v1 value => .v1 value.attemptInterval
  | v2 value => .v2 value.attemptInterval

def claim (artifact : DiagnosticExecution) (claimId : String) : Option DiagnosticClaim :=
  match artifact with
  | v1 value => (value.claims.find? (·.claimId == claimId)).map .v1
  | v2 value => (value.claims.find? (·.claimId == claimId)).map .v2

def claimCount (artifact : DiagnosticExecution) (claimId : String) : Nat :=
  match artifact with
  | v1 value => (value.claims.filter (·.claimId == claimId)).length
  | v2 value => (value.claims.filter (·.claimId == claimId)).length

def primaryClaimId : DiagnosticExecution → Option String
  | v1 value => value.primaryClaimId
  | v2 value => value.primaryClaimId

def stateBindings : DiagnosticExecution → List StateBindingV1
  | v1 value => value.stateBindings
  | v2 value => value.stateBindings

def outcome : DiagnosticExecution → DiagnosticOutcome
  | v1 value => .v1 value.outcome
  | v2 value => .v2 value.outcome

def outcomeDerivation : DiagnosticExecution → DerivationV1
  | v1 value => value.outcome.derivation
  | v2 value => value.outcome.derivation

def outcomeCondition : DiagnosticExecution → ConditionV1
  | v1 value => value.outcome.condition
  | v2 value => value.outcome.condition

def outcomeCoherence : DiagnosticExecution → CoherenceV1
  | v1 value => value.outcome.coherence
  | v2 value => value.outcome.coherence

def outcomeCoverage : DiagnosticExecution → CoverageV1
  | v1 value => value.outcome.coverage
  | v2 value => value.outcome.coverage

def limitations : DiagnosticExecution → List LimitationV1
  | v1 value => value.limitations
  | v2 value => value.limitations

def nonclaims : DiagnosticExecution → List String
  | v1 value => value.nonclaims
  | v2 value => value.nonclaims

def key (artifact : DiagnosticExecution) : DiagnosticKey where
  questionId := artifact.question.id
  subjectId := artifact.subject.id
  profileId := artifact.profile.id
  vantageId := artifact.vantage.id

def receivedAcquisition (artifact : DiagnosticExecution) (inputId : String) :
    Option AcquisitionInterval :=
  match artifact with
  | v1 value => (value.inputs.received.find? (·.inputId == inputId)).map (.v1 ·.acquisition)
  | v2 value => (value.inputs.received.find? (·.inputId == inputId)).map (.v2 ·.acquisition)

def refusalAcquisition (artifact : DiagnosticExecution) (refusalId : String) :
    Option AcquisitionInterval :=
  match artifact with
  | v1 _ => none
  | v2 value => do
    let refused ← value.inputs.refused.find? (·.refusal.refusalId == refusalId)
    (value.inputs.received.find? (·.inputId == refused.inputId)).map (.v2 ·.acquisition)

def failureAcquisition (artifact : DiagnosticExecution) (failureId : String) :
    Option AcquisitionInterval :=
  match artifact with
  | v1 _ => none
  | v2 value => do
    let failed ← value.inputs.failed.find? (·.failureId == failureId)
    match failed.cause with
    | .providerNoResponse _ attempt _ | .acquisitionFailed _ attempt _ => some (.v2 attempt)
    | .missing _ | .unsupported _ => none

def hasFailureId (artifact : DiagnosticExecution) (failureId : String) : Bool :=
  match artifact with
  | v1 _ => false
  | v2 value => value.inputs.failed.any (·.failureId == failureId)

def v1HasUnqualifiedClockLimitation : DiagnosticExecution → Bool
  | v1 value => value.limitations.any (·.code == "absolute_clock_quality_unqualified")
  | v2 _ => false

def inputFailureTraces : DiagnosticExecution → List DiagnosticInputFailureTrace
  | v1 value =>
    value.inputs.failed.map fun input =>
      { expectationId := input.expectationId
        failureId := input.failureId
        kind := match input.kind with
          | .missing => .missing
          | .noResponse => .providerNoResponse
          | .acquisitionFailed => .acquisitionFailed
          | .unsupported => .unsupported
        detail := input.reason }
  | v2 value =>
    value.inputs.failed.map fun input =>
      let (kind, detail) := match input.cause with
        | .missing reason => (DiagnosticInputFailureKind.missing, reason)
        | .providerNoResponse _ _ failure => (.providerNoResponse, failure)
        | .acquisitionFailed _ _ failure => (.acquisitionFailed, failure)
        | .unsupported unsupported => (.unsupported, unsupported.detail)
      { expectationId := input.expectationId, failureId := input.failureId, kind, detail }

@[simp] theorem outcome_coverage (artifact : DiagnosticExecution) :
    artifact.outcome.coverage = artifact.outcomeCoverage := by
  cases artifact <;> rfl

/-- A version 1 artifact retains version 1 intervals only. -/
theorem receivedAcquisition_isV1 {value : DiagnosticExecutionV1} {inputId : String}
    {interval : AcquisitionInterval} (h : (v1 value).receivedAcquisition inputId = some interval) :
    interval.isV1 = true := by
  obtain ⟨received, -, rfl⟩ := Option.map_eq_some_iff.mp h
  rfl

theorem schemaName_ne_v2 {artifact : DiagnosticExecution}
    (h : (artifact.schemaName == nqDiagnosticExecutionV2Schema) = false) :
    ∃ value, artifact = v1 value := by
  cases artifact with
  | v1 value => exact ⟨value, rfl⟩
  | v2 value => simp [schemaName] at h

end DiagnosticExecution

end Nightshift.Diagnostic
