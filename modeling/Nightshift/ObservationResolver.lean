import Nightshift.CanonicalStore

/-!
# The observation resolver

The read-only translator of a cited observation into an evidence-health answer:
authenticity first, then freshness, then lineage. A persisted record that fails
its revalidation is contradictory evidence; only a malformed request, a
misconfiguration or a store that cannot be read is an error.
-/

namespace Nightshift.Canonical

open Checked Diagnostic PresentEvidence Interleave

/-! ## Decision bases -/

def decisionBasisSchemaV1 : String := "nightshift.decision-basis.v1"
def normalizationRuleIdV1 : String := "nightshift.posture-normalization"
def normalizationRuleVersionV1 : String := "1"
def decisionBasisDigestDomainV1 : Bytes := utf8 "nightshift.decision-basis.v1\x00"
def conditionUnresolvedAtomV1 : String := "condition.unresolved"
def deliveryFailedAtomV1 : String := "delivery.failed"

def conditionAtom : ConditionAxis → String
  | .clean => "condition.clean"
  | .conditionPresent => "condition.condition_present"
  | .unresolved => conditionUnresolvedAtomV1

def deliveryAtom : DeliveryStanding → String
  | .qualified => "delivery.qualified"
  | .partialDelivery => "delivery.partial_delivery"
  | .failed => deliveryFailedAtomV1
  | .notConfigured => "delivery.not_configured"
  | .notRequired => "delivery.not_required"

section Basis

variable (w : CanonicalPlatform)

def normalizationRuleV1 : SemanticIdentityV1 where
  id := normalizationRuleIdV1
  version := normalizationRuleVersionV1
  digest := w.sha256 (utf8 (normalizationRuleIdV1 ++ ".v" ++ normalizationRuleVersionV1))

/-- One condition atom and one delivery atom, which sorts behind it. -/
def normalizePosture (posture : OperationalPosture) : DecisionBasisV1 where
  schema := decisionBasisSchemaV1
  rule := normalizationRuleV1 w
  atoms := [conditionAtom posture.condition, deliveryAtom posture.delivery]

/-- The empty-evidence sentinel of an absent or contradictory citation. -/
def noEvidenceBasis : DecisionBasisV1 where
  schema := decisionBasisSchemaV1
  rule := normalizationRuleV1 w
  atoms := [conditionUnresolvedAtomV1, deliveryFailedAtomV1]

def DecisionBasisV1.digest (basis : DecisionBasisV1) : String :=
  w.sha256 (decisionBasisDigestDomainV1 ++ w.basisCanonical basis)

end Basis

/-! ## Requests and answers -/

def agObservationRequestSchemaV1 : String := "ag.governed-loop.observation-request/v1"
def agObservationResolutionSchemaV2 : String := "ag.governed-loop.observation-resolution/v2"
def currentnessDigestDomainV1 : Bytes := utf8 "nightshift.observation-currentness.v1\x00"

structure AgObservationRequestV1 where
  schema : String
  key : JsonValue
  observation : String
  subject : String
  nowUnixMs : Nat
  deriving DecidableEq, Repr

inductive AgObservationStatusV1 where
  | current | stale | superseded | contradictory | absent
  deriving DecidableEq, Repr

structure AgObservationResolutionV2 where
  schema : String
  key : JsonValue
  observation : String
  currentness : String
  normalizedPreconditions : String
  basis : DecisionBasisV1
  resolverId : String
  subject : String
  status : AgObservationStatusV1
  resolvedAtUnixMs : Nat
  freshUntilUnixMs : Nat
  deriving DecidableEq, Repr

structure ObservationResolverConfigV1 where
  resolverId : String
  defaultTtlMs : Nat
  deriving DecidableEq, Repr

inductive ObservationResolverError where
  | request (message : String)
  | store (error : CanonicalStoreError)
  | configuration (message : String)
  deriving DecidableEq, Repr

structure Classification where
  status : AgObservationStatusV1
  basis : DecisionBasisV1
  currentness : String
  freshUntilUnixMs : Nat
  deriving DecidableEq, Repr

def AgObservationStatusV1.name : AgObservationStatusV1 → String
  | .current => "current"
  | .stale => "stale"
  | .superseded => "superseded"
  | .contradictory => "contradictory"
  | .absent => "absent"

def ObservationResolverConfigV1.validate (config : ObservationResolverConfigV1) :
    Except String Unit := do
  refuseIf (isBlank config.resolverId) "resolver_id must be explicitly configured and nonempty"
  refuseIf (config.defaultTtlMs == 0) "default_ttl_ms must be a positive bounded window"

variable (w : CanonicalPlatform)

def AgObservationRequestV1.validate (request : AgObservationRequestV1) : Except String Unit := do
  refuseIf (request.schema != agObservationRequestSchemaV1)
    ("unsupported observation request schema " ++ request.schema)
  refuseIf (!w.isObject request.key) "key must be an exact occurrence-key object"
  requireDigest "observation" request.observation
  requireDigest "subject" request.subject

def currentnessDigest (parts : List String) : String :=
  w.sha256 (currentnessDigestDomainV1 ++ parts.flatMap fun part => utf8 part ++ [0])

/-- The sum of the deadline wraps in a release build. -/
def negative (request : AgObservationRequestV1) (config : ObservationResolverConfigV1)
    (status : AgObservationStatusV1) : AgObservationResolutionV2 where
  schema := agObservationResolutionSchemaV2
  key := request.key
  observation := request.observation
  currentness := currentnessDigest w [request.observation, status.name]
  normalizedPreconditions := (noEvidenceBasis w).digest w
  basis := noEvidenceBasis w
  resolverId := config.resolverId
  subject := request.subject
  status
  resolvedAtUnixMs := request.nowUnixMs
  freshUntilUnixMs := (request.nowUnixMs + config.defaultTtlMs) % u64Bound

/-! ## Classification -/

def sentinel (status : AgObservationStatusV1) : Classification where
  status
  basis := noEvidenceBasis w
  currentness := ""
  freshUntilUnixMs := 0

/-- The instant of the posture in Unix milliseconds, when it is one. -/
def evaluatedMs (posture : OperationalPosture) : Option Nat :=
  (w.parseFromRfc3339 posture.evaluatedAt).toOption.bind fun instant =>
    tryU64 (timestampMillis instant)

/-- The horizon of the composition, of either kind. -/
def evidenceHorizon (record : ObservationRecordV1) : Option Nat :=
  (record.externalEvidence.map (·.freshUntilUnixMs)).or
    (record.decisionExternalEvidence.map (·.freshUntilUnixMs))

def compositionIdOf (record : ObservationRecordV1) : Option String :=
  (record.externalEvidence.map (·.compositionId)).or
    (record.decisionExternalEvidence.map (·.compositionId))

/-- The record's own bindings: subjects, standing, intent and the requested digest. -/
def crossBound (request : AgObservationRequestV1) (slot : RecurrenceSlotV1)
    (record : ObservationRecordV1) (intent : Option TypedCoarseIntentV2) : Bool :=
  record.support.subjectId == slot.subjectId &&
    record.posture.policy.subject.id == slot.subjectId &&
    record.observationId == request.observation && record.support.standing != .contradictory &&
    intent.any fun intent =>
      intent.subjectId == slot.subjectId && intent.subjectDigest == request.subject

/-- Does the source of a composition still reproduce it? -/
def reproduces {α : Type} (composition : Option α) (validateSource : α →
    Call Store CanonicalStoreError Unit) : Call Store ObservationResolverError Bool :=
  match composition with
  | none => pure true
  | some composition => do
    match ← (validateSource composition).outcome with
    | .ok _ => return true
    | .error _ => return false

/-- The lineage answer for evidence that is inside its window. -/
def classifyLineage (cycle : ObservationCycleV1) (fresh : Classification) :
    Call Store ObservationResolverError Classification := do
  match ← (latestQualifiedObservationInFamily w cycle.slot.family).outcome with
  | .error (.invalid _) => return sentinel w .contradictory
  | .error error => Call.check (.error (.store error))
  | .ok latest =>
    if latest.any fun latest => cycle.slot.orderKey.precedes latest.slot.orderKey then
      return { fresh with status := .superseded }
    else return fresh

/-- The answer for authentic evidence inside both of its windows: the posture's own and that of
the composition. -/
def freshClassification (config : ObservationResolverConfigV1) (record : ObservationRecordV1)
    (evaluated : Nat) : Except ObservationResolverError Classification := do
  let postureFreshUntil ← okOr (checkedAdd evaluated config.defaultTtlMs)
    (.configuration "resolver freshness horizon overflows Unix milliseconds")
  .ok
    { status := .current
      basis := normalizePosture w record.posture
      currentness := currentnessDigest w ([record.observationId, record.support.supportId,
        record.posture.postureId] ++ (compositionIdOf record).toList)
      freshUntilUnixMs :=
        (evidenceHorizon record).elim postureFreshUntil (min postureFreshUntil) }

/-- The freshness answer for evidence that is authentic. -/
def classifyFreshness (request : AgObservationRequestV1) (config : ObservationResolverConfigV1)
    (cycle : ObservationCycleV1) (record : ObservationRecordV1) :
    Call Store ObservationResolverError Classification :=
  match evaluatedMs w record.posture with
  | none => pure (sentinel w .contradictory)
  | some evaluated => do
    let fresh ← Call.check (freshClassification w config record evaluated)
    if fresh.freshUntilUnixMs ≤ request.nowUnixMs then return { fresh with status := .stale }
    else classifyLineage w cycle fresh

/-- The authenticity of one cited cycle. -/
def classifyCycle (request : AgObservationRequestV1) (config : ObservationResolverConfigV1)
    (cycle : ObservationCycleV1) : Call Store ObservationResolverError Classification :=
  match cycle.observation with
  | none => pure (sentinel w .contradictory)
  | some record => do
    if !(← reproduces record.externalEvidence (validateExternalCompositionSource w)) then
      return sentinel w .contradictory
    else if !(← reproduces record.decisionExternalEvidence
        (validateDecisionCompositionSource w)) then
      return sentinel w .contradictory
    else if !crossBound request cycle.slot record cycle.intent then
      return sentinel w .contradictory
    else classifyFreshness w request config cycle record

def classify (request : AgObservationRequestV1) (config : ObservationResolverConfigV1) :
    Call Store ObservationResolverError Classification := do
  match ← (findCyclesByObservationId w request.observation).outcome with
  | .error (.invalid _) => return sentinel w .contradictory
  | .error error => Call.check (.error (.store error))
  | .ok [] => return sentinel w .absent
  | .ok [cycle] => classifyCycle w request config cycle
  | .ok _ => return sentinel w .contradictory

/-- `u64::MAX` -/
def maximumU64 : Nat := u64Bound - 1

def resolveObservation (request : AgObservationRequestV1)
    (config : ObservationResolverConfigV1) :
    Call Store ObservationResolverError AgObservationResolutionV2 := do
  Call.check (mapErr .configuration config.validate)
  Call.check (mapErr .request (request.validate w))
  Call.check (refuseIf (request.nowUnixMs == maximumU64)
    (.request "now_unix_ms leaves no representable freshness window"))
  let classification ← classify w request config
  if classification.status = .absent ∨ classification.status = .contradictory then
    return negative w request config classification.status
  else
    return {
      schema := agObservationResolutionSchemaV2
      key := request.key
      observation := request.observation
      currentness := classification.currentness
      normalizedPreconditions := classification.basis.digest w
      basis := classification.basis
      resolverId := config.resolverId
      subject := request.subject
      status := classification.status
      resolvedAtUnixMs := request.nowUnixMs
      freshUntilUnixMs := classification.freshUntilUnixMs }

end Nightshift.Canonical
