import Nightshift.Lib.Json
import Nightshift.PostureBench
import Nightshift.PresentEvidence

/-!
# NQ dispositions

Read-only postures derived from NQ testimony. One function maps the decision of
a receipt to a posture; two others compose a current decision with a live answer
of the present-evidence port. Only the port owns currentness.
-/

namespace Nightshift

open Diagnostic

namespace Nq

def nqRelianceReceiptSchema : String := "nq.diagnostic-purpose-support/v1"
def dispositionSchema : String := "nightshift.readonly_disposition.v1"
def currentPurposeSchema : String := "nightshift.current-purpose-disposition/v1"

inductive NqContractViolationKind where
  | schemaMismatch
  | contractVersionMismatch
  | malformedField
  deriving DecidableEq, Repr

/-- `NightShiftError::NqContractViolation` -/
structure NqContractViolation where
  kind : NqContractViolationKind
  detail : String
  deriving DecidableEq, Repr

structure SupportingReceiptRefDto where
  claim : String
  contentHash : String
  status : String
  subject : String
  deriving DecidableEq, Repr

structure NqRelianceReceiptDto where
  schema : String
  decisionId : String
  requestDigest : String
  evidenceContextDigest : String
  consumerProfileId : String
  callerBinding : String
  callerBindingDisclosure : String
  purpose : String
  claim : String
  receiptContentHash : String
  underlyingStatus : String
  decision : String
  premises : List String
  coverageLimits : List String
  unresolvedResiduals : List String
  retainedContradictions : List String
  refusalReasons : List String
  establishes : List String
  doesNotEstablish : List String
  supportingReceipts : List SupportingReceiptRefDto
  policyVersion : String
  generatedAt : String
  deriving DecidableEq, Repr

inductive SourceState where
  | fresh
  | stale (ageSeconds : Int) (maxAgeSeconds : Nat)
  | noResponse (elapsedSeconds timeoutSeconds : Nat)
  | transportUnavailable (detail : String)
  | malformed (detail : String)
  deriving DecidableEq, Repr

inductive Disposition where
  | continueObserving
  | waitForFreshEvidence
  | evidenceUnavailable
  | requestAdditionalEvidence
  | humanJudgmentRequired
  | stop
  deriving DecidableEq, Repr

structure SourceBinding where
  schema : String
  decisionId : String
  receiptContentHash : String
  requestDigest : String
  evidenceContextDigest : String
  consumerProfileId : String
  callerBinding : String
  callerBindingDisclosure : String
  purpose : String
  claim : String
  underlyingStatus : String
  decision : String
  premises : List String
  coverageLimits : List String
  unresolvedResiduals : List String
  retainedContradictions : List String
  supportingReceipts : List SupportingReceiptRefDto
  policyVersion : String
  generatedAt : String
  deriving DecidableEq, Repr

structure DispositionRecord where
  schema : String
  dispositionId : String
  expectedConsumerProfile : String
  observedAt : String
  sourceState : SourceState
  disposition : Disposition
  reasons : List String
  source : Option SourceBinding
  requiredNextEvidence : Option String
  humanJudgmentRequired : Bool
  establishes : List String
  doesNotEstablish : List String
  deriving DecidableEq, Repr

structure CurrentPurposeDisposition where
  schema : String
  purpose : String
  nqDecisionId : String
  query : PresentEvidenceQueryV1
  support : Option QualifiedSupportV1
  disposition : Disposition
  reason : String
  doesNotEstablish : List String
  deriving DecidableEq, Repr

end Nq

open Nq

/-- What the dispositions call and do not define, over the platform of the
posture evaluator. -/
structure NqPlatform extends DiagnosticPlatform where
  /-- `serde_json::from_slice::<Value>` -/
  parseJson : Bytes → Except String Json.Value
  /-- `serde_json::from_slice::<NqRelianceReceiptDto>` -/
  parseReceipt : Bytes → Except String NqRelianceReceiptDto
  /-- `serde_json::to_value` of an artifact. -/
  artifactValue : DiagnosticExecution → Json.Value
  /-- How the canonical form writes a double. -/
  floatText : UInt64 → List Char
  /-- `format!("{value:?}")` of a string. -/
  debugText : String → String
  /-- `format!("{value}")` of a JSON value. -/
  jsonText : Json.Value → String
  /-- `serde_jcs::to_string` -/
  dispositionCanonical : DispositionRecord → Bytes

/-- `PresentEvidencePortV1::resolve` -/
abbrev PresentEvidencePort := PresentEvidenceQueryV1 → Except String QualifiedSupportV1

namespace Nq

open Checked

def NqContractViolationKind.debug : NqContractViolationKind → String
  | .schemaMismatch => "SchemaMismatch"
  | .contractVersionMismatch => "ContractVersionMismatch"
  | .malformedField => "MalformedField"

/-- `to_string` -/
def NqContractViolation.display (violation : NqContractViolation) : String :=
  "NQ contract violation (" ++ violation.kind.debug ++ "): " ++ violation.detail

def violation (detail : String) : NqContractViolation := ⟨.malformedField, detail⟩

/-- `value[key]`: null where there is no such member. -/
def at_ (value : Json.Value) (key : String) : Json.Value := (value.get key).getD .null

/-- `as_object_mut` and `remove`: the member and what is left. -/
def takeMember (value : Json.Value) (key : String) : Option (Option Json.Value × Json.Value) :=
  match value with
  | .object fields => some (fields.lookup key, .object (fields.filter (·.1 != key)))
  | _ => none

variable (w : NqPlatform)

/-- `serde_jcs::to_vec` of a value. -/
def canonical (value : Json.Value) : Bytes := utf8 (String.ofList (value.text w.floatText))

def digest (value : Json.Value) : String := w.sha256 (canonical w value)

/-! ## Receipts -/

def parseSchema (bytes : Bytes) (expectedProfile expectedSchema : String) :
    Except NqContractViolation NqRelianceReceiptDto := do
  let dto ← mapErr (fun e => violation ("reliance receipt is not decodable: " ++ e))
    (w.parseReceipt bytes)
  refuseIf (dto.schema != expectedSchema)
    ⟨.schemaMismatch,
      "expected " ++ nqRelianceReceiptSchema ++ ", got " ++ w.debugText dto.schema⟩
  refuseIf (dto.consumerProfileId != expectedProfile)
    (violation ("receipt is for consumer " ++ w.debugText dto.consumerProfileId ++
      ", this consumer is " ++ w.debugText expectedProfile))
  refuseIf (isBlank dto.callerBindingDisclosure) (violation "caller_binding_disclosure is empty")
  refuseIf (dto.decisionId.isEmpty || dto.receiptContentHash.isEmpty)
    (violation "decision_id and receipt_content_hash must be present")
  forEach dto.supportingReceipts fun support =>
    refuseIf (support.claim.isEmpty || support.contentHash.isEmpty)
      (violation "a supporting receipt ref lacks claim or content_hash")
  .ok dto

def parseChecked (bytes : Bytes) (expectedProfile : String) :
    Except NqContractViolation NqRelianceReceiptDto :=
  parseSchema w bytes expectedProfile nqRelianceReceiptSchema

def parseForRequest (bytes : Bytes) (expectedRequest : Json.Value) (observedAt : String) :
    Except NqContractViolation NqRelianceReceiptDto := do
  let value ← mapErr violation (w.parseJson bytes)
  let profile ← okOr (at_ expectedRequest "consumer").asStr (violation "expected consumer missing")
  let dto ← parseChecked w bytes profile
  refuseIf (at_ value "request" != expectedRequest ||
      at_ value "purpose" != at_ expectedRequest "purpose" ||
      at_ value "claim" != at_ expectedRequest "claim" ||
      at_ value "subject_digest" != at_ expectedRequest "subject_digest")
    (violation "purpose request binding mismatch")
  let (_, preimage) ← okOr (takeMember value "decision_id") (violation "receipt object")
  refuseIf (dto.requestDigest != digest w expectedRequest || dto.decisionId != digest w preimage)
    (violation "purpose receipt digest mismatch")
  let now ← mapErr violation (w.parseFromRfc3339 observedAt)
  let generated ← mapErr violation (w.parseFromRfc3339 dto.generatedAt)
  let expiry ← okOr (at_ value "expires_at").asStr (violation "expiry absent")
  let expires ← mapErr violation (w.parseFromRfc3339 expiry)
  refuseIf (now < generated || (dto.decision == "supported_readonly" && now ≥ expires))
    (violation "purpose receipt future or expired")
  .ok dto

/-! ## The posture of a receipt -/

/-- `SourceBinding::from` -/
def SourceBinding.of (d : NqRelianceReceiptDto) : SourceBinding where
  schema := d.schema
  decisionId := d.decisionId
  receiptContentHash := d.receiptContentHash
  requestDigest := d.requestDigest
  evidenceContextDigest := d.evidenceContextDigest
  consumerProfileId := d.consumerProfileId
  callerBinding := d.callerBinding
  callerBindingDisclosure := d.callerBindingDisclosure
  purpose := d.purpose
  claim := d.claim
  underlyingStatus := d.underlyingStatus
  decision := d.decision
  premises := d.premises
  coverageLimits := d.coverageLimits
  unresolvedResiduals := d.unresolvedResiduals
  retainedContradictions := d.retainedContradictions
  supportingReceipts := d.supportingReceipts
  policyVersion := d.policyVersion
  generatedAt := d.generatedAt

/-- The state carries NQ testimony, current or aged. -/
def SourceState.isNqTestimony : SourceState → Bool
  | .fresh | .stale .. => true
  | _ => false

def mandatoryDoesNotEstablish : List String :=
  ["no action was executed or authorized by this disposition",
    "this is a read-only posture proposal, not execution authority",
    "this disposition is Night Shift's, not an NQ claim"]

/-- A posture with its reasons and the evidence it asks for next. -/
structure Posture where
  disposition : Disposition
  reasons : List String
  requiredNextEvidence : Option String
  deriving DecidableEq, Repr

/-- The posture of a fresh receipt, by its decision. -/
def freshPosture (r : NqRelianceReceiptDto) : Posture :=
  match r.decision with
  | "supported_readonly" | "authorized_reliance" =>
    ⟨.continueObserving,
      ["NQ authorized reliance on " ++ w.debugText r.claim ++ " for purpose " ++
        w.debugText r.purpose], none⟩
  | "claim_not_verified" =>
    ⟨.requestAdditionalEvidence,
      ["NQ did not verify " ++ w.debugText r.claim ++ " (underlying status " ++
        w.debugText r.underlyingStatus ++ "); this is not permission to retry or proceed"],
      some ("evidence sufficient to verify " ++ r.claim)⟩
  | "cannot_testify" =>
    ⟨.humanJudgmentRequired,
      ["NQ constitutionally declines to testify to " ++ w.debugText r.claim ++
        "; inability is not authorization"], none⟩
  | "contradiction_retained" =>
    ⟨.humanJudgmentRequired,
      ["NQ retained a contradiction in the source testimony; Night Shift does not resolve " ++
        "contradictions"], none⟩
  | "premise_not_accepted" =>
    ⟨.humanJudgmentRequired,
      ["a source premise is not acceptable under this consumer's policy; a premise-qualified " ++
        "operator decision is required"], none⟩
  | "residual_obligation_blocks" =>
    ⟨.humanJudgmentRequired,
      ["an unresolved upstream obligation blocks reliance; Night Shift discharges nothing"], none⟩
  | "stale_evidence" =>
    ⟨.waitForFreshEvidence, ["NQ judged the underlying evidence stale"],
      some "fresher underlying evidence"⟩
  | "claim_non_mintable" | "coverage_insufficient" | "custody_basis_not_accepted" =>
    ⟨.humanJudgmentRequired,
      ["NQ refused reliance: " ++ r.decision ++ "; this is a statement about reliance, not a " ++
        "refutation of the claim"], none⟩
  | "consumer_unknown" | "claim_not_authorized_for_consumer" | "purpose_not_authorized" =>
    ⟨.stop,
      ["configuration or policy error: " ++ r.decision ++ "; Night Shift does not widen its own " ++
        "permissions"], none⟩
  | "malformed_request" =>
    ⟨.stop, ["NQ refused the request as malformed or substituted; integrity failure"], none⟩
  | other =>
    ⟨.humanJudgmentRequired,
      ["unrecognized NQ decision " ++ w.debugText other ++ "; Night Shift does not guess at an " ++
        "unknown outcome"], none⟩

def statePosture (state : SourceState) (receipt : Option NqRelianceReceiptDto) : Posture :=
  match state with
  | .noResponse elapsed timeout =>
    ⟨.evidenceUnavailable,
      ["no fresh NQ response within Night Shift's " ++ toString timeout ++ "s timeout (elapsed " ++
        toString elapsed ++ "s); this is Night Shift's observation, not NQ testimony"], none⟩
  | .transportUnavailable detail =>
    ⟨.evidenceUnavailable,
      ["NQ transport unavailable: " ++ detail ++ "; this is Night Shift's observation, not NQ " ++
        "testimony"], none⟩
  | .malformed detail =>
    ⟨.stop, ["NQ output failed the contract check: " ++ detail], none⟩
  | .stale age maxAge =>
    ⟨.waitForFreshEvidence,
      ["NQ testimony is " ++ toString age ++ "s old, beyond Night Shift's " ++ toString maxAge ++
        "s freshness policy"], some "a fresher NQ reliance decision"⟩
  | .fresh =>
    match receipt with
    | some r => freshPosture w r
    | none => ⟨.stop, ["source state is fresh but no receipt was supplied"], none⟩

/-- What a receipt adds to the limits of a record. -/
def carriedLimits (r : NqRelianceReceiptDto) : List String :=
  r.doesNotEstablish ++
  (if r.unresolvedResiduals.isEmpty then []
    else ["upstream residual obligations carried here remain undischarged"]) ++
  (if r.retainedContradictions.isEmpty then []
    else ["a retained contradiction is preserved here and is not resolved"]) ++
  (if r.premises.isEmpty then []
    else ["source premises are carried, not discharged or independently verified"]) ++
  [r.callerBindingDisclosure]

def established (r : NqRelianceReceiptDto) : String :=
  if r.decision == "supported_readonly" then
    "NQ supports only the explicit " ++ w.debugText r.purpose ++
      " consideration of retained claim " ++ w.debugText r.claim ++
      "; source currentness is not inferred"
  else
    "Historical NQ authorized this consumer to rely on " ++ w.debugText r.claim ++ " for " ++
      w.debugText r.purpose ++ "; Night Shift may continue read-only consideration"

def finish (posture : Posture) (state : SourceState) (receipt : Option NqRelianceReceiptDto)
    (observedAt expectedProfile : String) : DispositionRecord :=
  let record : DispositionRecord :=
    { schema := dispositionSchema
      dispositionId := ""
      expectedConsumerProfile := expectedProfile
      observedAt
      sourceState := state
      disposition := posture.disposition
      reasons := posture.reasons
      source := receipt.map SourceBinding.of
      requiredNextEvidence := posture.requiredNextEvidence
      humanJudgmentRequired := posture.disposition == .humanJudgmentRequired
      establishes :=
        if posture.disposition == .continueObserving then receipt.toList.map (established w) else []
      doesNotEstablish := mandatoryDoesNotEstablish ++
        (receipt.map carriedLimits).getD [] ++
        (if state.isNqTestimony then []
          else ["no current NQ testimony was available; absence of a response is not evidence of " ++
            "health or of failure"]) }
  { record with dispositionId := w.sha256 (w.dispositionCanonical record) }

def deriveDisposition (state : SourceState) (receipt : Option NqRelianceReceiptDto)
    (observedAt expectedProfile : String) : DispositionRecord :=
  finish w (statePosture w state receipt) state receipt observedAt expectedProfile

/-! ## Current purposes -/

/-- The three digests of a source-owned context, and no other member. -/
def requireSnapshotContext (value : Json.Value) : Except String Unit := do
  let members ← (match value with
    | .object fields => .ok fields.length
    | _ => .error "qualified snapshot context missing" : Except String Nat)
  refuseIf (members != 3) "qualified snapshot context shape invalid"
  forEach ["history_scope", "snapshot_key", "core_digest"] fun field => do
    let hex ← okOr (((value.get field).bind (·.asStr)).bind (stripPrefix "sha256:"))
      "qualified snapshot context digest absent"
    refuseIf (hex.length != 64 || !hex.all isLowerHexdigit)
      "qualified snapshot context digest malformed"

/-- `ids.sort()` -/
def sorted (ids : List String) : List String := ids.insertionSort (· ≤ ·)

/-- The identity under which an expected request names its continuity receipt. -/
def continuityReceipt (request : Json.Value) : Option String :=
  (at_ (at_ request "continuity_support") "receipt_id").asStr

/-- The artifacts of a native query: the primary, and for a supported continuity
consumer the receipt NQ disclosed beside it. -/
def withContinuity (dto : NqRelianceReceiptDto) (expectedRequest : Json.Value) (purpose : String)
    (ids : List String) : Except String (List String) :=
  if dto.consumerProfileId == "nightshift-readonly-continuity" &&
      dto.decision == "supported_readonly" then do
    let support := at_ expectedRequest "continuity_support"
    let binding := at_ support "binding"
    refuseIf ((at_ support "schema").asStr != some "nq.continuity-memory-support/v1" ||
        (match requireSnapshotContext (at_ support "snapshot_context") with
          | .ok _ => false
          | .error _ => true) ||
        (at_ support "claim").asStr != some "continuity_rely_eligible" ||
        (at_ support "disposition").asStr != some "eligible" ||
        at_ binding "subject_digest" != at_ expectedRequest "subject_digest" ||
        (at_ binding "principal").asStr != some dto.consumerProfileId ||
        (at_ binding "purpose").asStr != some purpose)
      "required named continuity evidence binding absent or mismatched"
    let identity ← okOr (continuityReceipt expectedRequest) "continuity receipt identity missing"
    refuseIf (ids.contains identity) "primary cannot be its own continuity support"
    refuseIf (!dto.supportingReceipts.any fun support =>
        support.claim == "continuity_rely_eligible" && support.contentHash == identity)
      "NQ did not disclose the bound continuity prerequisite"
    .ok (sorted (ids ++ [identity]))
  else .ok ids

/-- The coordinates of a native query; the purpose enters here. -/
def nativeObservation (decisionId purpose expectedAuthority : String) : Json.Value :=
  .object
    [("authority", .string expectedAuthority), ("nq_decision_id", .string decisionId),
      ("purpose", .string purpose)]

def SupportStanding.debug : SupportStandingV1 → String
  | .current => "Current"
  | .expired => "Expired"
  | .unknown => "Unknown"
  | .unsupported => "Unsupported"
  | .contradictory => "Contradictory"
  | .blind => "Blind"

/-- The answer of the port: its standing decides, once it is bound to the query
and to the expected authority. -/
def resolveSupport (port : PresentEvidencePort) (expectedAuthority wrongAuthority noEvidence : String)
    (whenCurrent : Disposition) (reasonOf : String → String) (open_ : CurrentPurposeDisposition) :
    Except String CurrentPurposeDisposition :=
  match port open_.query with
  | .error reason => .ok { open_ with reason := "present evidence unavailable: " ++ reason }
  | .ok support => do
    support.validateFor w.toDiagnosticPlatform open_.query
    refuseIf (support.authorityId != expectedAuthority) wrongAuthority
    let disposition ← (match support.standing with
      | .current => if support.evidenceRefs.isEmpty then .error noEvidence else .ok whenCurrent
      | .expired => .ok .waitForFreshEvidence
      | .contradictory => .ok .humanJudgmentRequired
      | _ => .ok .evidenceUnavailable : Except String Disposition)
    .ok
      { open_ with
        disposition
        reason := reasonOf (SupportStanding.debug support.standing)
        support := some support }

/-- A native receipt and the query it was composed into. -/
structure NativeBasis where
  dto : NqRelianceReceiptDto
  query : PresentEvidenceQueryV1

def nativeBasis (bytes : Bytes) (expectedRequest : Json.Value) (observedAt purpose : String)
    (inputs : DiagnosticInputs) (cycleId nonce expectedAuthority : String) :
    Except String NativeBasis := do
  refuseIf (purpose != "continue_observing" || isBlank expectedAuthority)
    "unsupported current purpose or absent support authority"
  let dto ← mapErr (·.display) (parseForRequest w bytes expectedRequest observedAt)
  refuseIf (dto.claim != "docket_attempt_settled")
    "historical generic claim cannot satisfy the Docket current-role allowlist"
  refuseIf (dto.purpose != "historical_readonly" ||
      !(["nightshift-readonly", "nightshift-readonly-continuity"].contains dto.consumerProfileId))
    "current composition requires explicit native historical eligibility"
  inputs.validate w.toDiagnosticPlatform
  let v ← w.parseJson bytes
  let delivered := deliveredArtifactIds inputs
  refuseIf (delivered != [dto.receiptContentHash] || inputs.inputs.length != 1)
    "purpose support requires exact single-artifact input basis"
  let artifact ← (match inputs.inputs with
    | { status := .delivered artifact, .. } :: _ => .ok artifact
    | _ => .error "purpose artifact not delivered" : Except String DiagnosticExecution)
  refuseIf (w.artifactValue artifact != at_ v "source_artifact")
    "purpose artifact bytes differ from qualified NQ source"
  let subject := at_ (at_ v "source_artifact") "subject"
  let ids ← withContinuity dto expectedRequest purpose delivered
  let subjectId ← okOr (at_ subject "id").asStr "subject absent"
  let scopeId ← okOr (at_ (at_ subject "scope") "digest").asStr "scope absent"
  let query ← PresentEvidenceQueryV1.sealQuery w.toDiagnosticPlatform
    { schema := ""
      queryId := ""
      observationCycleId := cycleId
      requestNonce := nonce
      observationId := digest w (nativeObservation dto.decisionId purpose expectedAuthority)
      diagnosticInputsId := inputs.inputsId
      subjectId
      scopeId
      artifactIds := ids }
  .ok ⟨dto, query⟩

def qualifyCurrentPurpose (bytes : Bytes) (expectedRequest : Json.Value)
    (observedAt purpose : String) (inputs : DiagnosticInputs)
    (cycleId nonce expectedAuthority : String) (port : PresentEvidencePort) :
    Except String CurrentPurposeDisposition := do
  let ⟨dto, query⟩ ← nativeBasis w bytes expectedRequest observedAt purpose inputs cycleId nonce
    expectedAuthority
  let result : CurrentPurposeDisposition :=
    { schema := currentPurposeSchema
      purpose
      nqDecisionId := dto.decisionId
      query
      support := none
      disposition := .evidenceUnavailable
      reason := ""
      doesNotEstablish :=
        ["no action authorized or executed",
          "NQ factual qualification and present evidence retain separate owners",
          "stored support is historical; only the exact live query response applies"] }
  if dto.decision != "supported_readonly" then
    .ok
      { result with
        disposition :=
          (deriveDisposition w .fresh (some dto) observedAt dto.consumerProfileId).disposition
        reason := "NQ did not establish factual eligibility; present support cannot repair that " ++
          "refusal" }
  else
    resolveSupport w port expectedAuthority
      "present support source does not match configured authority"
      "current support lacks evidence references" .continueObserving
      (fun standing => "qualified present-evidence authority returned " ++ standing ++
        "; no action authority")
      result

/-! ## The Docket family -/

/-- Two neighbours are equal. -/
def hasRepeat : List String → Bool
  | a :: b :: rest => a == b || hasRepeat (b :: rest)
  | _ => false

/-- The receipt without its identity, and the identity. -/
def docketReceipt (bytes : Bytes) : Except String (Json.Value × Json.Value) := do
  let value ← w.parseJson bytes
  refuseIf (canonical w value != bytes) "NQ Docket receipt is not exact canonical JSON"
  let (member, v) ← okOr (takeMember value "receipt_id") "receipt not object"
  let identity ← okOr member "receipt identity missing"
  .ok (identity, v)

/-- The receipt, its source and what supports it, each once and in order. -/
def docketArtifacts (id : String) (v : Json.Value) : Except String (List String) := do
  let source ← okOr (at_ v "source_digest").asStr "source digest missing"
  let supporting ← okOr (at_ v "supporting_receipts").asArray "supporting array missing"
  let hashes ← supporting.mapM fun support =>
    okOr (at_ support "content_hash").asStr "support identity missing"
  let ids := sorted (id :: source :: hashes)
  refuseIf (hasRepeat ids) "self or duplicate support"
  .ok ids

/-- The coordinates of a Docket query and of its inputs. -/
def docketObservation (id purpose expectedAuthority : String) : Json.Value :=
  .object
    [("authority", .string expectedAuthority), ("nq_receipt", .string id),
      ("purpose", .string purpose)]

def docketInputs (ids : List String) : Json.Value :=
  .object
    [("artifacts", .array (ids.map .string)),
      ("schema", .string "nightshift.docket-purpose-inputs/v1")]

/-- The posture of a decision that is not a support. -/
def docketRefusal (decision : Option String) : Disposition :=
  match decision with
  | some "contradiction_retained" => .humanJudgmentRequired
  | some "stale_evidence" => .waitForFreshEvidence
  | some "supporting_evidence_missing" | some "supporting_evidence_not_current_or_verified"
  | some "residual_obligations_unresolved" => .requestAdditionalEvidence
  | some "claim_not_verified" => .evidenceUnavailable
  | _ => .stop

/-- The posture a current purpose stands for. -/
def purposeDisposition (purpose : String) : Disposition :=
  match purpose with
  | "wait" => .waitForFreshEvidence
  | "request_evidence" => .requestAdditionalEvidence
  | "stop" => .stop
  | "human_escalation" => .humanJudgmentRequired
  | _ => .continueObserving

/-- A Docket receipt without its identity, and the query it was composed into. -/
structure DocketBasis where
  receipt : Json.Value
  purpose : String
  id : String
  query : PresentEvidenceQueryV1

def docketBasis (bytes : Bytes) (expectedRequest : Json.Value)
    (observedAt cycleId nonce expectedAuthority : String) : Except String DocketBasis := do
  let (identity, v) ← docketReceipt w bytes
  refuseIf (identity != .string (digest w v) ||
      (at_ v "schema").asStr != some "nq.docket-purpose-support/v1" ||
      at_ v "request" != expectedRequest ||
      at_ v "request_digest" != .string (digest w expectedRequest) ||
      (at_ v "claim").asStr != some "docket_attempt_settled" || isBlank expectedAuthority)
    "NQ Docket receipt/request/claim binding mismatch"
  let purpose ← okOr (at_ expectedRequest "purpose").asStr "purpose absent"
  refuseIf ((at_ expectedRequest "consumer").asStr == some "nightshift-readonly-continuity" &&
      (at_ v "decision").asStr == some "supported_readonly" &&
      (match requireSnapshotContext
          (at_ (at_ expectedRequest "continuity_support") "snapshot_context") with
        | .ok _ => false
        | .error _ => true))
    "current continuity role lacks qualified snapshot-history context"
  refuseIf (!(["continue_observing", "wait", "request_evidence", "stop",
      "human_escalation"].contains purpose))
    "unsupported read-only purpose"
  let now ← w.parseFromRfc3339 observedAt
  let generatedText ← okOr (at_ v "generated_at").asStr "time absent"
  let generated ← w.parseFromRfc3339 generatedText
  let expiryText ← okOr (at_ v "expires_at").asStr "expiry absent"
  let expires ← w.parseFromRfc3339 expiryText
  refuseIf (now < generated || now ≥ expires) "NQ Docket evidence time outside exact interval"
  let subject ← okOr (at_ v "subject").asStr "subject missing"
  refuseIf ((at_ expectedRequest "subject").asStr != some subject) "subject mismatch"
  let id ← okOr identity.asStr "identity malformed"
  let ids ← docketArtifacts id v
  let scopeId ← okOr (at_ v "subject_digest").asStr "subject digest absent"
  let query ← PresentEvidenceQueryV1.sealQuery w.toDiagnosticPlatform
    { schema := ""
      queryId := ""
      observationCycleId := cycleId
      requestNonce := nonce
      observationId := digest w (docketObservation id purpose expectedAuthority)
      diagnosticInputsId := digest w (docketInputs ids)
      subjectId := subject
      scopeId
      artifactIds := ids }
  .ok ⟨v, purpose, id, query⟩

def qualifyDocketCurrentPurpose (bytes : Bytes) (expectedRequest : Json.Value)
    (observedAt cycleId nonce expectedAuthority : String) (port : PresentEvidencePort) :
    Except String CurrentPurposeDisposition := do
  let ⟨v, purpose, id, query⟩ ← docketBasis w bytes expectedRequest observedAt cycleId nonce
    expectedAuthority
  let result : CurrentPurposeDisposition :=
    { schema := currentPurposeSchema
      purpose
      nqDecisionId := id
      query
      support := none
      disposition := .evidenceUnavailable
      reason := ""
      doesNotEstablish :=
        ["no action authorized or executed",
          "Docket testimony, NQ factual policy and currentness retain distinct owners"] }
  if (at_ v "decision").asStr != some "supported_readonly" then
    .ok
      { result with
        disposition := docketRefusal (at_ v "decision").asStr
        reason := "NQ factual decision " ++ w.jsonText (at_ v "decision") ++
          "; present evidence cannot repair it" }
  else do
    requireSnapshotContext (at_ v "snapshot_context")
    resolveSupport w port expectedAuthority "wrong present-evidence authority"
      "current support lacks evidence" (purposeDisposition purpose)
      (fun standing => "qualified present evidence " ++ standing ++ "; read-only posture only")
      result

/-! ## What a posture rests on -/

variable {w}

/-- The support answers this query and no other. -/
structure Binds (support : QualifiedSupportV1) (query : PresentEvidenceQueryV1) : Prop where
  queryId : support.queryId = query.queryId
  cycle : support.observationCycleId = query.observationCycleId
  nonce : support.requestNonce = query.requestNonce
  observation : support.observationId = query.observationId
  inputs : support.diagnosticInputsId = query.diagnosticInputsId
  subject : support.subjectId = query.subjectId
  scope : support.scopeId = query.scopeId
  artifacts : support.artifactIds = query.artifactIds

/-- The expected authority answered the live query of this cycle, nonce and
observation with current support. -/
structure LiveSupport (w : NqPlatform) (cycleId nonce expectedAuthority : String)
    (observation : Json.Value) (r : CurrentPurposeDisposition) : Prop where
  answered : ∃ support, r.support = some support ∧ support.standing = .current ∧
    support.evidenceRefs ≠ [] ∧ support.authorityId = expectedAuthority ∧ Binds support r.query
  valid : r.query.validate w.toDiagnosticPlatform = .ok ()
  cycle : r.query.observationCycleId = cycleId
  nonce : r.query.requestNonce = nonce
  observation : r.query.observationId = digest w observation

theorem binds_of_validateFor {d : DiagnosticPlatform} {support : QualifiedSupportV1}
    {query : PresentEvidenceQueryV1} (h : support.validateFor d query = .ok ()) :
    Binds support query := by
  simp only [QualifiedSupportV1.validateFor, bind_eq_ok, refuseIf_eq_ok, Bool.or_eq_false_iff,
    bne_eq_false_iff_eq] at h
  obtain ⟨_, -, _, -, _, ⟨⟨⟨⟨⟨⟨⟨hquery, hcycle⟩, hnonce⟩, hobservation⟩, hinputs⟩, hsubject⟩,
    hscope⟩, hartifacts⟩, -⟩ := h
  exact ⟨hquery, hcycle, hnonce, hobservation, hinputs, hsubject, hscope, hartifacts⟩

/-- A sealed query is valid and keeps what it was asked with. -/
theorem sealQuery_eq_ok {d : DiagnosticPlatform} {open_ query : PresentEvidenceQueryV1}
    (h : open_.sealQuery d = .ok query) :
    query.validate d = .ok () ∧ query.observationCycleId = open_.observationCycleId ∧
    query.requestNonce = open_.requestNonce ∧ query.observationId = open_.observationId ∧
    query.artifactIds = open_.artifactIds := by
  simp only [PresentEvidenceQueryV1.sealQuery, bind_eq_ok] at h
  obtain ⟨_, hvalid, hquery⟩ := h
  obtain rfl := Except.ok.inj hquery
  exact ⟨hvalid, rfl, rfl, rfl, rfl⟩

/-- The port decides: its disposition is the one for current support exactly when
current support came back, unless that one is a posture of the other standings. -/
theorem resolveSupport_eq_ok {port : PresentEvidencePort}
    {expectedAuthority wrongAuthority noEvidence : String} {whenCurrent : Disposition}
    {reasonOf : String → String} {open_ r : CurrentPurposeDisposition}
    (hopen : open_.disposition = .evidenceUnavailable)
    (h : resolveSupport w port expectedAuthority wrongAuthority noEvidence whenCurrent reasonOf
      open_ = .ok r) :
    r.query = open_.query ∧
    (r.disposition = .continueObserving ↔ whenCurrent = .continueObserving ∧
      ∃ support, port open_.query = .ok support ∧ support.standing = .current) ∧
    (r.disposition = .continueObserving → ∃ support, r.support = some support ∧
      support.standing = .current ∧ support.evidenceRefs ≠ [] ∧
      support.authorityId = expectedAuthority ∧ Binds support r.query) := by
  unfold resolveSupport at h
  cases hport : port open_.query with
  | error reason =>
    rw [hport] at h
    obtain rfl := Except.ok.inj h
    simp [hopen]
  | ok support =>
    rw [hport] at h
    simp only [bind_eq_ok, refuseIf_eq_ok, bne_eq_false_iff_eq] at h
    obtain ⟨_, hvalid, _, hauthority, disposition, hdisposition, hr⟩ := h
    obtain rfl := Except.ok.inj hr
    have hbinds := binds_of_validateFor hvalid
    refine ⟨rfl, ?_, ?_⟩
    · cases hstanding : support.standing <;> simp only [hstanding] at hdisposition
      case current =>
        split at hdisposition
        · cases hdisposition
        · obtain rfl := Except.ok.inj hdisposition
          simp [hstanding]
      all_goals
        obtain rfl := Except.ok.inj hdisposition
        simp [hstanding]
    · intro hcontinue
      cases hstanding : support.standing <;> simp only [hstanding] at hdisposition
      case current =>
        split at hdisposition
        · cases hdisposition
        · rename_i hevidence
          exact ⟨support, rfl, hstanding, by simpa using hevidence, hauthority, hbinds⟩
      all_goals
        obtain rfl := Except.ok.inj hdisposition
        cases hcontinue

/-- A fresh receipt continues on two decisions, and on no other string. -/
theorem freshPosture_continue_iff {r : NqRelianceReceiptDto} :
    (freshPosture w r).disposition = .continueObserving ↔
      r.decision = "supported_readonly" ∨ r.decision = "authorized_reliance" := by
  unfold freshPosture
  split <;> simp_all

/-- No refused Docket decision continues. -/
theorem docketRefusal_ne (decision : Option String) :
    docketRefusal decision ≠ .continueObserving := by
  unfold docketRefusal
  split <;> simp

theorem purposeDisposition_iff {purpose : String}
    (h : ["continue_observing", "wait", "request_evidence", "stop", "human_escalation"].contains
      purpose = true) :
    purposeDisposition purpose = .continueObserving ↔ purpose = "continue_observing" := by
  simp only [List.contains_iff_mem, List.mem_cons, List.not_mem_nil, or_false] at h
  rcases h with rfl | rfl | rfl | rfl | rfl <;> simp [purposeDisposition]

/-- The exact request was answered inside its interval: both digests are
recomputed, and a supported receipt has not expired. -/
structure ExactReceipt (w : NqPlatform) (bytes : Bytes) (expectedRequest : Json.Value)
    (observedAt : String) (dto : NqRelianceReceiptDto) : Prop where
  parsed : w.parseReceipt bytes = .ok dto
  request : dto.requestDigest = digest w expectedRequest
  identity : ∃ value member preimage, w.parseJson bytes = .ok value ∧
    takeMember value "decision_id" = some (member, preimage) ∧
    at_ value "request" = expectedRequest ∧ dto.decisionId = digest w preimage
  interval : ∃ value expiry now generated expires, w.parseJson bytes = .ok value ∧
    (at_ value "expires_at").asStr = some expiry ∧ w.parseFromRfc3339 observedAt = .ok now ∧
    w.parseFromRfc3339 dto.generatedAt = .ok generated ∧
    w.parseFromRfc3339 expiry = .ok expires ∧ generated ≤ now ∧
    (dto.decision = "supported_readonly" → now < expires)

theorem parseForRequest_eq_ok {bytes : Bytes} {expectedRequest : Json.Value} {observedAt : String}
    {dto : NqRelianceReceiptDto}
    (h : parseForRequest w bytes expectedRequest observedAt = .ok dto) :
    ExactReceipt w bytes expectedRequest observedAt dto := by
  simp only [parseForRequest, bind_eq_ok, mapErr_eq_ok, okOr_eq_ok, refuseIf_eq_ok,
    Bool.or_eq_false_iff, bne_eq_false_iff_eq, Prod.exists] at h
  obtain ⟨value, hvalue, _, -, found, hfound, _, ⟨⟨⟨hrequest, -⟩, -⟩, -⟩, member, preimage, htake,
    _, ⟨hdigest, hidentity⟩, now, hnow, generated, hgenerated, expiry, hexpiry, expires, hexpires,
    _, ⟨hfuture, hexpired⟩, hdto⟩ := h
  obtain rfl := Except.ok.inj hdto
  have hparsed : w.parseReceipt bytes = .ok found := by
    simp only [parseChecked, parseSchema, bind_eq_ok, mapErr_eq_ok] at hfound
    obtain ⟨read, hread, _, -, _, -, _, -, _, -, _, -, hread'⟩ := hfound
    rw [hread, Except.ok.inj hread']
  refine ⟨hparsed, hdigest, ⟨value, member, preimage, hvalue, htake, hrequest, hidentity⟩,
    value, expiry, now, generated, expires, hvalue, hexpiry, hnow, hgenerated, hexpires, ?_, ?_⟩
  · simpa using hfuture
  · intro hsupported
    simpa [hsupported] using hexpired

/-- A continuity query includes the receipt it rests on. -/
theorem continuityReceipt_mem {dto : NqRelianceReceiptDto} {expectedRequest : Json.Value}
    {purpose : String} {ids artifacts : List String}
    (h : withContinuity dto expectedRequest purpose ids = .ok artifacts)
    (hsupported : dto.decision = "supported_readonly")
    (hconsumer : dto.consumerProfileId = "nightshift-readonly-continuity") :
    ∃ identity, continuityReceipt expectedRequest = some identity ∧ identity ∈ artifacts := by
  have hboth : (dto.consumerProfileId == "nightshift-readonly-continuity" &&
      dto.decision == "supported_readonly") = true := by
    rw [hconsumer, hsupported]
    decide
  rw [withContinuity, if_pos hboth] at h
  simp only [bind_eq_ok, okOr_eq_ok] at h
  obtain ⟨_, -, identity, hidentity, _, -, _, -, hartifacts⟩ := h
  obtain rfl := Except.ok.inj hartifacts
  refine ⟨identity, hidentity, ?_⟩
  rw [sorted, List.mem_insertionSort]
  exact List.mem_append_right _ List.mem_cons_self

/-- A native posture that continues rests on a supported receipt for the exact
request and on live support for its artifacts. -/
structure NativeContinue (w : NqPlatform) (bytes : Bytes) (expectedRequest : Json.Value)
    (observedAt purpose : String) (inputs : DiagnosticInputs)
    (cycleId nonce expectedAuthority : String) (r : CurrentPurposeDisposition)
    (dto : NqRelianceReceiptDto) : Prop where
  decision : dto.decision = "supported_readonly"
  receipt : ExactReceipt w bytes expectedRequest observedAt dto
  support : LiveSupport w cycleId nonce expectedAuthority
    (nativeObservation dto.decisionId purpose expectedAuthority) r
  artifacts : withContinuity dto expectedRequest purpose (deliveredArtifactIds inputs) =
    .ok r.query.artifactIds
  continuity : dto.consumerProfileId = "nightshift-readonly-continuity" →
    ∃ identity, continuityReceipt expectedRequest = some identity ∧
      identity ∈ r.query.artifactIds

theorem nativeBasis_eq_ok {bytes : Bytes} {expectedRequest : Json.Value}
    {observedAt purpose : String} {inputs : DiagnosticInputs}
    {cycleId nonce expectedAuthority : String} {basis : NativeBasis}
    (h : nativeBasis w bytes expectedRequest observedAt purpose inputs cycleId nonce
      expectedAuthority = .ok basis) :
    ExactReceipt w bytes expectedRequest observedAt basis.dto ∧
    withContinuity basis.dto expectedRequest purpose (deliveredArtifactIds inputs) =
      .ok basis.query.artifactIds ∧
    basis.query.validate w.toDiagnosticPlatform = .ok () ∧
    basis.query.observationCycleId = cycleId ∧ basis.query.requestNonce = nonce ∧
    basis.query.observationId =
      digest w (nativeObservation basis.dto.decisionId purpose expectedAuthority) := by
  simp only [nativeBasis, bind_eq_ok, mapErr_eq_ok, okOr_eq_ok] at h
  obtain ⟨_, -, dto, hdto, _, -, _, -, _, -, _, -, _, -, _, -, _, -, ids, hids, _, -, _, -,
    query, hquery, hbasis⟩ := h
  obtain rfl := Except.ok.inj hbasis
  obtain ⟨hvalid, hcycle, hnonce, hobservation, hartifacts⟩ := sealQuery_eq_ok hquery
  refine ⟨parseForRequest_eq_ok hdto, ?_, hvalid, hcycle, hnonce, hobservation⟩
  rw [hids, hartifacts]

/-- A native posture continues only on what it must rest on, except that an
`authorized_reliance` continues by the table alone. -/
theorem native_continue_iff {bytes : Bytes} {expectedRequest : Json.Value}
    {observedAt purpose : String} {inputs : DiagnosticInputs}
    {cycleId nonce expectedAuthority : String} {port : PresentEvidencePort}
    {r : CurrentPurposeDisposition}
    (h : qualifyCurrentPurpose w bytes expectedRequest observedAt purpose inputs cycleId nonce
      expectedAuthority port = .ok r) :
    (r.disposition = .continueObserving → ∃ dto, NativeContinue w bytes expectedRequest observedAt
      purpose inputs cycleId nonce expectedAuthority r dto) ↔
    ∀ dto, w.parseReceipt bytes = .ok dto → dto.decision ≠ "authorized_reliance" := by
  simp only [qualifyCurrentPurpose, bind_eq_ok] at h
  obtain ⟨⟨found, query⟩, hbasis, hr⟩ := h
  obtain ⟨hreceipt, hartifacts, hvalid, hcycle, hnonce, hobservation⟩ := nativeBasis_eq_ok hbasis
  have hsame : ∀ dto, w.parseReceipt bytes = .ok dto → dto = found := fun dto hdto =>
    Except.ok.inj (hdto.symm.trans hreceipt.parsed)
  by_cases hsupported : found.decision = "supported_readonly"
  · rw [if_neg (by simp [hsupported])] at hr
    obtain ⟨hquery, -, hlive⟩ := resolveSupport_eq_ok rfl hr
    constructor
    · intro _ dto hdto
      rw [hsame dto hdto, hsupported]
      decide
    · intro _ hcontinue
      refine ⟨found, hsupported, hreceipt, ⟨hlive hcontinue, ?_, ?_, ?_, ?_⟩, ?_, ?_⟩
      · rw [hquery]; exact hvalid
      · rw [hquery]; exact hcycle
      · rw [hquery]; exact hnonce
      · rw [hquery]; exact hobservation
      · rw [hquery]; exact hartifacts
      · rw [hquery]
        exact continuityReceipt_mem hartifacts hsupported
  · rw [if_pos (by simpa using hsupported)] at hr
    obtain rfl := Except.ok.inj hr
    have htable : (deriveDisposition w .fresh (some found) observedAt
        found.consumerProfileId).disposition = (freshPosture w found).disposition := rfl
    constructor
    · intro hlive dto hdto hauthorized
      rw [hsame dto hdto] at hauthorized
      obtain ⟨other, hother⟩ := hlive (by
        rw [htable]
        exact freshPosture_continue_iff.mpr (.inr hauthorized))
      have hdecision := hother.decision
      rw [hsame other hother.receipt.parsed] at hdecision
      exact hsupported hdecision
    · intro hnot hcontinue
      rw [htable] at hcontinue
      rcases freshPosture_continue_iff.mp hcontinue with hdecision | hdecision
      · exact absurd hdecision hsupported
      · exact absurd hdecision (hnot found hreceipt.parsed)

/-- A Docket posture that continues rests on a supported receipt for the exact
request, inside its interval, and on live support for its artifacts. -/
structure DocketContinue (w : NqPlatform) (bytes : Bytes) (expectedRequest : Json.Value)
    (observedAt cycleId nonce expectedAuthority : String) (r : CurrentPurposeDisposition)
    (v : Json.Value) (id : String) : Prop where
  decision : (at_ v "decision").asStr = some "supported_readonly"
  receipt : docketReceipt w bytes = .ok (.string id, v)
  identity : id = digest w v
  request : at_ v "request" = expectedRequest ∧
    at_ v "request_digest" = .string (digest w expectedRequest)
  interval : ∃ generatedText expiry now generated expires,
    (at_ v "generated_at").asStr = some generatedText ∧
    (at_ v "expires_at").asStr = some expiry ∧ w.parseFromRfc3339 observedAt = .ok now ∧
    w.parseFromRfc3339 generatedText = .ok generated ∧ w.parseFromRfc3339 expiry = .ok expires ∧
    generated ≤ now ∧ now < expires
  support : LiveSupport w cycleId nonce expectedAuthority
    (docketObservation id "continue_observing" expectedAuthority) r
  artifacts : docketArtifacts id v = .ok r.query.artifactIds
  continuity : (at_ expectedRequest "consumer").asStr = some "nightshift-readonly-continuity" →
    ∃ identity, continuityReceipt expectedRequest = some identity ∧
      identity ∈ r.query.artifactIds

/-- What an accepted Docket receipt establishes before the port is asked. -/
structure DocketAccepted (w : NqPlatform) (bytes : Bytes) (expectedRequest : Json.Value)
    (observedAt cycleId nonce expectedAuthority : String) (basis : DocketBasis) : Prop where
  receipt : docketReceipt w bytes = .ok (.string basis.id, basis.receipt)
  identity : basis.id = digest w basis.receipt
  request : at_ basis.receipt "request" = expectedRequest ∧
    at_ basis.receipt "request_digest" = .string (digest w expectedRequest)
  purpose : ["continue_observing", "wait", "request_evidence", "stop",
    "human_escalation"].contains basis.purpose = true
  interval : ∃ generatedText expiry now generated expires,
    (at_ basis.receipt "generated_at").asStr = some generatedText ∧
    (at_ basis.receipt "expires_at").asStr = some expiry ∧
    w.parseFromRfc3339 observedAt = .ok now ∧ w.parseFromRfc3339 generatedText = .ok generated ∧
    w.parseFromRfc3339 expiry = .ok expires ∧ generated ≤ now ∧ now < expires
  artifacts : docketArtifacts basis.id basis.receipt = .ok basis.query.artifactIds
  valid : basis.query.validate w.toDiagnosticPlatform = .ok ()
  cycle : basis.query.observationCycleId = cycleId
  nonce : basis.query.requestNonce = nonce
  observation : basis.query.observationId =
    digest w (docketObservation basis.id basis.purpose expectedAuthority)

theorem docketBasis_eq_ok {bytes : Bytes} {expectedRequest : Json.Value}
    {observedAt cycleId nonce expectedAuthority : String} {basis : DocketBasis}
    (h : docketBasis w bytes expectedRequest observedAt cycleId nonce expectedAuthority =
      .ok basis) :
    DocketAccepted w bytes expectedRequest observedAt cycleId nonce expectedAuthority basis := by
  simp only [docketBasis, bind_eq_ok, okOr_eq_ok, refuseIf_eq_ok, Bool.or_eq_false_iff,
    bne_eq_false_iff_eq, Bool.not_eq_false', Prod.exists] at h
  obtain ⟨identity, v, hreceipt, _, ⟨⟨⟨⟨⟨hidentity, -⟩, hrequest⟩, hdigest⟩, -⟩, -⟩, purpose, -, _,
    -, _, hpurpose, now, hnow, generatedText, hgeneratedText, generated, hgenerated, expiry,
    hexpiry, expires, hexpires, _, ⟨hfuture, hexpired⟩, _, -, _, -, id, hid, ids, hids, _, -,
    query, hquery, hbasis⟩ := h
  obtain rfl := Except.ok.inj hbasis
  obtain ⟨hvalid, hcycle, hnonce, hobservation, hartifacts⟩ := sealQuery_eq_ok hquery
  subst hidentity
  obtain rfl : digest w v = id := Option.some.inj hid
  refine ⟨hreceipt, rfl, ⟨hrequest, hdigest⟩, hpurpose, ?_, ?_, hvalid, hcycle, hnonce,
    hobservation⟩
  · exact ⟨generatedText, expiry, now, generated, expires, hgeneratedText, hexpiry, hnow,
      hgenerated, hexpires, by simpa using hfuture, by simpa using hexpired⟩
  · rw [hids, hartifacts]

/-- The receipt is a support for observation and the port answers its query with
current support. -/
def DocketAnswered (port : PresentEvidencePort) (basis : DocketBasis) : Prop :=
  (at_ basis.receipt "decision").asStr = some "supported_readonly" ∧
  basis.purpose = "continue_observing" ∧
  ∃ support, port basis.query = .ok support ∧ support.standing = .current

/-- The posture of an accepted Docket receipt continues exactly when the port
answers it, and then with what the port answered. -/
theorem qualifyDocket_eq_ok {bytes : Bytes} {expectedRequest : Json.Value}
    {observedAt cycleId nonce expectedAuthority : String} {port : PresentEvidencePort}
    {r : CurrentPurposeDisposition}
    (h : qualifyDocketCurrentPurpose w bytes expectedRequest observedAt cycleId nonce
      expectedAuthority port = .ok r) :
    ∃ basis, docketBasis w bytes expectedRequest observedAt cycleId nonce expectedAuthority =
        .ok basis ∧
      r.query = basis.query ∧
      (r.disposition = .continueObserving ↔ DocketAnswered port basis) ∧
      (r.disposition = .continueObserving → ∃ support, r.support = some support ∧
        support.standing = .current ∧ support.evidenceRefs ≠ [] ∧
        support.authorityId = expectedAuthority ∧ Binds support r.query) := by
  simp only [qualifyDocketCurrentPurpose, bind_eq_ok] at h
  obtain ⟨basis, hbasis, hr⟩ := h
  have hpurpose := (docketBasis_eq_ok hbasis).purpose
  refine ⟨basis, hbasis, ?_⟩
  by_cases hsupported : (at_ basis.receipt "decision").asStr = some "supported_readonly"
  · rw [if_neg (by simp [hsupported])] at hr
    obtain ⟨_, -, hresolve⟩ := bind_eq_ok.mp hr
    obtain ⟨hquery, hcontinue, hlive⟩ := resolveSupport_eq_ok rfl hresolve
    refine ⟨hquery, ?_, hlive⟩
    rw [hcontinue, purposeDisposition_iff hpurpose, DocketAnswered]
    exact (and_iff_right hsupported).symm
  · rw [if_pos (by simpa using hsupported)] at hr
    obtain rfl := Except.ok.inj hr
    have hrefused := docketRefusal_ne (at_ basis.receipt "decision").asStr
    refine ⟨rfl, ⟨fun hcontinue => absurd hcontinue hrefused, fun hanswered => ?_⟩,
      fun hcontinue => absurd hcontinue hrefused⟩
    exact absurd hanswered.1 hsupported

/-- A Docket posture continues only on what it must rest on, as long as an
answered continuity receipt lists the receipt it rests on. -/
theorem docket_continue_iff {bytes : Bytes} {expectedRequest : Json.Value}
    {observedAt cycleId nonce expectedAuthority : String} {port : PresentEvidencePort}
    {r : CurrentPurposeDisposition}
    (h : qualifyDocketCurrentPurpose w bytes expectedRequest observedAt cycleId nonce
      expectedAuthority port = .ok r) :
    (r.disposition = .continueObserving → ∃ v id, DocketContinue w bytes expectedRequest observedAt
      cycleId nonce expectedAuthority r v id) ↔
    ∀ basis, docketBasis w bytes expectedRequest observedAt cycleId nonce expectedAuthority =
      .ok basis → DocketAnswered port basis →
      (at_ expectedRequest "consumer").asStr = some "nightshift-readonly-continuity" →
      ∃ identity, continuityReceipt expectedRequest = some identity ∧
        identity ∈ basis.query.artifactIds := by
  obtain ⟨basis, hbasis, hquery, hcontinue, hlive⟩ := qualifyDocket_eq_ok h
  have haccepted := docketBasis_eq_ok hbasis
  constructor
  · intro hrests other hother hanswered hconsumer
    obtain rfl : basis = other := Except.ok.inj (hbasis.symm.trans hother)
    obtain ⟨_, _, hdocket⟩ := hrests (hcontinue.mpr hanswered)
    have hincluded := hdocket.continuity hconsumer
    rw [hquery] at hincluded
    exact hincluded
  · intro hincluded hcontinues
    have hanswered := hcontinue.mp hcontinues
    have hobservation := haccepted.observation
    rw [hanswered.2.1] at hobservation
    refine ⟨basis.receipt, basis.id, hanswered.1, haccepted.receipt, haccepted.identity,
      haccepted.request, haccepted.interval, ⟨hlive hcontinues, ?_, ?_, ?_, ?_⟩, ?_, ?_⟩
    · rw [hquery]; exact haccepted.valid
    · rw [hquery]; exact haccepted.cycle
    · rw [hquery]; exact haccepted.nonce
    · rw [hquery]; exact hobservation
    · rw [hquery]; exact haccepted.artifacts
    · rw [hquery]; exact hincluded basis hbasis hanswered

/-- Of the two entry points, the native one continues without live support on an
`authorized_reliance` alone, and the Docket one lacks the continuity receipt
exactly where an answered receipt does not list it. -/
theorem continueObserving_rests_iff (w : NqPlatform) (bytes : Bytes) (expectedRequest : Json.Value)
    (observedAt purpose : String) (inputs : DiagnosticInputs)
    (cycleId nonce expectedAuthority : String) (port : PresentEvidencePort) :
    (∀ r, qualifyCurrentPurpose w bytes expectedRequest observedAt purpose inputs cycleId nonce
        expectedAuthority port = .ok r →
      ((r.disposition = .continueObserving → ∃ dto, NativeContinue w bytes expectedRequest
          observedAt purpose inputs cycleId nonce expectedAuthority r dto) ↔
        ∀ dto, w.parseReceipt bytes = .ok dto → dto.decision ≠ "authorized_reliance")) ∧
    (∀ r, qualifyDocketCurrentPurpose w bytes expectedRequest observedAt cycleId nonce
        expectedAuthority port = .ok r →
      ((r.disposition = .continueObserving → ∃ v id, DocketContinue w bytes expectedRequest
          observedAt cycleId nonce expectedAuthority r v id) ↔
        ∀ basis, docketBasis w bytes expectedRequest observedAt cycleId nonce expectedAuthority =
          .ok basis → DocketAnswered port basis →
          (at_ expectedRequest "consumer").asStr = some "nightshift-readonly-continuity" →
          ∃ identity, continuityReceipt expectedRequest = some identity ∧
            identity ∈ basis.query.artifactIds)) :=
  ⟨fun _ h => native_continue_iff h, fun _ h => docket_continue_iff h⟩

end Nq

/-! ## A reliance that was authorized -/

namespace NqBench

open Nq Checked
open PostureBench (inputs artifact)

def request : Json.Value :=
  .object
    [("claim", .string "docket_attempt_settled"), ("consumer", .string "nightshift-readonly"),
      ("purpose", .string "historical_readonly"), ("subject_digest", .string placeholderDigest)]

def source : Json.Value :=
  .object
    [("subject", .object
      [("id", .string "subject-1"), ("scope", .object [("digest", .string placeholderDigest)])])]

def receiptValue : Json.Value :=
  .object
    [("claim", .string "docket_attempt_settled"), ("decision", .string "authorized_reliance"),
      ("decision_id", .string placeholderDigest), ("expires_at", .string "2026-01-01T00:00:20Z"),
      ("generated_at", .string "2026-01-01T00:00:05Z"), ("purpose", .string "historical_readonly"),
      ("request", request), ("source_artifact", source),
      ("subject_digest", .string placeholderDigest)]

def receipt : NqRelianceReceiptDto where
  schema := nqRelianceReceiptSchema
  decisionId := placeholderDigest
  requestDigest := placeholderDigest
  evidenceContextDigest := placeholderDigest
  consumerProfileId := "nightshift-readonly"
  callerBinding := "caller-1"
  callerBindingDisclosure := "configured"
  purpose := "historical_readonly"
  claim := "docket_attempt_settled"
  receiptContentHash := placeholderDigest
  underlyingStatus := "settled"
  decision := "authorized_reliance"
  premises := []
  coverageLimits := []
  unresolvedResiduals := []
  retainedContradictions := []
  refusalReasons := []
  establishes := []
  doesNotEstablish := []
  supportingReceipts := []
  policyVersion := "1"
  generatedAt := "2026-01-01T00:00:05Z"

def platform : NqPlatform where
  toDiagnosticPlatform := PostureBench.platform
  parseJson bytes := if bytes = [1] then .ok receiptValue else .error "expected value"
  parseReceipt bytes := if bytes = [1] then .ok receipt else .error "expected value"
  artifactValue _ := source
  floatText _ := ['0']
  debugText value := "\"" ++ value ++ "\""
  jsonText _ := "null"
  dispositionCanonical _ := []

/-- No authority answers. -/
def silent : PresentEvidencePort := fun _ => .error "no authority response"

def answer : Except String CurrentPurposeDisposition :=
  qualifyCurrentPurpose platform [1] request "2026-01-01T00:00:10Z" "continue_observing" inputs
    "cycle-1" "nonce-1" "authority-1" silent

/-- The posture continues although no authority answered. -/
theorem authorized_reliance_continues :
    ∃ r, answer = .ok r ∧ r.disposition = .continueObserving ∧
      ¬∃ dto, NativeContinue platform [1] request "2026-01-01T00:00:10Z" "continue_observing"
        inputs "cycle-1" "nonce-1" "authority-1" r dto := by
  have hanswer : (answer.map (·.disposition)) = .ok .continueObserving := by decide +kernel
  cases h : answer with
  | error e => rw [h] at hanswer; cases hanswer
  | ok r =>
    rw [h] at hanswer
    refine ⟨r, rfl, Except.ok.inj hanswer, ?_⟩
    rintro ⟨dto, hdto⟩
    have hparsed : platform.parseReceipt [1] = .ok receipt := by simp [platform]
    obtain rfl : receipt = dto := Except.ok.inj (hparsed.symm.trans hdto.receipt.parsed)
    exact absurd hdto.decision (by decide)

end NqBench

end Nightshift
