import Nightshift.Lib.Rfc3339
import Nightshift.SavedCheckRetention

/-!
# Saved-check attention

The non-authorizing projection of one retained evaluation: the retained
documents are checked against each other, the states of the condition against
their vocabulary, and one ordered chain of cases decides. The result is carried
twice, as a state and as an outcome, and the chain reads a pass off the outcome.
-/

namespace Nightshift.SavedCheckAttention

open Checked SavedCheck

def policySchema : String := "nightshift.saved-check-attention-policy/v1"
def receiptSchema : String := "nightshift.saved-check-attention-receipt/v1"
def bundleSchema : String := "nightshift.saved-check-attention-replay-bundle/v1"
def replaySchema : String := "nightshift.saved-check-attention-replay/v1"

structure SavedCheckAttentionPolicyV1 where
  schema : String
  policyId : String
  policyDigest : String
  maxEventAgeSeconds : Nat
  deriving DecidableEq, Repr

inductive SavedCheckAttentionDispositionV1 where
  | noAttention
  | attentionRequired
  | lossOfAssurance
  deriving DecidableEq, Repr

inductive SavedCheckAttentionReasonV1 where
  | savedCheckPassed
  | savedCheckFailedCovered
  | savedCheckFailedOverrun
  | savedCheckFailedUncovered
  | conditionIndeterminate
  | conditionRefused
  | sourceStale
  | sourceFuture
  | maintenanceUnavailable
  deriving DecidableEq, Repr

structure SavedCheckAttentionReceiptV1 where
  schema : String
  receiptDigest : String
  policyId : String
  policyDigest : String
  evaluationId : String
  conditionSha256 : String
  projectionAt : String
  eventCurrentUntil : String
  evaluatedAt : String
  sourceCurrentness : String
  originalResultState : String
  originalOutcome : String
  maintenance : Json.Value
  disposition : SavedCheckAttentionDispositionV1
  reason : SavedCheckAttentionReasonV1
  deliveryEligible : Bool
  inspectionReference : String
  authority : String
  deriving DecidableEq

structure SavedCheckAttentionReplayBundleV1 where
  schema : String
  policy : SavedCheckAttentionPolicyV1
  evaluation : SavedCheckEvaluationV1
  receipt : SavedCheckAttentionReceiptV1

structure SavedCheckAttentionReplayV1 where
  schema : String
  matches_ : Bool
  expectedReceiptDigest : String
  recomputedReceiptDigest : String
  deriving DecidableEq, Repr

/-- What the projection calls and does not define. -/
structure AttentionPlatform where
  /-- `format!("sha256:{:x}", Sha256::digest(bytes))` -/
  sha256 : Bytes → String
  /-- `hex::decode` -/
  decodeHex : String → Except String Bytes
  /-- `DateTime::parse_from_rfc3339(value).with_timezone(&Utc)` -/
  parseFromRfc3339 : String → Except String Instant
  /-- `to_rfc3339_opts(SecondsFormat::AutoSi, true)` -/
  toRfc3339 : Instant → String
  /-- How the canonical form writes a double. -/
  floatText : UInt64 → List Char
  /-- `serde_jcs::to_vec` -/
  policyCanonical : SavedCheckAttentionPolicyV1 → Bytes
  receiptCanonical : SavedCheckAttentionReceiptV1 → Bytes

variable (w : AttentionPlatform)

def SavedCheckAttentionPolicyV1.validate (policy : SavedCheckAttentionPolicyV1) :
    Except String Unit := do
  refuseIf (policy.schema != policySchema || policy.policyId.isEmpty ||
      byteLength policy.policyId > 256 || policy.maxEventAgeSeconds == 0 ||
      policy.maxEventAgeSeconds > 300)
    "invalid saved-check attention policy"
  refuseIf (policy.policyDigest != w.sha256 (w.policyCanonical { policy with policyDigest := "" }))
    "saved-check attention policy digest mismatch"

/-- The digest of a receipt whose own digest was cleared. -/
def SavedCheckAttentionReceiptV1.digest (receipt : SavedCheckAttentionReceiptV1) : String :=
  w.sha256 (w.receiptCanonical { receipt with receiptDigest := "" })

def validateReceiptDigest (receipt : SavedCheckAttentionReceiptV1) : Except String Unit :=
  refuseIf (receipt.receiptDigest != receipt.digest w)
    "saved-check attention receipt digest mismatch"

/-- The text at a path, if there is one. -/
def textAt (value : Json.Value) (path : List String) : Option String :=
  (value.pointer path).bind (·.asStr)

def field (value : Json.Value) (path : List String) : Except String String :=
  okOr (textAt value path)
    ("saved-check condition omits " ++ String.join (path.map ("/" ++ ·)))

def exactOutput (value : Json.Value) (encoded expectedDigest : String) : Except String Unit := do
  let bytes ← w.decodeHex encoded
  refuseIf (w.sha256 bytes != expectedDigest) "retained JSON output digest mismatch"
  let payload := if bytes.getLast? = some 0x0a then bytes.dropLast else bytes
  refuseIf (utf8 (String.ofList (value.text w.floatText)) != payload)
    "retained JSON output is not exact JCS with an optional output delimiter"

def validateEvaluation (evaluation : SavedCheckEvaluationV1) : Except String Unit := do
  refuseIf (evaluation.schema != "nightshift.saved-check-evaluation/v1" ||
      evaluation.authority != "none" || evaluation.state != "terminal" ||
      evaluation.evaluationId != evaluation.dueRequest.evaluationId ||
      evaluation.policyDigest != evaluation.dueRequest.policyDigest ||
      evaluation.slotId != evaluation.dueRequest.slot.slotId)
    "saved-check evaluation identity is invalid"
  let result ← okOr evaluation.nqResult "NQ result is absent"
  let bytes ← okOr evaluation.nqResultBytesHex "NQ result bytes are absent"
  let digest ← okOr evaluation.nqResultSha256 "NQ result digest is absent"
  exactOutput w result bytes digest
  refuseIf (textAt result ["evaluation_id"] != some evaluation.evaluationId ||
      !(textAt result ["outcome"]).any (["passed", "failed", "refused", "claimed"].contains ·) ||
      result.pointer ["detail", "binding"] != evaluation.nqRequestBinding)
    "NQ result does not bind the retained evaluation and request"
  let binding ← okOr evaluation.nqRequestBinding "NQ request binding is absent"
  refuseIf (binding.get "definition_digest" !=
        some (.string evaluation.dueRequest.definitionDigest) ||
      binding.get "source_identity" != some (.string evaluation.dueRequest.sourceIdentity) ||
      textAt binding ["source_observed_at_assertion"] != evaluation.sourceObservedAt)
    "NQ request does not bind the scheduled definition and retained source observation"

/-- The six states of a condition, as they are written. -/
structure ConditionStates where
  source : String
  result : String
  outcome : String
  projection : String
  maintenance : String
  readAttempt : String
  deriving DecidableEq, Repr

def ConditionStates.supported (states : ConditionStates) : Bool :=
  ["fresh", "stale", "future"].contains states.source &&
  ["passed", "failed", "refused", "indeterminate", "unavailable"].contains states.result &&
  ["passed", "failed", "refused", "claimed"].contains states.outcome &&
  ["available", "indeterminate", "refused"].contains states.projection &&
  ["covered", "overrun", "uncovered", "unavailable"].contains states.maintenance &&
  ["recorded", "not_yet_observed", "indeterminate", "not_established", "unavailable"].contains
    states.readAttempt

/-- The states with the maintenance annotation they belong to. -/
def readStates (condition : Json.Value) : Except String (ConditionStates × Json.Value) := do
  let source ← field condition ["source_assertion", "state"]
  let result ← field condition ["original_result", "state"]
  let outcome ← field condition ["original_result", "outcome"]
  let projection ← field condition ["projection_state"]
  let annotation ← okOr (condition.get "maintenance") "maintenance annotation absent"
  let maintenance ← field condition ["maintenance", "state"]
  let readAttempt ← field condition ["read_attempt", "state"]
  let states : ConditionStates := ⟨source, result, outcome, projection, maintenance, readAttempt⟩
  refuseIf (!states.supported) "saved-check condition contains unsupported state vocabulary"
  .ok (states, annotation)

/-- The condition is about the retained definition, result and source. -/
def retains (condition result binding : Json.Value) (request : SavedCheckDueRequestV1) : Bool :=
  condition.pointer ["original_result", "outcome"] == result.get "outcome" &&
  condition.pointer ["original_result", "detail"] == result.get "detail" &&
  condition.pointer ["definition_identity", "reference"] ==
    some (.string request.definitionReference) &&
  condition.pointer ["definition_identity", "digest"] ==
    some (.string request.definitionDigest) &&
  condition.pointer ["source_assertion", "identity"] == binding.get "source_identity" &&
  condition.pointer ["source_assertion", "observed_at"] ==
    binding.get "source_observed_at_assertion" &&
  condition.pointer ["source_assertion", "currentness_seconds"] ==
    binding.get "currentness_seconds"

/-- The read attempt a result of this state goes with. -/
def readAgrees (states : ConditionStates) (readAt resultReadAt : Option String) : Bool :=
  if ["passed", "failed"].contains states.result then
    ["recorded", "not_yet_observed"].contains states.readAttempt && readAt.isSome &&
      readAt == resultReadAt
  else if states.result == "refused" then
    states.readAttempt == "not_established" && readAt.isNone
  else if states.result == "indeterminate" then
    states.readAttempt == "indeterminate" && readAt.isNone
  else if states.result == "unavailable" then
    states.readAttempt == "unavailable" && readAt.isNone
  else false

/-- The ordered cases; the state of the result matters only where it is
indeterminate or refused. -/
def decide_ (states : ConditionStates) :
    Except String (SavedCheckAttentionDispositionV1 × SavedCheckAttentionReasonV1) :=
  if states.source == "stale" then .ok (.lossOfAssurance, .sourceStale)
  else if states.source == "future" then .ok (.lossOfAssurance, .sourceFuture)
  else if states.maintenance == "unavailable" then .ok (.lossOfAssurance, .maintenanceUnavailable)
  else if states.projection == "indeterminate" || states.result == "indeterminate" then
    .ok (.lossOfAssurance, .conditionIndeterminate)
  else if states.projection == "refused" || states.result == "refused" then
    .ok (.lossOfAssurance, .conditionRefused)
  else if states.projection == "available" && states.source == "fresh" &&
      states.outcome == "passed" then
    .ok (.noAttention, .savedCheckPassed)
  else if states.projection == "available" && states.source == "fresh" &&
      states.outcome == "failed" then
    if states.maintenance == "covered" then .ok (.attentionRequired, .savedCheckFailedCovered)
    else if states.maintenance == "overrun" then
      .ok (.attentionRequired, .savedCheckFailedOverrun)
    else if states.maintenance == "uncovered" then
      .ok (.attentionRequired, .savedCheckFailedUncovered)
    else .error "unsupported maintenance annotation"
  else .error "ambiguous saved-check condition"

/-- The retained condition with its digest and the instant it was projected at. -/
structure Projection where
  condition : Json.Value
  sha256 : String
  text : String
  at_ : Instant
  deriving DecidableEq

def readProjection (evaluation : SavedCheckEvaluationV1) : Except String Projection := do
  let condition ← okOr evaluation.condition "saved-check condition is absent"
  refuseIf (textAt condition ["schema"] != some "nq.saved-check-condition/v1" ||
      textAt condition ["evaluation_id"] != some evaluation.evaluationId ||
      textAt condition ["authority"] != some "none")
    "unsupported or mismatched saved-check condition"
  let bytes ← okOr evaluation.conditionBytesHex "condition bytes absent"
  let digest ← okOr evaluation.conditionSha256 "condition digest absent"
  exactOutput w condition bytes digest
  let text ← okOr evaluation.projectionAt "projection time absent"
  let projection ← w.parseFromRfc3339 text
  let mapped ← field condition ["caller_mapping", "at"]
  refuseIf (mapped != text)
    "condition projection coordinate or mapping is not retained exactly"
  let owner ← field condition ["caller_mapping", "mapping_owner"]
  refuseIf (owner != "caller" ||
      (condition.get "automatic_nightshift_integration").bind (·.asBool) != some false)
    "condition projection coordinate or mapping is not retained exactly"
  .ok ⟨condition, digest, text, projection⟩

/-- The receipt before its digest is set. -/
def draft (policy : SavedCheckAttentionPolicyV1) (evaluation : SavedCheckEvaluationV1)
    (projection : Projection) (until_ evaluatedAt : Instant) (states : ConditionStates)
    ( annotation : Json.Value)
    (decided : SavedCheckAttentionDispositionV1 × SavedCheckAttentionReasonV1) :
    SavedCheckAttentionReceiptV1 where
  schema := receiptSchema
  receiptDigest := ""
  policyId := policy.policyId
  policyDigest := policy.policyDigest
  evaluationId := evaluation.evaluationId
  conditionSha256 := projection.sha256
  projectionAt := projection.text
  eventCurrentUntil := w.toRfc3339 until_
  evaluatedAt := w.toRfc3339 evaluatedAt
  sourceCurrentness := states.source
  originalResultState := states.result
  originalOutcome := states.outcome
  maintenance := annotation
  disposition := decided.1
  reason := decided.2
  deliveryEligible := decide (projection.at_ ≤ evaluatedAt) && decide (evaluatedAt ≤ until_) &&
    decided.1 != .noAttention
  inspectionReference := "saved-check:" ++ evaluation.evaluationId
  authority := "none"

def evaluateSavedCheckAttention (policy : SavedCheckAttentionPolicyV1)
    (evaluation : SavedCheckEvaluationV1) (evaluatedAt : Instant) :
    Except String SavedCheckAttentionReceiptV1 := do
  policy.validate w
  validateEvaluation w evaluation
  let projection ← readProjection w evaluation
  let until_ ← okOr (checkedAddSeconds projection.at_ policy.maxEventAgeSeconds)
    "event age overflow"
  let (states, annotation) ← readStates projection.condition
  -- Both are present in a validated evaluation.
  let result ← okOr evaluation.nqResult "NQ result is absent"
  let binding ← okOr evaluation.nqRequestBinding "NQ request binding is absent"
  refuseIf (!retains projection.condition result binding evaluation.dueRequest)
    "condition differs from retained definition, result, or source binding"
  refuseIf (!readAgrees states (textAt projection.condition ["read_attempt", "at"])
      (textAt result ["detail", "read_attempted_at"]))
    "saved-check result and read-attempt semantics do not match"
  let decided ← decide_ states
  let receipt := draft w policy evaluation projection until_ evaluatedAt states annotation decided
  .ok { receipt with receiptDigest := receipt.digest w }

def replaySavedCheckAttention (bundle : SavedCheckAttentionReplayBundleV1) :
    Except String SavedCheckAttentionReplayV1 := do
  refuseIf (bundle.schema != bundleSchema) "unsupported saved-check attention replay bundle"
  let at_ ← w.parseFromRfc3339 bundle.receipt.evaluatedAt
  let recomputed ← evaluateSavedCheckAttention w bundle.policy bundle.evaluation at_
  validateReceiptDigest w bundle.receipt
  .ok
    { schema := replaySchema
      matches_ := recomputed == bundle.receipt
      expectedReceiptDigest := bundle.receipt.receiptDigest
      recomputedReceiptDigest := recomputed.receiptDigest }

/-! ## What an accepted evaluation establishes -/

variable {w}

theorem field_eq_ok {value : Json.Value} {path : List String} {text : String} :
    field value path = .ok text ↔ textAt value path = some text := by
  rw [field, okOr_eq_ok]

/-- The states are those written in the condition, and all are known. -/
theorem readStates_eq_ok {condition : Json.Value} {states : ConditionStates}
    { annotation : Json.Value} (h : readStates condition = .ok (states, annotation)) :
    textAt condition ["source_assertion", "state"] = some states.source ∧
    textAt condition ["original_result", "state"] = some states.result ∧
    textAt condition ["original_result", "outcome"] = some states.outcome ∧
    textAt condition ["projection_state"] = some states.projection ∧
    textAt condition ["maintenance", "state"] = some states.maintenance ∧
    states.supported = true := by
  simp only [readStates, bind_eq_ok, field_eq_ok, refuseIf_eq_ok, okOr_eq_ok] at h
  obtain ⟨source, hsource, result, hresult, outcome, houtcome, projection, hprojection, _, -,
    maintenance, hmaintenance, _, -, _, hsupported, hstates⟩ := h
  obtain ⟨rfl, -⟩ := Prod.mk.inj (Except.ok.inj hstates)
  exact ⟨hsource, hresult, houtcome, hprojection, hmaintenance, by simpa using hsupported⟩

theorem readProjection_eq_ok {evaluation : SavedCheckEvaluationV1} {projection : Projection}
    (h : readProjection w evaluation = .ok projection) :
    evaluation.condition = some projection.condition ∧
    evaluation.projectionAt = some projection.text ∧
    w.parseFromRfc3339 projection.text = .ok projection.at_ := by
  simp only [readProjection, bind_eq_ok, okOr_eq_ok] at h
  obtain ⟨condition, hcondition, _, -, _, -, _, -, _, -, text, htext, at_, hat, _, -, _, -, _, -,
    _, -, hprojection⟩ := h
  obtain rfl := Except.ok.inj hprojection
  exact ⟨hcondition, htext, hat⟩

/-- No attention is decided on a fresh, maintained and available pass by outcome,
unless the state of the result is indeterminate or refused. -/
theorem decide_noAttention_iff {states : ConditionStates}
    {decided : SavedCheckAttentionDispositionV1 × SavedCheckAttentionReasonV1}
    (h : decide_ states = .ok decided) :
    decided.1 = .noAttention ↔
      states.source = "fresh" ∧ states.maintenance ≠ "unavailable" ∧
      states.projection = "available" ∧ states.outcome = "passed" ∧
      states.result ≠ "indeterminate" ∧ states.result ≠ "refused" := by
  unfold decide_ at h
  constructor
  · intro hclear
    split_ifs at h with hstale hfuture hmaintenance hindeterminate hrefused hpassed hfailed <;>
      cases h <;> cases hclear
    simp only [Bool.or_eq_true, Bool.and_eq_true, beq_iff_eq, not_or]
      at hmaintenance hindeterminate hrefused hpassed
    exact ⟨hpassed.1.2, hmaintenance, hpassed.1.1, hpassed.2, hindeterminate.2, hrefused.2⟩
  · rintro ⟨hsource, hmaintenance, hprojection, houtcome, hindeterminate, hrefused⟩
    simp [hsource, hmaintenance, hprojection, houtcome, hindeterminate, hrefused] at h
    rw [← h]

/-- An accepted evaluation read the condition, decided on its states and sealed
the draft. -/
theorem evaluate_eq_ok {policy : SavedCheckAttentionPolicyV1}
    {evaluation : SavedCheckEvaluationV1} {evaluatedAt : Instant}
    {receipt : SavedCheckAttentionReceiptV1}
    (h : evaluateSavedCheckAttention w policy evaluation evaluatedAt = .ok receipt) :
    ∃ projection until_ states annotation decided,
      readProjection w evaluation = .ok projection ∧
      checkedAddSeconds projection.at_ policy.maxEventAgeSeconds = some until_ ∧
      readStates projection.condition = .ok (states, annotation) ∧
      decide_ states = .ok decided ∧
      receipt =
        { draft w policy evaluation projection until_ evaluatedAt states annotation decided with
          receiptDigest := (draft w policy evaluation projection until_ evaluatedAt states
            annotation decided).digest w } := by
  simp only [evaluateSavedCheckAttention, bind_eq_ok, okOr_eq_ok] at h
  obtain ⟨_, -, _, -, projection, hprojection, until_, huntil, ⟨states, annotation⟩, hstates,
    _, -, _, -, _, -, _, -, decided, hdecided, hreceipt⟩ := h
  exact ⟨projection, until_, states, annotation, decided, hprojection, huntil, hstates, hdecided,
    (Except.ok.inj hreceipt).symm⟩

theorem validateReceiptDigest_of_evaluate {policy : SavedCheckAttentionPolicyV1}
    {evaluation : SavedCheckEvaluationV1} {evaluatedAt : Instant}
    {receipt : SavedCheckAttentionReceiptV1}
    (h : evaluateSavedCheckAttention w policy evaluation evaluatedAt = .ok receipt) :
    validateReceiptDigest w receipt = .ok () := by
  obtain ⟨_, _, _, _, _, -, -, -, -, rfl⟩ := evaluate_eq_ok h
  simp [validateReceiptDigest, SavedCheckAttentionReceiptV1.digest, draft]

/-! ## The all-clear -/

/-- Fresh, maintained and available, with a passed outcome. -/
structure OtherwiseClear (condition : Json.Value) : Prop where
  fresh : textAt condition ["source_assertion", "state"] = some "fresh"
  maintained : textAt condition ["maintenance", "state"] ≠ some "unavailable"
  available : textAt condition ["projection_state"] = some "available"
  passed : textAt condition ["original_result", "outcome"] = some "passed"

/-- The retained result is a pass in its state and in its outcome. -/
def Passing (condition : Json.Value) : Prop :=
  OtherwiseClear condition ∧ textAt condition ["original_result", "state"] = some "passed"

/-- The state of the result is a failure or an absence. -/
def Failing (condition : Json.Value) : Prop :=
  textAt condition ["original_result", "state"] = some "failed" ∨
  textAt condition ["original_result", "state"] = some "unavailable"

/-- The projection raises no false all-clear, is delivered inside its window
alone, and is recomputed by a replay. -/
structure SoundAttention (w : AttentionPlatform) (policy : SavedCheckAttentionPolicyV1)
    (evaluation : SavedCheckEvaluationV1) (evaluatedAt : Instant)
    (receipt : SavedCheckAttentionReceiptV1) : Prop where
  clear : ∀ condition, evaluation.condition = some condition →
    (receipt.disposition = .noAttention ↔ Passing condition)
  failure : ∀ condition, evaluation.condition = some condition → Failing condition →
    receipt.disposition ≠ .noAttention
  delivery : ∀ text projection, evaluation.projectionAt = some text →
    w.parseFromRfc3339 text = .ok projection →
    (receipt.deliveryEligible = true ↔
      receipt.disposition ≠ .noAttention ∧ projection ≤ evaluatedAt ∧
      evaluatedAt ≤ projection + policy.maxEventAgeSeconds * 1000000000)
  replay : ∃ answer,
    replaySavedCheckAttention w ⟨bundleSchema, policy, evaluation, receipt⟩ = .ok answer ∧
    answer.matches_ = true

/-- The accepted disposition is the all-clear exactly when the outcome passes and
the state is neither indeterminate nor refused. -/
theorem noAttention_iff {policy : SavedCheckAttentionPolicyV1}
    {evaluation : SavedCheckEvaluationV1} {evaluatedAt : Instant}
    {receipt : SavedCheckAttentionReceiptV1} {condition : Json.Value}
    (h : evaluateSavedCheckAttention w policy evaluation evaluatedAt = .ok receipt)
    (hcondition : evaluation.condition = some condition) :
    receipt.disposition = .noAttention ↔
      OtherwiseClear condition ∧
      (textAt condition ["original_result", "state"] = some "passed" ∨ Failing condition) := by
  obtain ⟨projection, until_, states, annotation, decided, hprojection, -, hstates, hdecided,
    rfl⟩ := evaluate_eq_ok h
  obtain rfl : projection.condition = condition :=
    Option.some.inj ((readProjection_eq_ok hprojection).1.symm.trans hcondition)
  obtain ⟨hsource, hresult, houtcome, hprojected, hmaintenance, hsupported⟩ :=
    readStates_eq_ok hstates
  have hvocabulary : states.result = "passed" ∨ states.result = "failed" ∨
      states.result = "refused" ∨ states.result = "indeterminate" ∨
      states.result = "unavailable" := by
    simp only [ConditionStates.supported, Bool.and_eq_true, List.contains_iff_mem,
      List.mem_cons, List.not_mem_nil, or_false] at hsupported
    exact hsupported.1.1.1.1.2
  change decided.1 = .noAttention ↔ _
  rw [decide_noAttention_iff hdecided]
  have hclear : OtherwiseClear projection.condition ↔
      states.source = "fresh" ∧ states.maintenance ≠ "unavailable" ∧
      states.projection = "available" ∧ states.outcome = "passed" := by
    constructor
    · rintro ⟨hfresh, hmaintained, havailable, hpassed⟩
      rw [hsource, Option.some_inj] at hfresh
      rw [hmaintenance, ne_eq, Option.some_inj] at hmaintained
      rw [hprojected, Option.some_inj] at havailable
      rw [houtcome, Option.some_inj] at hpassed
      exact ⟨hfresh, hmaintained, havailable, hpassed⟩
    · rintro ⟨hfresh, hmaintained, havailable, hpassed⟩
      exact ⟨by rw [hsource, hfresh], by rw [hmaintenance, ne_eq, Option.some_inj]; exact hmaintained,
        by rw [hprojected, havailable], by rw [houtcome, hpassed]⟩
  rw [hclear, Failing, hresult, Option.some_inj, Option.some_inj, Option.some_inj]
  -- The vocabulary leaves a pass, a failure and an absence.
  constructor
  · rintro ⟨hfresh, hmaintained, havailable, hpassed, hindeterminate, hrefused⟩
    refine ⟨⟨hfresh, hmaintained, havailable, hpassed⟩, ?_⟩
    rcases hvocabulary with hr | hr | hr | hr | hr
    · exact .inl hr
    · exact .inr (.inl hr)
    · exact absurd hr hrefused
    · exact absurd hr hindeterminate
    · exact .inr (.inr hr)
  · rintro ⟨⟨hfresh, hmaintained, havailable, hpassed⟩, hstate⟩
    refine ⟨hfresh, hmaintained, havailable, hpassed, ?_, ?_⟩ <;>
      rcases hstate with hr | hr | hr <;> rw [hr] <;> decide

theorem deliveryEligible_iff {policy : SavedCheckAttentionPolicyV1}
    {evaluation : SavedCheckEvaluationV1} {evaluatedAt projection : Instant}
    {receipt : SavedCheckAttentionReceiptV1} {text : String}
    (h : evaluateSavedCheckAttention w policy evaluation evaluatedAt = .ok receipt)
    (htext : evaluation.projectionAt = some text)
    (hat : w.parseFromRfc3339 text = .ok projection) :
    receipt.deliveryEligible = true ↔
      receipt.disposition ≠ .noAttention ∧ projection ≤ evaluatedAt ∧
      evaluatedAt ≤ projection + policy.maxEventAgeSeconds * 1000000000 := by
  obtain ⟨read, until_, states, annotation, decided, hread, huntil, -, -, rfl⟩ := evaluate_eq_ok h
  obtain ⟨-, hreadText, hreadAt⟩ := readProjection_eq_ok hread
  obtain rfl : read.text = text := Option.some.inj (hreadText.symm.trans htext)
  obtain rfl : read.at_ = projection := Except.ok.inj (hreadAt.symm.trans hat)
  have hsum : read.at_ + policy.maxEventAgeSeconds * 1000000000 = until_ := by
    simp only [checkedAddSeconds] at huntil
    split at huntil
    · exact Option.some.inj huntil
    · cases huntil
  rw [hsum]
  simp only [draft, Bool.and_eq_true, decide_eq_true_eq, bne_iff_ne]
  tauto

/-- An evaluation at the instant the receipt states is the evaluation of the replay. -/
theorem replay_matches {policy : SavedCheckAttentionPolicyV1}
    {evaluation : SavedCheckEvaluationV1} {evaluatedAt : Instant}
    {receipt : SavedCheckAttentionReceiptV1}
    (h : evaluateSavedCheckAttention w policy evaluation evaluatedAt = .ok receipt)
    (hread : w.parseFromRfc3339 (w.toRfc3339 evaluatedAt) = .ok evaluatedAt) :
    ∃ answer,
      replaySavedCheckAttention w ⟨bundleSchema, policy, evaluation, receipt⟩ = .ok answer ∧
      answer.matches_ = true := by
  have hstated : receipt.evaluatedAt = w.toRfc3339 evaluatedAt := by
    obtain ⟨_, _, _, _, _, -, -, -, -, rfl⟩ := evaluate_eq_ok h
    rfl
  have hdigest := validateReceiptDigest_of_evaluate h
  refine ⟨⟨replaySchema, true, receipt.receiptDigest, receipt.receiptDigest⟩, ?_, rfl⟩
  simp [replaySavedCheckAttention, hstated, hread, h, hdigest, refuseIf]

/-- The projection is sound unless a failed or absent result passes by its
outcome on an otherwise clear condition, as long as the receipt can state the
instant of its evaluation. -/
theorem soundAttention_iff {policy : SavedCheckAttentionPolicyV1}
    {evaluation : SavedCheckEvaluationV1} {evaluatedAt : Instant}
    {receipt : SavedCheckAttentionReceiptV1}
    (htime : Rfc3339.Agrees w.parseFromRfc3339 w.toRfc3339 1)
    (h : evaluateSavedCheckAttention w policy evaluation evaluatedAt = .ok receipt) :
    SoundAttention w policy evaluation evaluatedAt receipt ↔
      (∀ condition, evaluation.condition = some condition →
        ¬(OtherwiseClear condition ∧ Failing condition)) ∧
      Rfc3339.FourDigitYear evaluatedAt := by
  constructor
  · rintro ⟨-, hfailure, -, answer, hanswer, -⟩
    constructor
    · rintro condition hcondition ⟨hclear, hfailing⟩
      apply hfailure condition hcondition hfailing
      exact (noAttention_iff h hcondition).mpr ⟨hclear, .inr hfailing⟩
    · by_contra hyear
      obtain ⟨e, he⟩ := htime.refuses evaluatedAt hyear
      have hstated : receipt.evaluatedAt = w.toRfc3339 evaluatedAt := by
        obtain ⟨_, _, _, _, _, -, -, -, -, rfl⟩ := evaluate_eq_ok h
        rfl
      simp [replaySavedCheckAttention, hstated, he, refuseIf] at hanswer
  · rintro ⟨hloud, hyear⟩
    refine ⟨fun condition hcondition => ?_, fun condition hcondition hfailing hclear => ?_,
      fun text projection htext hat => deliveryEligible_iff h htext hat, ?_⟩
    · rw [noAttention_iff h hcondition, Passing]
      constructor
      · rintro ⟨hclear, hpassed | hfailing⟩
        · exact ⟨hclear, hpassed⟩
        · exact absurd ⟨hclear, hfailing⟩ (hloud condition hcondition)
      · rintro ⟨hclear, hpassed⟩
        exact ⟨hclear, .inl hpassed⟩
    · have := ((noAttention_iff h hcondition).mp hclear).1
      exact hloud condition hcondition ⟨this, hfailing⟩
    · have hread := htime.reads evaluatedAt hyear
      rw [Rfc3339.cut_one] at hread
      exact replay_matches h hread

end Nightshift.SavedCheckAttention

/-! ## A failure that passes by its outcome -/

namespace Nightshift.SavedCheckAttentionBench

open SavedCheck hiding policySchema
open SavedCheckAttention
open Checked
open CanonicalBench (digest)
open SavedCheckBench (config request observedAt floatText spelled)

def projectedAt : Instant := 1767225602000000000

def projectedText : String := "2026-01-01T00:00:02Z"

/-- The projection and the end of its event window. -/
def instants : List (Int × String) :=
  [(projectedAt, projectedText), (projectedAt + 300000000000, "2026-01-01T00:05:02Z")]

def platform : AttentionPlatform where
  sha256 _ := placeholderDigest
  decodeHex text := unhexChars text.toList
  parseFromRfc3339 := Rfc3339.readBy instants
  toRfc3339 := Rfc3339.writeBy instants 1
  floatText
  policyCanonical _ := []
  receiptCanonical _ := []

theorem agrees : Rfc3339.Agrees platform.parseFromRfc3339 platform.toRfc3339 1 := by
  apply Rfc3339.agrees_by (by decide) (by decide) (by decide)
  constructor <;> decide +kernel

def policy : SavedCheckAttentionPolicyV1 where
  schema := policySchema
  policyId := "policy-1"
  policyDigest := placeholderDigest
  maxEventAgeSeconds := 300

def detail : Json.Value :=
  .object
    [("binding", requestBinding config observedAt),
      ("read_attempted_at", .string "2026-01-01T00:00:01Z")]

def result : Json.Value :=
  .object
    [("detail", detail), ("evaluation_id", .string (digest [2])), ("outcome", .string "passed")]

/-- A condition whose result has the given state and a passed outcome. -/
def condition (state : String) : Json.Value :=
  .object
    [("authority", .string "none"), ("automatic_nightshift_integration", .bool false),
      ("caller_mapping", expectedMapping config projectedText),
      ("definition_identity", .object
        [("digest", .string placeholderDigest), ("reference", .string "definition-1")]),
      ("evaluation_id", .string (digest [2])),
      ("maintenance", .object [("state", .string "uncovered")]),
      ("original_result", .object
        [("detail", detail), ("outcome", .string "passed"), ("state", .string state)]),
      ("projection_state", .string "available"),
      ("read_attempt", .object
        [("at", .string "2026-01-01T00:00:01Z"), ("state", .string "recorded")]),
      ("schema", .string "nq.saved-check-condition/v1"),
      ("source_assertion", .object
        [("currentness_seconds", .integer 600), ("identity", .string "source-1"),
          ("observed_at", .string observedAt), ("state", .string "fresh")])]

/-- A document as it was printed, with the delimiter behind it. -/
def printed (value : Json.Value) : String := hex (spelled value ++ [0x0a])

/-- The evaluation around the two printed documents. -/
def evaluationOf (state printedResult printedCondition : String) : SavedCheckEvaluationV1 where
  schema := "nightshift.saved-check-evaluation/v1"
  evaluationId := digest [2]
  policyDigest := digest [1]
  slotId := digest [0]
  configDigest := digest [3]
  state := "terminal"
  projectionAt := some projectedText
  dueRequest := request
  monitorInventory := none
  monitorInventoryBytesHex := none
  monitorInventorySha256 := none
  acquisitionAcquiredAtUnixMs := none
  sourceObservedAt := some observedAt
  nqRequestBinding := some (requestBinding config observedAt)
  nqResult := some result
  nqResultBytesHex := some printedResult
  nqResultSha256 := some placeholderDigest
  condition := some (condition state)
  conditionBytesHex := some printedCondition
  conditionSha256 := some placeholderDigest
  assumption := "declared"
  authority := "none"

def evaluation (state : String) : SavedCheckEvaluationV1 :=
  evaluationOf state (printed result) (printed (condition state))

/-- What the projection answers on a passed outcome, whatever the state says. -/
def receipt (state : String) : SavedCheckAttentionReceiptV1 where
  schema := receiptSchema
  receiptDigest := placeholderDigest
  policyId := "policy-1"
  policyDigest := placeholderDigest
  evaluationId := digest [2]
  conditionSha256 := placeholderDigest
  projectionAt := projectedText
  eventCurrentUntil := "2026-01-01T00:05:02Z"
  evaluatedAt := projectedText
  sourceCurrentness := "fresh"
  originalResultState := state
  originalOutcome := "passed"
  maintenance := .object [("state", .string "uncovered")]
  disposition := .noAttention
  reason := .savedCheckPassed
  deliveryEligible := false
  inspectionReference := "saved-check:" ++ digest [2]
  authority := "none"

theorem exactOutput_printed (value : Json.Value) :
    exactOutput platform value (printed value) placeholderDigest = .ok () := by
  have hdecode : platform.decodeHex (printed value) = .ok (spelled value ++ [0x0a]) := by
    change unhexChars (hex (spelled value ++ [0x0a])).toList = _
    rw [toList_hex, unhexChars_hexPair]
  have hdigest : platform.sha256 (spelled value ++ [0x0a]) = placeholderDigest := rfl
  have hspelled : utf8 (String.ofList (value.text platform.floatText)) = spelled value := by
    rw [spelled]
    rfl
  simp [exactOutput, hdecode, hdigest, hspelled, refuseIf]

def states (state : String) : ConditionStates :=
  ⟨"fresh", state, "passed", "available", "uncovered", "recorded"⟩

/-- What the policy, the two times and the two conditions come to. -/
theorem closed_checks :
    (policy.validate platform = .ok () ∧
      platform.parseFromRfc3339 projectedText = .ok projectedAt ∧
      platform.toRfc3339 (projectedAt + 300000000000) = "2026-01-01T00:05:02Z" ∧
      platform.toRfc3339 projectedAt = projectedText) ∧
      ∀ state ∈ ["passed", "failed"],
        readStates (condition state) =
          .ok (states state, .object [("state", .string "uncovered")]) ∧
        retains (condition state) result (requestBinding config observedAt) request = true ∧
        readAgrees (states state) (textAt (condition state) ["read_attempt", "at"])
          (textAt result ["detail", "read_attempted_at"]) = true ∧
        decide_ (states state) = .ok (.noAttention, .savedCheckPassed) ∧
        textAt (condition state) ["original_result", "state"] = some state := by
  decide +kernel

section Evaluation

-- The printed documents enter through their check alone.
variable {state printedResult printedCondition : String}
  (hstate : state = "passed" ∨ state = "failed")
  (hresult : exactOutput platform result printedResult placeholderDigest = .ok ())
  (hcondition : exactOutput platform (condition state) printedCondition placeholderDigest = .ok ())

include hresult in
theorem validateEvaluation_evaluationOf :
    validateEvaluation platform (evaluationOf state printedResult printedCondition) = .ok () := by
  simp only [validateEvaluation, evaluationOf, okOr, ok_bind, hresult]
  decide +kernel

def projection (state : String) : Projection :=
  ⟨condition state, placeholderDigest, projectedText, projectedAt⟩

include hstate hcondition in
theorem readProjection_evaluationOf :
    readProjection platform (evaluationOf state printedResult printedCondition) =
      .ok (projection state) := by
  have hread := closed_checks.1.2.1
  simp only [readProjection, evaluationOf, okOr, ok_bind, hcondition, hread]
  rcases hstate with rfl | rfl <;> decide +kernel

include hstate hresult hcondition in
theorem evaluate_evaluationOf :
    evaluateSavedCheckAttention platform policy
        (evaluationOf state printedResult printedCondition) projectedAt =
      .ok (receipt state) := by
  obtain ⟨hpolicy, -, hwindow⟩ := closed_checks.1
  obtain ⟨hstates, hretains, hread, hdecided, -⟩ := closed_checks.2 state (by simpa using hstate)
  have huntil : checkedAddSeconds projectedAt policy.maxEventAgeSeconds =
      some (projectedAt + 300000000000) := by decide
  have hretained : (evaluationOf state printedResult printedCondition).nqResult = some result ∧
      (evaluationOf state printedResult printedCondition).nqRequestBinding =
        some (requestBinding config observedAt) ∧
      (evaluationOf state printedResult printedCondition).dueRequest = request := ⟨rfl, rfl, rfl⟩
  simp only [evaluateSavedCheckAttention, hpolicy, validateEvaluation_evaluationOf hresult,
    readProjection_evaluationOf hstate hcondition, ok_bind, projection, huntil, okOr, hstates,
    hretained, hretains, hread, hdecided, refuseIf, Bool.not_true, Bool.false_eq_true, ↓reduceIte]
  simp only [draft, hwindow, bne_self_eq_false, Bool.and_false]
  rfl

end Evaluation

theorem evaluate_evaluation {state : String} (hstate : state = "passed" ∨ state = "failed") :
    evaluateSavedCheckAttention platform policy (evaluation state) projectedAt =
      .ok (receipt state) :=
  evaluate_evaluationOf hstate (exactOutput_printed result) (exactOutput_printed (condition state))

/-- A failed result that carries a passed outcome raises no attention. -/
theorem failed_result_is_silent :
    evaluateSavedCheckAttention platform policy (evaluation "failed") projectedAt =
        .ok (receipt "failed") ∧
      ¬SoundAttention platform policy (evaluation "failed") projectedAt (receipt "failed") := by
  refine ⟨evaluate_evaluation (.inr rfl), fun h => ?_⟩
  have hfailing : Failing (condition "failed") :=
    .inl (closed_checks.2 "failed" (by simp)).2.2.2.2
  exact h.failure (condition "failed") rfl hfailing rfl

/-- A pass in both places is projected soundly. -/
theorem passed_result_is_sound :
    SoundAttention platform policy (evaluation "passed") projectedAt (receipt "passed") := by
  refine (soundAttention_iff agrees (evaluate_evaluation (.inl rfl))).mpr ⟨?_, by decide⟩
  rintro value hvalue ⟨-, hfailing⟩
  obtain rfl : condition "passed" = value := Option.some.inj hvalue
  have hstate := (closed_checks.2 "passed" (by simp)).2.2.2.2
  rw [Failing, hstate] at hfailing
  revert hfailing
  decide

end Nightshift.SavedCheckAttentionBench
