import Nightshift.Lib.OrderedMap
import Nightshift.Lib.Checked
import Nightshift.Lib.Rfc3339
import Nightshift.Text

/-!
# Project-predicate attention

A recurrence policy over a history of distinct upstream evidence occurrences.
Distinctness is decided by a digest over the texts of a receipt, the order of
the history by comparing texts, and the window by parsed instants.
-/

namespace Nightshift.Attention

open Checked

def policySchemaV1 : String := "nightshift.project-predicate-attention-policy/v1"
def eventSchemaV1 : String := "nightshift.project-predicate-attention-event/v1"
def receiptSchemaV1 : String := "nightshift.project-predicate-attention/v1"
def bundleSchemaV1 : String := "nightshift.project-predicate-attention-replay-bundle/v1"
def replaySchemaV1 : String := "nightshift.project-predicate-attention-replay/v1"
def pulseReceiptSchemaV1 : String := "pulse.project-predicate-qualified-support/v1"
def occurrenceSchemaV1 : String := "nightshift.project-predicate-evidence-occurrence/v1"

structure AttentionTargetV1 where
  project : String
  concern : String
  question : String
  declarationProfile : String
  predicateProfile : String
  nqCatalogDigest : String
  nqProfileDigest : String
  nqInputSchemaDigest : String
  pulseSupportPolicyId : String
  pulseSupportPolicyDigest : String
  subjectId : String
  deriving DecidableEq, Repr

inductive PulseDispositionV1 where
  | supportedCurrent
  | nqReceiptInvalid
  | missingSupport
  | supportProducerFailed
  | supportEvidenceInvalid
  | identityMismatch
  | independenceNotQualified
  | primaryStale
  | supportStale
  | skewExceeded
  | contradictory
  deriving DecidableEq, Repr

inductive AttentionTriggerV1 where
  | propositionAttention
  | assuranceAttention (dispositions : List PulseDispositionV1)
  deriving DecidableEq, Repr

structure RecurrencePolicyV1 where
  requiredDistinctOccurrences : Nat
  withinSeconds : Nat
  deriving DecidableEq, Repr

inductive ResetPolicyV1 where
  | horizonExpiry
  | supportedCurrent
  deriving DecidableEq, Repr

structure AttentionPolicyV1 where
  schema : String
  policyId : String
  policyDigest : String
  target : AttentionTargetV1
  pulseVerifierExecutableDigest : String
  trigger : AttentionTriggerV1
  recurrence : RecurrencePolicyV1
  reset : ResetPolicyV1
  deriving DecidableEq, Repr

structure PulseQualifiedSupportReceiptV1 where
  schema : String
  receiptDigest : String
  policyId : String
  policyDigest : String
  project : String
  concern : String
  question : String
  declarationProfile : String
  predicateProfile : String
  nqCatalogDigest : String
  nqProfileDigest : String
  nqInputSchemaDigest : String
  nqReceiptDigest : String
  nqVerifierExecutableDigest : String
  primaryObservedAt : Option String
  supportEvidenceId : Option String
  supportEvidenceDigest : Option String
  supportObservedAt : Option String
  supportProducerId : Option String
  supportSourceId : Option String
  supportVantageId : Option String
  subjectId : String
  qualificationAt : String
  currentUntilUnixMs : Option Int
  primarySupportSkewMs : Option Nat
  independenceBasis : String
  disposition : PulseDispositionV1
  detail : String
  validated : List String
  notValidated : List String
  deriving DecidableEq, Repr

structure AttentionEventV1 where
  schema : String
  eventId : String
  policyDigest : String
  recurrenceId : String
  occurrenceAt : String
  pulseReceipt : PulseQualifiedSupportReceiptV1
  deriving DecidableEq, Repr

inductive AttentionDispositionV1 where
  | noAttention
  | waitingForRecurrence
  | attentionRequired
  | inputNotCurrent
  deriving DecidableEq, Repr

inductive AttentionReasonClassV1 where
  | none
  | propositionAttention
  | assuranceAttention
  deriving DecidableEq, Repr

structure AttentionReceiptV1 where
  schema : String
  receiptDigest : String
  policyId : String
  policyDigest : String
  target : AttentionTargetV1
  evaluatedAt : String
  windowStartInclusive : String
  windowEndInclusive : String
  requiredDistinctOccurrences : Nat
  qualifyingDistinctOccurrences : Nat
  qualifyingEventIds : List String
  qualifyingRecurrenceIds : List String
  pulseReceiptDigests : List String
  upstreamDispositions : List PulseDispositionV1
  historyDigest : String
  attentionReasonClass : AttentionReasonClassV1
  disposition : AttentionDispositionV1
  detail : String
  recurrenceBasis : String
  currentnessBasis : String
  resetBasis : String
  validated : List String
  notValidated : List String
  deriving DecidableEq, Repr

structure AttentionReplayBundleV1 where
  schema : String
  policy : AttentionPolicyV1
  history : List AttentionEventV1
  receipt : AttentionReceiptV1
  deriving DecidableEq, Repr

structure AttentionReplayResultV1 where
  schema : String
  matches_ : Bool
  expectedReceiptDigest : String
  recomputedReceiptDigest : String
  deriving DecidableEq, Repr

/-- The texts a recurrence identity is digested from. -/
structure RecurrenceBasis where
  schema : String
  pulsePolicyDigest : String
  nqReceiptDigest : String
  subjectId : String
  disposition : PulseDispositionV1
  primaryObservedAt : Option String
  supportObservedAt : Option String
  supportProducerId : Option String
  supportSourceId : Option String
  supportVantageId : Option String
  noEvidenceQualificationAt : Option String
  deriving DecidableEq, Repr

/-- What the evaluation calls and does not define. -/
structure PulsePlatform where
  /-- `format!("sha256:{:x}", Sha256::digest(bytes))` -/
  sha256 : Bytes → String
  /-- `DateTime::parse_from_rfc3339(value).with_timezone(&Utc)` -/
  parseFromRfc3339 : String → Except String Instant
  /-- `to_rfc3339_opts(SecondsFormat::Millis, true)` -/
  toRfc3339Millis : Instant → String
  /-- `format!("{value:?}")` of a string. -/
  debugText : String → String
  /-- `serde_jcs::to_vec` -/
  basisCanonical : RecurrenceBasis → Bytes
  historyCanonical : List AttentionEventV1 → Bytes
  /-- `serde_jcs::to_vec` after the identity member was removed. -/
  policyCanonical : AttentionPolicyV1 → Bytes
  pulseCanonical : PulseQualifiedSupportReceiptV1 → Bytes
  eventCanonical : AttentionEventV1 → Bytes
  receiptCanonical : AttentionReceiptV1 → Bytes

def requireToken (name value : String) : Except String Unit :=
  refuseIf (isBlank value || value.toList.any isWhiteSpace) (name ++ " must be a non-empty token")

def requireDigest (name value : String) : Except String Unit :=
  refuseIf (!((stripPrefix "sha256:" value).any fun hex =>
      hex.length == 64 && hex.all isLowerHexdigit))
    (name ++ " must use sha256:<64 lowercase hex>")

variable (w : PulsePlatform)

def parseTime (value : String) : Except String Instant :=
  mapErr (fun e => "invalid RFC3339 occurrence " ++ w.debugText value ++ ": " ++ e)
    (w.parseFromRfc3339 value)

/-- Whole milliseconds since the epoch, rounded down. -/
def unixMs (at_ : Instant) : Int := at_ / 1000000

/-! ## Validation -/

/-- The declaration order. -/
def PulseDispositionV1.rank : PulseDispositionV1 → Nat
  | .supportedCurrent => 0
  | .nqReceiptInvalid => 1
  | .missingSupport => 2
  | .supportProducerFailed => 3
  | .supportEvidenceInvalid => 4
  | .identityMismatch => 5
  | .independenceNotQualified => 6
  | .primaryStale => 7
  | .supportStale => 8
  | .skewExceeded => 9
  | .contradictory => 10

/-- `sort` and `dedup` -/
def orderedDispositions (dispositions : List PulseDispositionV1) : List PulseDispositionV1 :=
  (dispositions.insertionSort fun a b => a.rank ≤ b.rank).destutter (· ≠ ·)

def AttentionTriggerV1.validate (trigger : AttentionTriggerV1) (reset : ResetPolicyV1) :
    Except String Unit :=
  match trigger with
  | .propositionAttention =>
    refuseIf (reset != .horizonExpiry)
      "proposition attention v1 resets only by governed horizon/currentness expiry"
  | .assuranceAttention dispositions => do
    refuseIf dispositions.isEmpty
      "assurance attention requires at least one selected Pulse disposition"
    refuseIf (orderedDispositions dispositions != dispositions)
      "assurance dispositions must be strictly ordered and unique"
    refuseIf (dispositions.contains .supportedCurrent)
      "SUPPORTED_CURRENT is not an assurance-failure disposition"

def AttentionPolicyV1.validate (policy : AttentionPolicyV1) : Except String Unit := do
  refuseIf (policy.schema != policySchemaV1) ("unsupported attention policy schema " ++ policy.schema)
  forEach
    [("policy_id", policy.policyId), ("project", policy.target.project),
      ("concern", policy.target.concern), ("question", policy.target.question),
      ("declaration_profile", policy.target.declarationProfile),
      ("predicate_profile", policy.target.predicateProfile),
      ("pulse_support_policy_id", policy.target.pulseSupportPolicyId),
      ("subject_id", policy.target.subjectId)]
    fun (name, value) => requireToken name value
  forEach
    [("policy_digest", policy.policyDigest), ("nq_catalog_digest", policy.target.nqCatalogDigest),
      ("nq_profile_digest", policy.target.nqProfileDigest),
      ("nq_input_schema_digest", policy.target.nqInputSchemaDigest),
      ("pulse_support_policy_digest", policy.target.pulseSupportPolicyDigest),
      ("pulse_verifier_executable_digest", policy.pulseVerifierExecutableDigest)]
    fun (name, value) => requireDigest name value
  refuseIf (policy.recurrence.requiredDistinctOccurrences == 0 ||
      policy.recurrence.withinSeconds == 0)
    "recurrence count and horizon must be nonzero"
  policy.trigger.validate policy.reset
  refuseIf (policy.policyDigest != w.sha256 (w.policyCanonical policy))
    "attention policy digest does not bind its exact content"

namespace PulseQualifiedSupportReceiptV1

/-- The exclusive bound of a supported receipt, with its exact occurrences. -/
def validateCurrentness (receipt : PulseQualifiedSupportReceiptV1) : Except String Unit :=
  if receipt.disposition == .supportedCurrent then do
    let deadline ← okOr receipt.currentUntilUnixMs
      "SUPPORTED_CURRENT Pulse receipt lacks its exclusive currentness bound"
    refuseIf (receipt.primaryObservedAt.isNone || receipt.supportObservedAt.isNone ||
        receipt.supportEvidenceId.isNone || receipt.supportEvidenceDigest.isNone)
      "SUPPORTED_CURRENT Pulse receipt lacks exact evidence occurrences"
    let qualified ← parseTime w receipt.qualificationAt
    refuseIf (deadline ≤ unixMs qualified)
      "SUPPORTED_CURRENT Pulse deadline is not after qualification"
  else .ok ()

def validate (receipt : PulseQualifiedSupportReceiptV1) : Except String Unit := do
  refuseIf (receipt.schema != pulseReceiptSchemaV1)
    ("unsupported Pulse receipt schema " ++ receipt.schema)
  forEach
    [("receipt_digest", receipt.receiptDigest), ("policy_digest", receipt.policyDigest),
      ("nq_catalog_digest", receipt.nqCatalogDigest),
      ("nq_profile_digest", receipt.nqProfileDigest),
      ("nq_input_schema_digest", receipt.nqInputSchemaDigest),
      ("nq_receipt_digest", receipt.nqReceiptDigest),
      ("nq_verifier_executable_digest", receipt.nqVerifierExecutableDigest)]
    fun (name, value) => requireDigest name value
  forEach
    [("policy_id", receipt.policyId), ("project", receipt.project), ("concern", receipt.concern),
      ("question", receipt.question), ("declaration_profile", receipt.declarationProfile),
      ("predicate_profile", receipt.predicateProfile), ("subject_id", receipt.subjectId),
      ("qualification_at", receipt.qualificationAt),
      ("independence_basis", receipt.independenceBasis)]
    fun (name, value) => requireToken name value
  let _ ← parseTime w receipt.qualificationAt
  forEach (receipt.primaryObservedAt.toList ++ receipt.supportObservedAt.toList) fun value => do
    let _ ← parseTime w value
    .ok ()
  forEach (receipt.supportEvidenceId.toList ++ receipt.supportEvidenceDigest.toList)
    (requireDigest "support evidence digest")
  receipt.validateCurrentness w
  refuseIf (receipt.receiptDigest != w.sha256 (w.pulseCanonical receipt))
    "Pulse receipt digest does not bind its exact content"

def validateFor (receipt : PulseQualifiedSupportReceiptV1) (policy : AttentionPolicyV1) :
    Except String Unit := do
  receipt.validate w
  let target := policy.target
  refuseIf (receipt.project != target.project || receipt.concern != target.concern ||
      receipt.question != target.question ||
      receipt.declarationProfile != target.declarationProfile ||
      receipt.predicateProfile != target.predicateProfile ||
      receipt.nqCatalogDigest != target.nqCatalogDigest ||
      receipt.nqProfileDigest != target.nqProfileDigest ||
      receipt.nqInputSchemaDigest != target.nqInputSchemaDigest ||
      receipt.policyId != target.pulseSupportPolicyId ||
      receipt.policyDigest != target.pulseSupportPolicyDigest ||
      receipt.subjectId != target.subjectId)
    "Pulse receipt does not exactly bind the attention policy target"

/-- The governed occurrence: the support observation, else the qualification. -/
def occurrence (receipt : PulseQualifiedSupportReceiptV1) : String :=
  receipt.supportObservedAt.getD receipt.qualificationAt

def basis (receipt : PulseQualifiedSupportReceiptV1) : RecurrenceBasis where
  schema := occurrenceSchemaV1
  pulsePolicyDigest := receipt.policyDigest
  nqReceiptDigest := receipt.nqReceiptDigest
  subjectId := receipt.subjectId
  disposition := receipt.disposition
  primaryObservedAt := receipt.primaryObservedAt
  supportObservedAt := receipt.supportObservedAt
  supportProducerId := receipt.supportProducerId
  supportSourceId := receipt.supportSourceId
  supportVantageId := receipt.supportVantageId
  noEvidenceQualificationAt :=
    if receipt.supportObservedAt.isNone then some receipt.qualificationAt else none

end PulseQualifiedSupportReceiptV1

def recurrenceId (receipt : PulseQualifiedSupportReceiptV1) : String :=
  w.sha256 (w.basisCanonical receipt.basis)

namespace AttentionEventV1

def validate (event : AttentionEventV1) (policy : AttentionPolicyV1) : Except String Unit := do
  refuseIf (event.schema != eventSchemaV1 || event.policyDigest != policy.policyDigest)
    "attention event schema or policy lineage mismatch"
  event.pulseReceipt.validateFor w policy
  refuseIf (event.recurrenceId != Attention.recurrenceId w event.pulseReceipt)
    "attention event recurrence identity is invalid"
  refuseIf (event.occurrenceAt != event.pulseReceipt.occurrence)
    "attention event occurrence does not match governed Pulse occurrence"
  let _ ← parseTime w event.occurrenceAt
  refuseIf (event.eventId != w.sha256 (w.eventCanonical event))
    "attention event digest is invalid"

def fromVerified (policy : AttentionPolicyV1) (pulseReceipt : PulseQualifiedSupportReceiptV1) :
    Except String AttentionEventV1 := do
  policy.validate w
  pulseReceipt.validateFor w policy
  let open_ : AttentionEventV1 :=
    { schema := eventSchemaV1
      eventId := ""
      policyDigest := policy.policyDigest
      recurrenceId := Attention.recurrenceId w pulseReceipt
      occurrenceAt := pulseReceipt.occurrence
      pulseReceipt }
  let event := { open_ with eventId := w.sha256 (w.eventCanonical open_) }
  event.validate w policy
  .ok event

/-- Ordered by the occurrence text, then by the recurrence identity. -/
def sortKey (event : AttentionEventV1) : Lex (String × String) :=
  toLex (event.occurrenceAt, event.recurrenceId)

end AttentionEventV1

/-! ## Evaluation -/

/-- Every event under its recurrence identity. -/
def byRecurrence (policy : AttentionPolicyV1) (history : List AttentionEventV1) :
    Except String (BTreeMap String AttentionEventV1) :=
  history.foldlM (fun map event => do
      event.validate w policy
      refuseIf (map[event.recurrenceId]?).isSome
        "attention history repeats an evidence recurrence identity"
      .ok (map.insert event.recurrenceId event)) ∅

/-- The evaluation's order of the events. -/
def canonicalOrder (events : List AttentionEventV1) : List AttentionEventV1 :=
  events.insertionSort fun left right => left.sortKey ≤ right.sortKey

def maximumI64 : Nat := 9223372036854775807

/-- `evaluated_at.checked_sub_signed(ChronoDuration::seconds(within))` -/
def windowStart (policy : AttentionPolicyV1) (evaluatedAt : Instant) : Except String Instant := do
  let within := policy.recurrence.withinSeconds
  refuseIf (within > maximumI64) "attention horizon exceeds i64 seconds"
  -- The panic of `ChronoDuration::seconds`, which counts in milliseconds.
  refuseIf (within > maximumI64 / 1000) "TimeDelta::seconds out of bounds"
  okOr (checkedAddSeconds evaluatedAt (-within)) "attention horizon underflow"

/-- The last qualification that resets an assurance recurrence. -/
def resetAt (policy : AttentionPolicyV1) (history : List AttentionEventV1) (evaluatedAt : Instant) :
    Except String (Option Instant) :=
  match policy.trigger, policy.reset with
  | .assuranceAttention _, .supportedCurrent => do
    let supported := history.filter fun event =>
      event.pulseReceipt.disposition == .supportedCurrent
    let instants ← supported.mapM fun event => parseTime w event.pulseReceipt.qualificationAt
    .ok ((instants.filter fun instant => instant ≤ evaluatedAt).max?)
  | _, _ => .ok none

def AttentionTriggerV1.selects (trigger : AttentionTriggerV1) (disposition : PulseDispositionV1) :
    Bool :=
  match trigger with
  | .propositionAttention => disposition == .supportedCurrent
  | .assuranceAttention dispositions => dispositions.contains disposition

/-- The locals of the scan. The counter has 32 bits. -/
structure Scan where
  matchingBeforeCurrentness : Nat
  expiredSupported : Bool
  qualifying : List AttentionEventV1
  deriving DecidableEq, Repr

def Scan.empty : Scan := ⟨0, false, []⟩

def scanEvent (policy : AttentionPolicyV1) (start evaluatedAt : Instant) (reset : Option Instant)
    (scan : Scan) (event : AttentionEventV1) : Except String Scan := do
  let occurred ← parseTime w event.occurrenceAt
  if occurred < start || occurred > evaluatedAt || reset.any fun at_ => occurred ≤ at_ then
    .ok scan
  else if !policy.trigger.selects event.pulseReceipt.disposition then
    .ok scan
  else
    let matched := (scan.matchingBeforeCurrentness + 1) % 2 ^ 32
    if policy.trigger == .propositionAttention then do
      let deadline ← okOr event.pulseReceipt.currentUntilUnixMs
        "SUPPORTED_CURRENT event lacks Pulse currentness boundary"
      if unixMs evaluatedAt ≥ deadline then
        .ok { scan with matchingBeforeCurrentness := matched, expiredSupported := true }
      else
        .ok { scan with
          matchingBeforeCurrentness := matched, qualifying := scan.qualifying ++ [event] }
    else
      .ok { scan with
        matchingBeforeCurrentness := matched, qualifying := scan.qualifying ++ [event] }

/-- The disposition, its reason and its detail. -/
def judge (policy : AttentionPolicyV1) (scan : Scan) :
    AttentionDispositionV1 × AttentionReasonClassV1 × String :=
  let count := scan.qualifying.length
  if count ≥ policy.recurrence.requiredDistinctOccurrences then
    (.attentionRequired,
      match policy.trigger with
      | .propositionAttention => .propositionAttention
      | .assuranceAttention _ => .assuranceAttention,
      toString count ++
        " distinct governed evidence occurrences satisfy the operator attention policy")
  else if count > 0 then
    (.waitingForRecurrence, .none,
      toString count ++ " of " ++ toString policy.recurrence.requiredDistinctOccurrences ++
        " required distinct governed evidence occurrences are present")
  else if scan.expiredSupported && scan.matchingBeforeCurrentness > 0 then
    (.inputNotCurrent, .none,
      "historical Pulse support exists but its exclusive currentness boundary does not cover this evaluation")
  else
    (.noAttention, .none, "no governed attention trigger currently satisfies the policy")

/-- The receipt before its digest is written into it. -/
def openReceipt (policy : AttentionPolicyV1) (history : List AttentionEventV1)
    (start evaluatedAt : Instant) (scan : Scan) : AttentionReceiptV1 where
  schema := receiptSchemaV1
  receiptDigest := ""
  policyId := policy.policyId
  policyDigest := policy.policyDigest
  target := policy.target
  evaluatedAt := w.toRfc3339Millis evaluatedAt
  windowStartInclusive := w.toRfc3339Millis start
  windowEndInclusive := w.toRfc3339Millis evaluatedAt
  requiredDistinctOccurrences := policy.recurrence.requiredDistinctOccurrences
  qualifyingDistinctOccurrences := scan.qualifying.length
  qualifyingEventIds := scan.qualifying.map (·.eventId)
  qualifyingRecurrenceIds := scan.qualifying.map (·.recurrenceId)
  pulseReceiptDigests := scan.qualifying.map (·.pulseReceipt.receiptDigest)
  upstreamDispositions := orderedDispositions (scan.qualifying.map (·.pulseReceipt.disposition))
  historyDigest := w.sha256 (w.historyCanonical history)
  attentionReasonClass := (judge policy scan).2.1
  disposition := (judge policy scan).1
  detail := (judge policy scan).2.2
  recurrenceBasis :=
    "distinct primary/support observation coordinates; Pulse/Nightshift requalification and exact replay do not advance recurrence/v1"
  currentnessBasis :=
    "for proposition attention only, evaluated_at must be strictly before Pulse current_until_unix_ms; Nightshift does not recompute Pulse freshness/v1"
  resetBasis :=
    match policy.reset with
    | .horizonExpiry =>
      "qualifying occurrences cease to count only outside the inclusive governed horizon; no failure receipt proves a domain clear/v1"
    | .supportedCurrent =>
      "a later SUPPORTED_CURRENT Pulse qualification resets assurance-failure recurrence only/v1"
  validated :=
    ["exact attention policy content custody and target binding",
      "distinct recurrence identity, governed ordering, and inclusive horizon",
      "Pulse disposition preservation and Pulse-owned exclusive support deadline"]
  notValidated :=
    ["project proposition truth, NQ semantic correctness, or producer testimony truth",
      "Pulse source independence beyond the verified Pulse receipt claim",
      "uninterrupted truth, causality, whole-project health, remediation, publication, or notification delivery"]

def closedBundle (policy : AttentionPolicyV1) (history : List AttentionEventV1)
    (start evaluatedAt : Instant) (scan : Scan) : AttentionReplayBundleV1 :=
  let receipt := openReceipt w policy history start evaluatedAt scan
  { schema := bundleSchemaV1
    policy
    history
    receipt := { receipt with receiptDigest := w.sha256 (w.receiptCanonical receipt) } }

def evaluate (policy : AttentionPolicyV1) (history : List AttentionEventV1)
    (evaluatedAt : Instant) : Except String AttentionReplayBundleV1 := do
  policy.validate w
  let map ← byRecurrence w policy history
  let canonical := canonicalOrder (BTreeMap.valuesOf map)
  forEach canonical fun event => do
    let occurred ← parseTime w event.occurrenceAt
    refuseIf (occurred > evaluatedAt) "attention history contains a future evidence occurrence"
  let start ← windowStart policy evaluatedAt
  let reset ← resetAt w policy canonical evaluatedAt
  let scan ← canonical.foldlM (scanEvent w policy start evaluatedAt reset) Scan.empty
  refuseIf (scan.qualifying.length ≥ 2 ^ 32) "too many attention events"
  .ok (closedBundle w policy canonical start evaluatedAt scan)

def replayAttention (bundle : AttentionReplayBundleV1) :
    Except String AttentionReplayResultV1 := do
  refuseIf (bundle.schema != bundleSchemaV1) "unsupported attention replay bundle schema"
  let at_ ← parseTime w bundle.receipt.evaluatedAt
  let recomputed ← evaluate w bundle.policy bundle.history at_
  .ok
    { schema := replaySchemaV1
      matches_ := recomputed.receipt == bundle.receipt
      expectedReceiptDigest := bundle.receipt.receiptDigest
      recomputedReceiptDigest := recomputed.receipt.receiptDigest }

end Nightshift.Attention
