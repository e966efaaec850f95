import Nightshift.DiagnosticExecution
import Nightshift.PostureRecords
import Nightshift.Lib.Checked
import Mathlib.Data.List.Nodup
import Mathlib.Tactic.Linarith
import Mathlib.Tactic.Ring

/-!
# Posture policy, inputs and recurrence evidence

The validators of the three carriers of a posture evaluation, and the
deterministic schedule they rest on. A duration is a number of nanoseconds in
the range `Duration` can hold; an instant that a checked addition cannot reach
is refused. The texts of RFC 3339, SHA-256 and the canonical serialisers are
parameters, and so is the validator of a whole NQ artifact.
-/

namespace Nightshift

open Checked Diagnostic

/-- What the posture evaluator calls and does not define. -/
structure DiagnosticPlatform where
  /-- `format!("sha256:{:x}", Sha256::digest(bytes))` -/
  sha256 : Bytes → String
  /-- The first eight digest bytes as a big-endian word. -/
  sha256Word : Bytes → Nat
  /-- `DateTime::parse_from_rfc3339(value).with_timezone(&Utc)` -/
  parseFromRfc3339 : String → Except String Instant
  /-- `to_rfc3339_opts(SecondsFormat::AutoSi, true)` -/
  toRfc3339 : Instant → String
  /-- `DiagnosticExecution::validate` -/
  validateExecution : DiagnosticExecution → Except String Unit
  /-- The `Debug` text of a key. -/
  debugKey : DiagnosticKey → String
  /-- `serde_jcs::to_vec` after the identity member was removed. -/
  policyCanonical : PosturePolicy → Bytes
  inputsCanonical : DiagnosticInputs → Bytes
  recurrenceCanonical : RecurrenceEvidence → Bytes
  queryCanonical : PresentEvidenceQueryV1 → Bytes
  supportCanonical : QualifiedSupportV1 → Bytes
  postureCanonical : OperationalPosture → Bytes
  /-- `serde_jcs::to_vec` of the jitter preimage. -/
  jitterCanonical : (scheduleId : String) → DiagnosticKey → Bytes
  /-- `serde_jcs::to_vec` of the slot preimage. -/
  slotCanonical : (scheduleId : String) → (occurrence : Nat) → DiagnosticKey → (dueAt : String) →
    (budgetSeconds : Nat) → Bytes

namespace Diagnostic

def posturePolicySchemaV1 : String := "nightshift.diagnostic_posture_policy.v1"
def posturePolicySchemaV2 : String := "nightshift.diagnostic_posture_policy.v2"
def inputsSchemaV1 : String := "nightshift.diagnostic_inputs.v1"
def inputsSchemaV2 : String := "nightshift.diagnostic_inputs.v2"
def recurrenceSchemaV1 : String := "nightshift.recurrence_evidence.v1"
def recurrenceSchemaV2 : String := "nightshift.recurrence_evidence.v2"
def postureSchema : String := "nightshift.operational_posture.v2"

def requireToken (field value : String) : Except String Unit :=
  refuseIf (isBlank value) (field ++ " is empty")

/-- `strip_prefix("sha256:")` and 64 lowercase hexadecimal digits. -/
def isSha256Id (value : String) : Bool :=
  (stripPrefix "sha256:" value).any fun hex => hex.length == 64 && hex.all isLowerHexdigit

def validateDigest (value name : String) : Except String Unit :=
  refuseIf (!isSha256Id value) (name ++ " must use sha256:<64 lowercase hex>")

def validateSemanticIdentity (identity : SemanticIdentityV1) (name : String) :
    Except String Unit := do
  refuseIf (isBlank identity.id || isBlank identity.version)
    (name ++ " id and version must be non-empty")
  validateDigest identity.digest (name ++ ".digest")

/-- Some value is not above its predecessor. -/
def hasDescent : List String → Bool
  | a :: b :: rest => compare a b != .lt || hasDescent (b :: rest)
  | _ => false

def requireUtf8ByteSortedUnique (field : String) (values : List String) : Except String Unit :=
  refuseIf (hasDescent values)
    (field ++ " must be strictly ordered by unsigned UTF-8 bytes and unique")

def validateProjection (projection : ProjectionV1) : Except String Unit := do
  validateSemanticIdentity projection.identity "projection.identity"
  requireUtf8ByteSortedUnique "projection.omitted_distinctions"
    (projection.omittedDistinctions.map (·.code))
  forEach projection.omittedDistinctions fun distinction => do
    requireToken "projection.omitted_distinction.code" distinction.code
    requireToken "projection.omitted_distinction.detail" distinction.detail

/-- A `chrono::Duration` as nanoseconds. -/
abbrev Duration := Int

/-- `i64::MAX` -/
def maximumI64 : Nat := 9223372036854775807

/-- `i64::try_from` and `Duration::try_seconds`. -/
def checkedSeconds (value : Nat) (field : String) : Except String Duration := do
  refuseIf (value > maximumI64) (field ++ " exceeds supported duration range")
  refuseIf (value > maximumI64 / 1000) (field ++ " exceeds supported duration range")
  .ok (value * 1000000000)

/-- `i64::try_from` and `Duration::try_milliseconds`. -/
def checkedMilliseconds (value : Nat) (field : String) : Except String Duration := do
  refuseIf (value > maximumI64) (field ++ " exceeds supported duration range")
  .ok (value * 1000000)

/-- `checked_add_signed` -/
def checkedAddSigned (at_ : Instant) (duration : Duration) : Option Instant :=
  if minimumInstant ≤ at_ + duration ∧ at_ + duration ≤ maximumInstant then
    some (at_ + duration)
  else none

/-- `checked_sub_signed` -/
def checkedSubSigned (at_ : Instant) (duration : Duration) : Option Instant :=
  checkedAddSigned at_ (-duration)

theorem checkedSeconds_eq_ok {value : Nat} {field : String} {duration : Duration}
    (h : checkedSeconds value field = .ok duration) : duration = value * 1000000000 := by
  simp only [checkedSeconds, bind_eq_ok, refuseIf_eq_ok, Except.ok.injEq] at h
  obtain ⟨_, -, _, -, rfl⟩ := h
  rfl

theorem checkedMilliseconds_eq_ok {value : Nat} {field : String} {duration : Duration}
    (h : checkedMilliseconds value field = .ok duration) : duration = value * 1000000 := by
  simp only [checkedMilliseconds, bind_eq_ok, refuseIf_eq_ok, Except.ok.injEq] at h
  obtain ⟨_, -, rfl⟩ := h
  rfl

theorem checkedAddSigned_eq_some {at_ sum : Instant} {duration : Duration}
    (h : checkedAddSigned at_ duration = some sum) : sum = at_ + duration := by
  unfold checkedAddSigned at h
  split at h
  · exact (Option.some.inj h).symm
  · cases h

theorem checkedSubSigned_eq_some {at_ difference : Instant} {duration : Duration}
    (h : checkedSubSigned at_ duration = some difference) : difference = at_ - duration := by
  rw [checkedAddSigned_eq_some h, Int.sub_eq_add_neg]

variable (w : DiagnosticPlatform)

def parseTime (value name : String) : Except String Instant :=
  mapErr (fun error => name ++ " must be RFC3339: " ++ error) (w.parseFromRfc3339 value)

def parseNqTime (value name : String) : Except String Instant := do
  let parsed ← parseTime w value name
  refuseIf (value != w.toRfc3339 parsed) (name ++
    " is not the canonical UTC representation emitted by the NQ v1 DateTime contract")
  .ok parsed

theorem parseTime_eq_ok {value name : String} {at_ : Instant} :
    parseTime w value name = .ok at_ ↔ w.parseFromRfc3339 value = .ok at_ := by
  simp [parseTime]

/-- A canonical NQ time is what RFC 3339 reads it as. -/
theorem parseNqTime_eq_ok {value name : String} {at_ : Instant}
    (h : parseNqTime w value name = .ok at_) : w.parseFromRfc3339 value = .ok at_ := by
  simp only [parseNqTime, bind_eq_ok, refuseIf_eq_ok, Except.ok.injEq] at h
  obtain ⟨parsed, hparsed, _, -, rfl⟩ := h
  exact (parseTime_eq_ok w).mp hparsed

def validateInterval (interval : AcquisitionIntervalV1) (name : String) : Except String Unit := do
  validateSemanticIdentity interval.clock (name ++ ".clock")
  let _ ← checkedMilliseconds interval.clockUncertaintyMs (name ++ ".clock_uncertainty_ms")
  let start ← parseNqTime w interval.startedAt (name ++ ".started_at")
  let end_ ← parseNqTime w interval.endedAt (name ++ ".ended_at")
  refuseIf (start > end_) (name ++ " ends before it starts")

def validateProjectionInterval (interval : AcquisitionInterval) (name : String) :
    Except String Unit := do
  match interval with
  | .v1 value => validateInterval w value name
  | .v2 value =>
    validateSemanticIdentity value.clock (name ++ ".clock")
    let start ← parseNqTime w value.startedAt (name ++ ".started_at")
    let end_ ← parseNqTime w value.endedAt (name ++ ".ended_at")
    refuseIf (start > end_) (name ++ " ends before it starts")
    match value.qualification with
    | .bounded maximumErrorMs basis =>
      let _ ← checkedMilliseconds maximumErrorMs (name ++ ".qualification.maximum_error_ms")
      validateSemanticIdentity basis (name ++ ".qualification.basis")
    | .unqualified code detail =>
      requireToken (name ++ ".qualification.code") code
      requireToken (name ++ ".qualification.detail") detail

end Diagnostic

namespace Diagnostic

namespace DiagnosticKey

def validate (key : DiagnosticKey) (field : String) : Except String Unit := do
  requireToken (field ++ ".question_id") key.questionId
  requireToken (field ++ ".subject_id") key.subjectId
  requireToken (field ++ ".profile_id") key.profileId
  requireToken (field ++ ".vantage_id") key.vantageId

/-- The derived order: question, subject, profile, vantage. -/
def cmp (a b : DiagnosticKey) : Ordering :=
  (compare a.questionId b.questionId).then <| (compare a.subjectId b.subjectId).then <|
    (compare a.profileId b.profileId).then (compare a.vantageId b.vantageId)

end DiagnosticKey

namespace ContractBinding

def key (binding : ContractBinding) : DiagnosticKey where
  questionId := binding.question.id
  subjectId := binding.subject.id
  profileId := binding.profile.id
  vantageId := binding.vantage.id

def matches_ (binding : ContractBinding) (artifact : DiagnosticExecution) : Bool :=
  binding.producerNodeId == artifact.producer.nodeId &&
    binding.producerBuild == artifact.producer.build &&
    binding.producerCohort == artifact.producer.cohort &&
    binding.question == artifact.question &&
    binding.profile == artifact.profile &&
    binding.profileSemanticId == artifact.profileSemanticId &&
    binding.vantage == artifact.vantage &&
    binding.stateModel == artifact.stateModel &&
    binding.evaluator == artifact.evaluator &&
    binding.thresholdPolicy == artifact.thresholdPolicy &&
    binding.projection == artifact.projection &&
    binding.subject == artifact.subject

def validate (binding : ContractBinding) : Except String Unit := do
  requireToken "binding.producer_node_id" binding.producerNodeId
  forEach
    [("binding.producer_build", binding.producerBuild),
      ("binding.producer_cohort", binding.producerCohort),
      ("binding.question", binding.question),
      ("binding.profile", binding.profile),
      ("binding.vantage", binding.vantage),
      ("binding.state_model", binding.stateModel),
      ("binding.evaluator", binding.evaluator),
      ("binding.threshold_policy", binding.thresholdPolicy),
      ("binding.subject.scope", binding.subject.scope)]
    fun (name, identity) => validateSemanticIdentity identity name
  forEach binding.profileSemanticId.toList fun profileSemanticId =>
    validateDigest profileSemanticId "binding.profile_semantic_id"
  validateProjection binding.projection
  requireToken "binding.subject.id" binding.subject.id
  requireToken "binding.claim_id" binding.claimId

/-- A matching artifact carries the key of its binding. -/
theorem key_eq_of_matches {binding : ContractBinding} {artifact : DiagnosticExecution}
    (h : binding.matches_ artifact = true) : artifact.key = binding.key := by
  simp only [matches_, Bool.and_eq_true, beq_iff_eq] at h
  simp [key, DiagnosticExecution.key, h]

end ContractBinding

namespace PosturePolicy

variable (w : DiagnosticPlatform)

def computedPolicyId (policy : PosturePolicy) : String := w.sha256 (w.policyCanonical policy)

/-- `previous >= current` over the pairs of kind and value. -/
def statesDescend : List RequiredStateBinding → Option (String × String) → Except String Unit
  | [], _ => .ok ()
  | binding :: rest, previous => do
    requireToken "required_state_binding.kind" binding.kind
    requireToken "required_state_binding.value" binding.value
    refuseIf (previous.any fun (kind, value) =>
        (compare kind binding.kind).then (compare value binding.value) != .lt)
      "required_state_bindings must be strictly ordered and unique"
    statesDescend rest (some (binding.kind, binding.value))

/-- One turn of the loop over the inventory, behind the keys already seen. -/
def validateEntry (policy : PosturePolicy) (seen : List DiagnosticKey) (entry : InventoryEntry) :
    Except String (List DiagnosticKey) := do
  entry.binding.validate
  refuseIf (policy.schema == posturePolicySchemaV1 && entry.binding.profileSemanticId.isSome)
    "diagnostic_posture_policy.v1 cannot bind a v2 profile semantic identity"
  refuseIf (entry.binding.subject != policy.subject)
    ("inventory entry " ++ w.debugKey entry.binding.key ++ " does not bind the policy subject")
  refuseIf (seen.contains entry.binding.key)
    ("duplicate closed-inventory key " ++ w.debugKey entry.binding.key)
  refuseIf (seen.getLast?.any fun previous => previous.cmp entry.binding.key != .lt)
    "closed inventory must be strictly ordered by diagnostic key and unique"
  refuseIf (entry.requirement != .excluded && entry.maxAgeSeconds == 0)
    ("inventory entry " ++ w.debugKey entry.binding.key ++ " max_age_seconds must be positive")
  let _ ← checkedSeconds entry.maxAgeSeconds "inventory max_age_seconds"
  statesDescend entry.requiredStateBindings none
  .ok (seen ++ [entry.binding.key])

def validate (policy : PosturePolicy) : Except String Unit := do
  refuseIf (policy.schema != posturePolicySchemaV1 && policy.schema != posturePolicySchemaV2)
    ("policy schema must be " ++ posturePolicySchemaV1 ++ " or " ++ posturePolicySchemaV2 ++
      ", got " ++ policy.schema)
  validateDigest policy.policyId "policy_id"
  requireToken "generation" policy.generation
  refuseIf (isBlank policy.subject.id) "policy subject id must be non-empty"
  validateSemanticIdentity policy.subject.scope "policy.subject.scope"
  validateSemanticIdentity policy.role "policy.role"
  refuseIf (!policy.inventory.any (·.requirement == .mandatory))
    "closed inventory must contain at least one mandatory entry"
  let _ ← policy.inventory.foldlM (validateEntry w policy) []
  refuseIf (policy.policyId != computedPolicyId w policy)
    "policy_id does not match the canonical policy preimage"

variable {w}

/-- What one accepted entry adds to the keys seen so far. -/
theorem validateEntry_eq_ok {policy : PosturePolicy} {seen seen' : List DiagnosticKey}
    {entry : InventoryEntry} (h : validateEntry w policy seen entry = .ok seen') :
    entry.binding.key ∉ seen ∧ seen' = seen ++ [entry.binding.key] := by
  simp only [validateEntry, bind_eq_ok, refuseIf_eq_ok, Except.ok.injEq] at h
  obtain ⟨_, -, _, -, _, -, _, hnew, _, -, _, -, _, -, _, -, rfl⟩ := h
  exact ⟨by simpa using hnew, rfl⟩

theorem keys_of_foldlM {policy : PosturePolicy} {entries : List InventoryEntry}
    {seen seen' : List DiagnosticKey} (hseen : seen.Nodup)
    (h : entries.foldlM (validateEntry w policy) seen = .ok seen') :
    seen' = seen ++ entries.map (·.binding.key) ∧ seen'.Nodup := by
  induction entries generalizing seen with
  | nil =>
    rw [foldlM_nil_eq_ok] at h
    subst h
    simpa using hseen
  | cons entry rest ih =>
    obtain ⟨next, hentry, hrest⟩ := foldlM_cons_eq_ok.mp h
    obtain ⟨hnew, rfl⟩ := validateEntry_eq_ok hentry
    have hnext : (seen ++ [entry.binding.key]).Nodup := by
      refine List.nodup_append.mpr ⟨hseen, by simp, ?_⟩
      intro key hkey key' hkey' heq
      rw [List.mem_singleton.mp hkey'] at heq
      exact hnew (heq ▸ hkey)
    obtain ⟨heq, hnodup⟩ := ih hnext hrest
    exact ⟨by simpa using heq, hnodup⟩

/-- An accepted policy holds no key twice. -/
theorem keys_nodup {policy : PosturePolicy} {u : Unit} (h : policy.validate w = .ok u) :
    (policy.inventory.map (·.binding.key)).Nodup := by
  simp only [validate, bind_eq_ok] at h
  obtain ⟨_, -, _, -, _, -, _, -, _, -, _, -, _, -, seen, hfold, -⟩ := h
  obtain ⟨rfl, hnodup⟩ := keys_of_foldlM List.nodup_nil hfold
  simpa using hnodup

/-- Two entries of an accepted policy with one key are one entry. -/
theorem entry_unique {policy : PosturePolicy} {u : Unit} (h : policy.validate w = .ok u)
    {a b : InventoryEntry} (ha : a ∈ policy.inventory) (hb : b ∈ policy.inventory)
    (hkey : a.binding.key = b.binding.key) : a = b :=
  List.inj_on_of_nodup_map (keys_nodup h) ha hb hkey

end PosturePolicy

namespace DiagnosticInputs

variable (w : DiagnosticPlatform)

def computedInputsId (inputs : DiagnosticInputs) : String := w.sha256 (w.inputsCanonical inputs)

def validateInput (schema : String) (input : DiagnosticInput) : Except String Unit := do
  input.key.validate "input.key"
  match input.status with
  | .delivered artifact =>
    w.validateExecution artifact
    refuseIf (schema == inputsSchemaV1 && artifact.schemaName != nqDiagnosticExecutionSchema)
      "diagnostic_inputs.v1 cannot carry an NQ v2 artifact"
  | .acquisitionFailed reason => requireToken "input.acquisition_failed.reason" reason
  | .noResponse | .notConfigured => .ok ()

def validate (inputs : DiagnosticInputs) : Except String Unit := do
  refuseIf (inputs.schema != inputsSchemaV1 && inputs.schema != inputsSchemaV2)
    ("inputs schema must be " ++ inputsSchemaV1 ++ " or " ++ inputsSchemaV2 ++ ", got " ++
      inputs.schema)
  forEach inputs.inputs (validateInput w inputs.schema)
  validateDigest inputs.inputsId "inputs_id"
  refuseIf (inputs.inputsId != computedInputsId w inputs)
    "inputs_id does not match the canonical receiver-input preimage"

end DiagnosticInputs

namespace ArtifactRef

variable (w : DiagnosticPlatform)

def effectiveContractSchema (reference : ArtifactRef) : Except String String := do
  let inferred := reference.attemptInterval.schemaName
  refuseIf (reference.dependencyAcquisitions.any (·.schemaName != inferred) ||
      reference.claim.any (·.schemaName != inferred))
    "artifact reference mixes fields from incompatible NQ contract schemas"
  match reference.contractSchema with
  | some declared =>
    refuseIf (declared != inferred)
      "artifact reference contract_schema does not match its typed fields"
  | none =>
    refuseIf (inferred != nqDiagnosticExecutionSchema)
      "v2 artifact reference requires an explicit contract_schema binding"
  match reference.attemptInterval, reference.profileSemanticId with
  | .v1 _, none => .ok inferred
  | .v2 _, some value => do
    validateDigest value "artifact.profile_semantic_id"
    .ok inferred
  | .v1 _, some _ => .error "v1 artifact reference cannot carry a v2 profile semantic identity"
  | .v2 _, none => .error "v2 artifact reference requires the exact profile semantic identity"

def validate (reference : ArtifactRef) : Except String Unit := do
  refuseIf (reference.contractSchema.any fun schema =>
      schema != nqDiagnosticExecutionSchema && schema != nqDiagnosticExecutionV2Schema)
    "artifact reference carries an unknown NQ contract schema"
  let _ ← reference.effectiveContractSchema
  validateDigest reference.artifactId "artifact.artifact_id"
  requireToken "artifact.request_id" reference.requestId
  requireToken "artifact.run_id" reference.runId
  reference.key.validate "artifact.key"
  refuseIf (reference.claimId.any isBlank) "artifact.claim_id is empty"
  refuseIf (reference.claim.map (·.claimId) != reference.claimId)
    "artifact claim and claim_id differ"
  validateProjectionInterval w reference.attemptInterval "artifact.attempt_interval"
  forEach reference.dependencyAcquisitions fun interval =>
    validateProjectionInterval w interval "artifact.dependency_acquisition"

end ArtifactRef

namespace SchedulePolicy

variable (w : DiagnosticPlatform)

def validate (policy : SchedulePolicy) : Except String Unit := do
  refuseIf (isBlank policy.scheduleId) "schedule_id must be non-empty"
  let _ ← parseTime w policy.firstDueAt "schedule.first_due_at"
  refuseIf (policy.cadenceSeconds == 0 || policy.maxExecutionBudgetSeconds == 0 ||
      policy.standingWindowSeconds == 0)
    ("cadence_seconds, max_execution_budget_seconds, and standing_window_seconds must be " ++
      "positive")
  let _ ← checkedSeconds policy.cadenceSeconds "schedule cadence_seconds"
  let _ ← checkedSeconds policy.jitterBoundSeconds "schedule jitter_bound_seconds"
  let _ ← checkedSeconds policy.maxExecutionBudgetSeconds
    "schedule max_execution_budget_seconds"
  let _ ← checkedSeconds policy.standingWindowSeconds "schedule standing_window_seconds"

theorem cadence_pos {w : DiagnosticPlatform} {policy : SchedulePolicy} {u : Unit}
    (h : policy.validate w = .ok u) : 0 < policy.cadenceSeconds := by
  simp only [validate, bind_eq_ok, refuseIf_eq_ok] at h
  obtain ⟨_, -, _, -, _, hpositive, -⟩ := h
  simp only [Bool.or_eq_false_iff, beq_eq_false_iff_ne] at hpositive
  omega

end SchedulePolicy

/-- One past the largest 64-bit value. -/
def u64Limit : Nat := 2 ^ 64

variable (w : DiagnosticPlatform)

/-- The jitter bound plus one saturates, so the modulus is never zero. -/
def deterministicJitter (policy : SchedulePolicy) (key : DiagnosticKey) : Nat :=
  w.sha256Word (w.jitterCanonical policy.scheduleId key) %
    min (policy.jitterBoundSeconds + 1) (u64Limit - 1)

def slotDueAt (policy : SchedulePolicy) (key : DiagnosticKey) (occurrence : Nat) :
    Except String Instant := do
  policy.validate w
  let first ← parseTime w policy.firstDueAt "schedule.first_due_at"
  refuseIf (u64Limit ≤ policy.cadenceSeconds * occurrence) "schedule occurrence overflow"
  let cadence ← checkedSeconds (policy.cadenceSeconds * occurrence) "cadence offset"
  let withCadence ← okOr (checkedAddSigned first cadence) "schedule cadence arithmetic overflow"
  let jitter ← checkedSeconds (deterministicJitter w policy key) "jitter"
  okOr (checkedAddSigned withCadence jitter) "schedule jitter arithmetic overflow"

def makeRunSlot (policy : SchedulePolicy) (key : DiagnosticKey) (occurrence : Nat) :
    Except String RunSlot := do
  let dueAt ← slotDueAt w policy key occurrence
  .ok
    { slotId := w.sha256 (w.slotCanonical policy.scheduleId occurrence key (w.toRfc3339 dueAt)
        policy.maxExecutionBudgetSeconds)
      scheduleId := policy.scheduleId
      occurrence
      key
      dueAt := w.toRfc3339 dueAt
      budgetSeconds := policy.maxExecutionBudgetSeconds }

def expectedOccurrenceAt (policy : SchedulePolicy) (key : DiagnosticKey) (evaluatedAt : Instant) :
    Except String (Option Nat) := do
  let first ← slotDueAt w policy key 0
  if evaluatedAt < first then .ok none
  else .ok (some (((evaluatedAt - first).tdiv 1000000000).toNat / policy.cadenceSeconds))

/-- The due time of a slot: the first due time, the cadence and the jitter. -/
theorem slotDueAt_eq_ok {w : DiagnosticPlatform} {policy : SchedulePolicy} {key : DiagnosticKey}
    {occurrence : Nat} {dueAt : Instant} (h : slotDueAt w policy key occurrence = .ok dueAt) :
    0 < policy.cadenceSeconds ∧ ∃ first, w.parseFromRfc3339 policy.firstDueAt = .ok first ∧
      dueAt = first + (policy.cadenceSeconds * occurrence : Nat) * 1000000000 +
        deterministicJitter w policy key * 1000000000 := by
  simp only [slotDueAt, bind_eq_ok, okOr_eq_ok] at h
  obtain ⟨_, hpolicy, first, hfirst, _, -, cadence, hcadence, sum, hsum, jitter, hjitter, hdue⟩ := h
  refine ⟨SchedulePolicy.cadence_pos hpolicy, first, (parseTime_eq_ok w).mp hfirst, ?_⟩
  rw [checkedAddSigned_eq_some hdue, checkedAddSigned_eq_some hsum, checkedSeconds_eq_ok hcadence,
    checkedSeconds_eq_ok hjitter]

/-- Whole cadences in the whole seconds of an elapsed time. -/
theorem cadences_of_elapsed {elapsed : Int} {cadence occurrence : Nat} (helapsed : 0 ≤ elapsed)
    (hpos : 0 < cadence) (h : (elapsed.tdiv 1000000000).toNat / cadence = occurrence) :
    (cadence * occurrence : Nat) * 1000000000 ≤ elapsed ∧
      elapsed < (cadence * occurrence : Nat) * 1000000000 + cadence * 1000000000 := by
  rw [Int.tdiv_eq_ediv_of_nonneg helapsed] at h
  have hcadences := Nat.div_add_mod (elapsed / 1000000000).toNat cadence
  have hrest := Nat.mod_lt (elapsed / 1000000000).toNat hpos
  rw [h] at hcadences
  generalize cadence * occurrence = offset at *
  constructor <;> omega

/-- The occurrence chosen for an instant is the last one due by then. -/
theorem expectedOccurrenceAt_due {w : DiagnosticPlatform} {policy : SchedulePolicy}
    {key : DiagnosticKey} {evaluatedAt dueAt : Instant} {occurrence : Nat}
    (h : expectedOccurrenceAt w policy key evaluatedAt = .ok (some occurrence))
    (hdue : slotDueAt w policy key occurrence = .ok dueAt) :
    dueAt ≤ evaluatedAt ∧ evaluatedAt < dueAt + policy.cadenceSeconds * 1000000000 := by
  simp only [expectedOccurrenceAt, bind_eq_ok] at h
  obtain ⟨zero, hzero, h⟩ := h
  split at h
  · cases h
  · rename_i hlate
    simp only [Except.ok.injEq, Option.some.injEq] at h
    obtain ⟨hpos, first, hfirst, hzero⟩ := slotDueAt_eq_ok hzero
    obtain ⟨-, first', hfirst', hdue⟩ := slotDueAt_eq_ok hdue
    obtain rfl : first = first' := by simpa [hfirst] using hfirst'
    have helapsed : (0 : Int) ≤ evaluatedAt - zero := Int.sub_nonneg.mpr (Int.not_lt.mp hlate)
    have hspan := cadences_of_elapsed helapsed hpos h
    have hoffset : dueAt = zero + (policy.cadenceSeconds * occurrence : Nat) * 1000000000 := by
      rw [hdue, hzero, Nat.mul_zero]
      ring
    rw [hoffset]
    exact ⟨Int.add_le_of_le_sub_left hspan.1, by linarith [hspan.2]⟩

namespace RecurrenceEvidence

variable (w : DiagnosticPlatform)

def computedRecurrenceId (recurrence : RecurrenceEvidence) : String :=
  w.sha256 (w.recurrenceCanonical recurrence)

def validateObligation (obligation : ScheduleObligation) : Except String Unit := do
  obligation.key.validate "obligation.key"
  obligation.policy.validate w

def validateAttempt (attempt : InvocationAttempt) : Except String Instant := do
  requireToken "attempt.attempt_id" attempt.attemptId
  requireToken "attempt.slot_id" attempt.slotId
  requireToken "attempt.request_id" attempt.requestId
  parseTime w attempt.startedAt "attempt.started_at"

def validateRecord (schema : String) (record : RecurrenceRecord) : Except String Unit := do
  record.key.validate "record.key"
  record.policy.validate w
  record.slot.key.validate "record.slot.key"
  validateDigest record.slot.slotId "record.slot.slot_id"
  let expectedSlot ← makeRunSlot w record.policy record.key record.slot.occurrence
  refuseIf (record.slot != expectedSlot)
    "retained recurrence record does not bind its exact deterministic slot"
  let dueAt ← parseTime w record.slot.dueAt "slot.due_at"
  let budget ← checkedSeconds record.slot.budgetSeconds "record.slot budget"
  match record.evidence with
  | .completed attempt completedAt artifact =>
    let started ← validateAttempt w attempt
    let completed ← parseTime w completedAt "completed_at"
    artifact.validate w
    if schema == recurrenceSchemaV1 then
      refuseIf (artifact.contractSchema.isSome || artifact.profileSemanticId.isSome)
        "recurrence_evidence.v1 cannot carry v2 artifact-reference fields"
      refuseIf (!artifact.attemptInterval.isV1 || artifact.dependencyAcquisitions.any (!·.isV1))
        "recurrence_evidence.v1 cannot carry v2 acquisition intervals"
    let budgetEnd ← okOr (checkedAddSigned started budget)
      "recurrence attempt budget arithmetic overflow"
    refuseIf (attempt.slotId != record.slot.slotId || attempt.requestId != artifact.requestId ||
        artifact.key != record.key || started < dueAt || completed < started ||
        completed > budgetEnd)
      "retained completion does not bind its slot, request, artifact, or budget"
    if artifact.attemptInterval.isV1 then
      let nqAttemptStart ← parseNqTime w artifact.attemptInterval.startedAt
        "artifact.attempt_interval.started_at"
      let nqAttemptEnd ← parseNqTime w artifact.attemptInterval.endedAt
        "artifact.attempt_interval.ended_at"
      refuseIf (nqAttemptStart < started || nqAttemptEnd > completed)
        "NQ attempt interval falls outside the bound Nightshift invocation"
  | .active attempt =>
    let started ← validateAttempt w attempt
    refuseIf (attempt.slotId != record.slot.slotId || started < dueAt)
      "active attempt does not bind its deterministic slot"
  | .blocked reason | .missed reason =>
    refuseIf (isBlank reason) "blocked/missed recurrence reason must be non-empty"

def validate (recurrence : RecurrenceEvidence) : Except String Unit := do
  refuseIf (recurrence.schema != recurrenceSchemaV1 && recurrence.schema != recurrenceSchemaV2)
    ("recurrence schema must be " ++ recurrenceSchemaV1 ++ " or " ++ recurrenceSchemaV2 ++
      ", got " ++ recurrence.schema)
  forEach recurrence.obligations (validateObligation w)
  forEach recurrence.records (validateRecord w recurrence.schema)
  validateDigest recurrence.recurrenceId "recurrence_id"
  refuseIf (recurrence.recurrenceId != computedRecurrenceId w recurrence)
    "recurrence_id does not match the canonical recurrence preimage"

end RecurrenceEvidence

end Diagnostic

end Nightshift
