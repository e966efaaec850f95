import Nightshift.Lib.Interleave
import Nightshift.Lib.OrderedMap
import Nightshift.SavedCheckRecords

/-!
# The saved-check runtime

One scheduled evaluation from the selection of its slot to its terminal record.
Each role runs at most once for each question, its output is bounded by itself,
and every transition rewrites the one row of the evaluation, which the table
bounds as a whole.
-/

namespace Nightshift.SavedCheck

open Checked Diagnostic Canonical Interleave

def configSchema : String := "nightshift.saved-check-runtime-config/v1"
def recordSchema : String := "nightshift.saved-check-evaluation/v1"
def policySchema : String := "nightshift.saved-check-schedule-policy/v1"
def requestSchema : String := "nightshift.saved-check-due-request/v1"

/-- `MAX_RESULT_BYTES` -/
def maximumResultBytes : Nat := 1048576

/-- `CHECK(length(record_json) <= 1048576)` -/
def maximumRecordBytes : Nat := 1048576

/-! ## Tokens and bytes -/

def isAsciiGraphic (b : UInt8) : Bool := 0x21 ≤ b && b ≤ 0x7e

/-- 1 to 256 visible ASCII bytes. -/
def isToken (value : String) : Bool :=
  !value.isEmpty && byteLength value ≤ 256 && (utf8 value).all isAsciiGraphic

def requireDigest (value : String) : Except String Unit :=
  refuseIf (!isSha256Id value) "expected lowercase SHA-256 digest"

def hexDigit (n : Nat) : Char := Char.ofNat (if n < 10 then 48 + n else 87 + n)

/-- Two lowercase digits a byte. -/
def hexPair (b : UInt8) : List Char := [hexDigit (b.toNat / 16), hexDigit (b.toNat % 16)]

def hex (bytes : Bytes) : String := String.ofList (bytes.flatMap hexPair)

def digitValue (c : Char) : Option Nat :=
  let n := c.toNat
  if 48 ≤ n ∧ n ≤ 57 then some (n - 48)
  else if 97 ≤ n ∧ n ≤ 102 then some (n - 87)
  else if 65 ≤ n ∧ n ≤ 70 then some (n - 55)
  else none

/-- `u8::from_str_radix` on two characters, which may also be a sign and a digit. -/
def byteOf (high low : Char) : Option UInt8 := do
  let lowValue ← digitValue low
  if high = '+' then return UInt8.ofNat lowValue
  let highValue ← digitValue high
  return UInt8.ofNat (16 * highValue + lowValue)

def unhexChars : List Char → Except String Bytes
  | [] => .ok []
  | high :: low :: rest => do
    let b ← okOr (byteOf high low) "invalid digit found in string"
    let bytes ← unhexChars rest
    .ok (b :: bytes)
  | [_] => .error "invalid digit found in string"

def unhex (value : String) : Except String Bytes := do
  refuseIf (byteLength value % 2 != 0 || byteLength value > 2097152)
    "retained hexadecimal bytes violate their bound"
  unhexChars value.toList

/-! ## Configuration and selection -/

/-- `Path::is_absolute` -/
def isAbsolute (path : String) : Bool := path.startsWith "/"

def SavedCheckRuntimeConfigV1.validate (config : SavedCheckRuntimeConfigV1) :
    Except String Unit := do
  refuseIf (config.schema != configSchema) "unsupported saved-check runtime config schema"
  forEach
    [config.monitorProgram, config.monitorProject, config.monitorTrustedRoot, config.nqProgram,
      config.nqConfig, config.savedCheckTarget]
    fun path => refuseIf (!isAbsolute path) "saved-check runtime paths must be absolute"
  forEach
    [config.expectedProject, config.expectedProducer, config.concernId,
      config.definitionReference, config.sourceIdentity, config.conditionComponent,
      config.conditionKind, config.conditionSubject]
    fun value => refuseIf (!isToken value)
      "saved-check runtime tokens must be 1..256 visible ASCII bytes"
  forEach
    [config.monitorProgramSha256, config.expectedManifestDigest, config.nqProgramSha256,
      config.nqConfigSha256, config.definitionDigest]
    requireDigest
  refuseIf (config.commandTimeoutSeconds < 1 || config.commandTimeoutSeconds > 300)
    "command_timeout_seconds must be in 1..=300"
  refuseIf (config.definitionCurrentnessSeconds == 0)
    "definition_currentness_seconds must be nonzero"

namespace SavedCheckScheduleV1

def validate (policy : SavedCheckScheduleV1) : Except String Unit := do
  refuseIf (policy.schema != policySchema) "unsupported saved-check schedule schema"
  forEach
    [("policy_id", policy.policyId), ("configuration_version", policy.configurationVersion),
      ("definition_reference", policy.definitionReference),
      ("source_identity", policy.sourceIdentity), ("subject_id", policy.subjectId),
      ("scope_id", policy.scopeId), ("scheduler_clock_id", policy.schedulerClockId)]
    fun (name, value) => refuseIf (!isToken value) (name ++ " must be 1..256 visible ASCII bytes")
  refuseIf (!isSha256Id policy.definitionDigest)
    "definition_digest must be an exact lowercase SHA-256 identity"
  refuseIf (policy.intervalSeconds < 1 || policy.intervalSeconds > 86400 ||
      policy.admissibleDelaySeconds ≥ policy.intervalSeconds || policy.epoch % 1000000000 != 0)
    "require whole-second epoch, interval 1..86400 and delay < interval"

variable (w : SavedCheckPlatform)

/-- `RecurrenceSlotV1::new` on the occurrence an instant belongs to. -/
def slotAt (policy : SavedCheckScheduleV1) (policyDigest : String) (at_ : Instant) :
    Except String RecurrenceSlotV1 := do
  let elapsed := (at_ - policy.epoch).toNat / 1000000000
  let occurrence := elapsed / policy.intervalSeconds
  let due ← okOr (checkedAddSeconds policy.epoch (occurrence * policy.intervalSeconds))
    "slot date overflow"
  let latest ← okOr (checkedAddSeconds due policy.admissibleDelaySeconds) "deadline date overflow"
  let open_ : RecurrenceSlotV1 :=
    { schema := slotSchemaV1
      slotId := ""
      policyId := policy.policyId
      configurationVersion := policyDigest
      subjectId := policy.subjectId
      scopeId := policy.scopeId
      schedulerClockId := policy.schedulerClockId
      nominalDueAt := due
      latestAdmissible := ⟨policy.schedulerClockId, latest⟩
      occurrence
      trigger := .scheduled
      catchUpOf := none }
  let slot := { open_ with slotId := w.sha256 (w.recurrenceSlotCanonical open_) }
  mapErr (·.display w.toRuntimePlatform) (slot.validate w.toCanonicalPlatform)
  .ok slot

def select (policy : SavedCheckScheduleV1) (schedulerClockId : String) (at_ : Instant) :
    Except String SelectionV1 := do
  policy.validate
  refuseIf (schedulerClockId != policy.schedulerClockId)
    "scheduler clock does not match policy"
  let policyDigest := w.sha256 (w.scheduleCanonical policy)
  if at_ < policy.epoch then .ok .notDue
  else do
    let slot ← policy.slotAt w policyDigest at_
    let timing ← mapErr (·.display w.toRuntimePlatform)
      (slot.timingAt w.toCanonicalPlatform schedulerClockId at_)
    if timing = .missed then .ok (.missed slot)
    else .ok (.due
      { schema := requestSchema
        policyDigest
        slot
        evaluationId := w.sha256 (w.requestIdentityCanonical requestSchema slot.slotId)
        definitionReference := policy.definitionReference
        definitionDigest := policy.definitionDigest
        sourceIdentity := policy.sourceIdentity })

end SavedCheckScheduleV1

/-- `selection.request` -/
def SelectionV1.request : SelectionV1 → Option SavedCheckDueRequestV1
  | .due request => some request
  | _ => none

/-! ## Records -/

def textOf (value : Option String) : Json.Value :=
  match value with
  | some s => .string s
  | none => .null

def documentOf (value : Option Json.Value) : Json.Value := value.getD .null

def triggerText : RecurrenceTriggerV1 → String
  | .scheduled => "scheduled"
  | .manual => "manual"
  | .event => "event"
  | .catchUp => "catch_up"

variable (w : SavedCheckPlatform)

/-- `serde_json::to_value` of a slot; an absent predecessor is skipped. -/
def slotValue (slot : RecurrenceSlotV1) : Json.Value :=
  .object
    ((slot.catchUpOf.toList.map fun id => ("catch_up_of", .string id)) ++
    [("configuration_version", .string slot.configurationVersion),
      ("latest_admissible", .object
        [("at", .string (w.toRfc3339 slot.latestAdmissible.at_)),
          ("scheduler_clock_id", .string slot.latestAdmissible.schedulerClockId)]),
      ("nominal_due_at", .string (w.toRfc3339 slot.nominalDueAt)),
      ("occurrence", .integer slot.occurrence), ("policy_id", .string slot.policyId),
      ("scheduler_clock_id", .string slot.schedulerClockId), ("schema", .string slot.schema),
      ("scope_id", .string slot.scopeId), ("slot_id", .string slot.slotId),
      ("subject_id", .string slot.subjectId), ("trigger", .string (triggerText slot.trigger))])

def dueRequestValue (request : SavedCheckDueRequestV1) : Json.Value :=
  .object
    [("definition_digest", .string request.definitionDigest),
      ("definition_reference", .string request.definitionReference),
      ("evaluation_id", .string request.evaluationId),
      ("policy_digest", .string request.policyDigest), ("schema", .string request.schema),
      ("slot", slotValue w request.slot), ("source_identity", .string request.sourceIdentity)]

namespace SavedCheckEvaluationV1

/-- The members of the record, each under its key. -/
def fields (record : SavedCheckEvaluationV1) : List (String × Json.Value) :=
  [("acquisition_acquired_at_unix_ms", match record.acquisitionAcquiredAtUnixMs with
      | some at_ => .integer at_
      | none => .null),
    ("assumption", .string record.assumption), ("authority", .string record.authority),
    ("condition", documentOf record.condition),
    ("condition_bytes_hex", textOf record.conditionBytesHex),
    ("condition_sha256", textOf record.conditionSha256),
    ("config_digest", .string record.configDigest),
    ("due_request", dueRequestValue w record.dueRequest),
    ("evaluation_id", .string record.evaluationId),
    ("monitor_inventory", documentOf record.monitorInventory),
    ("monitor_inventory_bytes_hex", textOf record.monitorInventoryBytesHex),
    ("monitor_inventory_sha256", textOf record.monitorInventorySha256),
    ("nq_request_binding", documentOf record.nqRequestBinding),
    ("nq_result", documentOf record.nqResult),
    ("nq_result_bytes_hex", textOf record.nqResultBytesHex),
    ("nq_result_sha256", textOf record.nqResultSha256),
    ("policy_digest", .string record.policyDigest),
    ("projection_at", textOf record.projectionAt), ("schema", .string record.schema),
    ("slot_id", .string record.slotId), ("source_observed_at", textOf record.sourceObservedAt),
    ("state", .string record.state)]

/-- `serde_jcs::to_vec` of the record. -/
def canonical (record : SavedCheckEvaluationV1) : Bytes :=
  utf8 (String.ofList ((Json.Value.object (record.fields w)).text w.floatText))

/-- The record its canonical form is read back as: each document is read back by itself. -/
def readBack (record : SavedCheckEvaluationV1) : Except String SavedCheckEvaluationV1 := do
  let monitorInventory ← record.monitorInventory.mapM w.reread
  let nqRequestBinding ← record.nqRequestBinding.mapM w.reread
  let nqResult ← record.nqResult.mapM w.reread
  let condition ← record.condition.mapM w.reread
  .ok { record with monitorInventory, nqRequestBinding, nqResult, condition }

end SavedCheckEvaluationV1

/-! ## Roles -/

/-- The enrolled programs: what each invocation comes to before its output is bounded. -/
abbrev Roles := RoleInvocation → Except String RoleExit

structure Output where
  success : Bool
  stdout : Bytes
  deriving DecidableEq, Repr

/-- `run_bounded`: both output files are bounded, and only the first is kept. -/
def runBounded (roles : Roles) (invocation : RoleInvocation) : Except String Output := do
  let exit ← roles invocation
  refuseIf (exit.stderr.length > maximumResultBytes || exit.stdout.length > maximumResultBytes)
    "saved-check input exceeds byte bound"
  .ok ⟨exit.success, exit.stdout⟩

structure JsonOutput where
  value : Json.Value
  bytes : Bytes
  deriving DecidableEq

def collectInvocation (config : SavedCheckRuntimeConfigV1) : RoleInvocation where
  program := config.monitorProgram
  programSha256 := config.monitorProgramSha256
  config := none
  arguments := ["collect", config.monitorProject, "--trusted-root", config.monitorTrustedRoot,
    "--allow-exec", "--json"]
  timeoutSeconds := config.commandTimeoutSeconds

def nqInvocation (config : SavedCheckRuntimeConfigV1) (tail : List String) : RoleInvocation where
  program := config.nqProgram
  programSha256 := config.nqProgramSha256
  config := some (config.nqConfig, config.nqConfigSha256)
  arguments := ["--config", config.nqConfig, "--json"] ++ tail
  timeoutSeconds := config.commandTimeoutSeconds

def nqJson (roles : Roles) (config : SavedCheckRuntimeConfigV1) (tail : List String) :
    Except String JsonOutput := do
  let output ← runBounded roles (nqInvocation config tail)
  refuseIf (!output.success) "configured NQ command refused"
  let value ← w.parseJson output.stdout
  .ok ⟨value, output.stdout⟩

/-- `value.get(key).and_then(Value::as_str)` -/
def stringAt (path : List String) (value : Json.Value) : Option String :=
  (value.pointer path).bind (·.asStr)

def verifyDefinition (roles : Roles) (config : SavedCheckRuntimeConfigV1) : Except String Unit := do
  let output ← nqJson w roles config ["saved-check", "inspect", config.definitionReference]
  refuseIf (stringAt ["reference"] output.value != some config.definitionReference ||
      stringAt ["definition_digest"] output.value != some config.definitionDigest ||
      stringAt ["definition", "source_identity"] output.value != some config.sourceIdentity ||
      (output.value.pointer ["definition", "currentness_seconds"]).bind (·.asU64) !=
        some config.definitionCurrentnessSeconds)
    "installed NQ definition does not match runtime enrollment"

/-- The acquisition time and the source observation time of the enrolled concern. -/
def verifyInventory (config : SavedCheckRuntimeConfigV1) (value : Json.Value) :
    Except String (Nat × String) := do
  refuseIf (stringAt ["schema"] value != some "monitor.project-observation.inventory/v1" ||
      stringAt ["project"] value != some config.expectedProject ||
      stringAt ["acquisition", "disposition"] value != some "ACQUIRED_AND_VALIDATED" ||
      stringAt ["acquisition", "producer"] value != some config.expectedProducer ||
      stringAt ["acquisition", "manifest_digest"] value != some config.expectedManifestDigest)
    "Monitor inventory does not match saved-check enrollment"
  let acquired ← okOr ((value.pointer ["acquisition", "acquired_at_unix_ms"]).bind (·.asU64))
    "Monitor acquisition time absent"
  let concerns ← okOr ((value.get "concerns").bind (·.asArray)) "Monitor concerns absent"
  let concern ← okOr (concerns.find? fun concern =>
    stringAt ["declaration", "id"] concern == some config.concernId)
    "enrolled Monitor concern absent"
  refuseIf (stringAt ["monitor_state"] concern != some "OBSERVED" ||
      (concern.pointer ["observation", "observation_present"]).bind (·.asBool) != some true)
    "enrolled Monitor concern is not observed"
  let observed ← okOr (stringAt ["observation", "observed_at"] concern)
    "Monitor observation timestamp absent"
  let _ ← mapErr (fun _ => "Monitor observation timestamp is invalid")
    (w.parseFromRfc3339 observed)
  .ok (acquired, observed)

def verifyNqResult (record : SavedCheckEvaluationV1) (result : Json.Value) :
    Except String Unit := do
  refuseIf (stringAt ["evaluation_id"] result != some record.evaluationId)
    "NQ result evaluation identity mismatch"
  let outcome ← okOr (stringAt ["outcome"] result) "NQ result outcome absent"
  refuseIf (!(["passed", "failed", "refused", "claimed"].contains outcome))
    "unsupported NQ saved-check outcome"
  let binding ← okOr (result.pointer ["detail", "binding"]) "NQ result binding absent"
  refuseIf (some binding != record.nqRequestBinding)
    "NQ result binding differs from retained request"

def requireClaimedIndeterminate (result : Json.Value) : Except String Unit :=
  refuseIf (stringAt ["outcome"] result != some "claimed" ||
      (result.get "indeterminate").bind (·.asBool) != some true)
    "claimed NQ result must be explicitly indeterminate"

/-- `nq_request_binding` -/
def requestBinding (config : SavedCheckRuntimeConfigV1) (observed : String) : Json.Value :=
  .object
    [("currentness_seconds", .integer config.definitionCurrentnessSeconds),
      ("definition_digest", .string config.definitionDigest),
      ("source_identity", .string config.sourceIdentity),
      ("source_observed_at_assertion", .string observed),
      ("target_reference", .string config.savedCheckTarget)]

/-- The mapping a condition must carry. -/
def expectedMapping (config : SavedCheckRuntimeConfigV1) (at_ : String) : Json.Value :=
  .object
    [("at", .string at_), ("component", .string config.conditionComponent),
      ("kind", .string config.conditionKind), ("mapping_owner", .string "caller"),
      ("subject", .string config.conditionSubject)]

/-- The checks of the projected condition against the retained result and the mapping. -/
def verifyCondition (config : SavedCheckRuntimeConfigV1) (record : SavedCheckEvaluationV1)
    (at_ : String) (result condition : Json.Value) : Except String Unit := do
  refuseIf (stringAt ["schema"] condition != some "nq.saved-check-condition/v1" ||
      stringAt ["evaluation_id"] condition != some record.evaluationId)
    "NQ condition projection does not bind the evaluation"
  let binding ← okOr record.nqRequestBinding "retained NQ request binding absent"
  refuseIf (condition.pointer ["original_result", "outcome"] != result.get "outcome" ||
      condition.pointer ["original_result", "detail"] != result.get "detail" ||
      condition.get "caller_mapping" != some (expectedMapping config at_) ||
      condition.pointer ["source_assertion", "identity"] != binding.get "source_identity" ||
      condition.pointer ["source_assertion", "observed_at"] !=
        binding.get "source_observed_at_assertion" ||
      condition.pointer ["source_assertion", "currentness_seconds"] !=
        binding.get "currentness_seconds")
    "NQ condition projection differs from retained result or mapping"

/-! ## Validity of a retained record -/

/-- The bytes spelled in a record are those of its document. -/
def reproduces (document : Option Json.Value) (bytesHex digest : Option String)
    (message : String) : Except String Unit := do
  let bytes ← unhex (bytesHex.getD "")
  let value ← (if some (w.sha256 bytes) != digest then .error message else w.parseJson bytes)
  refuseIf (some value != document) message

def states : List String :=
  ["selected", "acquisition_started", "nq_bound", "nq_started", "result_retained", "terminal"]

namespace SavedCheckEvaluationV1

def checkAcquired (record : SavedCheckEvaluationV1) : Except String Unit := do
  refuseIf (record.monitorInventory.isNone || record.monitorInventoryBytesHex.isNone ||
      record.monitorInventorySha256.isNone || record.sourceObservedAt.isNone ||
      record.nqRequestBinding.isNone)
    "retained saved-check evaluation omits acquired material"
  reproduces w record.monitorInventory record.monitorInventoryBytesHex
    record.monitorInventorySha256 "retained Monitor inventory bytes do not reproduce"

def checkTerminal (record : SavedCheckEvaluationV1) : Except String Unit := do
  reproduces w record.nqResult record.nqResultBytesHex record.nqResultSha256
    "retained NQ result bytes do not reproduce"
  reproduces w record.condition record.conditionBytesHex record.conditionSha256
    "retained NQ condition bytes do not reproduce"

/-- `validate_record`; a retained result is not looked at before the record is terminal. -/
def validate (record : SavedCheckEvaluationV1) : Except String Unit := do
  refuseIf (record.schema != recordSchema ||
      record.evaluationId != record.dueRequest.evaluationId ||
      record.policyDigest != record.dueRequest.policyDigest ||
      record.slotId != record.dueRequest.slot.slotId || record.authority != "none" ||
      !states.contains record.state)
    "retained saved-check evaluation violates its identity law"
  requireDigest record.configDigest
  if ["nq_bound", "nq_started", "terminal"].contains record.state then record.checkAcquired w
  refuseIf (record.state == "terminal" &&
      (record.nqResult.isNone || record.nqResultBytesHex.isNone || record.nqResultSha256.isNone ||
        record.condition.isNone || record.conditionBytesHex.isNone ||
        record.conditionSha256.isNone))
    "retained terminal saved-check evaluation is incomplete"
  refuseIf (["result_retained", "terminal"].contains record.state && record.projectionAt.isNone)
    "retained saved-check result omits its projection coordinate"
  if record.state = "terminal" then record.checkTerminal w

end SavedCheckEvaluationV1

/-! ## The table -/

/-- `saved_check_evaluations`, by evaluation. -/
structure EvaluationRow where
  policyDigest : String
  slotId : String
  configDigest : String
  state : String
  recordJson : Bytes
  deriving DecidableEq, Repr

/-- The table, and every version of a row that was committed, the first one first. -/
structure Evaluations where
  rows : BTreeMap String EvaluationRow
  written : List EvaluationRow

namespace Evaluations

def empty : Evaluations := ⟨∅, []⟩

def put (s : Evaluations) (evaluationId : String) (row : EvaluationRow) : Evaluations where
  rows := s.rows.insert evaluationId row
  written := s.written ++ [row]

end Evaluations

/-- What `inspect` makes of a row. -/
def EvaluationRow.inspect (row : EvaluationRow) : Except String SavedCheckEvaluationV1 := do
  let record ← w.parseRecord row.recordJson
  record.validate w
  .ok record

def inspect (evaluationId : String) :
    Call Evaluations String (Option SavedCheckEvaluationV1) := do
  let row ← Call.read (·.rows[evaluationId]?)
  Call.check (row.mapM (·.inspect w))

def rowOf (record : SavedCheckEvaluationV1) : EvaluationRow where
  policyDigest := record.policyDigest
  slotId := record.slotId
  configDigest := record.configDigest
  state := record.state
  recordJson := record.canonical w

def refuseOversized (bytes : Bytes) : Except String Unit :=
  refuseIf (bytes.length > maximumRecordBytes) (w.sqlMessage .constraintViolation)

/-- Insert the evaluation, or find that it is there with the same material. -/
def openTransaction (record : SavedCheckEvaluationV1) (s : Evaluations) :
    Except String (Bool × Evaluations) :=
  match s.rows[record.evaluationId]? with
  | some existing => do
    let prior ← w.parseRecord existing.recordJson
    refuseIf (prior.policyDigest != record.policyDigest || prior.slotId != record.slotId ||
        prior.configDigest != record.configDigest ||
        prior.dueRequest.evaluationId != record.dueRequest.evaluationId)
      "evaluation identity conflicts with retained saved-check material"
    .ok (false, s)
  | none => do
    refuseOversized w (record.canonical w)
    .ok (true, s.put record.evaluationId (rowOf w record))

def openEvaluation (record : SavedCheckEvaluationV1) : Call Evaluations String Bool :=
  Call.commit (openTransaction w record)

/-- `UPDATE saved_check_evaluations .. WHERE evaluation_id=? AND state=?`; only a row that is
written is bounded. -/
def transitionTransaction (prior : String) (next : SavedCheckEvaluationV1) (s : Evaluations) :
    Except String (Bool × Evaluations) :=
  match s.rows[next.evaluationId]? with
  | some row =>
    if row.state = prior then do
      refuseOversized w (next.canonical w)
      let updated := { row with state := next.state, recordJson := next.canonical w }
      .ok (true, s.put next.evaluationId updated)
    else .ok (false, s)
  | none => .ok (false, s)

def transition (prior : String) (next : SavedCheckEvaluationV1) : Call Evaluations String Bool :=
  Call.commit (transitionTransaction w prior next)

/-- `self.inspect(..)?.ok_or(..)?` -/
def inspectPresent (evaluationId absent : String) :
    Call Evaluations String SavedCheckEvaluationV1 := do
  let record ← inspect w evaluationId
  Call.check (okOr record absent)

/-! ## Running -/

/-- What a run is given: the enrolled programs, the configuration and its digest, and the time the
result is projected at. -/
structure RunContext where
  roles : Roles
  config : SavedCheckRuntimeConfigV1
  configDigest : String
  projectedAt : Instant

def openRecord (configDigest : String) (request : SavedCheckDueRequestV1) :
    SavedCheckEvaluationV1 where
  schema := recordSchema
  evaluationId := request.evaluationId
  policyDigest := request.policyDigest
  slotId := request.slot.slotId
  configDigest
  state := "selected"
  projectionAt := none
  dueRequest := request
  monitorInventory := none
  monitorInventoryBytesHex := none
  monitorInventorySha256 := none
  acquisitionAcquiredAtUnixMs := none
  sourceObservedAt := none
  nqRequestBinding := none
  nqResult := none
  nqResultBytesHex := none
  nqResultSha256 := none
  condition := none
  conditionBytesHex := none
  conditionSha256 := none
  assumption := "operator_enrolled_monitor_observation_and_saved_check_target_refer_to_the_intended_local_source;not_an_atomic_snapshot_proof"
  authority := "none"

namespace SavedCheckEvaluationV1

def retainInventory (record : SavedCheckEvaluationV1) (config : SavedCheckRuntimeConfigV1)
    (inventory : JsonOutput) (acquired : Nat) (observed : String) : SavedCheckEvaluationV1 :=
  { record with
    monitorInventorySha256 := some (w.sha256 inventory.bytes)
    monitorInventoryBytesHex := some (hex inventory.bytes)
    monitorInventory := some inventory.value
    acquisitionAcquiredAtUnixMs := some acquired
    sourceObservedAt := some observed
    nqRequestBinding := some (requestBinding config observed)
    state := "nq_bound" }

def retainResult (record : SavedCheckEvaluationV1) (result : JsonOutput) :
    SavedCheckEvaluationV1 :=
  { record with
    nqResultSha256 := some (w.sha256 result.bytes)
    nqResultBytesHex := some (hex result.bytes)
    nqResult := some result.value }

def retainCondition (record : SavedCheckEvaluationV1) (condition : JsonOutput) :
    SavedCheckEvaluationV1 :=
  { record with
    conditionSha256 := some (w.sha256 condition.bytes)
    conditionBytesHex := some (hex condition.bytes)
    condition := some condition.value
    state := "terminal" }

end SavedCheckEvaluationV1

variable (c : RunContext)

/-- The condition is projected from the retained result and closes the evaluation. -/
def projectCondition (record : SavedCheckEvaluationV1) (result : Json.Value) :
    Call Evaluations String SavedCheckEvaluationV1 := do
  let at_ ← Call.check (okOr record.projectionAt "result projection time absent")
  let condition ← Call.check (nqJson w c.roles c.config
    ["saved-check", "condition", "--evaluation-id", record.evaluationId, "--component",
      c.config.conditionComponent, "--kind", c.config.conditionKind, "--subject",
      c.config.conditionSubject, "--at", at_])
  Call.check (verifyCondition c.config record at_ result condition.value)
  let terminal := record.retainCondition w condition
  let moved ← transition w "result_retained" terminal
  if moved then return terminal
  else inspectPresent w record.evaluationId "terminal evaluation disappeared"

/-- The record with its result, projected at the given time. -/
def retained (record : SavedCheckEvaluationV1) (result : JsonOutput) : SavedCheckEvaluationV1 :=
  { record.retainResult w result with
    projectionAt := some (w.toRfc3339Offset c.projectedAt)
    state := "result_retained" }

/-- A result that is retained is projected. A transition that lost starts over from the row that
won; the first argument bounds how often. -/
def finish : Nat → SavedCheckEvaluationV1 → JsonOutput →
    Call Evaluations String SavedCheckEvaluationV1
  | lost, record, result => do
    Call.check (verifyNqResult record result.value)
    if record.state = "result_retained" then projectCondition w c record result.value
    else
      let next := retained w c record result
      let moved ← transition w record.state next
      if moved then projectCondition w c next result.value
      else
        let winner ← inspectPresent w record.evaluationId "result custody disappeared"
        if winner.state = "terminal" then return winner
        else
          let bytesHex ← Call.check (okOr winner.nqResultBytesHex "retained result bytes absent")
          let bytes ← Call.check (unhex bytesHex)
          let value ← Call.check (w.parseJson bytes)
          match lost with
          | 0 => Call.check (.error "saved-check result retention lost its CAS")
          | lost + 1 => finish lost winner ⟨value, bytes⟩

/-- A claimed result is retained, and the evaluation stays started. -/
def retainClaimed (record : SavedCheckEvaluationV1) (result : JsonOutput) :
    Call Evaluations String SavedCheckEvaluationV1 := do
  Call.check (requireClaimedIndeterminate result.value)
  Call.check (verifyNqResult record result.value)
  let next := { record.retainResult w result with state := "nq_started" }
  let moved ← transition w record.state next
  if moved then return next
  else inspectPresent w record.evaluationId "claimed evaluation disappeared"

def missingResult (evaluationId : String) : Json.Value :=
  .object
    [("evaluation_id", .string evaluationId), ("indeterminate", .bool true),
      ("outcome", .string "missing")]

/-- The evaluation is asked for once, behind the commit that says so. -/
def evaluate (lost : Nat) (record : SavedCheckEvaluationV1) :
    Call Evaluations String SavedCheckEvaluationV1 := do
  let started := { record with state := "nq_started" }
  let moved ← transition w "nq_bound" started
  if moved then
    let observed ← Call.check (okOr record.sourceObservedAt "source observation absent")
    match nqJson w c.roles c.config
        ["saved-check", "evaluate", c.config.definitionReference, "--evaluation-id",
          record.evaluationId, "--target", c.config.savedCheckTarget, "--source-observed-at",
          observed] with
    | .error _ => return started
    | .ok evaluated =>
      if stringAt ["outcome"] evaluated.value = some "claimed" then
        retainClaimed w started evaluated
      else finish w c lost started evaluated
  else inspectPresent w record.evaluationId "evaluation disappeared"

/-- What follows from the answer of NQ about the result. -/
def answer (lost : Nat) (record : SavedCheckEvaluationV1) (result : JsonOutput) :
    Call Evaluations String SavedCheckEvaluationV1 := do
  let outcome ← Call.check (okOr (stringAt ["outcome"] result.value) "NQ result lacks outcome")
  if outcome = "claimed" then do
    Call.check (requireClaimedIndeterminate result.value)
    retainClaimed w record result
  else if outcome = "missing" then do
    Call.check (refuseIf (result.value != missingResult record.evaluationId)
      "NQ missing result is not the exact supported response")
    if record.state = "nq_started" then return record
    else evaluate w c lost record
  else finish w c lost record result

def resume (lost : Nat) (record : SavedCheckEvaluationV1) :
    Call Evaluations String SavedCheckEvaluationV1 := do
  if record.state = "terminal" then return record
  else if record.state = "acquisition_started" then return record
  else if record.state = "result_retained" then do
    let bytesHex ← Call.check (okOr record.nqResultBytesHex "retained NQ result bytes absent")
    let bytes ← Call.check (unhex bytesHex)
    let value ← Call.check (w.parseJson bytes)
    finish w c lost record ⟨value, bytes⟩
  else if record.state = "selected" then
    Call.check (.error "selected evaluation has no durable launch disposition")
  else do
    Call.check (verifyDefinition w c.roles c.config)
    let result ← Call.check (nqJson w c.roles c.config
      ["saved-check", "result", "--evaluation-id", record.evaluationId])
    answer w c lost record result

/-- The one source read of the evaluation, behind the commit that says it started. -/
def acquire (lost : Nat) (record : SavedCheckEvaluationV1) :
    Call Evaluations String SavedCheckEvaluationV1 := do
  let started := { record with state := "acquisition_started" }
  let moved ← transition w "selected" started
  Call.check (refuseIf (!moved) "saved-check acquisition launch lost its CAS")
  let monitor ← Call.check (runBounded c.roles (collectInvocation c.config))
  if monitor.success then do
    let inventory ← Call.check (w.parseJson monitor.stdout)
    let (acquired, observed) ← Call.check (verifyInventory w c.config inventory)
    let bound := started.retainInventory w c.config ⟨inventory, monitor.stdout⟩ acquired observed
    let moved ← transition w "acquisition_started" bound
    Call.check (refuseIf (!moved) "saved-check acquisition retention lost its CAS")
    resume w c lost bound
  else return started

/-- A retained evaluation goes on from where it is. -/
def continueFrom (lost : Nat) (record : SavedCheckEvaluationV1) :
    Call Evaluations String SavedCheckEvaluationV1 :=
  if record.state = "terminal" then pure record else resume w c lost record

def run (lost : Nat) (policy : SavedCheckScheduleV1) (schedulerClockId : String) (at_ : Instant) :
    Call Evaluations String SavedCheckEvaluationV1 := do
  Call.check c.config.validate
  Call.check (refuseIf (policy.definitionReference != c.config.definitionReference ||
      policy.definitionDigest != c.config.definitionDigest ||
      policy.sourceIdentity != c.config.sourceIdentity)
    "schedule policy does not match enrolled saved-check definition")
  let selection ← Call.check (policy.select w schedulerClockId at_)
  let request ← Call.check (okOr selection.request "saved-check slot is not due")
  let record := openRecord c.configDigest request
  let existing ← inspect w record.evaluationId
  match existing with
  | some existing => do
    Call.check (refuseIf (existing.policyDigest != record.policyDigest ||
        existing.slotId != record.slotId || existing.configDigest != record.configDigest)
      "evaluation identity conflicts with retained saved-check material")
    continueFrom w c lost existing
  | none => do
    Call.check (verifyDefinition w c.roles c.config)
    let opened ← openEvaluation w record
    if opened then acquire w c lost record
    else do
      let retained ← inspectPresent w record.evaluationId "retained evaluation disappeared"
      continueFrom w c lost retained

end Nightshift.SavedCheck
