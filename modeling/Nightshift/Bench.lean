import Nightshift.Foreman

/-!
# A bench platform

A small instance of the platform for concrete runs: one byte tags every record,
a digest spells the first byte it hashes, and the readers know one run with two
work items, the second of which depends on the first. Both requirements of an
attempt can be exercised on it.
-/

namespace Nightshift

namespace Bench

def hexDigit (n : Nat) : Char := if n < 10 then Char.ofNat (48 + n) else Char.ofNat (87 + n)

/-- A well-formed digest that spells one byte. -/
def digest (byte : UInt8) : String :=
  "sha256:" ++ String.ofList (List.replicate 62 '0' ++
    [hexDigit (byte.toNat / 16), hexDigit (byte.toNat % 16)])

def commit : String := "0123456789abcdef0123456789abcdef01234567"

def mechanismTag : ProviderMechanismStateV1 → UInt8
  | .parkedNotAdmitted => 0
  | .admissionIndeterminate => 1
  | .executionAdmitted => 2
  | .postAdmissionInterrupted => 3
  | .waitingApproval => 4
  | .providerCompleted => 5

/-- The byte of the dispatch a disposition or deferral belongs to. -/
def occurrenceTag (dispatchOccurrenceId : String) : UInt8 :=
  UInt8.ofNat (byteLength dispatchOccurrenceId)

def tag : Document → UInt8
  | .packet _ => 1
  | .admission _ => 2
  | .profile _ => 3
  | .capacityRequirement _ => 4
  | .requirement _ => 5
  | .policy _ => 6
  | .startRequestV2 _ => 7
  | .startRequestV3 r => 16 + UInt8.ofNat (byteLength r.dispatchOccurrenceId)
  | .dispatch d => 32 + UInt8.ofNat d.dispatchOrdinal
  | .observation _ => 8
  | .disposition d => 64 + mechanismTag d.mechanismState
  | .deferred _ => 9
  | .terminalReceipt _ => 10
  | .notStartedReceipt _ => 11
  | .event _ => 12
  | _ => 13

def item (id codename slug : String) (dependencies : List String) : WorkItemV1 where
  id := id
  track := "bench"
  campaign := ⟨codename, slug⟩
  predecessorLineage := []
  dependencies := dependencies
  exactWorkRefs := []
  entryPredicates := ["ready"]
  allowedMutationSurfaces := ["bench"]
  forbiddenActions := ["none"]
  acceptanceTests := ["bench"]
  stopConditions := ["bench"]
  expectedReceipts := ["bench"]
  closeoutRequirements := ["bench"]
  modelRouting := ⟨"small", "bench", 1⟩

def packet : NightshiftPacketV1 where
  schema := nightshiftPacketSchemaV1
  packetId := "packet-1"
  packetDigest := digest 1
  createdAt := 0
  currentUntil := 1000000000000
  authoring := ⟨"bench", "bench", "bench"⟩
  canonicalization := ⟨"RFC8785-JCS", "SHA-256", nightshiftPacketDigestPreimageV1⟩
  sourceEvidence := [⟨"bench", "main", commit, "bench", digest 1, "bench"⟩]
  repositoryCustody := [⟨"bench", "bench", "main", commit, none, none, true, none⟩]
  globalConstraints := ⟨["bench"], ["bench"], ["bench"]⟩
  workItems := [item "a" "FIRST" "first" [], item "b" "SECOND" "second" ["a"]]
  workerBudget := ⟨2, true, "bench"⟩
  humanQuestionCriteria := ["bench"]
  switchyard := ⟨"bench", Packet.planRef (digest 1), ["alias", "plan_ref", "nonce"]⟩

def admission : ForemanAdmissionV1 where
  schema := foremanAdmissionSchemaV1
  admissionDigest := digest 2
  runId := "run-1"
  packetDigest := digest 1
  operatorBasisDigest := digest 0
  admittedAt := 1
  expiresAt := 1000000000000
  localRuntimeIdentity := "bench"
  maximumConcurrentWorkers := 2
  allowedAdapterIds := ["adapter"]
  allowedProviderModelClasses := ["small"]
  maximumNewAttemptsPerWorkItem := 1
  authorityEffect := "LOCAL_AGENT_COMPUTE_SCHEDULING_ONLY"
  targetEffectsAuthorized := false

def adapter : AdapterRegistrationV2 :=
  ⟨"adapter", switchyardAppServerProtocol, "v1", digest 0, []⟩

def execution : WorkItemExecutionV1 := ⟨"adapter", "bench", ["lock"], "small"⟩

def profile : ExecutionProfileV2 where
  schema := foremanExecutionProfileSchemaV2
  profileDigest := digest 3
  packetDigest := digest 1
  admissionDigest := digest 2
  adapters := (∅ : BTreeMap String AdapterRegistrationV2).insert "adapter" adapter
  workItems := ((∅ : BTreeMap String WorkItemExecutionV1).insert "a" execution).insert "b" execution
  budgetPolicyRef := "budget"
  logCustodyRoot := "/log"
  receiptCustodyRoot := "/receipts"
  maximumEventBytes := 1024
  maximumWorkerOutputBytes := none
  maximumReceiptBytes := 1024
  adapterTimeoutSeconds := 60
  closeoutPolicy := "ALL_EXPLICIT_TERMINAL_OR_NOT_STARTED"

def policy : ExecutionAvailabilityPolicyV1 where
  schema := executionAvailabilityPolicySchemaV1
  policyDigest := digest 6
  policyId := "policy"
  maximumDispatchOccurrencesPerAttempt := 2
  backoffSeconds := [1]
  maximumTotalDeferralSeconds := 10
  parkedResourceLockPolicy := .releaseAndReacquire
  providerCapacityReleasedWhileParked := true
  reconcileIndeterminate := true
  allowOrderedModelFallback := true
  automaticSemanticRetry := false
  approvalResponseAuthorized := false
  authorityEffect := localSchedulingOnly

def selections : List ProviderModelSelectionV1 :=
  [⟨"provider", "model-0", "small"⟩, ⟨"provider", "model-1", "small"⟩]

def requirement : ForemanExecutionAvailabilityRequirementV1 where
  schema := foremanExecutionAvailabilityRequirementSchemaV1
  requirementDigest := digest 5
  packetDigest := digest 1
  admissionDigest := digest 2
  profileDigest := digest 3
  runId := "run-1"
  adapterId := "adapter"
  adapterProtocol := switchyardAppServerProtocol
  adapterVersion := "v1"
  adapterExecutableIdentity := digest 0
  ownerPins := .accepted
  policyId := "policy"
  policyDigest := digest 6
  workItemModelSelections :=
    ((∅ : BTreeMap String (List ProviderModelSelectionV1)).insert "a" selections).insert "b"
      selections
  admittedAt := 1
  authorityEffect := localSchedulingOnly

/-- The n-th draw is n marks. -/
def uuid (n : Nat) : String := String.ofList (List.replicate n 'u')

/-- The start request of the first attempt on item `a`; its attempt is the draw
after the two admission events. -/
def startRequest : WorkerStartRequestV2 where
  schema := workerStartRequestSchemaV2
  requestDigest := digest 7
  adapterId := "adapter"
  adapterVersion := "v1"
  adapterProtocol := switchyardAppServerProtocol
  packetDigest := digest 1
  runId := "run-1"
  workItemId := "a"
  attemptId := "attempt-uu"
  workerBriefDigest := digest 13
  workspaceIdentity := "bench"
  providerModelClass := "small"
  timeoutSeconds := 60
  maximumOutputBytes := 1024
  recursiveWorkerSwarmsForbidden := true
  approvalPolicy := "SURFACE_ONLY_NO_RESPONSE"
  expectedReceiptSchema := workerTerminalReceiptSchemaV1

/-- A reader that knows one record by its tag. -/
def know {α : Type} (expected : UInt8) (record : α) (bytes : Bytes) : Except ContractError α :=
  if bytes = [expected] then .ok record else .error (.json "bench")

def unknown {α : Type} (_ : Bytes) : Except ContractError α := .error (.json "bench")

/-- A complete snapshot is one whose execution agrees with its mechanism state. -/
def complete (d : ProviderAdmissionDispositionV1) (_ : Bytes) : Except ContractError Unit :=
  Checked.refuseIf (d.providerExecution.isSome != d.mechanismState.isAdmitted)
    (.invalidField "bench snapshot")

theorem complete_execution (d : ProviderAdmissionDispositionV1) (raw : Bytes)
    (h : complete d raw = .ok ()) : d.providerExecution.isSome = d.mechanismState.isAdmitted := by
  simpa [complete] using h

def switchyard : SwitchyardOwner where
  complete := complete
  graph _ _ := .ok ()
  source d _ := .ok ⟨none, d.receivedAt, "bench", "v1"⟩
  complete_execution := complete_execution

theorem uuid_fresh (m n : Nat) (h : uuid m = uuid n) : m = n := by
  have hlist : List.replicate m 'u' = List.replicate n 'u' := by
    simpa [uuid] using congrArg String.toList h
  simpa using congrArg List.length hlist

end Bench

/-- The bench instance of the platform. -/
def benchPlatform : Platform where
  sha256 _ bytes := Bench.digest (bytes.headD 0)
  canonical document := [Bench.tag document]
  canonical_ne_nil _ := by simp
  canonicalWithout _ document := [Bench.tag document]
  jsonText _ := "bench"
  rfc3339Seconds _ := "bench"
  displayInstant _ := "bench"
  interoperableJson _ := .ok ()
  parsePacket bytes := if bytes = [1] then .ok Bench.packet else .error "bench"
  parseAdmission := Bench.know 2 Bench.admission
  parseProfile := Bench.know 3 Bench.profile
  parseCapacityRequirement := Bench.unknown
  parseCapacityAdmission := Bench.unknown
  parseStartRequestV2 := Bench.know 7 Bench.startRequest
  parseAdapterEvent := Bench.unknown
  parseTerminalReceipt := Bench.unknown
  parseNotStartedReceipt := Bench.unknown
  parseObservation := Bench.unknown
  parsePolicy := Bench.know 6 Bench.policy
  parseRequirement := Bench.know 5 Bench.requirement
  parseDisposition := Bench.unknown
  parseDeferred := Bench.unknown
  parseQualificationV1 := Bench.unknown
  parseQualificationV2 := Bench.unknown
  parsePrelaunchClosure := Bench.unknown
  parseBootstrap := Bench.unknown
  parseCapacityObservation _ := .error "bench"
  parseCapacityPolicy _ := .error "bench"
  parseCapacityDecision _ := .error "bench"
  switchyard := Bench.switchyard
  uuid := Bench.uuid
  uuid_fresh := Bench.uuid_fresh

namespace Bench

def capacityRequirement : ForemanCapacityRequirementV1 where
  schema := foremanCapacityRequirementSchemaV1
  capacityRequirementDigest := digest 4
  packetDigest := digest 1
  admissionDigest := digest 2
  profileDigest := digest 3
  runId := "run-1"
  policyId := "budget"
  providerId := "provider"
  modelCostClasses := (∅ : BTreeMap String CapacityCostClassV1).insert "small" .cheap
  authorityEffect := localSchedulingOnly

def capacityAdmission : ForemanCapacityAdmissionV1 where
  schema := foremanCapacityAdmissionSchemaV1
  capacityAdmissionDigest := digest 13
  packetDigest := digest 1
  admissionDigest := digest 2
  profileDigest := digest 3
  capacityRequirementDigest := digest 4
  runId := "run-1"
  workItemId := "a"
  adapterId := "adapter"
  providerId := "provider"
  packetModelClass := "small"
  profileModelClass := "small"
  costClass := .cheap
  policyId := "budget"
  observationDigest := digest 13
  policyDigest := digest 13
  decisionDigest := digest 13
  evaluatedAt := 2
  speculativeRequested := false
  authorityEffect := localSchedulingOnly

def capacityObservation : CapacityObservationV1 where
  schema := capacityObservationSchemaV1
  providerId := "provider"
  accountProfileLocator := "bench"
  modelFamily := none
  observedAt := 1
  expiresAt := 100
  sourceClass := .authoritative
  confidence := .high
  disposition := .usable
  unknownReasons := []
  windows := [⟨"bench", .weekly, some (3 / 4), none, none⟩]
  evidence := ⟨"bench", "bench", some "v1", some "/bench", some (digest 0), digest 0⟩
  observationDigest := digest 13

def capacityPolicy : CapacityPolicyV1 where
  schema := capacityPolicySchemaV1
  policyId := "budget"
  abundantMinRemaining := 1 / 2
  normalMinRemaining := 1 / 4
  conserveMinRemaining := 1 / 10
  minimumConfidence := .medium
  requiredWindowTypes := [.weekly]
  unknownAllowsNewCheapWork := false
  policyDigest := digest 13

def capacityDecision : CapacityDecisionV1 where
  schema := capacityDecisionSchemaV1
  providerId := "provider"
  decisionAt := 2
  state := .abundant
  admission := .ordinaryBounded
  allowNewExpensiveWork := true
  allowNewSpeculativeWork := true
  allowActiveWorkToReachCustody := true
  reasonCodes := ["MINIMUM_REMAINING_WINDOW_ABUNDANT"]
  observationDigest := digest 13
  policyDigest := digest 13
  decisionDigest := digest 13

/-- A bench reader whose errors are texts. -/
def knowText {α : Type} (expected : UInt8) (record : α) (bytes : Bytes) : Except String α :=
  if bytes = [expected] then .ok record else .error "bench"

/-- The bench with the capacity records of one attempt. -/
def capacityPlatform : Platform :=
  { benchPlatform with
    parseCapacityRequirement := know 4 capacityRequirement
    parseCapacityAdmission := know 13 capacityAdmission
    parseCapacityObservation := knowText 13 capacityObservation
    parseCapacityPolicy := knowText 13 capacityPolicy
    parseCapacityDecision := knowText 13 capacityDecision }

/-- The admission of a capacity-required run. -/
def admitCapacityRun : Call := .admitRun [1] [2] [3] (some [4]) none none 1

/-- The event creates an attempt. -/
def creates (event : InternalEvent) : Bool :=
  match event.payload with
  | .attemptCreated _ _ => true
  | _ => false

/-- An attempt with its capacity evidence. -/
def capacityAttempt : Call :=
  .prepareAttempt "run-1" "a" (some ⟨[13], [13], [13], [13]⟩) 2

/-- A run without requirements, and one attempt on its first item. -/
def openAttempt : List Call :=
  [.admitRun [1] [2] [3] none none none 1, .prepareAttempt "run-1" "a" none 2]

end Bench

end Nightshift
