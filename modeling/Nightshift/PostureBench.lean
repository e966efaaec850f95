import Nightshift.PostureClean

/-!
# A posture bench

One mandatory diagnostic with one delivered artifact and its completed slot,
over a platform that knows the instants of one minute.
-/

namespace Nightshift.PostureBench

open Nightshift.Diagnostic Checked

/-- The instants used here, in seconds behind the start of 2026. -/
def instants : List (String × Instant) :=
  [("2026-01-01T00:00:00Z", 1767225600000000000), ("2026-01-01T00:00:01Z", 1767225601000000000),
    ("2026-01-01T00:00:02Z", 1767225602000000000), ("2026-01-01T00:00:05Z", 1767225605000000000),
    ("2026-01-01T00:00:10Z", 1767225610000000000), ("2026-01-01T00:00:20Z", 1767225620000000000)]

def platform : DiagnosticPlatform where
  sha256 := fun _ => placeholderDigest
  sha256Word := fun _ => 0
  parseFromRfc3339 := fun value => okOr (instants.lookup value) "input contains invalid characters"
  toRfc3339 := fun at_ => ((instants.find? (·.2 == at_)).map (·.1)).getD ""
  validateExecution := fun _ => .ok ()
  debugKey := fun _ => "DiagnosticKey"
  policyCanonical := fun _ => []
  inputsCanonical := fun _ => []
  recurrenceCanonical := fun _ => []
  queryCanonical := fun _ => []
  supportCanonical := fun _ => []
  postureCanonical := fun _ => []
  jitterCanonical := fun _ _ => []
  slotCanonical := fun _ _ _ _ _ => []

def identity (id : String) : SemanticIdentityV1 := ⟨id, "1", placeholderDigest⟩

def subject : SubjectV1 := ⟨"subject-1", identity "scope"⟩

def interval : AcquisitionIntervalV1 where
  startedAt := "2026-01-01T00:00:02Z"
  endedAt := "2026-01-01T00:00:05Z"
  clock := identity "clock"
  clockUncertaintyMs := 500

def artifact : DiagnosticExecution := .v1
  { artifactId := placeholderDigest
    canonicalization := identity "rfc8785-jcs"
    producer := ⟨"node-1", identity "build", identity "cohort"⟩
    requestId := "request-1"
    runId := "run-1"
    question := identity "question"
    subject
    profile := identity "profile"
    vantage := identity "vantage"
    stateModel := identity "state-model"
    evaluator := identity "evaluator"
    thresholdPolicy := identity "threshold"
    projection := ⟨identity "projection", []⟩
    executionClock := identity "clock"
    startedAt := "2026-01-01T00:00:02Z"
    completedAt := "2026-01-01T00:00:05Z"
    attemptInterval := interval
    inputs :=
      { selectionRule := identity "selection"
        expected := [⟨"expectation-1", "primary", true⟩]
        received := [⟨"input-1", "expectation-1", placeholderDigest, .exactSource,
          identity "capture", .online, interval, "2026-01-01T00:00:05Z"⟩]
        admitted := []
        refused := []
        failed := []
        excluded := []
        selected := [] }
    stateBindings := [⟨"binding-1", "boot", "boot-1", ["input-1"]⟩]
    claims := [⟨"claim-1", "the service answers", .established, some .clean, ["input-1"],
      ["binding-1"], [], [], []⟩]
    primaryClaimId := some "claim-1"
    outcome := ⟨.completed, .clean, .jointlyEstablished, .complete, "clean", none⟩
    limitations := []
    nonclaims := [] }

def entry : InventoryEntry where
  binding :=
    { producerNodeId := "node-1"
      producerBuild := identity "build"
      producerCohort := identity "cohort"
      question := identity "question"
      profile := identity "profile"
      profileSemanticId := none
      vantage := identity "vantage"
      stateModel := identity "state-model"
      evaluator := identity "evaluator"
      thresholdPolicy := identity "threshold"
      projection := ⟨identity "projection", []⟩
      subject
      claimId := "claim-1" }
  requirement := .mandatory
  requiredStateBindings := [⟨"boot", "boot-1"⟩]
  maxAgeSeconds := 600

def policy : PosturePolicy where
  schema := posturePolicySchemaV2
  policyId := placeholderDigest
  generation := "generation-1"
  subject
  role := identity "role"
  deliveryRequired := true
  inventory := [entry]

def inputs : DiagnosticInputs where
  schema := inputsSchemaV2
  inputsId := placeholderDigest
  inputs := [⟨entry.binding.key, .delivered artifact⟩]

def schedule : SchedulePolicy where
  scheduleId := "hourly"
  firstDueAt := "2026-01-01T00:00:00Z"
  cadenceSeconds := 3600
  jitterBoundSeconds := 0
  maxExecutionBudgetSeconds := 60
  standingWindowSeconds := 3600

def slot : RunSlot where
  slotId := placeholderDigest
  scheduleId := "hourly"
  occurrence := 0
  key := entry.binding.key
  dueAt := "2026-01-01T00:00:00Z"
  budgetSeconds := 60

def recurrence : RecurrenceEvidence where
  schema := recurrenceSchemaV2
  recurrenceId := placeholderDigest
  obligations := [⟨entry.binding.key, schedule⟩]
  records := [⟨entry.binding.key, schedule, slot, .completed
    ⟨"attempt-1", placeholderDigest, "request-1", "2026-01-01T00:00:01Z"⟩
    "2026-01-01T00:00:10Z" artifact.ref⟩]
  delivery := .qualified

def evaluatedAt : Instant := 1767225620000000000

theorem headline_clean :
    (·.headline) <$> evaluate platform policy inputs recurrence evaluatedAt none = .ok .clean := by
  decide +kernel

theorem clean_headline_is_all_clear_once :
    ∃ delivered, Established platform inputs evaluatedAt none entry delivered ∧
      Recurring platform recurrence evaluatedAt entry delivered := by
  obtain ⟨posture, hposture, hclean⟩ := map_eq_ok.mp headline_clean
  exact clean_headline_is_all_clear hposture hclean entry (by decide) (by decide)

end Nightshift.PostureBench
