import Nightshift.CustodyJournal
import Nightshift.ObservationResolution
import Nightshift.PostureBench

/-!
# A canonical bench

A platform whose digests tell the records used here apart, two recurrence slots
of one family, and the runs that the general statements are tried on.
-/

namespace Nightshift.CanonicalBench

open Nightshift.Canonical Nightshift.Diagnostic Checked Interleave

def digests : List String :=
  ["sha256:0000000000000000000000000000000000000000000000000000000000000000",
    "sha256:1111111111111111111111111111111111111111111111111111111111111111",
    "sha256:2222222222222222222222222222222222222222222222222222222222222222",
    "sha256:3333333333333333333333333333333333333333333333333333333333333333",
    "sha256:4444444444444444444444444444444444444444444444444444444444444444",
    "sha256:5555555555555555555555555555555555555555555555555555555555555555",
    "sha256:6666666666666666666666666666666666666666666666666666666666666666",
    "sha256:7777777777777777777777777777777777777777777777777777777777777777",
    "sha256:8888888888888888888888888888888888888888888888888888888888888888",
    "sha256:9999999999999999999999999999999999999999999999999999999999999999",
    "sha256:aaaaaaaaaaaaaaaaaaaaaaaaaaaaaaaaaaaaaaaaaaaaaaaaaaaaaaaaaaaaaaaa",
    "sha256:bbbbbbbbbbbbbbbbbbbbbbbbbbbbbbbbbbbbbbbbbbbbbbbbbbbbbbbbbbbbbbbb",
    "sha256:cccccccccccccccccccccccccccccccccccccccccccccccccccccccccccccccc",
    "sha256:dddddddddddddddddddddddddddddddddddddddddddddddddddddddddddddddd",
    "sha256:eeeeeeeeeeeeeeeeeeeeeeeeeeeeeeeeeeeeeeeeeeeeeeeeeeeeeeeeeeeeeeee",
    "sha256:ffffffffffffffffffffffffffffffffffffffffffffffffffffffffffffffff"]

/-- The canonical form of a record is one byte here, and each byte has a digest of its own. -/
def digest (bytes : Bytes) : String := digests.getD ((bytes.map (·.toNat)).sum) placeholderDigest

def platform : CanonicalPlatform where
  toDiagnosticPlatform := { PostureBench.platform with sha256 := digest }
  isUuid := fun value => value.length == 36
  objectKeys := fun _ => some []
  member := fun _ _ => none
  asStr := fun _ => none
  compiledWorkValue := fun parameters _ => parameters
  artifactCanonical := fun artifact => utf8 artifact.artifactId
  compositionText := fun composition => utf8 composition.compositionId
  basisCanonical := fun _ => []
  admissionQueryCanonical := fun _ => []
  provenanceCanonical := fun _ => []
  originApplicabilityCanonical := fun _ => []
  externalProfileCanonical := fun _ => []
  compositionCanonical := fun _ => []
  externalCustodyCanonical := fun _ => []
  steadyCustodyCanonical := fun _ => []
  recurrenceSlotCanonical := fun slot => [UInt8.ofNat slot.occurrence]
  intentCanonical := fun _ => []
  cycleCanonical := fun cycle => [UInt8.ofNat (2 * cycle.version + cycle.slot.occurrence + 2)]
  authoringCanonical := fun _ => []
  authoringCustodyCanonical := fun _ => []
  validateContinuityShape := fun _ => .ok ()
  validateContinuityApplicability := fun _ => .ok ()
  evaluateContinuity := fun _ _ _ _ _ => .error "no continuity authority is pinned"
  verifyEmbeddedCarrier := fun _ _ _ => .error "no continuity authority is pinned"
  validateOriginShape := fun _ => .ok ()
  verifyAttestation := fun _ _ => .ok ()
  validateWorldObservation := fun _ => .ok ()
  validateExternalCustody := fun _ => .ok ()
  validateSteadyObservation := fun _ => .ok ()
  validateSteadyCustody := fun _ => .ok ()
  validateDecisionReference := fun _ => .ok ()
  validateDecisionComposition := fun _ => .ok ()
  decisionObservationId := fun _ => .ok placeholderDigest
  composeDecision := fun _ _ _ _ _ _ _ _ _ _ _ _ => .error "no decision profile is pinned"

def now : Instant := 1767225600000000000

def slot (occurrence : Nat) : RecurrenceSlotV1 where
  schema := slotSchemaV1
  slotId := digest [UInt8.ofNat occurrence]
  policyId := "policy-1"
  configurationVersion := "1"
  subjectId := "subject-1"
  scopeId := "scope-1"
  schedulerClockId := "clock-1"
  nominalDueAt := now
  latestAdmissible := ⟨"clock-1", now⟩
  occurrence
  trigger := .scheduled
  catchUpOf := none

def claim (n : Nat) (uuid : String) : Operation := .claimSlot uuid 1 (slot n) "clock-1" now

/-- The digest a fresh claim has. -/
def claimedDigest (n : Nat) (uuid : String) : String :=
  (initialCycle platform uuid (slot n) .onTime .observing now none).stateDigest

/-- Two cycles are observing; a restart sweep lists both and restarts the first, and before it
comes to the second another client takes that one into recovery. -/
def sweepRace : List (Choice Store CanonicalStoreError Unit) :=
  [.start ((claim 1 "1").call platform), .act 0, .start ((claim 2 "2").call platform), .act 1,
    .start ((Operation.recoverAfterRestart now).call platform)] ++
    List.replicate 8 (.act 2) ++
    [.start ((Operation.markRecoveryRequired "cycle:2" (claimedDigest 2 "2") "operator" now).call
      platform), .act 3, .act 2]

theorem clientRun_sweepRace :
    ClientRun platform (play Store.empty sweepRace).1 (play Store.empty sweepRace).2 := by
  refine reached_play sweepRace ?_
  intro p call hcall
  simp only [sweepRace, List.mem_append, List.mem_cons, List.mem_replicate, Choice.start.injEq,
    reduceCtorEq, List.not_mem_nil] at hcall
  grind

/-- The sweep is refused behind a step of its own, and the second cycle was observing behind its
claim. -/
theorem sweepRace_evaluated :
    ((play Store.empty sweepRace).2.result? 2 = some (.error .stalePredecessor) ∧
      ∃ entry ∈ (play Store.empty sweepRace).1, entry.process = 2 ∧
        entry.after.events.length ≠ entry.before.events.length) ∧
      (((states Store.empty (play Store.empty sweepRace).1)[2]?).bind
        (·.cycles["cycle:2"]?)).map (·.status) = some .observing ∧
      ((states Store.empty (play Store.empty sweepRace).1)[12]?).isSome = true := by
  decide +kernel

/-- The second cycle was observing behind its claim, and is in recovery at the end. -/
theorem cycle_lifecycle_swept :
    ∃ s s' row row', (states Store.empty (play Store.empty sweepRace).1)[2]? = some s ∧
      (states Store.empty (play Store.empty sweepRace).1)[12]? = some s' ∧
      s.cycles["cycle:2"]? = some row ∧ s'.cycles["cycle:2"]? = some row' ∧
      row.status = .observing ∧ Stays row.snapshot.observation row'.snapshot.observation := by
  obtain ⟨-, hrow, hlast⟩ := sweepRace_evaluated
  obtain ⟨row, hbind, hstatus⟩ := Option.map_eq_some_iff.mp hrow
  obtain ⟨s, hs, hrow⟩ := Option.bind_eq_some_iff.mp hbind
  obtain ⟨s', hs'⟩ := Option.isSome_iff_exists.mp hlast
  obtain ⟨row', hrow', -, hstays, -⟩ :=
    cycle_lifecycle clientRun_sweepRace (by decide) hs hs' hrow
  exact ⟨s, s', row, row', hs, hs', hrow, hrow', hstatus, hstays.1⟩

/-! ## A cited observation -/

def support (cycleId : String) : QualifiedSupportV1 where
  schema := qualifiedSupportSchemaV1
  supportId := placeholderDigest
  authorityId := "authority-1"
  queryId := placeholderDigest
  observationCycleId := cycleId
  requestNonce := "nonce-1"
  observationId := placeholderDigest
  diagnosticInputsId := placeholderDigest
  subjectId := "subject-1"
  scopeId := placeholderDigest
  artifactIds := [placeholderDigest]
  evaluatedAt := ⟨"receiver-clock-1", 100⟩
  expiry := some ⟨"receiver-clock-1", 200⟩
  standing := .current
  evidenceRefs := [placeholderDigest]
  contradictionRefs := []

def posture (cycleId : String) : OperationalPosture where
  schema := postureSchema
  postureId := placeholderDigest
  evaluator := PostureBench.identity "evaluator"
  policy := PostureBench.policy
  scheduleObligations := []
  inputEvidence := PostureBench.inputs
  presentSupport := some (support cycleId)
  recurrenceEvidence := PostureBench.recurrence
  evaluatedAt := "2026-01-01T00:00:20Z"
  inventoryValid := true
  allInputs := []
  unexpectedInputs := []
  assessments := []
  recurrence := []
  completeness := .complete
  condition := .clean
  coverage := .complete
  recurrenceAxis := .current
  delivery := .qualified
  current := true
  headline := .clean

def observation (cycleId : String) : ObservationRecordV1 where
  schema := observationRecordSchemaV1
  observationId := placeholderDigest
  sourceAdmissions := []
  continuityApplicability := []
  substrateOriginApplicability := []
  externalEvidence := none
  decisionExternalEvidence := none
  support := support cycleId
  posture := posture cycleId

def intent : TypedCoarseIntentV2 where
  schema := typedIntentSchemaV2
  intentId := placeholderDigest
  workflowId := "workflow-1"
  intentKind := "repair"
  subjectId := "subject-1"
  subjectDigest := placeholderDigest
  scopeId := placeholderDigest
  sourceObservationId := placeholderDigest
  sourceSupportId := placeholderDigest
  sourcePostureId := placeholderDigest
  immutableParameters := ⟨[]⟩
  compiledWork := placeholderDigest
  expectedAgWork := placeholderDigest

def prepared : PreparedAgRequestV1 where
  schema := preparedAgRequestSchemaV1
  requestDigest := placeholderDigest
  campaignId := placeholderDigest
  occurrenceId := "00000000-0000-0000-0000-000000000001"
  sourceIntentId := placeholderDigest
  exactRequest := ⟨[]⟩

def lease : LiveCycleLeaseV1 := ⟨"cycle:1", (slot 1).slotId, 1⟩

/-- One cycle observes and prepares its request; nobody else acts. -/
def citedRun : List (Choice Store CanonicalStoreError Unit) :=
  [.start ((claim 1 "1").call platform), .act 0,
    .start ((Operation.recordObservation lease (digest [3]) (observation "cycle:1")
      ⟨.display, placeholderDigest, "clean", none⟩ none now).call platform), .act 1,
    .start ((Operation.prepareAgOccurrence lease (digest [5]) intent prepared ⟨none, none⟩
      now).call platform), .act 2]

theorem clientRun_citedRun :
    ClientRun platform (play Store.empty citedRun).1 (play Store.empty citedRun).2 := by
  refine reached_play citedRun ?_
  intro p call hcall
  simp only [citedRun, List.mem_cons, Choice.start.injEq, reduceCtorEq, List.not_mem_nil] at hcall
  grind

def citation (now : Nat) : AgObservationRequestV1 :=
  ⟨agObservationRequestSchemaV1, ⟨[]⟩, placeholderDigest, placeholderDigest, now⟩

/-- A window of a second answers, a window of all milliseconds does not. -/
theorem citations_evaluated :
    (·.status) <$> ((resolveObservation platform (citation 1767225620001) ⟨"resolver-1", 1000⟩).run
      (play Store.empty citedRun).2.store).1 = .ok .current ∧
      ((resolveObservation platform (citation 1767225620001)
        ⟨"resolver-1", 18446744073709551615⟩).run
        (play Store.empty citedRun).2.store).1.toBool = false := by
  decide +kernel

theorem resolves_citation :
    (·.status) <$> ((resolveObservation platform (citation 1767225620001) ⟨"resolver-1", 1000⟩).run
      (play Store.empty citedRun).2.store).1 = .ok .current :=
  citations_evaluated.1

theorem wf_citedStore : Wf platform (play Store.empty citedRun).2.store :=
  clientRun_citedRun.sound.wf _ (List.mem_of_getLast? clientRun_citedRun.getLast_states)

theorem digest_isSha256Id (bytes : Bytes) : isSha256Id (digest bytes) = true := by
  have hall : ∀ value ∈ placeholderDigest :: digests, isSha256Id value = true := by decide +kernel
  refine hall _ ?_
  rw [digest, List.getD_eq_getElem?_getD]
  cases hget : digests[(bytes.map (·.toNat)).sum]? with
  | none => exact List.mem_cons_self
  | some value => exact List.mem_cons_of_mem _ (List.mem_of_getElem? hget)

def custodyPlatform : CustodyPlatform where
  toCanonicalPlatform :=
    { platform with
      validateExternalCustody := fun custody => custody.validate platform
      validateSteadyCustody := fun custody => custody.validate platform }
  sha256_isSha256Id := digest_isSha256Id
  externalCustody_validated := fun _ => rfl
  externalCustody_unnamed := fun _ _ => rfl
  steadyCustody_validated := fun _ => rfl
  steadyCustody_unnamed := fun _ _ => rfl

def handoff : VerifiedExternalObservationHandoffV1 custodyPlatform.toCanonicalPlatform where
  handoff :=
    { handoffId := digest [2]
      producerPrincipalId := "maude:local"
      producerKeyId := "maude-key:one"
      targetRuntimeId := "nightshift:local"
      observation :=
        { observationId := digest [3]
          adapterId := "maude.local-compose-observation-adapter"
          adapterVersion := "1"
          action := .qualify
          planDocumentDigest := digest [4]
          compilationId := digest [5]
          campaignId := digest [6]
          occurrenceId := "00000000-0000-4000-8000-000000000001"
          proposalId := digest [7]
          exactWorkId := digest [8]
          issuanceId := digest [9]
          attemptId := digest [10]
          settlementId := digest [11]
          subjectDigest := digest [12]
          scopeDigest := digest [13]
          executorEvidenceReceipt := digest [14]
          observedAtUnixMs := 1000
          outcome := .success
          claims := []
          document := [] }
      createdAt := now }
  observationValid := rfl

def custodyRun : List (Choice Store CanonicalStoreError CustodyReceipt) :=
  [.start (CustodyRequest.external handoff now).call, .act 0,
    .start (CustodyRequest.external handoff (now + 5)).call, .act 1]

theorem custodyRun_reached : CustodyRun custodyPlatform.toCanonicalPlatform
    (play Store.empty custodyRun).1 (play Store.empty custodyRun).2 := by
  refine reached_play custodyRun ?_
  intro p call hcall
  simp only [custodyRun, List.mem_cons, Choice.start.injEq, reduceCtorEq, List.not_mem_nil] at hcall
  grind

/-- A handoff sent again ten seconds later is answered with the receipt of its first custody. -/
theorem external_custody_journal_resent :
    ∃ row, (play Store.empty custodyRun).2.store.external[digest [3]]? = some row ∧
      row.custody.receivedAt = now ∧
      (recordExternalObservation custodyPlatform.toCanonicalPlatform handoff.handoff
        (now + 10000000000)).run (play Store.empty custodyRun).2.store =
          (.ok row.custody, (play Store.empty custodyRun).2.store) := by
  have hstored : ((play Store.empty custodyRun).2.store.external[digest [3]]?).any
      (fun row => row.custody.receivedAt == now && decide (handoff.handoff.Resends row)) = true := by
    decide +kernel
  obtain ⟨row, hrow, hfacts⟩ := (Option.any_eq_true _ _).mp hstored
  simp only [Bool.and_eq_true, beq_iff_eq, decide_eq_true_eq] at hfacts
  have hlast := List.mem_of_getLast? custodyRun_reached.getLast_states
  have hanswers := (external_custody_journal custodyRun_reached).2.2.2.1 _ hlast handoff
    (now + 10000000000)
  exact ⟨row, hrow, hfacts.1, hanswers.equal row (BTreeMap.mem_valuesOf.mpr ⟨_, hrow⟩) hfacts.2
    (by decide) (by decide)⟩

end Nightshift.CanonicalBench
