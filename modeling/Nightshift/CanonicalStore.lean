import Nightshift.CanonicalCycle
import Nightshift.Lib.Interleave
import Nightshift.Lib.OrderedMap

/-!
# The canonical store

The tables of the canonical store and the operations on them, as calls that
other clients of the same database may act between. A statement that names a
row reads or writes that row only; an insertion is refused or ignored when a
primary key or a unique index already holds its value; a transaction that fails
is rolled back. A snapshot column keeps the record it was written from.
-/

namespace Nightshift.Canonical

open Checked Diagnostic PresentEvidence Interleave

/-! ## Tables -/

/-- `canonical_recurrence_slots`, by slot. -/
structure SlotRow where
  cycleId : String
  status : CycleStatusV1
  basis : RecurrenceSlotV1
  stateDigest : String
  updatedAt : String
  deriving DecidableEq, Repr

/-- `canonical_observation_cycles`, by cycle. -/
structure CycleRow where
  slotId : String
  version : Nat
  status : CycleStatusV1
  stateDigest : String
  snapshot : ObservationCycleV1
  updatedAt : String
  observationId : Option String
  deriving DecidableEq, Repr

/-- `canonical_cycle_events` -/
structure CycleEvent where
  cycleId : String
  sequence : Nat
  eventKind : String
  priorStateDigest : Option String
  resultingStateDigest : String
  snapshot : ObservationCycleV1
  recordedAt : String
  deriving DecidableEq, Repr

/-- `canonical_ag_occurrence_claims`, by cycle. -/
structure ClaimRow where
  campaignId : String
  occurrenceId : String
  requestDigest : String
  claimedAt : String
  deriving DecidableEq, Repr

/-- `canonical_external_observations`, by observation. -/
structure ExternalRow where
  observation : LocalComposeWorldObservationV1
  custody : ExternalObservationCustodyProvenanceV1
  deriving DecidableEq, Repr

/-- `canonical_steady_state_observations`, by observation. -/
structure SteadyRow where
  observation : LocalComposeSteadyStateObservationV1
  custody : SteadyStateObservationCustodyV1
  deriving DecidableEq, Repr

structure Store where
  slots : BTreeMap String SlotRow
  cycles : BTreeMap String CycleRow
  /-- In the order of insertion. -/
  events : List CycleEvent
  claims : BTreeMap String ClaimRow
  authoring : BTreeMap String AuthoringContextProvenanceV1
  custody : BTreeMap String AuthoringContextCustodyProvenanceV1
  external : BTreeMap String ExternalRow
  steady : BTreeMap String SteadyRow

namespace Store

/-- A database `open` has just created. -/
def empty : Store := ⟨∅, ∅, [], ∅, ∅, ∅, ∅, ∅⟩

/-- `SELECT .. FROM canonical_cycle_events WHERE cycle_id=?` -/
def eventsOf (s : Store) (cycleId : String) : List CycleEvent :=
  s.events.filter (·.cycleId == cycleId)

/-! ## Statements -/

/-- `INSERT OR IGNORE INTO canonical_recurrence_slots`, with the number of rows inserted. -/
def insertOrIgnoreSlot (s : Store) (slotId : String) (row : SlotRow) : Nat × Store :=
  if s.slots.contains slotId || (BTreeMap.valuesOf s.slots).any (·.cycleId == row.cycleId) then
    (0, s)
  else (1, { s with slots := s.slots.insert slotId row })

def insertCycle (s : Store) (cycleId : String) (row : CycleRow) :
    Except CanonicalStoreError Store := do
  refuseIf (s.cycles.contains cycleId || (BTreeMap.valuesOf s.cycles).any (·.slotId == row.slotId) ||
    !s.slots.contains row.slotId) (.sql .constraintViolation)
  .ok { s with cycles := s.cycles.insert cycleId row }

/-- One row per sequence, one per resulting digest and one successor per predecessor. -/
def insertEvent (s : Store) (event : CycleEvent) : Except CanonicalStoreError Store := do
  refuseIf ((s.eventsOf event.cycleId).any fun other => other.sequence == event.sequence ||
      other.resultingStateDigest == event.resultingStateDigest ||
      (event.priorStateDigest.isSome && other.priorStateDigest == event.priorStateDigest))
    (.sql .constraintViolation)
  refuseIf (!s.cycles.contains event.cycleId) (.sql .constraintViolation)
  .ok { s with events := s.events ++ [event] }

def insertOrIgnoreClaim (s : Store) (cycleId : String) (row : ClaimRow) : Nat × Store :=
  if s.claims.contains cycleId || (BTreeMap.valuesOf s.claims).any (fun other =>
      other.campaignId == row.campaignId && other.occurrenceId == row.occurrenceId) then (0, s)
  else (1, { s with claims := s.claims.insert cycleId row })

def insertOrIgnoreAuthoring (s : Store) (cycleId : String)
    (record : AuthoringContextProvenanceV1) : Nat × Store :=
  if s.authoring.contains cycleId || (BTreeMap.valuesOf s.authoring).any (fun other =>
      other.provenanceId == record.provenanceId ||
      (other.campaignId == record.campaignId && other.occurrenceId == record.occurrenceId)) then
    (0, s)
  else (1, { s with authoring := s.authoring.insert cycleId record })

/-- The reference to the lineage row is checked behind the unique indexes. -/
def insertOrIgnoreCustody (s : Store) (cycleId : String)
    (record : AuthoringContextCustodyProvenanceV1) : Except CanonicalStoreError (Nat × Store) :=
  if s.custody.contains cycleId || (BTreeMap.valuesOf s.custody).any (fun other =>
      other.custodyId == record.custodyId || other.handoffId == record.handoffId ||
      other.authoringContextProvenanceId == record.authoringContextProvenanceId) then
    .ok (0, s)
  else do
    refuseIf (!(BTreeMap.valuesOf s.authoring).any
      (·.provenanceId == record.authoringContextProvenanceId)) (.sql .constraintViolation)
    .ok (1, { s with custody := s.custody.insert cycleId record })

/-- The columns a transition writes to its cycle row. -/
def cycleRow (cycle : ObservationCycleV1) : CycleRow where
  slotId := cycle.slot.slotId
  version := cycle.version
  status := cycle.status
  stateDigest := cycle.stateDigest
  snapshot := cycle
  updatedAt := cycle.updatedAt
  observationId := cycle.observation.map (·.observationId)

/-- `UPDATE canonical_observation_cycles .. WHERE cycle_id=? AND state_digest=?` -/
def updateCycle (s : Store) (cycleId prior : String) (cycle : ObservationCycleV1) :
    Except CanonicalStoreError (Nat × Store) := do
  refuseIf (cycle.version > maximumI64) (.sql .integerOutOfRange)
  match s.cycles[cycleId]? with
  | some row =>
    if row.stateDigest == prior then
      let updated := { cycleRow cycle with slotId := row.slotId }
      .ok (1, { s with cycles := s.cycles.insert cycleId updated })
    else .ok (0, s)
  | none => .ok (0, s)

/-- `UPDATE canonical_recurrence_slots .. WHERE slot_id=? AND state_digest=?` -/
def updateSlot (s : Store) (prior : String) (cycle : ObservationCycleV1) : Nat × Store :=
  match s.slots[cycle.slot.slotId]? with
  | some row =>
    if row.stateDigest == prior then
      let updated := { row with
        status := cycle.status
        stateDigest := cycle.stateDigest
        updatedAt := cycle.updatedAt }
      (1, { s with slots := s.slots.insert cycle.slot.slotId updated })
    else (0, s)
  | none => (0, s)

end Store

variable (w : CanonicalPlatform)

/-! ## Claiming a slot -/

/-- `insert_initial_cycle` -/
def insertInitialCycle (s : Store) (cycle : ObservationCycleV1) (eventKind : String) :
    Except CanonicalStoreError Store := do
  let s ← s.insertCycle cycle.cycleId (Store.cycleRow cycle)
  s.insertEvent
    { cycleId := cycle.cycleId
      sequence := 0
      eventKind
      priorStateDigest := none
      resultingStateDigest := cycle.stateDigest
      snapshot := cycle
      recordedAt := cycle.updatedAt }

/-- The transaction `claim_slot` and `record_missed` share. -/
def claimTransaction (cycle : ObservationCycleV1) (eventKind : String) (s : Store) :
    Except CanonicalStoreError (Unit × Store) := do
  let (inserted, s) := s.insertOrIgnoreSlot cycle.slot.slotId
    { cycleId := cycle.cycleId
      status := cycle.status
      basis := cycle.slot
      stateDigest := cycle.stateDigest
      updatedAt := cycle.updatedAt }
  refuseIf (inserted != 1) (.duplicateSlot cycle.slot.slotId)
  let s ← insertInitialCycle s cycle eventKind
  .ok ((), s)

/-- The cycle a slot starts with. -/
def initialCycle (uuid : String) (slot : RecurrenceSlotV1) (timing : SlotTimingV1)
    (status : CycleStatusV1) (now : Instant) (recoveryReason : Option String) :
    ObservationCycleV1 :=
  ObservationCycleV1.sealCycle w
    { schema := cycleSchemaV1
      cycleId := "cycle:" ++ uuid
      slot, timing, status
      version := 0
      priorStateDigest := none
      stateDigest := ""
      createdAt := w.toRfc3339 now
      updatedAt := w.toRfc3339 now
      observation := none
      attention := none
      temporalPosture := none
      intent := none
      preparedAgRequest := none
      authoringContextProvenance := none
      authoringContextCustody := none
      ag := none
      agRefusal := none
      recoveryReason }

/-- `uuid` and `processNonce` are what `Uuid::new_v4` draws. -/
def claimSlot (uuid : String) (processNonce : Nat) (slot : RecurrenceSlotV1)
    (schedulerClockId : String) (now : Instant) :
    Call Store CanonicalStoreError (ObservationCycleV1 × LiveCycleLeaseV1) := do
  let timing ← Call.check (slot.timingAt w schedulerClockId now)
  Call.check (refuseIf (timing == .missed) (.missed slot.slotId))
  let cycle := initialCycle w uuid slot timing .observing now none
  Call.check (cycle.validate w)
  Call.commit (claimTransaction cycle "slot_claimed")
  return (cycle, { cycleId := cycle.cycleId, slotId := slot.slotId, processNonce })

def recordMissed (uuid : String) (slot : RecurrenceSlotV1) (schedulerClockId : String)
    (now : Instant) (reason : String) : Call Store CanonicalStoreError ObservationCycleV1 := do
  let timing ← Call.check (slot.timingAt w schedulerClockId now)
  Call.check (refuseIf (timing != .missed)
    (.illegalTransition "only an actually missed slot may be recorded missed"))
  Call.check (invalid (PresentEvidence.requireToken "missed reason" reason))
  let cycle := initialCycle w uuid slot .missed .missed now (some reason)
  Call.check (cycle.validate w)
  Call.commit (claimTransaction cycle "slot_missed")
  return cycle

/-! ## Transitions -/

/-- The claim row is exactly that of the prepared request. -/
def claimMatches (request : Option PreparedAgRequestV1) (claim : Option ClaimRow) : Bool :=
  match request, claim with
  | none, none => true
  | some request, some claim => claim.campaignId == request.campaignId &&
      claim.occurrenceId == request.occurrenceId && claim.requestDigest == request.requestDigest
  | _, _ => false

/-- A prepared request that is new in this transition takes its occurrence. -/
def claimOccurrence (s : Store) (cycleId : String) (before after : ObservationCycleV1) :
    Except CanonicalStoreError Store :=
  match before.preparedAgRequest, after.preparedAgRequest with
  | none, some request => do
    let (inserted, s) := s.insertOrIgnoreClaim cycleId
      { campaignId := request.campaignId
        occurrenceId := request.occurrenceId
        requestDigest := request.requestDigest
        claimedAt := after.updatedAt }
    refuseIf (inserted != 1)
      (.duplicateAgOccurrence request.campaignId request.occurrenceId)
    .ok s
  | _, _ => .ok s

def claimAuthoring (s : Store) (cycleId : String) (before after : ObservationCycleV1) :
    Except CanonicalStoreError Store :=
  match before.authoringContextProvenance, after.authoringContextProvenance with
  | none, some provenance => do
    let (inserted, s) := s.insertOrIgnoreAuthoring cycleId provenance
    refuseIf (inserted != 1)
      (.invalid "governed occurrence already has a different authoring-context relation")
    .ok s
  | _, _ => .ok s

def claimCustody (s : Store) (cycleId : String) (before after : ObservationCycleV1) :
    Except CanonicalStoreError Store :=
  match before.authoringContextCustody, after.authoringContextCustody with
  | none, some custody => do
    let (inserted, s) ← s.insertOrIgnoreCustody cycleId custody
    refuseIf (inserted != 1)
      (.invalid "governed occurrence already has different authoring custody")
    .ok s
  | _, _ => .ok s

/-- The snapshot a transition commits: one version on, chained and sealed again. -/
def succeed (mutated : ObservationCycleV1) (prior : String) (version : Nat) (now : Instant) :
    ObservationCycleV1 :=
  ObservationCycleV1.sealCycle w
    { mutated with
      version
      priorStateDigest := some prior
      updatedAt := w.toRfc3339 now }

/-- The durable snapshot before a transition, with its three projections. -/
def predecessor (s : Store) (cycleId expectedDigest : String) :
    Except CanonicalStoreError ObservationCycleV1 := do
  let row ← okOr s.cycles[cycleId]? (.cycleNotFound cycleId)
  row.snapshot.validate w
  refuseIf (!claimMatches row.snapshot.preparedAgRequest s.claims[cycleId]?)
    (.replay "AG occurrence claim diverged before transition")
  refuseIf (row.snapshot.authoringContextProvenance != s.authoring[cycleId]?)
    (.replay "authoring-context claim diverged before transition")
  refuseIf (row.snapshot.authoringContextCustody != s.custody[cycleId]?)
    (.replay "authoring-context custody claim diverged before transition")
  refuseIf (row.snapshot.stateDigest != expectedDigest) .stalePredecessor
  .ok row.snapshot

/-- Write the successor to its row, its slot and the event log. -/
def writeSuccessor (s : Store) (cycleId eventKind : String) (before after : ObservationCycleV1) :
    Except CanonicalStoreError Store := do
  let s ← claimOccurrence s cycleId before after
  let s ← claimAuthoring s cycleId before after
  let s ← claimCustody s cycleId before after
  let (changed, s) ← s.updateCycle cycleId before.stateDigest after
  refuseIf (changed != 1) .stalePredecessor
  let (slotChanged, s) := s.updateSlot before.stateDigest after
  refuseIf (slotChanged != 1) .stalePredecessor
  s.insertEvent
    { cycleId
      sequence := after.version
      eventKind
      priorStateDigest := some before.stateDigest
      resultingStateDigest := after.stateDigest
      snapshot := after
      recordedAt := after.updatedAt }

def transitionTransaction (cycleId expectedDigest eventKind : String) (now : Instant)
    (mutate : ObservationCycleV1 → Except CanonicalStoreError ObservationCycleV1) (s : Store) :
    Except CanonicalStoreError (ObservationCycleV1 × Store) := do
  let before ← predecessor w s cycleId expectedDigest
  let mutated ← mutate before
  let version ← okOr (checkedAdd mutated.version 1) (.invalid "cycle version overflow")
  let after := succeed w mutated before.stateDigest version now
  after.validate w
  let s ← writeSuccessor s cycleId eventKind before after
  .ok (after, s)

def transition (cycleId : String) (lease : Option LiveCycleLeaseV1)
    (expectedDigest eventKind : String) (now : Instant)
    (mutate : ObservationCycleV1 → Except CanonicalStoreError ObservationCycleV1) :
    Call Store CanonicalStoreError ObservationCycleV1 := do
  Call.check (refuseIf (lease.any fun lease => lease.cycleId != cycleId || lease.processNonce == 0)
    .wrongLiveLease)
  Call.commit (transitionTransaction w cycleId expectedDigest eventKind now mutate)

/-! ## What each operation does to a snapshot -/

namespace Mutate

def recordObservation (observation : ObservationRecordV1) (attention : AttentionRecordV1)
    (temporalPosture : Option TemporalPostureV1) (cycle : ObservationCycleV1) :
    Except CanonicalStoreError ObservationCycleV1 := do
  refuseIf (cycle.status != .observing)
    (.illegalTransition "observation may be recorded only while observing")
  .ok { cycle with
    observation := some observation
    attention := some attention
    temporalPosture
    status := .postureRecorded }

def prepareAgOccurrence (intent : TypedCoarseIntentV2) (request : PreparedAgRequestV1)
    (authoring : PreparedAuthoringEvidenceV1) (cycle : ObservationCycleV1) :
    Except CanonicalStoreError ObservationCycleV1 := do
  refuseIf (cycle.status != .postureRecorded)
    (.illegalTransition "AG occurrence may be attached only after exact posture recording")
  let observation ← okOr cycle.observation (.illegalTransition "observation basis is absent")
  refuseIf (!observation.posture.current || observation.support.standing != .current)
    (.illegalTransition "non-current posture cannot originate an AG proposal")
  intent.validateForObservation w observation
  refuseIf (request.sourceIntentId != intent.intentId)
    (.invalid "prepared AG request does not bind the exact intent")
  .ok { cycle with
    intent := some intent
    preparedAgRequest := some request
    authoringContextProvenance := authoring.lineage
    authoringContextCustody := authoring.custody
    status := .awaitingAg }

def attachAgOccurrence (ag : AgOccurrenceReferenceV1) (cycle : ObservationCycleV1) :
    Except CanonicalStoreError ObservationCycleV1 := do
  refuseIf (cycle.status != .awaitingAg || cycle.ag.isSome)
    (.illegalTransition "AG occurrence may attach only to one prepared request")
  let request ← okOr cycle.preparedAgRequest (.illegalTransition "prepared AG request is absent")
  refuseIf (request.campaignId != ag.campaignId || request.occurrenceId != ag.occurrenceId)
    (.invalid "AG response names the wrong prepared occurrence")
  refuseIf ([AgProgramCounterV1.authorizationConsumed, .dispatched, .reconciliationRequired,
      .settledObservationRequired, .halted, .completed].contains ag.programCounter)
    (.invalid "Nightshift adapter crossed an AG consequence boundary")
  .ok { cycle with ag := some ag }

/-- The status that goes with an observed program counter. -/
def statusOf : AgProgramCounterV1 → CycleStatusV1
  | .reconciliationRequired => .awaitingAgReconciliation
  | .settledObservationRequired => .observationRequired
  | .halted => .halted
  | .completed => .closed
  | _ => .awaitingAg

def recordAgStatus (ag : AgOccurrenceReferenceV1) (cycle : ObservationCycleV1) :
    Except CanonicalStoreError ObservationCycleV1 := do
  refuseIf (!([CycleStatusV1.awaitingAg, .awaitingAgReconciliation, .observationRequired, .halted,
      .recoveryRequired].contains cycle.status))
    (.illegalTransition "AG status cannot be attached from this cycle state")
  let prior ← okOr cycle.ag (.illegalTransition "cycle has no AG occurrence")
  refuseIf (prior.campaignId != ag.campaignId || prior.occurrenceId != ag.occurrenceId)
    (.invalid "AG status names the wrong campaign or occurrence")
  refuseIf (!agStatusCanFollow prior.programCounter ag.programCounter)
    (.invalid "stale or regressive AG program-counter observation")
  .ok { cycle with
    status := statusOf ag.programCounter
    ag := some ag }

def recordAgRefusal (refusal : AgRefusalReferenceV1) (cycle : ObservationCycleV1) :
    Except CanonicalStoreError ObservationCycleV1 := do
  refuseIf (!([CycleStatusV1.awaitingAg, .recoveryRequired].contains cycle.status))
    (.illegalTransition "AG refusal can close only its exact pending cycle")
  let request ← okOr cycle.preparedAgRequest (.illegalTransition "prepared AG request is absent")
  refuseIf (request.campaignId != refusal.campaignId || request.occurrenceId != refusal.occurrenceId)
    (.invalid "AG refusal names the wrong campaign or occurrence")
  let ag ← okOr cycle.ag
    (.illegalTransition "AG refusal requires the exact observed AG predecessor state")
  refuseIf (ag.stateDigest != refusal.atStateDigest)
    (.invalid "AG refusal names a substituted predecessor state")
  .ok { cycle with
    agRefusal := some refusal
    status := .closed }

def recoverAgOccurrence (ag : AgOccurrenceReferenceV1) (cycle : ObservationCycleV1) :
    Except CanonicalStoreError ObservationCycleV1 := do
  refuseIf (!([CycleStatusV1.awaitingAg, .recoveryRequired].contains cycle.status) ||
      cycle.ag.isSome)
    (.illegalTransition "AG occurrence recovery requires an unresolved prepared request")
  let request ← okOr cycle.preparedAgRequest (.illegalTransition "prepared AG request is absent")
  refuseIf (request.campaignId != ag.campaignId || request.occurrenceId != ag.occurrenceId)
    (.invalid "recovered AG response names the wrong occurrence")
  .ok { cycle with
    status := statusOf ag.programCounter
    ag := some ag
    recoveryReason := none }

def markRecoveryRequired (reason : String) (cycle : ObservationCycleV1) :
    Except CanonicalStoreError ObservationCycleV1 := do
  refuseIf (cycle.status == .closed || cycle.status == .missed)
    (.illegalTransition "terminal cycle cannot enter recovery")
  .ok { cycle with
    status := .recoveryRequired
    recoveryReason := some reason }

def closeWithoutProposal (cycle : ObservationCycleV1) :
    Except CanonicalStoreError ObservationCycleV1 := do
  refuseIf (cycle.status != .postureRecorded || cycle.intent.isSome)
    (.illegalTransition "only a posture-only cycle may close without a proposal")
  .ok { cycle with status := .closed }

def restartReason : String := "restart erased live observation support; start a fresh cycle"

/-- The restart classification looks at the status before the transaction, not inside it. -/
def restart (cycle : ObservationCycleV1) : Except CanonicalStoreError ObservationCycleV1 :=
  .ok { cycle with
    status := .recoveryRequired
    recoveryReason := some restartReason }

end Mutate

/-! ## Reading -/

def validateAgOccurrenceClaim (cycle : ObservationCycleV1) : Call Store CanonicalStoreError Unit := do
  let claim ← Call.read (·.claims[cycle.cycleId]?)
  Call.check (refuseIf (!claimMatches cycle.preparedAgRequest claim)
    (.replay "AG occurrence claim does not match the authoritative cycle snapshot"))

def validateAuthoringContextClaim (cycle : ObservationCycleV1) :
    Call Store CanonicalStoreError Unit := do
  let claim ← Call.read (·.authoring[cycle.cycleId]?)
  Call.check (match cycle.authoringContextProvenance, claim with
    | none, none => .ok ()
    | some snapshot, some durable =>
      if snapshot = durable then invalid (durable.validate w)
      else .error (.replay
        "authoring-context claim does not match the authoritative cycle snapshot")
    | _, _ => .error (.replay
        "authoring-context claim does not match the authoritative cycle snapshot"))

def validateAuthoringCustodyClaim (cycle : ObservationCycleV1) :
    Call Store CanonicalStoreError Unit := do
  let claim ← Call.read (·.custody[cycle.cycleId]?)
  Call.check (match cycle.authoringContextCustody, claim with
    | none, none => .ok ()
    | some snapshot, some durable =>
      if snapshot = durable then invalid (durable.validate w)
      else .error (.replay
        "authoring custody claim does not match the authoritative cycle snapshot")
    | _, _ => .error (.replay
        "authoring custody claim does not match the authoritative cycle snapshot"))

/-- The three projections of a snapshot that was read before them. -/
def validateClaims (cycle : ObservationCycleV1) : Call Store CanonicalStoreError Unit := do
  validateAgOccurrenceClaim cycle
  validateAuthoringContextClaim w cycle
  validateAuthoringCustodyClaim w cycle

def getCycle (cycleId : String) : Call Store CanonicalStoreError ObservationCycleV1 := do
  let row ← Call.read (·.cycles[cycleId]?)
  let row ← Call.check (okOr row (.cycleNotFound cycleId))
  Call.check (row.snapshot.validate w)
  validateClaims w row.snapshot
  return row.snapshot

/-- `ORDER BY updated_at, cycle_id` -/
def writtenBefore (a b : String × CycleRow) : Prop :=
  a.2.updatedAt < b.2.updatedAt ∨ (a.2.updatedAt = b.2.updatedAt ∧ a.1 ≤ b.1)

instance : DecidableRel writtenBefore := fun a b => by
  unfold writtenBefore
  infer_instance

/-- Validate the selected snapshots, then their projections. -/
def validateAll (cycles : List ObservationCycleV1) :
    Call Store CanonicalStoreError (List ObservationCycleV1) := do
  Call.check (Checked.forEach cycles (·.validate w))
  Call.forEach cycles (validateClaims w)
  return cycles

def listCycles : Call Store CanonicalStoreError (List ObservationCycleV1) := do
  let rows ← Call.read fun s => s.cycles.toList.insertionSort writtenBefore
  validateAll w (rows.map (·.2.snapshot))

def findCyclesByObservationId (observationId : String) :
    Call Store CanonicalStoreError (List ObservationCycleV1) := do
  let rows ← Call.read fun s => s.cycles.toList.filter (·.2.observationId == some observationId)
  validateAll w (rows.map (·.2.snapshot))

/-- The later of two qualified cycles of one family; an earlier one is kept on a tie. -/
def newer (latest : Option ObservationCycleV1) (cycle : ObservationCycleV1) :
    Option ObservationCycleV1 :=
  match latest with
  | none => some cycle
  | some current =>
    if current.slot.orderKey.precedes cycle.slot.orderKey then some cycle else some current

/-- The latest cycle of a family that recorded an observation, whatever the order of the list. -/
def latestQualified (family : ObservationFamilyKeyV1) (cycles : List ObservationCycleV1) :
    Option ObservationCycleV1 :=
  (cycles.filter fun cycle => cycle.slot.family == family && cycle.observation.isSome).foldl
    newer none

def latestQualifiedObservationInFamily (family : ObservationFamilyKeyV1) :
    Call Store CanonicalStoreError (Option ObservationCycleV1) := do
  let cycles ← listCycles w
  return latestQualified family cycles

/-- One event against the part of the chain read before it. -/
def replayStep (replayed : List ObservationCycleV1 × Option String) (event : CycleEvent) :
    Except CanonicalStoreError (List ObservationCycleV1 × Option String) := do
  refuseIf (event.sequence != replayed.1.length || event.priorStateDigest != replayed.2)
    (.replay "event sequence or predecessor chain diverged")
  event.snapshot.validate w
  refuseIf (event.snapshot.stateDigest != event.resultingStateDigest ||
      event.snapshot.priorStateDigest != event.priorStateDigest)
    (.replay "event digest does not bind stored snapshot")
  .ok (replayed.1 ++ [event.snapshot], some event.resultingStateDigest)

def replay (cycleId : String) : Call Store CanonicalStoreError (List ObservationCycleV1) := do
  let events ← Call.read fun s =>
    (s.eventsOf cycleId).insertionSort fun a b => a.sequence ≤ b.sequence
  let replayed ← Call.check (events.foldlM (replayStep w) ([], none))
  let current ← getCycle w cycleId
  Call.check (refuseIf (replayed.1.getLast? != some current)
    (.replay "authoritative row differs from replay tail"))
  return replayed.1

/-! ## Substrate-origin history -/

/-- The predecessors named by the nodes, each at most once. -/
def referencedPredecessors (nodes : BTreeMap String SubstrateOriginApplicabilityV1) :
    Except CanonicalStoreError (BTreeSet String) :=
  (BTreeMap.valuesOf nodes).foldlM
    (fun referenced verdict =>
      match verdict.predecessorApplicabilityId with
      | none => .ok referenced
      | some predecessorId => do
        let previous ← okOr nodes[predecessorId]?
          (.invalid "substrate-origin chain references unknown predecessor verdict")
        refuseIf (verdict.predecessorCoordinateRef != some previous.observedCoordinateRef)
          (.invalid "substrate-origin chain substitutes predecessor coordinate")
        refuseIf (referenced.contains predecessorId)
          (.invalid "substrate-origin history forks from one predecessor")
        .ok (referenced.insert predecessorId))
    ∅

def uniqueSubstrateOriginHead (nodes : BTreeMap String SubstrateOriginApplicabilityV1) :
    Except CanonicalStoreError SubstrateOriginApplicabilityV1 := do
  let referenced ← referencedPredecessors nodes
  match nodes.toList.filter (fun node => !referenced.contains node.1) with
  | [head] =>
    let roots := (BTreeMap.valuesOf nodes).countP (·.predecessorApplicabilityId.isNone)
    refuseIf (roots != 1 || referenced.size + 1 != nodes.size)
      (.invalid "substrate-origin history is disconnected or cyclic")
    .ok head.2
  | _ => .error (.invalid "substrate-origin history has no unique append-only chain head")

/-- The applicable verdicts a subject has in the recorded observations, in reading order. -/
def originVerdicts (subjectRef : String) (cycles : List ObservationCycleV1) :
    List SubstrateOriginApplicabilityV1 :=
  cycles.flatMap fun cycle =>
    (cycle.observation.toList.flatMap (·.substrateOriginApplicability)).filter fun verdict =>
      verdict.subjectRef == subjectRef && verdict.status == .applicable

/-- The verdicts by identity; no identity may come twice. -/
def originNodes (verdicts : List SubstrateOriginApplicabilityV1) :
    Except CanonicalStoreError (BTreeMap String SubstrateOriginApplicabilityV1) :=
  verdicts.foldlM
    (fun nodes verdict => do
      invalid (verdict.validate w)
      refuseIf (nodes.contains verdict.applicabilityId)
        (.invalid "duplicate substrate-origin applicability identity")
      .ok (nodes.insert verdict.applicabilityId verdict))
    ∅

def substrateOriginHead (subjectRef : String) :
    Call Store CanonicalStoreError (Option SubstrateOriginApplicabilityV1) := do
  Call.check (invalid (PresentEvidence.requireToken "substrate-origin subject" subjectRef))
  let cycles ← listCycles w
  let nodes ← Call.check (originNodes w (originVerdicts subjectRef cycles))
  if nodes.isEmpty then return none
  let head ← Call.check (uniqueSubstrateOriginHead nodes)
  return some head

/-! ## External custody -/

def externalObservationForComposition (observationId : String) :
    Call Store CanonicalStoreError (Option ExternalRow) := do
  Call.check (invalid (requireDigest "external observation_id" observationId))
  let row ← Call.read (·.external[observationId]?)
  match row with
  | none => return none
  | some row =>
    Call.check (mapErr .replay (w.validateWorldObservation row.observation))
    Call.check (mapErr .replay (w.validateExternalCustody row.custody))
    Call.check (refuseIf (!custodyBinds row.custody row.observation)
      (.replay "external-observation composition source is contradictory"))
    return some row

def steadyCustodyBinds (row : SteadyRow) : Bool :=
  row.custody.observationId == row.observation.observationId &&
    row.custody.qualificationObservationId == row.observation.qualificationObservationId &&
    row.custody.planDocumentDigest == row.observation.planDocumentDigest &&
    row.custody.compilationId == row.observation.compilationId &&
    row.custody.evidenceReceipt == row.observation.evidenceReceipt

def steadyStateObservationForComposition (observationId : String) :
    Call Store CanonicalStoreError (Option SteadyRow) := do
  Call.check (invalid (requireDigest "steady-state observation_id" observationId))
  let row ← Call.read (·.steady[observationId]?)
  match row with
  | none => return none
  | some row =>
    Call.check (mapErr .replay (w.validateSteadyObservation row.observation))
    Call.check (mapErr .replay (w.validateSteadyCustody row.custody))
    Call.check (refuseIf (!steadyCustodyBinds row)
      (.replay "steady-state observation custody projection is contradictory"))
    return some row

/-- Every recorded use of one source. -/
def externalCompositionsForSource (sourceObservationId : String) :
    Call Store CanonicalStoreError (List ComposedExternalEvidenceV1) := do
  Call.check (invalid (requireDigest "source_observation_id" sourceObservationId))
  let rows ← Call.read fun s => s.cycles.toList.filter (·.2.observationId.isSome)
  let cycles := rows.map (·.2.snapshot)
  Call.check (Checked.forEach cycles (·.validate w))
  return cycles.filterMap fun cycle =>
    (cycle.observation.bind (·.externalEvidence)).filter
      (·.sourceObservationId == sourceObservationId)

def validateExternalCompositionSource (composition : ComposedExternalEvidenceV1) :
    Call Store CanonicalStoreError Unit := do
  Call.check (invalid (composition.validate w))
  let row ← externalObservationForComposition w composition.sourceObservationId
  let row ← Call.check (okOr row (.replay "composed external-evidence source is absent"))
  let rebuilt ← Call.check (mapErr .replay (ComposedExternalEvidenceV1.compose w
    { schema := externalEvidenceReferenceSchemaV1
      sourceObservationId := composition.sourceObservationId
      sourceCustodyId := composition.sourceCustodyId
      profileId := composition.profile.profileId }
    composition.profile row.observation row.custody composition.admittedAt
    composition.targetCampaignId composition.targetOccurrenceId composition.subjectId
    composition.subjectDigest composition.scopeDigest))
  Call.check (refuseIf (rebuilt != composition)
    (.replay "composed external evidence does not reproduce from canonical custody"))

def decisionEvidenceReferenceSchemaV1 : String :=
  "nightshift.decision_relative_evidence_reference.v1"

def validateDecisionCompositionSource (composition : ComposedDecisionRelativeEvidenceV1) :
    Call Store CanonicalStoreError Unit := do
  Call.check (invalid (w.validateDecisionComposition composition))
  let qualification ← externalObservationForComposition w
    composition.qualification.sourceObservationId
  let qualification ← Call.check (okOr qualification
    (.replay "decision composition qualification source is absent"))
  let steady ← steadyStateObservationForComposition w composition.steadyStateObservationId
  let steady ← Call.check (okOr steady
    (.replay "decision composition passive source is absent"))
  let rebuilt ← Call.check (mapErr .replay (w.composeDecision
    { schema := decisionEvidenceReferenceSchemaV1
      qualificationObservationId := qualification.observation.observationId
      qualificationCustodyId := qualification.custody.custodyId
      steadyStateObservationId := steady.observation.observationId
      steadyStateCustodyId := steady.custody.custodyId
      profileId := composition.profile.profileId }
    composition.profile qualification.observation qualification.custody steady.observation
    steady.custody composition.admittedAt composition.targetCampaignId
    composition.targetOccurrenceId composition.subjectId composition.subjectDigest
    composition.scopeDigest))
  Call.check (refuseIf (rebuilt != composition)
    (.replay "decision composition does not reproduce from exact custody"))

/-- The row a handoff collides with: exact replay returns its custody, anything else refuses. -/
def externalTransaction (handoff : ExternalObservationHandoffV1)
    (custody : ExternalObservationCustodyProvenanceV1) (s : Store) :
    Except CanonicalStoreError (ExternalObservationCustodyProvenanceV1 × Store) :=
  match (BTreeMap.valuesOf s.external).find? fun row =>
      row.observation.observationId == handoff.observation.observationId ||
      row.custody.handoffId == handoff.handoffId ||
      row.observation.attemptId == handoff.observation.attemptId ||
      row.observation.executorEvidenceReceipt == handoff.observation.executorEvidenceReceipt ||
      (row.observation.campaignId == handoff.observation.campaignId &&
        row.observation.occurrenceId == handoff.observation.occurrenceId) with
  | some existing => do
    invalid (w.validateWorldObservation existing.observation)
    invalid (w.validateExternalCustody existing.custody)
    if existing.observation = handoff.observation ∧
        existing.custody.handoffId = custody.handoffId ∧
        existing.custody.observationId = custody.observationId ∧
        existing.custody.producerPrincipalId = custody.producerPrincipalId ∧
        existing.custody.producerKeyId = custody.producerKeyId ∧
        existing.custody.targetRuntimeId = custody.targetRuntimeId then .ok (existing.custody, s)
    else throw (.externalObservationConflict
      "attempt, occurrence, handoff, or source receipt is already bound")
  | none => do
    refuseIf ((BTreeMap.valuesOf s.external).any (·.custody.custodyId == custody.custodyId))
      (.sql .constraintViolation)
    .ok (custody, { s with
      external := s.external.insert handoff.observation.observationId
        ⟨handoff.observation, custody⟩ })

def recordExternalObservation (handoff : ExternalObservationHandoffV1) (receivedAt : Instant) :
    Call Store CanonicalStoreError ExternalObservationCustodyProvenanceV1 := do
  Call.check (refuseIf (receivedAt < handoff.createdAt ||
      handoff.observation.observedAtUnixMs > timestampMillis handoff.createdAt)
    (.invalid "external-observation custody time precedes source or handoff"))
  let custody ← Call.check (invalid (ExternalObservationCustodyProvenanceV1.mint w handoff receivedAt))
  Call.commit (externalTransaction w handoff custody)

def steadyTransaction (handoff : SteadyStateObservationHandoffV1)
    (custody : SteadyStateObservationCustodyV1) (s : Store) :
    Except CanonicalStoreError (SteadyStateObservationCustodyV1 × Store) :=
  match (BTreeMap.valuesOf s.steady).find? fun row =>
      row.observation.observationId == handoff.observation.observationId ||
      row.custody.handoffId == handoff.handoffId ||
      row.observation.evidenceReceipt == handoff.observation.evidenceReceipt with
  | some existing => do
    invalid (w.validateSteadyObservation existing.observation)
    invalid (w.validateSteadyCustody existing.custody)
    if existing.observation = handoff.observation ∧
        existing.custody.handoffId = custody.handoffId ∧
        existing.custody.producerPrincipalId = custody.producerPrincipalId ∧
        existing.custody.producerKeyId = custody.producerKeyId ∧
        existing.custody.targetRuntimeId = custody.targetRuntimeId then .ok (existing.custody, s)
    else throw (.externalObservationConflict
      "steady-state observation, handoff, or evidence receipt is already bound")
  | none => do
    refuseIf ((BTreeMap.valuesOf s.steady).any (·.custody.custodyId == custody.custodyId))
      (.sql .constraintViolation)
    .ok (custody, { s with
      steady := s.steady.insert handoff.observation.observationId
        ⟨handoff.observation, custody⟩ })

def recordSteadyStateObservation (handoff : SteadyStateObservationHandoffV1)
    (receivedAt : Instant) : Call Store CanonicalStoreError SteadyStateObservationCustodyV1 := do
  Call.check (refuseIf (receivedAt < handoff.createdAt ||
      handoff.observation.observedAtUnixMs > timestampMillis handoff.createdAt)
    (.invalid "steady-state custody time precedes source or handoff"))
  let custody ← Call.check (invalid (SteadyStateObservationCustodyV1.mint w handoff receivedAt))
  Call.commit (steadyTransaction w handoff custody)

/-! ## The operations on cycles -/

def recordObservation (lease : LiveCycleLeaseV1) (expectedDigest : String)
    (observation : ObservationRecordV1) (attention : AttentionRecordV1)
    (temporalPosture : Option TemporalPostureV1) (now : Instant) :
    Call Store CanonicalStoreError ObservationCycleV1 := do
  Call.check (observation.validateForCycle w lease.cycleId)
  Call.forEach observation.externalEvidence.toList (validateExternalCompositionSource w)
  Call.check (refuseIf (attention.sourcePostureId != observation.posture.postureId)
    (.invalid "attention record does not bind the exact posture"))
  transition w lease.cycleId (some lease) expectedDigest "observation_recorded" now
    (Mutate.recordObservation observation attention temporalPosture)

def prepareAgOccurrence (lease : LiveCycleLeaseV1) (expectedDigest : String)
    (intent : TypedCoarseIntentV2) (request : PreparedAgRequestV1)
    (authoring : PreparedAuthoringEvidenceV1) (now : Instant) :
    Call Store CanonicalStoreError ObservationCycleV1 := do
  Call.check (request.validate w)
  Call.check (Checked.forEach authoring.lineage.toList fun provenance =>
    provenance.checkFor w request intent)
  Call.check (checkCustody w authoring.custody authoring.lineage)
  transition w lease.cycleId (some lease) expectedDigest "ag_occurrence_prepared" now
    (Mutate.prepareAgOccurrence w intent request authoring)

def attachAgOccurrence (lease : LiveCycleLeaseV1) (expectedDigest : String)
    (ag : AgOccurrenceReferenceV1) (now : Instant) :
    Call Store CanonicalStoreError ObservationCycleV1 := do
  Call.check (ag.validate w)
  transition w lease.cycleId (some lease) expectedDigest "ag_occurrence_attached" now
    (Mutate.attachAgOccurrence ag)

/-- A status that is already there is returned without a transition. -/
def recordAgStatus (cycleId expectedDigest : String) (ag : AgOccurrenceReferenceV1)
    (now : Instant) : Call Store CanonicalStoreError ObservationCycleV1 := do
  Call.check (ag.validate w)
  let current ← getCycle w cycleId
  Call.check (refuseIf (current.stateDigest != expectedDigest) .stalePredecessor)
  if current.ag = some ag then
    return current
  else
    transition w cycleId none expectedDigest "ag_status_observed" now (Mutate.recordAgStatus ag)

def recordAgRefusal (cycleId expectedDigest : String) (refusal : AgRefusalReferenceV1)
    (now : Instant) : Call Store CanonicalStoreError ObservationCycleV1 := do
  Call.check (refusal.validate w)
  transition w cycleId none expectedDigest "ag_refusal_observed" now
    (Mutate.recordAgRefusal refusal)

def recoverAgOccurrence (cycleId expectedDigest : String) (ag : AgOccurrenceReferenceV1)
    (now : Instant) : Call Store CanonicalStoreError ObservationCycleV1 := do
  Call.check (ag.validate w)
  transition w cycleId none expectedDigest "ag_occurrence_recovered_read_only" now
    (Mutate.recoverAgOccurrence ag)

def markRecoveryRequired (cycleId expectedDigest reason : String) (now : Instant) :
    Call Store CanonicalStoreError ObservationCycleV1 := do
  Call.check (invalid (PresentEvidence.requireToken "recovery reason" reason))
  transition w cycleId none expectedDigest "recovery_required" now
    (Mutate.markRecoveryRequired reason)

def closeWithoutProposal (lease : LiveCycleLeaseV1) (expectedDigest : String) (now : Instant) :
    Call Store CanonicalStoreError ObservationCycleV1 :=
  transition w lease.cycleId (some lease) expectedDigest "cycle_closed_without_proposal" now
    Mutate.closeWithoutProposal

/-- Each in-flight cycle is one transaction; a cycle bound to AG is only reported. -/
def recoverEach (now : Instant) :
    List ObservationCycleV1 → Call Store CanonicalStoreError (List ObservationCycleV1)
  | [] => pure []
  | cycle :: rest =>
    match cycle.status with
    | .observing | .postureRecorded => do
      let recovered ← transition w cycle.cycleId none cycle.stateDigest
        "restart_local_currentness_erased" now Mutate.restart
      return recovered :: (← recoverEach now rest)
    | .awaitingAg | .awaitingAgReconciliation => do return cycle :: (← recoverEach now rest)
    | .recoveryRequired =>
      if cycle.preparedAgRequest.isSome then do return cycle :: (← recoverEach now rest)
      else recoverEach now rest
    | _ => recoverEach now rest

def recoverAfterRestart (now : Instant) :
    Call Store CanonicalStoreError (List ObservationCycleV1) := do
  let cycles ← listCycles w
  recoverEach w now cycles

end Nightshift.Canonical
