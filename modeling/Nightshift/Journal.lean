import Nightshift.Scheduler

/-!
# The store tables

One database holds many runs. A run has its admitted contract row, its journal
and the tables kept beside it; the journal sequence is shared by all runs. A
call works on a transaction over one run, and nothing of a failed call is kept.
Every table of the current schema exists.
-/

namespace Nightshift

open Checked

def internalEventSchema : String := "nightshift.foreman-journal-event/v1"
def maximumCapacityRecordBytes : Nat := 1024 * 1024
def maximumSelfHostedDriverStepBytes : Nat := 16 * 1024
def maximumSelfHostedHistoryBytes : Nat := 16 * 1024 * 1024
def maximumExecutionAvailabilityHistoryBytes : Nat := 16 * 1024 * 1024
def maximumExecutionAvailabilityRows : Nat := 16384

inductive RowKind where
  | internal
  | capacityRequirement
  | capacityAdmission
  | executionAvailabilityRequirement
  | providerDispatch
  | providerDisposition
  | providerWake
  | providerResume
  | providerResourcesReleased
  | providerResourcesReacquired
  | adapterEvent
  deriving DecidableEq, Repr

namespace RowKind

def isCapacity : RowKind → Bool
  | capacityRequirement | capacityAdmission => true
  | _ => false

def isProvider : RowKind → Bool
  | executionAvailabilityRequirement | providerDispatch | providerDisposition | providerWake
  | providerResume | providerResourcesReleased | providerResourcesReacquired => true
  | _ => false

end RowKind

namespace InternalPayload

/-- The row kind the strict reader accepts for a payload. -/
def rowKind : InternalPayload → RowKind
  | capacityRequirementAdmitted .. => .capacityRequirement
  | capacityAdmissionAccepted .. => .capacityAdmission
  | executionAvailabilityConfigured .. => .executionAvailabilityRequirement
  | providerDispatchOpened .. => .providerDispatch
  | providerDispositionRecorded .. => .providerDisposition
  | providerWakeOpened .. => .providerWake
  | providerExecutionResumeRequested .. => .providerResume
  | providerResourcesReleased .. => .providerResourcesReleased
  | providerResourcesReacquired .. => .providerResourcesReacquired
  | _ => .internal

end InternalPayload

/-- The retained bytes of a row: an internal event is kept as the record its
canonical bytes spell, an adapter event as the bytes the adapter sent. -/
inductive RowBody where
  | internal (event : InternalEvent)
  | adapter (raw : Bytes)
  deriving DecidableEq

structure EventRow where
  sequence : Nat
  eventId : String
  workItemId : Option String
  attemptId : Option String
  kind : RowKind
  recordedAt : Instant
  body : RowBody
  rawDigest : String
  deriving DecidableEq

namespace EventRow

def rawBytes (w : Platform) (row : EventRow) : Bytes :=
  match row.body with
  | .internal event => w.canonical (.event event)
  | .adapter raw => raw

/-- `serde_json::from_slice::<InternalEvent>` on the retained bytes. -/
def internalEvent (row : EventRow) : Except ForemanError InternalEvent :=
  match row.body with
  | .internal event => .ok event
  | .adapter _ => .error (.serialization "internal event")

/-- The payload of a row that is not an adapter event. -/
def payload? (row : EventRow) : Option InternalPayload :=
  match row.body with
  | .internal event => if row.kind = .adapterEvent then none else some event.payload
  | .adapter _ => none

end EventRow

structure RunRow where
  packetDigest : String
  admissionDigest : String
  profileDigest : String
  packetBytes : Bytes
  admissionBytes : Bytes
  profileBytes : Bytes
  admittedAt : Instant
  expiresAt : Instant
  maximumConcurrentWorkers : Nat
  executionAvailabilityRequired : Bool
  deriving DecidableEq

structure MetadataRow where
  eventId : String
  sequence : Nat
  eventKind : RowKind
  rawByteLength : Nat
  deriving DecidableEq, Repr

structure AnchorRow where
  eventId : String
  sequence : Nat
  deriving DecidableEq, Repr

structure ReceiptRow where
  attemptId : Option String
  receiptDigest : String
  rawBytes : Bytes
  receiptKind : ReceiptKind
  deriving DecidableEq

structure FinalSnapshotRow where
  updatedAt : Instant
  rawDigest : String
  rawBytes : Bytes
  deriving DecidableEq

structure BootstrapRow where
  bootstrapDigest : String
  bootstrapOccurrenceId : String
  bootstrapBytes : Bytes
  capacityPolicyBytes : Bytes
  admittedAt : Instant
  deadlineAt : Instant
  maximumDriverSteps : Nat
  deriving DecidableEq

/-- A driver step row; the record is the one its canonical bytes spell. -/
structure DriverStepRow where
  stepOrdinal : Nat
  stepDigest : String
  schedulerProcessOccurrenceId : String
  recordedAt : Instant
  step : SelfHostedForemanDriverStepV1
  deriving DecidableEq, Repr

def DriverStepRow.rawBytes (w : Platform) (row : DriverStepRow) : Bytes :=
  w.canonical (.driverStep row.step)

/-- The tables of one run. The two keyed tables are maps under their primary key. -/
structure RunTables where
  run : RunRow
  events : List EventRow
  resourceClaims : BTreeMap String (String × String)
  metadata : List MetadataRow
  anchors : List AnchorRow
  markers : Nat
  terminalReceipts : BTreeMap String ReceiptRow
  finalSnapshot : Option FinalSnapshotRow
  bootstrap : Option BootstrapRow
  driverSteps : List DriverStepRow

/-- The database: the runs, the last journal sequence and the UUIDs drawn so far. -/
structure Store where
  runs : BTreeMap String RunTables
  sequence : Nat
  draws : Nat

def Store.empty : Store := ⟨∅, 0, 0⟩

/-- One immediate transaction over the tables of one run. -/
structure Tx where
  tables : RunTables
  sequence : Nat
  draws : Nat

namespace Tx

/-- `Uuid::new_v4` -/
def uuid (w : Platform) (tx : Tx) : String := w.uuid tx.draws

def drawn (tx : Tx) : Tx := { tx with draws := tx.draws + 1 }

/-- `INSERT INTO events`; the event identity is unique within the run. -/
def insertEvent (w : Platform) (tx : Tx) (eventId : String) (workItemId attemptId : Option String)
    (kind : RowKind) (recordedAt : Instant) (body : RowBody) : Except ForemanError Tx := do
  refuseIf (tx.tables.events.any fun row => row.eventId == eventId)
    (.sql "UNIQUE constraint failed: events.run_id, events.event_id")
  let row : EventRow :=
    { sequence := tx.sequence + 1
      eventId := eventId
      workItemId := workItemId
      attemptId := attemptId
      kind := kind
      recordedAt := recordedAt
      body := body
      rawDigest := "" }
  let row := { row with rawDigest := w.rawDigest (row.rawBytes w) }
  .ok { tx with
    tables := { tx.tables with events := tx.tables.events ++ [row] }
    sequence := tx.sequence + 1 }

/-- `append_internal_raw` -/
def appendInternalRaw (w : Platform) (tx : Tx) (event : InternalEvent) (kind : RowKind) :
    Except ForemanError Tx :=
  tx.insertEvent w event.eventId event.workItemId event.attemptId kind event.recordedAt
    (.internal event)

/-- `append_internal` -/
def appendInternal (w : Platform) (tx : Tx) (event : InternalEvent) : Except ForemanError Tx :=
  tx.appendInternalRaw w event .internal

end Tx

namespace RunTables

/-- The running byte total and row count of a bounded history. -/
def addLength (field : String) (maximumEventBytes maximumRows maximumBytes : Nat)
    (eventField : String) (acc : Nat × Nat) (length : Nat) : Except ForemanError (Nat × Nat) := do
  refuseIf (acc.2 + 1 > maximumRows) (.inputTooLarge field)
  refuseIf (length == 0 || length > maximumEventBytes) (.inputTooLarge eventField)
  refuseIf (acc.1 + length > maximumBytes) (.inputTooLarge field)
  .ok (acc.1 + length, acc.2 + 1)

def capacityLengths (w : Platform) (t : RunTables) : List Nat :=
  (t.events.filter (·.kind.isCapacity)).map fun row => (row.rawBytes w).length

def validateCapacityHistorySize (w : Platform) (t : RunTables)
    (maximumEventBytes maximumCapacityRows : Nat) : Except ForemanError (Nat × Nat) :=
  (t.capacityLengths w).foldlM
    (addLength "capacity journal history" maximumEventBytes maximumCapacityRows
      maximumCapacityHistoryBytes "capacity journal event") (0, 0)

/-- The inner join of metadata, anchors and journal on the sequence. -/
def custodyJoin (t : RunTables) : List (MetadataRow × AnchorRow × EventRow) :=
  t.metadata.flatMap fun metadata =>
    (t.anchors.filter fun anchor => anchor.sequence == metadata.sequence).flatMap fun anchor =>
      (t.events.filter fun row => row.sequence == metadata.sequence).map fun row =>
        (metadata, anchor, row)

def custodyRowMatches (w : Platform) (joined : MetadataRow × AnchorRow × EventRow) : Bool :=
  joined.1.eventId == joined.2.2.eventId && joined.2.1.eventId == joined.2.2.eventId &&
    joined.1.rawByteLength == (joined.2.2.rawBytes w).length &&
    joined.1.eventKind == joined.2.2.kind

def addCustodyRow (w : Platform) (maximumEventBytes : Nat) (acc : Nat × Nat)
    (joined : MetadataRow × AnchorRow × EventRow) : Except ForemanError (Nat × Nat) := do
  let length := (joined.2.2.rawBytes w).length
  refuseIf (acc.2 + 1 > maximumExecutionAvailabilityRows)
    (.inputTooLarge "execution availability journal history")
  refuseIf (length == 0 || length > maximumEventBytes)
    (.inputTooLarge "execution availability journal event")
  refuseIf (!custodyRowMatches w joined)
    (.readOnlyStore "execution availability metadata/event identity mismatch")
  refuseIf (acc.1 + length > maximumExecutionAvailabilityHistoryBytes)
    (.inputTooLarge "execution availability journal history")
  .ok (acc.1 + length, acc.2 + 1)

def providerRowCount (t : RunTables) : Nat := (t.events.filter (·.kind.isProvider)).length

def validateExecutionAvailabilityHistorySize (w : Platform) (t : RunTables)
    (maximumEventBytes : Nat) (allowInitialRequirementAppend : Bool) :
    Except ForemanError (Nat × Nat) := do
  let required := t.run.executionAvailabilityRequired
  refuseIf (required && t.markers != 1) (.readOnlyStore
    "availability-required run is missing exact marker or metadata-first custody tables")
  refuseIf (!required && t.markers != 0)
    (.readOnlyStore "run-level HOLDING requirement and marker disagree")
  refuseIf (required && t.providerRowCount == 0 && !allowInitialRequirementAppend)
    (.readOnlyStore "availability-required run has no retained provider history")
  let retained ← t.custodyJoin.foldlM (addCustodyRow w maximumEventBytes) (0, 0)
  refuseIf (retained.2 != t.metadata.length || retained.2 != t.anchors.length ||
      retained.2 != t.providerRowCount)
    (.readOnlyStore "execution availability metadata/event row set mismatch")
  .ok retained

end RunTables

namespace Tx

/-- `append_internal_bounded` -/
def appendInternalBounded (w : Platform) (tx : Tx) (event : InternalEvent)
    (maximumEventBytes maximumCapacityRows : Nat) : Except ForemanError Tx := do
  let raw := w.canonical (.event event)
  refuseIf (raw.length > maximumEventBytes) (.inputTooLarge "capacity journal event")
  refuseIf (!event.payload.rowKind.isCapacity)
    (.transition "bounded capacity append received non-capacity event")
  let retained ←
    tx.tables.validateCapacityHistorySize w maximumEventBytes maximumCapacityRows
  refuseIf (retained.2 + 1 > maximumCapacityRows ||
      retained.1 + raw.length > maximumCapacityHistoryBytes)
    (.inputTooLarge "capacity journal history")
  tx.appendInternalRaw w event event.payload.rowKind

/-- `append_execution_availability_bounded` -/
def appendExecutionAvailabilityBounded (w : Platform) (tx : Tx) (event : InternalEvent)
    (maximumEventBytes : Nat) : Except ForemanError Tx := do
  refuseIf (!event.payload.rowKind.isProvider)
    (.transition "bounded execution-availability append received unrelated event")
  let raw := w.canonical (.event event)
  refuseIf (raw.isEmpty || raw.length > maximumEventBytes)
    (.inputTooLarge "execution availability journal event")
  let retained ← tx.tables.validateExecutionAvailabilityHistorySize w maximumEventBytes
    (event.payload.rowKind == .executionAvailabilityRequirement)
  refuseIf (retained.2 + 1 > maximumExecutionAvailabilityRows ||
      retained.1 + raw.length > maximumExecutionAvailabilityHistoryBytes)
    (.inputTooLarge "execution availability journal history")
  let tx ← tx.appendInternalRaw w event event.payload.rowKind
  .ok { tx with tables := { tx.tables with
    metadata := tx.tables.metadata ++
      [⟨event.eventId, tx.sequence, event.payload.rowKind, raw.length⟩]
    anchors := tx.tables.anchors ++ [⟨event.eventId, tx.sequence⟩] } }

/-- `INSERT INTO resource_claims`, one row for each lock. -/
def insertClaims (tx : Tx) (locks : List String) (workItemId attemptId : String) :
    Except ForemanError Tx :=
  locks.foldlM (fun tx lock => do
    refuseIf (tx.tables.resourceClaims.contains lock)
      (.sql "UNIQUE constraint failed: resource_claims.run_id, resource_claims.resource_lock_key")
    .ok { tx with tables := { tx.tables with
      resourceClaims := tx.tables.resourceClaims.insert lock (workItemId, attemptId) } }) tx

/-- `DELETE FROM resource_claims` of one attempt. -/
def deleteClaims (tx : Tx) (workItemId attemptId : String) : Tx :=
  { tx with tables := { tx.tables with
    resourceClaims := tx.tables.resourceClaims.filter fun _ holder =>
      !(holder.1 == workItemId && holder.2 == attemptId) } }

/-- `INSERT INTO terminal_receipts` -/
def insertReceipt (tx : Tx) (workItemId : String) (receipt : ReceiptRow) :
    Except ForemanError Tx := do
  refuseIf (tx.tables.terminalReceipts.contains workItemId)
    (.sql "UNIQUE constraint failed: terminal_receipts.run_id, terminal_receipts.work_item_id")
  .ok { tx with tables := { tx.tables with
    terminalReceipts := tx.tables.terminalReceipts.insert workItemId receipt } }

/-- `release_resources` -/
def releaseResources (w : Platform) (tx : Tx) (runId workItemId attemptId : String)
    (recordedAt : Instant) : Except ForemanError Tx :=
  let tx := tx.deleteClaims workItemId attemptId
  tx.drawn.appendInternal w
    { schema := internalEventSchema
      eventId := "resources-released-" ++ tx.uuid w
      runId := runId
      workItemId := some workItemId
      attemptId := some attemptId
      recordedAt := recordedAt
      payload := .resourcesReleased }

end Tx

end Nightshift
