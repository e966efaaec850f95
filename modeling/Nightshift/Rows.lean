import Nightshift.Journal

/-!
# Appended rows

Each append of the store is one push of a numbered row. What a transaction does
to a run is read as a list of pushed rows, and everything but the claim table
only grows along them.
-/

namespace Nightshift

open Checked

namespace InternalEvent

/-- The journal row of an internal event under its sequence number. -/
def row (w : Platform) (event : InternalEvent) (sequence : Nat) : EventRow where
  sequence := sequence
  eventId := event.eventId
  workItemId := event.workItemId
  attemptId := event.attemptId
  kind := event.payload.rowKind
  recordedAt := event.recordedAt
  body := .internal event
  rawDigest := w.rawDigest (w.canonical (.event event))

@[simp] theorem row_sequence (w : Platform) (e : InternalEvent) (n : Nat) :
    (e.row w n).sequence = n := rfl

@[simp] theorem row_eventId (w : Platform) (e : InternalEvent) (n : Nat) :
    (e.row w n).eventId = e.eventId := rfl

@[simp] theorem row_workItemId (w : Platform) (e : InternalEvent) (n : Nat) :
    (e.row w n).workItemId = e.workItemId := rfl

@[simp] theorem row_attemptId (w : Platform) (e : InternalEvent) (n : Nat) :
    (e.row w n).attemptId = e.attemptId := rfl

@[simp] theorem row_kind (w : Platform) (e : InternalEvent) (n : Nat) :
    (e.row w n).kind = e.payload.rowKind := rfl

@[simp] theorem row_recordedAt (w : Platform) (e : InternalEvent) (n : Nat) :
    (e.row w n).recordedAt = e.recordedAt := rfl

@[simp] theorem row_internalEvent (w : Platform) (e : InternalEvent) (n : Nat) :
    (e.row w n).internalEvent = .ok e := rfl

@[simp] theorem row_rawBytes (w : Platform) (e : InternalEvent) (n : Nat) :
    (e.row w n).rawBytes w = w.canonical (.event e) := rfl

@[simp] theorem row_rawDigest (w : Platform) (e : InternalEvent) (n : Nat) :
    (e.row w n).rawDigest = w.rawDigest (w.canonical (.event e)) := rfl

end InternalEvent

/-- The rows of consecutive internal events behind a sequence number. -/
def rowsOf (w : Platform) (sequence : Nat) : List InternalEvent → List EventRow
  | [] => []
  | event :: events => event.row w (sequence + 1) :: rowsOf w (sequence + 1) events

@[simp] theorem rowsOf_nil (w : Platform) (n : Nat) : rowsOf w n [] = [] := rfl

@[simp] theorem rowsOf_cons (w : Platform) (n : Nat) (e : InternalEvent)
    (events : List InternalEvent) :
    rowsOf w n (e :: events) = e.row w (n + 1) :: rowsOf w (n + 1) events := rfl

@[simp] theorem length_rowsOf (w : Platform) (n : Nat) (events : List InternalEvent) :
    (rowsOf w n events).length = events.length := by
  induction events generalizing n with
  | nil => rfl
  | cons e events ih => simp [ih]

theorem rowsOf_append (w : Platform) (n : Nat) (events more : List InternalEvent) :
    rowsOf w n (events ++ more) = rowsOf w n events ++ rowsOf w (n + events.length) more := by
  induction events generalizing n with
  | nil => rfl
  | cons e events ih => simp [ih, Nat.add_right_comm n 1, ← Nat.add_assoc]

/-- Every row of a sequence of events is the row of one of them. -/
theorem mem_rowsOf {w : Platform} {n : Nat} {events : List InternalEvent} {row : EventRow}
    (h : row ∈ rowsOf w n events) : ∃ e ∈ events, ∃ m, n < m ∧ row = e.row w m := by
  induction events generalizing n with
  | nil => cases h
  | cons e events ih =>
    rcases List.mem_cons.mp h with rfl | h
    · exact ⟨e, List.mem_cons_self, n + 1, Nat.lt_succ_self n, rfl⟩
    · obtain ⟨e', he', m, hm, rfl⟩ := ih h
      exact ⟨e', List.mem_cons_of_mem _ he', m, by omega, rfl⟩

/-- Every event of a list has a row in it. -/
theorem row_mem_rowsOf {w : Platform} {n : Nat} {events : List InternalEvent} {e : InternalEvent}
    (h : e ∈ events) : ∃ m, e.row w m ∈ rowsOf w n events := by
  induction events generalizing n with
  | nil => cases h
  | cons first events ih =>
    rcases List.mem_cons.mp h with rfl | h
    · exact ⟨n + 1, List.mem_cons_self⟩
    · obtain ⟨m, hm⟩ := ih (n := n + 1) h
      exact ⟨m, List.mem_cons_of_mem _ hm⟩

/-- No payload is stored under the adapter kind. -/
@[simp] theorem InternalPayload.rowKind_ne_adapterEvent (p : InternalPayload) :
    p.rowKind ≠ .adapterEvent := by
  cases p <;> simp [InternalPayload.rowKind]

@[simp] theorem InternalEvent.row_payload? (w : Platform) (e : InternalEvent) (n : Nat) :
    (e.row w n).payload? = some e.payload := by
  simp [EventRow.payload?, InternalEvent.row]

/-- The journal row of an adapter event. -/
def adapterRow (w : Platform) (raw : Bytes) (event : AdapterEventV1) (sequence : Nat) :
    EventRow where
  sequence := sequence
  eventId := event.eventId
  workItemId := some event.workItemId
  attemptId := some event.attemptId
  kind := .adapterEvent
  recordedAt := event.occurredAt
  body := .adapter raw
  rawDigest := w.rawDigest raw

namespace Tx

/-- Append one row under the next sequence number. -/
def push (tx : Tx) (row : EventRow) : Tx :=
  { tx with
    tables := { tx.tables with events := tx.tables.events ++ [row] }
    sequence := tx.sequence + 1 }

/-- Append an internal event under the next sequence number. -/
def pushEvent (w : Platform) (tx : Tx) (event : InternalEvent) : Tx :=
  tx.push (event.row w (tx.sequence + 1))

/-- Append an availability event together with its metadata and anchor rows. -/
def pushProvider (w : Platform) (tx : Tx) (event : InternalEvent) : Tx :=
  let tx := tx.pushEvent w event
  { tx with tables := { tx.tables with
    metadata := tx.tables.metadata ++ [⟨event.eventId, tx.sequence, event.payload.rowKind,
      (w.canonical (.event event)).length⟩]
    anchors := tx.tables.anchors ++ [⟨event.eventId, tx.sequence⟩] } }

/-- The same transaction with other claims. -/
def withClaims (tx : Tx) (claims : BTreeMap String (String × String)) : Tx :=
  { tx with tables := { tx.tables with resourceClaims := claims } }

/-- The same transaction with one more receipt. -/
def withReceipt (tx : Tx) (workItemId : String) (receipt : ReceiptRow) : Tx :=
  { tx with tables := { tx.tables with
    terminalReceipts := tx.tables.terminalReceipts.insert workItemId receipt } }

/-- The same transaction with the final snapshot. -/
def withSnapshot (tx : Tx) (row : FinalSnapshotRow) : Tx :=
  { tx with tables := { tx.tables with finalSnapshot := some row } }

/-- The identity is not yet in the journal. -/
def FreshId (tx : Tx) (eventId : String) : Prop :=
  ∀ row ∈ tx.tables.events, row.eventId ≠ eventId

theorem any_eventId_eq_false {tx : Tx} {eventId : String} :
    (tx.tables.events.any fun row => row.eventId == eventId) = false ↔ tx.FreshId eventId := by
  simp [FreshId, List.any_eq_false]

theorem appendInternalRaw_eq_ok {w : Platform} {tx tx' : Tx} {event : InternalEvent} :
    tx.appendInternalRaw w event event.payload.rowKind = .ok tx' ↔
      tx.FreshId event.eventId ∧ tx' = tx.pushEvent w event := by
  simp only [appendInternalRaw, insertEvent, bind_eq_ok, refuseIf_eq_ok, any_eventId_eq_false,
    Except.ok.injEq]
  constructor
  · rintro ⟨_, hfresh, rfl⟩
    exact ⟨hfresh, rfl⟩
  · rintro ⟨hfresh, rfl⟩
    exact ⟨(), hfresh, rfl⟩

theorem appendInternal_eq_ok {w : Platform} {tx tx' : Tx} {event : InternalEvent}
    (hkind : event.payload.rowKind = .internal) :
    tx.appendInternal w event = .ok tx' ↔
      tx.FreshId event.eventId ∧ tx' = tx.pushEvent w event := by
  rw [← appendInternalRaw_eq_ok, hkind]
  rfl

theorem insertAdapterEvent_eq_ok {w : Platform} {tx tx' : Tx} {raw : Bytes}
    {event : AdapterEventV1} :
    tx.insertEvent w event.eventId (some event.workItemId) (some event.attemptId) .adapterEvent
        event.occurredAt (.adapter raw) = .ok tx' ↔
      tx.FreshId event.eventId ∧ tx' = tx.push (adapterRow w raw event (tx.sequence + 1)) := by
  simp only [insertEvent, bind_eq_ok, refuseIf_eq_ok, any_eventId_eq_false, Except.ok.injEq]
  constructor
  · rintro ⟨_, hfresh, rfl⟩
    exact ⟨hfresh, rfl⟩
  · rintro ⟨hfresh, rfl⟩
    exact ⟨(), hfresh, rfl⟩

/-- The retained capacity history leaves room for one more event. -/
structure CapacityRoom (w : Platform) (t : RunTables) (event : InternalEvent)
    (maximumEventBytes maximumCapacityRows : Nat) : Prop where
  kind : event.payload.rowKind.isCapacity = true
  length : (w.canonical (.event event)).length ≤ maximumEventBytes
  room : ∃ retained, t.validateCapacityHistorySize w maximumEventBytes maximumCapacityRows =
      .ok retained ∧ retained.2 + 1 ≤ maximumCapacityRows ∧
    retained.1 + (w.canonical (.event event)).length ≤ maximumCapacityHistoryBytes

theorem appendInternalBounded_ok {w : Platform} {tx tx' : Tx} {event : InternalEvent}
    {maximumEventBytes maximumCapacityRows : Nat}
    (h : tx.appendInternalBounded w event maximumEventBytes maximumCapacityRows = .ok tx') :
    CapacityRoom w tx.tables event maximumEventBytes maximumCapacityRows ∧
      tx.FreshId event.eventId ∧ tx' = tx.pushEvent w event := by
  simp only [appendInternalBounded, bind_eq_ok, refuseIf_eq_ok] at h
  obtain ⟨_, hlength, _, hkind, retained, hsize, _, hroom, happend⟩ := h
  have hpush := appendInternalRaw_eq_ok.mp happend
  simp only [gt_iff_lt, decide_eq_false_iff_not, Nat.not_lt, Bool.or_eq_false_iff] at hlength hroom
  exact ⟨⟨by simpa using hkind, hlength, retained, hsize, hroom.1, hroom.2⟩, hpush⟩

theorem appendExecutionAvailabilityBounded_ok {w : Platform} {tx tx' : Tx}
    {event : InternalEvent} {maximumEventBytes : Nat}
    (h : tx.appendExecutionAvailabilityBounded w event maximumEventBytes = .ok tx') :
    event.payload.rowKind.isProvider = true ∧ tx.FreshId event.eventId ∧
      tx' = tx.pushProvider w event := by
  simp only [appendExecutionAvailabilityBounded, bind_eq_ok, refuseIf_eq_ok] at h
  obtain ⟨_, hkind, _, _, _, _, _, _, pushed, happend, hdone⟩ := h
  obtain ⟨hfresh, rfl⟩ := appendInternalRaw_eq_ok.mp happend
  refine ⟨by simpa using hkind, hfresh, ?_⟩
  simpa [pushProvider] using hdone.symm

end Tx

/-- A transaction that appended `rows`: the journal, its custody columns, the
receipts and the driver steps only grow, and the new rows are numbered on. -/
structure Grows (tx tx' : Tx) (rows : List EventRow) : Prop where
  run : tx'.tables.run = tx.tables.run
  markers : tx'.tables.markers = tx.tables.markers
  bootstrap : tx'.tables.bootstrap = tx.tables.bootstrap
  events : tx'.tables.events = tx.tables.events ++ rows
  sequence : tx'.sequence = tx.sequence + rows.length
  numbered : rows.map (·.sequence) = List.range' (tx.sequence + 1) rows.length
  identities : (tx.tables.events.map (·.eventId)).Nodup →
    (tx'.tables.events.map (·.eventId)).Nodup
  metadata : ∃ added, tx'.tables.metadata = tx.tables.metadata ++ added ∧
    ∀ row ∈ added, row.sequence ≤ tx'.sequence
  draws : tx.draws ≤ tx'.draws
  receipts : ∀ (item : String) (receipt : ReceiptRow),
    tx.tables.terminalReceipts[item]? = some receipt →
      tx'.tables.terminalReceipts[item]? = some receipt
  snapshot : ∀ row, tx.tables.finalSnapshot = some row → tx'.tables.finalSnapshot = some row
  driverSteps : tx.tables.driverSteps <+: tx'.tables.driverSteps

namespace Grows

variable {tx tx₁ tx₂ tx' : Tx} {rows rows₁ rows₂ : List EventRow}

theorem refl (tx : Tx) : Grows tx tx [] where
  run := rfl
  markers := rfl
  bootstrap := rfl
  events := by simp
  sequence := rfl
  numbered := rfl
  identities h := h
  metadata := ⟨[], by simp⟩
  draws := le_rfl
  receipts _ _ h := h
  snapshot _ h := h
  driverSteps := List.prefix_refl _

theorem trans (h₁ : Grows tx tx₁ rows₁) (h₂ : Grows tx₁ tx₂ rows₂) :
    Grows tx tx₂ (rows₁ ++ rows₂) where
  run := h₂.run.trans h₁.run
  markers := h₂.markers.trans h₁.markers
  bootstrap := h₂.bootstrap.trans h₁.bootstrap
  events := by rw [h₂.events, h₁.events, List.append_assoc]
  sequence := by rw [h₂.sequence, h₁.sequence, List.length_append, Nat.add_assoc]
  numbered := by
    rw [List.map_append, h₁.numbered, h₂.numbered, h₁.sequence, List.length_append,
      ← List.range'_append_1]
    congr 2
    omega
  identities h := h₂.identities (h₁.identities h)
  metadata := by
    obtain ⟨added₁, hadd₁, hseq₁⟩ := h₁.metadata
    obtain ⟨added₂, hadd₂, hseq₂⟩ := h₂.metadata
    refine ⟨added₁ ++ added₂, by rw [hadd₂, hadd₁, List.append_assoc], fun row hrow => ?_⟩
    rcases List.mem_append.mp hrow with hrow | hrow
    · exact (hseq₁ row hrow).trans (by rw [h₂.sequence]; omega)
    · exact hseq₂ row hrow
  draws := h₁.draws.trans h₂.draws
  receipts item receipt h := h₂.receipts item receipt (h₁.receipts item receipt h)
  snapshot row h := h₂.snapshot row (h₁.snapshot row h)
  driverSteps := h₁.driverSteps.trans h₂.driverSteps

/-- A transaction that touched none of the growing columns. -/
theorem of_tables (hsequence : tx'.sequence = tx.sequence) (hdraws : tx.draws ≤ tx'.draws)
    (hrun : tx'.tables.run = tx.tables.run) (hmarkers : tx'.tables.markers = tx.tables.markers)
    (hbootstrap : tx'.tables.bootstrap = tx.tables.bootstrap)
    (hevents : tx'.tables.events = tx.tables.events)
    (hmetadata : tx'.tables.metadata = tx.tables.metadata)
    (hreceipts : ∀ (item : String) (receipt : ReceiptRow),
      tx.tables.terminalReceipts[item]? = some receipt →
        tx'.tables.terminalReceipts[item]? = some receipt)
    (hsnapshot : ∀ row, tx.tables.finalSnapshot = some row →
      tx'.tables.finalSnapshot = some row)
    (hdriver : tx.tables.driverSteps <+: tx'.tables.driverSteps) : Grows tx tx' [] where
  run := hrun
  markers := hmarkers
  bootstrap := hbootstrap
  events := by simp [hevents]
  sequence := by simp [hsequence]
  numbered := rfl
  identities h := by rw [hevents]; exact h
  metadata := ⟨[], by simp [hmetadata]⟩
  draws := hdraws
  receipts := hreceipts
  snapshot := hsnapshot
  driverSteps := hdriver

theorem drawn (tx : Tx) : Grows tx tx.drawn [] :=
  of_tables rfl (Nat.le_succ _) rfl rfl rfl rfl rfl (fun _ _ h => h) (fun _ h => h)
    (List.prefix_refl _)

theorem push {row : EventRow} (hseq : row.sequence = tx.sequence + 1)
    (hfresh : tx.FreshId row.eventId) : Grows tx (tx.push row) [row] where
  run := rfl
  markers := rfl
  bootstrap := rfl
  events := rfl
  sequence := rfl
  numbered := by simp [hseq]
  identities h := by
    have hnot : row.eventId ∉ tx.tables.events.map (·.eventId) := by
      intro hmem
      obtain ⟨old, hold, heq⟩ := List.mem_map.mp hmem
      exact hfresh old hold heq
    simpa [Tx.push, List.nodup_append, h] using
      fun x hx heq => hnot (List.mem_map.mpr ⟨x, hx, heq⟩)
  metadata := ⟨[], by simp [Tx.push]⟩
  draws := le_rfl
  receipts _ _ h := h
  snapshot _ h := h
  driverSteps := List.prefix_refl _

theorem pushEvent (w : Platform) {event : InternalEvent} (hfresh : tx.FreshId event.eventId) :
    Grows tx (tx.pushEvent w event) [event.row w (tx.sequence + 1)] :=
  push rfl hfresh

theorem pushProvider (w : Platform) {event : InternalEvent}
    (hfresh : tx.FreshId event.eventId) :
    Grows tx (tx.pushProvider w event) [event.row w (tx.sequence + 1)] where
  run := rfl
  markers := rfl
  bootstrap := rfl
  events := rfl
  sequence := rfl
  numbered := rfl
  identities := (pushEvent w hfresh).identities
  metadata := ⟨[_], rfl, by simp [Tx.pushProvider, Tx.pushEvent, Tx.push]⟩
  draws := le_rfl
  receipts _ _ h := h
  snapshot _ h := h
  driverSteps := List.prefix_refl _

theorem deleteClaims (tx : Tx) (workItemId attemptId : String) :
    Grows tx (tx.deleteClaims workItemId attemptId) [] :=
  of_tables rfl le_rfl rfl rfl rfl rfl rfl (fun _ _ h => h) (fun _ h => h) (List.prefix_refl _)

theorem withClaims (tx : Tx) (claims : BTreeMap String (String × String)) :
    Grows tx (tx.withClaims claims) [] :=
  of_tables rfl le_rfl rfl rfl rfl rfl rfl (fun _ _ h => h) (fun _ h => h) (List.prefix_refl _)

theorem withReceipt {workItemId : String} (receipt : ReceiptRow)
    (h : tx.tables.terminalReceipts[workItemId]? = none) :
    Grows tx (tx.withReceipt workItemId receipt) [] := by
  refine of_tables rfl le_rfl rfl rfl rfl rfl rfl (fun item old hold => ?_) (fun _ h => h)
    (List.prefix_refl _)
  simp only [Tx.withReceipt, BTreeMap.getElem?_insert_eq]
  split
  · rename_i he
    rw [← he, h] at hold
    cases hold
  · exact hold

theorem withSnapshot (row : FinalSnapshotRow) (h : tx.tables.finalSnapshot = none) :
    Grows tx (tx.withSnapshot row) [] :=
  of_tables rfl le_rfl rfl rfl rfl rfl rfl (fun _ _ h => h)
    (fun old hold => by rw [h] at hold; cases hold) (List.prefix_refl _)

/-- A new row is numbered past every sequence used before. -/
theorem lt_sequence (h : Grows tx tx' rows) {row : EventRow} (hrow : row ∈ rows) :
    tx.sequence < row.sequence ∧ row.sequence ≤ tx'.sequence := by
  have hmem : row.sequence ∈ rows.map (·.sequence) := List.mem_map_of_mem hrow
  rw [h.numbered, List.mem_range'_1] at hmem
  rw [h.sequence]
  omega

end Grows

end Nightshift
