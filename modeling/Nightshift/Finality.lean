import Nightshift.Closeout

/-!
# Receipts are final

A turn names at most one item, and only one that has no receipt yet. A receipt
therefore settles its item for good, an item is attempted at most once and only
behind the receipts of its dependencies, and a closed run is silent.
-/

namespace Nightshift

open Checked

section Rules

variable {w : Platform} {runId : String} {c : Contracts} {t t' : RunTables} {scan scan' : Scan}
  {replay replay' : Scheduler.Replay} {P : RunTables → Scan → Scheduler.Replay → Prop}

/-- What every turn keeps holds of every later read of the run. -/
theorem Evolves.invariant (h : Evolves w runId c t scan replay t' scan' replay')
    (hP : P t scan replay)
    (hstep : ∀ tx tx' scan scan' replay rows events, Standing w runId c scan replay tx →
      Turn w runId c scan replay tx tx' rows events →
      Standing w runId c scan' (replay.run events) tx' →
      rows.foldlM (Scan.step w tx'.tables c) scan = .ok scan' →
      P tx.tables scan replay → P tx'.tables scan' (replay.run events)) : P t' scan' replay' := by
  induction h with
  | refl => exact hP
  | turn _ hstanding hturn hnext hscan ih => exact hstep _ _ _ _ _ _ _ hstanding hturn hnext hscan ih

/-- What admission establishes and every turn keeps holds of every reachable run. -/
theorem Store.Traced.invariant (h : Store.Traced w runId t c scan replay)
    (hstart : ∀ tx scan replay, Admitted w runId c tx → Standing w runId c scan replay tx →
      Admitted.Opened c replay → P tx.tables scan replay)
    (hstep : ∀ tx tx' scan scan' replay rows events, Standing w runId c scan replay tx →
      Turn w runId c scan replay tx tx' rows events →
      Standing w runId c scan' (replay.run events) tx' →
      rows.foldlM (Scan.step w tx'.tables c) scan = .ok scan' →
      P tx.tables scan replay → P tx'.tables scan' (replay.run events)) : P t scan replay := by
  obtain ⟨tx, scan₀, replay₀, hadmitted, hstanding, hopened, hevolves⟩ := h.origin
  exact hevolves.invariant (hstart tx scan₀ replay₀ hadmitted hstanding hopened) hstep

end Rules

/-- Two reads of one run, the second after any number of calls. -/
theorem Store.run_later (w : Platform) (before after : List Call) {runId : String} {t : RunTables}
    (ht : ((Store.empty : Store).run w before).runs[runId]? = some t) :
    ∃ c scan replay t' scan' replay', Store.Traced w runId t c scan replay ∧
      (((Store.empty : Store).run w before).run w after).runs[runId]? = some t' ∧
      Reads w runId t' c scan' replay' ∧ Evolves w runId c t scan replay t' scan' replay' := by
  obtain ⟨hsound, htraced⟩ := Store.run_traced w before
  obtain ⟨c, scan, replay, htrace⟩ := htraced runId t ht
  obtain ⟨t', scan', replay', ht', hr', hevolves⟩ := hsound.run_evolves after ht htrace.reads
  exact ⟨c, scan, replay, t', scan', replay', htrace, ht', hr', hevolves⟩

/-- The rows of events of one item are rows of that item. -/
theorem workItemId_of_mem_rowsOf {w : Platform} {n : Nat} {events : List InternalEvent}
    {id : Option String} (h : ∀ e ∈ events, e.workItemId = id) :
    ∀ row ∈ rowsOf w n events, row.workItemId = id := by
  intro row hrow
  obtain ⟨e, he, m, -, rfl⟩ := mem_rowsOf hrow
  exact h e he

section Named

variable {w : Platform} {runId : String} {c : Contracts} {scan : Scan}
  {replay : Scheduler.Replay} {tx tx' : Tx} {workItemId attemptId : String}
  {events : List InternalEvent}

theorem Disposed.names_item {history : History} {accepted : AcceptedDisposition}
    {predecessor : Option String}
    (h : Disposed w runId c scan replay tx tx' workItemId attemptId history accepted predecessor
      events) : ∀ e ∈ events, e.workItemId = some workItemId := by
  obtain ⟨locks, -, rfl⟩ := h.locks
  intro e he
  rcases List.mem_cons.mp he with rfl | he
  · rfl
  · split at he
    · obtain rfl := List.mem_singleton.mp he
      rfl
    · cases he

theorem Woken.names_item {wakeOccurrenceId : String} {history : History}
    {preparation : DispatchPreparation} {openedAt : Instant}
    {deferred : DeferredProviderDispatchV1} {opened : OpenedDispatch}
    (h : Woken w runId c scan replay tx tx' workItemId attemptId wakeOccurrenceId history
      preparation openedAt deferred opened events) :
    ∀ e ∈ events, e.workItemId = some workItemId := by
  obtain ⟨lockEvents, hlocks, rfl⟩ := h.locks
  intro e he
  rcases List.mem_append.mp he with he | he
  · cases hlocks with
    | reacquired locks =>
      obtain rfl := List.mem_singleton.mp he
      rfl
    | kept => cases he
  · rcases List.mem_cons.mp he with rfl | he
    · rfl
    · obtain rfl := List.mem_singleton.mp he
      rfl

theorem Ended.names_item {receipt : ReceiptRow} {payload : InternalPayload}
    (h : Ended w runId tx tx' workItemId attemptId receipt payload events) :
    ∀ e ∈ events, e.workItemId = some workItemId := by
  obtain ⟨eventId, releaseId, recordedAt, rfl⟩ := h.journaled
  intro e he
  simp only [endEvents, List.mem_cons, List.not_mem_nil, or_false] at he
  rcases he with rfl | rfl <;> rfl

end Named

namespace Turn

variable {w : Platform} {runId : String} {c : Contracts} {scan : Scan}
  {replay : Scheduler.Replay} {tx tx' : Tx} {rows : List EventRow} {events : List ReplayEvent}

/-- A turn names no item, or one item that has no receipt. -/
theorem subject (h : Turn w runId c scan replay tx tx' rows events) :
    (∀ row ∈ rows, row.workItemId = none) ∨ ∃ id item, replay.items[id]? = some item ∧
      item.schedulerState.isExplicitTerminal = false ∧
      ∀ row ∈ rows, row.workItemId = some id := by
  cases h with
  | kept | drove => exact .inl (by simp)
  | prepared h =>
    obtain ⟨item, hitem, -, hopen, -⟩ := h.item
    exact .inr ⟨_, item, hitem, hopen, workItemId_of_mem_rowsOf fun e he => (h.kinds e he).2.1⟩
  | disposed h =>
    obtain ⟨item, hitem, -, hopen⟩ := h.active
    exact .inr ⟨_, item, hitem, hopen, workItemId_of_mem_rowsOf h.names_item⟩
  | woken h =>
    obtain ⟨item, hitem, -, hopen⟩ := h.active
    exact .inr ⟨_, item, hitem, hopen, workItemId_of_mem_rowsOf h.names_item⟩
  | resumed h =>
    obtain ⟨item, hitem, -, hopen⟩ := h.active
    refine .inr ⟨_, item, hitem, hopen, workItemId_of_mem_rowsOf fun e he => ?_⟩
    obtain rfl := List.mem_singleton.mp (h.journaled ▸ he)
    rfl
  | transitioned _ h =>
    obtain ⟨item, hitem, -, hopen⟩ := h.active
    obtain ⟨eventId, recordedAt, rfl⟩ := h.journaled
    refine .inr ⟨_, item, hitem, hopen, workItemId_of_mem_rowsOf fun e he => ?_⟩
    obtain rfl := List.mem_singleton.mp he
    rfl
  | observed h =>
    obtain ⟨item, hitem, -, hopen⟩ := h.active
    refine .inr ⟨_, item, hitem, hopen, fun row hrow => ?_⟩
    obtain rfl := List.mem_singleton.mp hrow
    rfl
  | terminated _ h =>
    obtain ⟨item, hitem, -, hopen⟩ := h.active
    exact .inr ⟨_, item, hitem, hopen, workItemId_of_mem_rowsOf h.ended.names_item⟩
  | prelaunched _ h =>
    obtain ⟨item, hitem, -, hopen⟩ := h.active
    exact .inr ⟨_, item, hitem, hopen, workItemId_of_mem_rowsOf h.ended.names_item⟩
  | declined _ h =>
    obtain ⟨item, hitem, -, hopen⟩ := h.item
    obtain ⟨eventId, rfl⟩ := h.journaled
    refine .inr ⟨_, item, hitem, hopen, workItemId_of_mem_rowsOf fun e he => ?_⟩
    obtain rfl := List.mem_singleton.mp he
    rfl
  | closedOut h =>
    obtain ⟨eventId, recordedAt, digest, rfl⟩ := h.journaled
    refine .inl (workItemId_of_mem_rowsOf fun e he => ?_)
    obtain rfl := List.mem_singleton.mp he
    rfl

/-- The replay events of a turn name what its rows name. -/
theorem event_workItemId (h : Turn w runId c scan replay tx tx' rows events) {id : Option String}
    (hrows : ∀ row ∈ rows, row.workItemId = id) : ∀ event ∈ events, event.workItemId = id := by
  intro event hevent
  obtain ⟨row, hrow, hreplay⟩ := mem_of_mapM_eq_ok h.replays hevent
  exact (row.replayEvent_columns hreplay).1.trans (hrows row hrow)

/-- An item with a receipt is named by no row of a turn. -/
theorem spares_settled (h : Turn w runId c scan replay tx tx' rows events) {id : String}
    {item : LiveWorkItemV1} (hitem : replay.items[id]? = some item)
    (hterminal : item.schedulerState.isExplicitTerminal = true) :
    ∀ row ∈ rows, row.workItemId ≠ some id := by
  intro row hrow hnamed
  rcases h.subject with hnone | ⟨other, found, hfound, hopen, hnames⟩
  · have := hnone row hrow
    rw [hnamed] at this
    cases this
  · obtain rfl := Option.some.inj ((hnames row hrow).symm.trans hnamed)
    obtain rfl := Option.some.inj (hfound.symm.trans hitem)
    rw [hopen] at hterminal
    cases hterminal

/-- Neither is it changed in the replay. -/
theorem keeps_settled (h : Turn w runId c scan replay tx tx' rows events) {id : String}
    {item : LiveWorkItemV1} (hitem : replay.items[id]? = some item)
    (hterminal : item.schedulerState.isExplicitTerminal = true) :
    (replay.run events).items[id]? = some item := by
  rcases h.subject with hnone | ⟨other, found, hfound, hopen, hnames⟩
  · rw [(Scheduler.Replay.run_unnamed (h.event_workItemId hnone)).1, hitem]
  · have hne : id ≠ other := by
      rintro rfl
      obtain rfl := Option.some.inj (hfound.symm.trans hitem)
      rw [hopen] at hterminal
      cases hterminal
    rw [replay.run_items_other hne (h.event_workItemId hnames), hitem]

end Turn

/-! ## Items and their receipts -/

/-- The journal events that settle an item. -/
def ReplayKind.settles : ReplayKind → Bool
  | .terminalAccepted _ | .notStartedAccepted _ => true
  | _ => false

/-- The journal events that close the run. -/
def ReplayKind.closes : ReplayKind → Bool
  | .runClosed _ => true
  | _ => false

/-- The journal events that neither settle an item nor close the run. -/
def ReplayKind.routine (kind : ReplayKind) : Bool := !kind.settles && !kind.closes

/-- The state a receipt leaves, and the event that leaves it. -/
def ReceiptKind.state : ReceiptKind → SchedulerStateV1
  | .terminal => .terminalReceiptAccepted
  | .notStarted => .notStarted

def ReceiptKind.accepts : ReceiptKind → AcceptedOutcomeV1 → ReplayKind
  | .terminal, outcome => .terminalAccepted outcome
  | .notStarted, outcome => .notStartedAccepted outcome

@[simp] theorem ReceiptKind.state_isExplicitTerminal (kind : ReceiptKind) :
    kind.state.isExplicitTerminal = true := by cases kind <;> rfl

/-- An item without a receipt shows no outcome. -/
structure Unsettled (item : LiveWorkItemV1) : Prop where
  unreceipted : item.schedulerState.isExplicitTerminal = false
  outcome : item.acceptedTerminalOutcome = none
  absent : item.resultAbsentUntilTerminalReceiptAcceptance = true

/-- An item shows the outcome of its receipt row. -/
structure SettledBy (row : ReceiptRow) (item : LiveWorkItemV1) : Prop where
  state : item.schedulerState = row.receiptKind.state
  outcome : ∃ outcome, item.acceptedTerminalOutcome = some outcome ∧
    outcome.receiptDigest = row.receiptDigest
  present : item.resultAbsentUntilTerminalReceiptAcceptance = false

/-- An item and the receipt table agree. -/
def Agrees (t : RunTables) (id : String) (item : LiveWorkItemV1) : Prop :=
  (t.terminalReceipts[id]? = none ∧ Unsettled item) ∨
    ∃ row, t.terminalReceipts[id]? = some row ∧ SettledBy row item

theorem SettledBy.terminal {row : ReceiptRow} {item : LiveWorkItemV1} (h : SettledBy row item) :
    item.schedulerState.isExplicitTerminal = true := by
  rw [h.state, row.receiptKind.state_isExplicitTerminal]

namespace LiveWorkItemV1

variable {item : LiveWorkItemV1} {event : ReplayEvent}

/-- Only an event that settles an item makes it terminal. -/
theorem apply_isExplicitTerminal (hkind : event.kind.settles = false)
    (hopen : item.schedulerState.isExplicitTerminal = false) :
    (item.apply event).schedulerState.isExplicitTerminal = false := by
  unfold apply
  cases hevent : event.kind <;> rw [hevent] at hkind <;>
    first
      | exact hopen
      | rfl
      | cases hkind; done
      | skip
  case adapter adapterEvent =>
    simp only [applyAdapterEvent, stateAfterAdapter]
    cases adapterEvent.kind <;> first | exact hopen | rfl
  case providerDispositionRecorded state identity => cases state <;> rfl

theorem apply_unsettled (h : Unsettled item) (hkind : event.kind.settles = false) :
    Unsettled (item.apply event) := by
  refine ⟨apply_isExplicitTerminal hkind h.unreceipted, ?_, ?_⟩
  all_goals
    unfold apply
    cases hevent : event.kind <;> rw [hevent] at hkind <;>
      first
        | exact h.outcome
        | exact h.absent
        | cases hkind; done
        | skip
    case providerDispositionRecorded state identity =>
      cases identity <;> first | exact h.outcome | exact h.absent

theorem apply_accepts {row : ReceiptRow} {outcome : AcceptedOutcomeV1}
    (hkind : event.kind = row.receiptKind.accepts outcome)
    (hdigest : outcome.receiptDigest = row.receiptDigest) : SettledBy row (item.apply event) := by
  unfold apply
  rw [hkind]
  cases hrow : row.receiptKind <;> exact ⟨by rw [hrow]; rfl, ⟨outcome, rfl, hdigest⟩, rfl⟩

theorem apply_released {row : ReceiptRow} (h : SettledBy row item)
    (hkind : event.kind = .resourcesReleased) : SettledBy row (item.apply event) := by
  unfold apply
  rw [hkind]
  exact ⟨h.state, h.outcome, h.present⟩

theorem evaluateReadiness_unsettled (h : Unsettled item) (terminal held : BTreeSet String) :
    Unsettled (item.evaluateReadiness terminal held) :=
  ⟨by simpa using h.unreceipted, by simpa using h.outcome, by
    rw [evaluateReadiness_eq]
    exact h.absent⟩

theorem evaluateReadiness_settledBy {row : ReceiptRow} (h : SettledBy row item)
    (terminal held : BTreeSet String) : SettledBy row (item.evaluateReadiness terminal held) :=
  ⟨by rw [evaluateReadiness_schedulerState, readiness_of_terminal h.terminal, h.state],
    by simpa using h.outcome, by
    rw [evaluateReadiness_eq]
    exact h.present⟩

end LiveWorkItemV1

/-- What every event of a list keeps holds of the items behind it. -/
theorem Scheduler.Replay.run_items_of_events {P : String → LiveWorkItemV1 → Prop}
    {r : Scheduler.Replay} {events : List ReplayEvent}
    (hstep : ∀ id item, ∀ event ∈ events, P id item → P id (item.apply event))
    (h : ∀ (id : String) item, r.items[id]? = some item → P id item) :
    ∀ (id : String) item, (r.run events).items[id]? = some item → P id item := by
  induction events generalizing r with
  | nil => exact h
  | cons event events ih =>
    refine ih (fun id item e he => hstep id item e (List.mem_cons_of_mem _ he))
      fun id item hitem => ?_
    rw [step_items] at hitem
    split at hitem
    · obtain ⟨old, hold, rfl⟩ := Option.map_eq_some_iff.mp hitem
      exact hstep id old event List.mem_cons_self (h id old hold)
    · exact h id item hitem

/-- A turn that accepted one receipt. -/
structure Settling (replay : Scheduler.Replay) (tx tx' : Tx) (events : List ReplayEvent)
    (id : String) (receipt : ReceiptRow) : Prop where
  item : ∃ item, replay.items[id]? = some item
  receipts : tx'.tables.terminalReceipts = tx.tables.terminalReceipts.insert id receipt
  journaled : ∃ first rest outcome, events = first :: rest ∧ first.workItemId = some id ∧
    first.kind = receipt.receiptKind.accepts outcome ∧
    outcome.receiptDigest = receipt.receiptDigest ∧
    ∀ event ∈ rest, event.workItemId = some id ∧ event.kind = .resourcesReleased

section Routine

variable {w : Platform} {runId : String} {c : Contracts} {scan : Scan}
  {replay : Scheduler.Replay} {tx tx' : Tx} {workItemId attemptId : String}
  {events : List InternalEvent}

theorem routine_replayEventsOf {n : Nat}
    (h : ∀ e ∈ events, e.payload.replayKind.routine = true) :
    ∀ event ∈ replayEventsOf w n events, event.kind.routine = true := by
  intro event hevent
  obtain ⟨e, he, m, rfl⟩ := mem_replayEventsOf hevent
  exact h e he

theorem Prepared.routine {recordedAt : Instant} {preparation : Option DispatchPreparation}
    {opened : Option OpenedDispatch}
    (h : Prepared w runId c scan replay tx tx' workItemId attemptId recordedAt preparation opened
      events) : ∀ e ∈ events, e.payload.replayKind.routine = true := by
  obtain ⟨execution, request, capacityEvents, dispatchEvents, eventId, -, -, hcapacity, -, -, rfl,
    rfl⟩ := h.execution
  intro e he
  rcases List.mem_append.mp he with he | he
  · cases hcapacity with
    | none => cases he
    | some requirement capacity eventId =>
      obtain rfl := List.mem_singleton.mp he
      rfl
  · rcases List.mem_cons.mp he with rfl | he
    · rfl
    · obtain ⟨dispatch, -, rfl⟩ := Option.mem_map.mp (Option.mem_toList.mp he)
      rfl

theorem Disposed.routine {history : History} {accepted : AcceptedDisposition}
    {predecessor : Option String}
    (h : Disposed w runId c scan replay tx tx' workItemId attemptId history accepted predecessor
      events) : ∀ e ∈ events, e.payload.replayKind.routine = true := by
  obtain ⟨locks, -, rfl⟩ := h.locks
  intro e he
  rcases List.mem_cons.mp he with rfl | he
  · rfl
  · split at he
    · obtain rfl := List.mem_singleton.mp he
      rfl
    · cases he

theorem Woken.routine {wakeOccurrenceId : String} {history : History}
    {preparation : DispatchPreparation} {openedAt : Instant}
    {deferred : DeferredProviderDispatchV1} {opened : OpenedDispatch}
    (h : Woken w runId c scan replay tx tx' workItemId attemptId wakeOccurrenceId history
      preparation openedAt deferred opened events) :
    ∀ e ∈ events, e.payload.replayKind.routine = true := by
  obtain ⟨lockEvents, hlocks, rfl⟩ := h.locks
  intro e he
  rcases List.mem_append.mp he with he | he
  · cases hlocks with
    | reacquired locks =>
      obtain rfl := List.mem_singleton.mp he
      rfl
    | kept => cases he
  · rcases List.mem_cons.mp he with rfl | he
    · rfl
    · obtain rfl := List.mem_singleton.mp he
      rfl

theorem Ended.settling {receipt : ReceiptRow} {payload : InternalPayload}
    {outcome : AcceptedOutcomeV1}
    (h : Ended w runId tx tx' workItemId attemptId receipt payload events)
    (hitem : ∃ item, replay.items[workItemId]? = some item)
    (hkind : payload.replayKind = receipt.receiptKind.accepts outcome)
    (hdigest : outcome.receiptDigest = receipt.receiptDigest) :
    Settling replay tx tx' (replayEventsOf w tx.sequence events) workItemId receipt := by
  obtain ⟨eventId, releaseId, recordedAt, rfl⟩ := h.journaled
  refine ⟨hitem, h.receipts, _, _, outcome, rfl, rfl, hkind, hdigest, fun event hevent => ?_⟩
  obtain rfl := List.mem_singleton.mp hevent
  exact ⟨rfl, rfl⟩

end Routine

namespace Turn

variable {w : Platform} {runId : String} {c : Contracts} {scan : Scan}
  {replay : Scheduler.Replay} {tx tx' : Tx} {rows : List EventRow} {events : List ReplayEvent}

/-- A turn keeps receipts and closeout, or accepts one receipt, or closes the run. -/
theorem routine_or (h : Turn w runId c scan replay tx tx' rows events) :
    (tx'.tables.terminalReceipts = tx.tables.terminalReceipts ∧
        tx'.tables.finalSnapshot = tx.tables.finalSnapshot ∧
        ∀ event ∈ events, event.kind.routine = true) ∨
      (∃ id receipt, Settling replay tx tx' events id receipt ∧
        tx'.tables.finalSnapshot = tx.tables.finalSnapshot) ∨
      ∃ raw journaled, ClosedOut w runId replay tx tx' raw journaled ∧
        rows = rowsOf w tx.sequence journaled ∧
        events = replayEventsOf w tx.sequence journaled := by
  cases h with
  | kept h => exact .inl ⟨by rw [h], by rw [h], by simp⟩
  | drove h => exact .inl ⟨by rw [h.tables], by rw [h.tables], by simp⟩
  | prepared h => exact .inl ⟨h.same.receipts, h.same.snapshot, routine_replayEventsOf h.routine⟩
  | disposed h => exact .inl ⟨h.same.receipts, h.same.snapshot, routine_replayEventsOf h.routine⟩
  | woken h => exact .inl ⟨h.same.receipts, h.same.snapshot, routine_replayEventsOf h.routine⟩
  | resumed h =>
    refine .inl ⟨h.same.receipts, h.same.snapshot, routine_replayEventsOf fun e he => ?_⟩
    obtain rfl := List.mem_singleton.mp (h.journaled ▸ he)
    rfl
  | transitioned hpayload h =>
    obtain ⟨eventId, recordedAt, rfl⟩ := h.journaled
    refine .inl ⟨h.same.receipts, h.same.snapshot, routine_replayEventsOf fun e he => ?_⟩
    obtain rfl := List.mem_singleton.mp he
    cases hpayload <;> rfl
  | observed h =>
    refine .inl ⟨h.same.receipts, h.same.snapshot, fun event hevent => ?_⟩
    obtain rfl := List.mem_singleton.mp hevent
    rfl
  | terminated _ h =>
    obtain ⟨item, hitem, -⟩ := h.active
    exact .inr (.inl ⟨_, _, h.ended.settling ⟨item, hitem⟩ rfl rfl, h.ended.same.snapshot⟩)
  | prelaunched _ h =>
    obtain ⟨item, hitem, -⟩ := h.active
    exact .inr (.inl ⟨_, _, h.ended.settling ⟨item, hitem⟩ rfl rfl, h.ended.same.snapshot⟩)
  | declined _ h =>
    obtain ⟨item, hitem, -⟩ := h.item
    obtain ⟨eventId, rfl⟩ := h.journaled
    refine .inr (.inl ⟨_, _, ⟨⟨item, hitem⟩, h.receipts, _, [], _, rfl, rfl, rfl, rfl,
      fun event hevent => ?_⟩, h.same.snapshot⟩)
    cases hevent
  | closedOut h => exact .inr (.inr ⟨_, _, h, rfl, rfl⟩)

end Turn

/-- Closing the run settles no item. -/
theorem ClosedOut.unsettling {w : Platform} {runId : String} {replay : Scheduler.Replay}
    {tx tx' : Tx} {raw : Bytes} {events : List InternalEvent}
    (h : ClosedOut w runId replay tx tx' raw events) :
    ∀ event ∈ replayEventsOf w tx.sequence events, event.kind.settles = false := by
  obtain ⟨eventId, recordedAt, digest, rfl⟩ := h.journaled
  intro event hevent
  obtain rfl := List.mem_singleton.mp hevent
  rfl

theorem ReplayKind.settles_of_routine {kind : ReplayKind} (h : kind.routine = true) :
    kind.settles = false := by
  simp only [routine, Bool.and_eq_true, Bool.not_eq_true'] at h
  exact h.1

theorem ReplayKind.closes_of_routine {kind : ReplayKind} (h : kind.routine = true) :
    kind.closes = false := by
  simp only [routine, Bool.and_eq_true, Bool.not_eq_true'] at h
  exact h.2

/-- A turn accepts one receipt, or journals nothing that settles an item. -/
theorem Turn.settling_or {w : Platform} {runId : String} {c : Contracts} {scan : Scan}
    {replay : Scheduler.Replay} {tx tx' : Tx} {rows : List EventRow} {events : List ReplayEvent}
    (h : Turn w runId c scan replay tx tx' rows events) :
    (tx'.tables.terminalReceipts = tx.tables.terminalReceipts ∧
        ∀ event ∈ events, event.kind.settles = false) ∨
      ∃ id receipt, Settling replay tx tx' events id receipt := by
  rcases h.routine_or with
    ⟨hreceipts, -, hroutine⟩ | ⟨id, receipt, hsettling, -⟩ | ⟨raw, _, hclosed, -, rfl⟩
  · exact .inl ⟨hreceipts, fun event hevent => ReplayKind.settles_of_routine (hroutine event hevent)⟩
  · exact .inr ⟨id, receipt, hsettling⟩
  · exact .inl ⟨hclosed.receipts, hclosed.unsettling⟩

/-- The replay and the receipt table agree on every item, and receipts are of items. -/
structure Settled (t : RunTables) (replay : Scheduler.Replay) : Prop where
  items : ∀ (id : String) item, replay.items[id]? = some item → Agrees t id item
  receipts : ∀ (id : String) row, t.terminalReceipts[id]? = some row →
    ∃ item, replay.items[id]? = some item

/-- Every turn keeps items and receipts agreed. -/
theorem Turn.settled {w : Platform} {runId : String} {c : Contracts} {scan : Scan}
    {replay : Scheduler.Replay} {tx tx' : Tx} {rows : List EventRow} {events : List ReplayEvent}
    (h : Turn w runId c scan replay tx tx' rows events) (hs : Settled tx.tables replay) :
    Settled tx'.tables (replay.run events) := by
  have hkeys : ∀ id : String, (∃ item, replay.items[id]? = some item) →
      ∃ item, (replay.run events).items[id]? = some item := fun id hitem => by
    rw [← Option.isSome_iff_exists, Scheduler.Replay.run_items_isSome, Option.isSome_iff_exists]
    exact hitem
  have hbefore : ∀ (id : String) item', (replay.run events).items[id]? = some item' →
      ∃ item, replay.items[id]? = some item := fun id item' hitem' => by
    rw [← Option.isSome_iff_exists, ← Scheduler.Replay.run_items_isSome replay events, hitem']
    rfl
  rcases h.settling_or with ⟨hreceipts, hquiet⟩ | ⟨settled, receipt, hsettling⟩
  · refine ⟨fun id item' hitem' => ?_, fun id row hrow => hkeys id (hs.receipts id row ?_)⟩
    · obtain ⟨item, hitem⟩ := hbefore id item' hitem'
      rcases hs.items id item hitem with ⟨hnone, hunsettled⟩ | ⟨row, hrow, hsettled⟩
      · refine .inl ⟨by rw [hreceipts, hnone], ?_⟩
        refine Scheduler.Replay.run_items_of_events (P := fun other item => other = id →
          Unsettled item) (fun other item event hevent hP heq =>
            LiveWorkItemV1.apply_unsettled (hP heq) (hquiet event hevent)) ?_ id item' hitem' rfl
        rintro other found hfound rfl
        obtain rfl := Option.some.inj (hfound.symm.trans hitem)
        exact hunsettled
      · rw [h.keeps_settled hitem hsettled.terminal] at hitem'
        obtain rfl := Option.some.inj hitem'
        exact .inr ⟨row, by rw [hreceipts, hrow], hsettled⟩
    · rw [← hreceipts, hrow]
  · obtain ⟨first, rest, outcome, rfl, hfirst, hkind, hdigest, hrest⟩ := hsettling.journaled
    have hnamed : ∀ event ∈ first :: rest, event.workItemId = some settled := by
      rw [List.forall_mem_cons]
      exact ⟨hfirst, fun event hevent => (hrest event hevent).1⟩
    refine ⟨fun id item' hitem' => ?_, fun id row hrow => hkeys id ?_⟩
    · obtain ⟨item, hitem⟩ := hbefore id item' hitem'
      by_cases heq : id = settled
      · subst heq
        rw [replay.run_items_self hitem hnamed] at hitem'
        obtain rfl := Option.some.inj hitem'
        refine .inr ⟨receipt, by rw [hsettling.receipts, BTreeMap.getElem?_insert_eq, if_pos rfl], ?_⟩
        rw [List.foldl_cons]
        have hreleased : ∀ (rest : List ReplayEvent) (item : LiveWorkItemV1),
            (∀ event ∈ rest, event.kind = .resourcesReleased) → SettledBy receipt item →
              SettledBy receipt (rest.foldl LiveWorkItemV1.apply item) := by
          intro rest
          induction rest with
          | nil => exact fun _ _ h => h
          | cons event rest ih =>
            intro item hall hsettled
            rw [List.forall_mem_cons] at hall
            exact ih _ hall.2 (LiveWorkItemV1.apply_released hsettled hall.1)
        exact hreleased rest _ (fun event hevent => (hrest event hevent).2)
          (LiveWorkItemV1.apply_accepts hkind hdigest)
      · rw [replay.run_items_other heq hnamed, hitem] at hitem'
        obtain rfl := Option.some.inj hitem'
        have hother : tx'.tables.terminalReceipts[id]? = tx.tables.terminalReceipts[id]? := by
          rw [hsettling.receipts, BTreeMap.getElem?_insert_eq, if_neg (Ne.symm heq)]
        rcases hs.items id item hitem with ⟨hnone, hunsettled⟩ | ⟨row, hrow, hsettled⟩
        · exact .inl ⟨by rw [hother, hnone], hunsettled⟩
        · exact .inr ⟨row, by rw [hother, hrow], hsettled⟩
    · rw [hsettling.receipts, BTreeMap.getElem?_insert_eq] at hrow
      split at hrow
      case isTrue heq => exact heq ▸ hsettling.item
      case isFalse => exact hs.receipts id row hrow

/-- Before any event no item has a receipt. -/
theorem Admitted.settled {w : Platform} {runId : String} {c : Contracts} {tx : Tx}
    {replay : Scheduler.Replay} (h : Admitted w runId c tx) (hopened : Admitted.Opened c replay) :
    Settled tx.tables replay := by
  refine ⟨fun id item hitem => .inl ⟨by simp [h.receipts], ?_⟩, fun id row hrow => ?_⟩
  · obtain ⟨work, -, -, hfirst⟩ := (Scheduler.initialItems_spec hopened.items).1 id item hitem
    obtain ⟨-, -, -, -, hstate, houtcome⟩ := Scheduler.initialItem_eq_some hfirst
    refine ⟨by rw [hstate]; rfl, houtcome, ?_⟩
    simp only [Scheduler.initialItem, Option.bind_eq_bind, Option.bind_eq_some_iff] at hfirst
    obtain ⟨_, -, _, -, hitem⟩ := hfirst
    rw [← Option.some.inj hitem]
  · rw [h.receipts] at hrow
    simp at hrow

theorem Store.Traced.settled {w : Platform} {runId : String} {t : RunTables} {c : Contracts}
    {scan : Scan} {replay : Scheduler.Replay} (h : Store.Traced w runId t c scan replay) :
    Settled t replay :=
  h.invariant (P := fun t _ replay => Settled t replay)
    (fun _ _ _ hadmitted _ hopened => hadmitted.settled hopened)
    fun _ _ _ _ _ _ _ _ hturn _ _ hs => hturn.settled hs

/-- An item with a receipt is never named again and keeps its receipt. -/
theorem Evolves.settled {w : Platform} {runId : String} {c : Contracts} {t t' : RunTables}
    {scan scan' : Scan} {replay replay' : Scheduler.Replay}
    (h : Evolves w runId c t scan replay t' scan' replay') {id : String} {item : LiveWorkItemV1}
    {row : ReceiptRow} (hitem : replay.items[id]? = some item)
    (hterminal : item.schedulerState.isExplicitTerminal = true)
    (hrow : t.terminalReceipts[id]? = some row) :
    replay'.items[id]? = some item ∧ t'.terminalReceipts[id]? = some row ∧
      ∃ more, t'.events = t.events ++ more ∧ ∀ row ∈ more, row.workItemId ≠ some id := by
  refine h.invariant (P := fun t' _ replay' => replay'.items[id]? = some item ∧
    t'.terminalReceipts[id]? = some row ∧
      ∃ more, t'.events = t.events ++ more ∧ ∀ row ∈ more, row.workItemId ≠ some id)
    ⟨hitem, hrow, [], by simp, by simp⟩ fun tx tx' _ _ _ rows _ _ hturn _ _ hP => ?_
  obtain ⟨hitem', hrow', more, hevents, hmore⟩ := hP
  refine ⟨hturn.keeps_settled hitem' hterminal, hturn.grows.receipts id row hrow', more ++ rows,
    by rw [hturn.grows.events, hevents, List.append_assoc], fun row hmem => ?_⟩
  rcases List.mem_append.mp hmem with hmem | hmem
  · exact hmore row hmem
  · exact hturn.spares_settled hitem' hterminal row hmem

/-- In every reachable run the receipt table and the projection say the same: an item shows
an outcome exactly when it has a receipt row, then that of the row, and no receipt is of
anything else. -/
theorem Store.run_receipts_settle (w : Platform) (calls : List Call) (runId : String)
    (t : RunTables) (ht : ((Store.empty : Store).run w calls).runs[runId]? = some t) :
    ∃ projection, loadProjection w t runId = .ok projection ∧
      (∀ item ∈ projection.workItems, Agrees t item.workItemId item) ∧
      ∀ (id : String) row, t.terminalReceipts[id]? = some row →
        ∃ item ∈ projection.workItems, item.workItemId = id := by
  obtain ⟨c, scan, replay, htraced⟩ := (Store.run_traced w calls).2 runId t ht
  have hr := htraced.reads
  have hsettled := htraced.settled
  refine ⟨_, hr.loads, fun item hitem => ?_, fun id row hrow => ?_⟩
  · obtain ⟨raw, hraw, rfl⟩ := hr.mem_workItems.mp hitem
    rw [LiveWorkItemV1.evaluateReadiness_workItemId]
    rcases hsettled.items _ raw hraw with ⟨hnone, hunsettled⟩ | ⟨row, hrow, hby⟩
    · exact .inl ⟨hnone, LiveWorkItemV1.evaluateReadiness_unsettled hunsettled _ _⟩
    · exact .inr ⟨row, hrow, LiveWorkItemV1.evaluateReadiness_settledBy hby _ _⟩
  · obtain ⟨raw, hraw⟩ := hsettled.receipts id row hrow
    have hid : raw.workItemId = id := (hr.charts hraw).workItemId
    exact ⟨_, hr.mem_workItems.mpr ⟨raw, hid.symm ▸ hraw, rfl⟩, by simpa using hid⟩

/-- The open attempt of the bench has no receipt and shows no outcome. -/
theorem Store.run_receipts_settle_open_attempt : ∃ t projection,
    ((Store.empty : Store).run benchPlatform Bench.openAttempt).runs["run-1"]? = some t ∧
      loadProjection benchPlatform t "run-1" = .ok projection ∧
      ∀ item ∈ projection.workItems, Agrees t item.workItemId item := by
  obtain ⟨t, ht⟩ := Store.open_attempt_reached
  obtain ⟨projection, hloads, hagrees, -⟩ :=
    Store.run_receipts_settle benchPlatform Bench.openAttempt "run-1" t ht
  exact ⟨t, projection, ht, hloads, hagrees⟩

/-- A run that was closed has its snapshot. -/
theorem Store.run_close {w : Platform} {calls : List Call} {runId : String} {updatedAt : Instant}
    {raw : Bytes} {s : Store}
    (h : ((Store.empty : Store).run w calls).close w runId updatedAt = .ok (raw, s)) :
    (Store.empty : Store).run w (calls ++ [.close runId updatedAt]) = s ∧
      ∃ t snapshot, s.runs[runId]? = some t ∧ t.finalSnapshot = some snapshot := by
  constructor
  · have hperform : ((Store.empty : Store).run w calls).perform w (.close runId updatedAt) =
        .ok (.bytes raw, s) := Store.replyWith_eq_ok.mpr ⟨raw, h, rfl⟩
    rw [Store.run, List.foldl_append]
    show ((Store.empty : Store).run w calls).after w (.close runId updatedAt) = s
    rw [Store.after, hperform]
  · obtain ⟨tx, tx', -, hbody, hcommit⟩ := Store.transact_eq_ok.mp h
    have hruns : s.runs[runId]? = some tx'.tables := by
      rw [hcommit, Store.commit_runs, BTreeMap.getElem?_insert_eq, if_pos rfl]
    unfold Tx.close at hbody
    split at hbody
    case h_1 row hrow =>
      obtain ⟨-, rfl⟩ := Prod.mk.inj (Except.ok.inj hbody)
      exact ⟨tx.tables, row, hruns, hrow⟩
    case h_2 =>
      simp only [bind_eq_ok, Except.ok.injEq, Prod.mk.injEq] at hbody
      obtain ⟨_, -, _, -, _, -, _, -, _, -, document, -, tx₁, happend, -, rfl⟩ := hbody
      obtain ⟨-, rfl⟩ := (Tx.appendInternal_eq_ok rfl).mp happend
      exact ⟨_, _, hruns, rfl⟩

/-- A close that a reader saw a receipt in leaves a closed run with that receipt. -/
theorem Store.closed_of_close {w : Platform} {calls : List Call} {runId id : String}
    {updatedAt : Instant} {α : Type} {read : Bytes × Store → ReceiptRow → α} {value : α}
    (h : (((Store.empty : Store).run w calls).close w runId updatedAt).toOption.bind (fun result =>
      (result.2.runs[runId]?).bind fun t => (t.terminalReceipts[id]?).map (read result)) =
        some value) :
    ∃ t row snapshot,
      ((Store.empty : Store).run w (calls ++ [.close runId updatedAt])).runs[runId]? = some t ∧
        t.terminalReceipts[id]? = some row ∧ t.finalSnapshot = some snapshot := by
  simp only [Option.bind_eq_some_iff, Option.map_eq_some_iff, toOption_eq_some] at h
  obtain ⟨⟨raw, s⟩, hclose, t, ht, receipt, hreceipt, -⟩ := h
  obtain ⟨hrun, t', snapshot, ht', hsnapshot⟩ := Store.run_close hclose
  obtain rfl := Option.some.inj (ht'.symm.trans ht)
  exact ⟨_, receipt, snapshot, by rw [hrun, ht], hreceipt, hsnapshot⟩

/-- The declined run, closed at 5.7 seconds. -/
def Bench.closedRun : List Call := Bench.declinedRun ++ [.close "run-1" 5700000000]

/-- A second receipt of the second item and a second close. -/
def Bench.afterClose : List Call := [.acceptNotStarted [11, 1], .close "run-1" 8000000000]

/-- The bench run is closed with a receipt of its second item. -/
theorem Store.closed_reached : ∃ t row snapshot,
    ((Store.empty : Store).run Bench.closeoutPlatform Bench.closedRun).runs["run-1"]? = some t ∧
    t.terminalReceipts["b"]? = some row ∧ t.finalSnapshot = some snapshot :=
  Store.closed_of_close Store.closes_evaluated.2

/-- A receipt is final: whatever is called later, its row stays, no journal row names its
item again, and the item keeps its state, its attempt, its identities and its outcome. -/
theorem Store.run_receipt_final (w : Platform) (before after : List Call) (runId id : String)
    (t : RunTables) (row : ReceiptRow)
    (ht : ((Store.empty : Store).run w before).runs[runId]? = some t)
    (hrow : t.terminalReceipts[id]? = some row) :
    ∃ projection t' projection' item item' more, loadProjection w t runId = .ok projection ∧
      item ∈ projection.workItems ∧ item.workItemId = id ∧ SettledBy row item ∧
      (((Store.empty : Store).run w before).run w after).runs[runId]? = some t' ∧
      loadProjection w t' runId = .ok projection' ∧ item' ∈ projection'.workItems ∧
      { item' with dependencyTerminality := item.dependencyTerminality } = item ∧
      t'.terminalReceipts[id]? = some row ∧ t'.events = t.events ++ more ∧
      ∀ row ∈ more, row.workItemId ≠ some id := by
  obtain ⟨c, scan, replay, t', scan', replay', htraced, ht', hr', hevolves⟩ :=
    Store.run_later w before after ht
  have hr := htraced.reads
  have hsettled := htraced.settled
  obtain ⟨raw, hraw⟩ := hsettled.receipts id row hrow
  have hid : raw.workItemId = id := (hr.charts hraw).workItemId
  have hby : SettledBy row raw := by
    rcases hsettled.items id raw hraw with ⟨hnone, -⟩ | ⟨found, hfound, hby⟩
    · rw [hrow] at hnone
      cases hnone
    · obtain rfl := Option.some.inj (hfound.symm.trans hrow)
      exact hby
  obtain ⟨hraw', hrow', more, hevents, hmore⟩ := hevolves.settled hraw hby.terminal hrow
  refine ⟨_, t', _, raw.evaluateReadiness replay.terminal replay.held,
    raw.evaluateReadiness replay'.terminal replay'.held, more, hr.loads,
    hr.mem_workItems.mpr ⟨raw, hid.symm ▸ hraw, rfl⟩, by simpa using hid,
    LiveWorkItemV1.evaluateReadiness_settledBy hby _ _, ht', hr'.loads,
    hr'.mem_workItems.mpr ⟨raw, hid.symm ▸ hraw', rfl⟩, ?_, hrow', hevents, hmore⟩
  simp only [LiveWorkItemV1.evaluateReadiness_eq, LiveWorkItemV1.readiness_of_terminal hby.terminal]

/-- The calls after the close change nothing of the receipt. -/
theorem Store.run_receipt_final_bench : ∃ t t' row more,
    ((Store.empty : Store).run Bench.closeoutPlatform Bench.closedRun).runs["run-1"]? = some t ∧
    t.terminalReceipts["b"]? = some row ∧
    (((Store.empty : Store).run Bench.closeoutPlatform Bench.closedRun).run Bench.closeoutPlatform
      Bench.afterClose).runs["run-1"]? = some t' ∧
    t'.terminalReceipts["b"]? = some row ∧ t'.events = t.events ++ more ∧
    ∀ row ∈ more, row.workItemId ≠ some "b" := by
  obtain ⟨t, row, -, ht, hrow, -⟩ := Store.closed_reached
  obtain ⟨_, t', _, _, _, more, -, -, -, -, ht', -, -, -, hrow', hevents, hmore⟩ :=
    Store.run_receipt_final Bench.closeoutPlatform Bench.closedRun Bench.afterClose "run-1" "b" t row
      ht hrow
  exact ⟨t, t', row, more, ht, hrow, ht', hrow', hevents, hmore⟩

/-! ## The closed run -/

/-- The journal row that closes the run. -/
def EventRow.Closing (row : EventRow) : Prop :=
  ∃ digest, row.payload? = some (.runClosed digest)

theorem EventRow.replayEvent_payload {w : Platform} {row : EventRow} {event : ReplayEvent}
    {payload : InternalPayload} (h : row.replayEvent w = .ok event)
    (hpayload : row.payload? = some payload) : event.kind = payload.replayKind := by
  unfold payload? at hpayload
  split at hpayload
  case h_2 => cases hpayload
  case h_1 e hbody =>
    split at hpayload
    case isTrue => cases hpayload
    case isFalse hkind =>
      obtain rfl := Option.some.inj hpayload
      simp only [replayEvent, internalEvent, hbody, beq_iff_eq, if_neg hkind, map_eq_ok,
        bind_eq_ok, Except.ok.injEq] at h
      obtain ⟨_, ⟨_, rfl, rfl⟩, rfl⟩ := h
      rfl

/-- A turn whose events close nothing appends no closing row. -/
theorem Turn.not_closing {w : Platform} {runId : String} {c : Contracts} {scan : Scan}
    {replay : Scheduler.Replay} {tx tx' : Tx} {rows : List EventRow} {events : List ReplayEvent}
    (h : Turn w runId c scan replay tx tx' rows events)
    (hevents : ∀ event ∈ events, event.kind.closes = false) : ∀ row ∈ rows, ¬ row.Closing := by
  rintro row hrow ⟨digest, hpayload⟩
  obtain ⟨index, hindex⟩ := List.getElem?_of_mem hrow
  obtain ⟨event, hreplay, hat⟩ := getElem?_of_mapM_eq_ok h.replays hindex
  have hkind := hevents event (List.mem_of_getElem? hat)
  rw [EventRow.replayEvent_payload hreplay hpayload] at hkind
  cases hkind

/-- A run is closed by its last journal row and by no other. -/
structure ClosedOnce (t : RunTables) (replay : Scheduler.Replay) : Prop where
  unclosed : t.finalSnapshot = none → ∀ row ∈ t.events, ¬ row.Closing
  closed : ∀ snapshot, t.finalSnapshot = some snapshot → ∃ rows row, t.events = rows ++ [row] ∧
    row.Closing ∧ ∀ row ∈ rows, ¬ row.Closing
  complete : ∀ snapshot, t.finalSnapshot = some snapshot → ∀ (id : String) item,
    replay.items[id]? = some item → item.schedulerState.isExplicitTerminal = true

/-- On a closed run a turn retains at most one driver step. -/
theorem Turn.silent {w : Platform} {runId : String} {c : Contracts} {scan : Scan}
    {replay : Scheduler.Replay} {tx tx' : Tx} {rows : List EventRow} {events : List ReplayEvent}
    {snapshot : FinalSnapshotRow} (h : Turn w runId c scan replay tx tx' rows events)
    (hsnapshot : tx.tables.finalSnapshot = some snapshot)
    (hcomplete : ∀ (id : String) item, replay.items[id]? = some item →
      item.schedulerState.isExplicitTerminal = true) :
    tx'.tables = { tx.tables with driverSteps := tx'.tables.driverSteps } ∧ events = [] := by
  have hnone : ∀ {id : String} {item : LiveWorkItemV1}, replay.items[id]? = some item →
      item.schedulerState.isExplicitTerminal = false → False := fun hitem hopen => by
    rw [hcomplete _ _ hitem] at hopen
    cases hopen
  cases h with
  | kept h => exact ⟨by rw [h], rfl⟩
  | drove h => exact ⟨by rw [h.tables], rfl⟩
  | prepared h =>
    obtain ⟨item, hitem, -, hopen, -⟩ := h.item
    exact (hnone hitem hopen).elim
  | disposed h =>
    obtain ⟨item, hitem, -, hopen⟩ := h.active
    exact (hnone hitem hopen).elim
  | woken h =>
    obtain ⟨item, hitem, -, hopen⟩ := h.active
    exact (hnone hitem hopen).elim
  | resumed h =>
    obtain ⟨item, hitem, -, hopen⟩ := h.active
    exact (hnone hitem hopen).elim
  | transitioned _ h =>
    obtain ⟨item, hitem, -, hopen⟩ := h.active
    exact (hnone hitem hopen).elim
  | observed h =>
    obtain ⟨item, hitem, -, hopen⟩ := h.active
    exact (hnone hitem hopen).elim
  | terminated _ h =>
    obtain ⟨item, hitem, -, hopen⟩ := h.active
    exact (hnone hitem hopen).elim
  | prelaunched _ h =>
    obtain ⟨item, hitem, -, hopen⟩ := h.active
    exact (hnone hitem hopen).elim
  | declined _ h =>
    obtain ⟨item, hitem, -, hopen⟩ := h.item
    exact (hnone hitem hopen).elim
  | closedOut h =>
    rw [h.unclosed] at hsnapshot
    cases hsnapshot

theorem Turn.closedOnce {w : Platform} {runId : String} {c : Contracts} {scan : Scan}
    {replay : Scheduler.Replay} {tx tx' : Tx} {rows : List EventRow} {events : List ReplayEvent}
    (h : Turn w runId c scan replay tx tx' rows events) (hclosed : ClosedOnce tx.tables replay) :
    ClosedOnce tx'.tables (replay.run events) := by
  cases hsnapshot : tx.tables.finalSnapshot with
  | some snapshot =>
    obtain ⟨htables, rfl⟩ := h.silent hsnapshot (hclosed.complete snapshot hsnapshot)
    rw [htables]
    exact ⟨hclosed.unclosed, hclosed.closed, hclosed.complete⟩
  | none =>
    have hopen := hclosed.unclosed hsnapshot
    have hquiet : tx'.tables.finalSnapshot = tx.tables.finalSnapshot →
        (∀ event ∈ events, event.kind.closes = false) →
          ClosedOnce tx'.tables (replay.run events) := by
      intro hsame hevents
      refine ⟨fun _ row hrow => ?_, fun snapshot hsome => ?_, fun snapshot hsome => ?_⟩
      · rw [h.grows.events] at hrow
        rcases List.mem_append.mp hrow with hrow | hrow
        · exact hopen row hrow
        · exact h.not_closing hevents row hrow
      all_goals
        rw [hsame, hsnapshot] at hsome
        cases hsome
    rcases h.routine_or with
      ⟨-, hsame, hroutine⟩ | ⟨id, receipt, hsettling, hsame⟩ | ⟨raw, _, hclosedOut, hrows, rfl⟩
    · exact hquiet hsame fun event hevent => ReplayKind.closes_of_routine (hroutine event hevent)
    · refine hquiet hsame ?_
      obtain ⟨first, rest, outcome, rfl, -, hkind, -, hrest⟩ := hsettling.journaled
      rw [List.forall_mem_cons]
      refine ⟨?_, fun event hevent => by rw [(hrest event hevent).2]; rfl⟩
      rw [hkind]
      cases receipt.receiptKind <;> rfl
    · obtain ⟨row, hrow, -⟩ := hclosedOut.snapshot
      obtain ⟨eventId, recordedAt, digest, rfl⟩ := hclosedOut.journaled
      refine ⟨fun hnone => ?_, fun _ _ => ⟨tx.tables.events,
        (journalEvent runId eventId none none recordedAt (.runClosed digest)).row w
          (tx.sequence + 1), ?_, ?_, hopen⟩, fun _ _ id item hitem => ?_⟩
      · rw [hrow] at hnone
        cases hnone
      · rw [h.grows.events, hrows]
        rfl
      · exact ⟨digest, InternalEvent.row_payload? _ _ _⟩
      · rw [(Scheduler.Replay.run_unnamed fun event hevent => ?_).1] at hitem
        · exact hclosedOut.complete id item hitem
        · obtain rfl := List.mem_singleton.mp hevent
          rfl

theorem Store.Traced.closedOnce {w : Platform} {runId : String} {t : RunTables} {c : Contracts}
    {scan : Scan} {replay : Scheduler.Replay} (h : Store.Traced w runId t c scan replay) :
    ClosedOnce t replay := by
  refine h.invariant (P := fun t _ replay => ClosedOnce t replay)
    (fun tx _ _ hadmitted _ _ => ⟨fun _ row hrow hclosing => ?_, ?_, ?_⟩)
    fun _ _ _ _ _ _ _ _ hturn _ _ hs => hturn.closedOnce hs
  · obtain ⟨evaluatedAt, mechanisms, events, n, -, ⟨⟨runEvent, capacityEvent, availabilityEvent,
      rfl⟩⟩, hrows⟩ := hadmitted.journal
    obtain ⟨digest, hpayload⟩ := hclosing
    rw [hrows] at hrow
    obtain ⟨e, he, m, -, rfl⟩ := mem_rowsOf hrow
    rw [InternalEvent.row_payload?] at hpayload
    rcases List.mem_cons.mp he with rfl | he
    · cases hpayload
    · rcases List.mem_append.mp he with he | he <;>
        (obtain ⟨value, -, rfl⟩ := Option.mem_map.mp (Option.mem_toList.mp he)
         cases hpayload)
  all_goals
    intro snapshot hsome
    rw [hadmitted.snapshot] at hsome
    cases hsome

/-- A closed run is silent: every item has its receipt, its last journal row and no other
closes it, and whatever is called later adds no row, no receipt and no claim. -/
theorem Store.run_closed_silent (w : Platform) (before after : List Call) (runId : String)
    (t : RunTables) (snapshot : FinalSnapshotRow)
    (ht : ((Store.empty : Store).run w before).runs[runId]? = some t)
    (hsnapshot : t.finalSnapshot = some snapshot) :
    ∃ projection t' rows row, loadProjection w t runId = .ok projection ∧
      (∀ item ∈ projection.workItems, ∃ receipt,
        t.terminalReceipts[item.workItemId]? = some receipt ∧ SettledBy receipt item) ∧
      t.events = rows ++ [row] ∧ row.Closing ∧ (∀ row ∈ rows, ¬ row.Closing) ∧
      (((Store.empty : Store).run w before).run w after).runs[runId]? = some t' ∧
      t' = { t with driverSteps := t'.driverSteps } := by
  obtain ⟨c, scan, replay, t', scan', replay', htraced, ht', hr', hevolves⟩ :=
    Store.run_later w before after ht
  have hr := htraced.reads
  have hclosed := htraced.closedOnce
  obtain ⟨rows, row, hrows, hrow, hothers⟩ := hclosed.closed snapshot hsnapshot
  have hcomplete := hclosed.complete snapshot hsnapshot
  refine ⟨_, t', rows, row, hr.loads, fun item hitem => ?_, hrows, hrow, hothers, ht', ?_⟩
  · obtain ⟨raw, hraw, rfl⟩ := hr.mem_workItems.mp hitem
    rw [LiveWorkItemV1.evaluateReadiness_workItemId]
    rcases htraced.settled.items _ raw hraw with ⟨-, hunsettled⟩ | ⟨receipt, hreceipt, hby⟩
    · have hterminal := hcomplete _ raw hraw
      rw [hunsettled.unreceipted] at hterminal
      cases hterminal
    · exact ⟨receipt, hreceipt, LiveWorkItemV1.evaluateReadiness_settledBy hby _ _⟩
  · refine (hevolves.invariant (P := fun t' _ replay' => replay'.items = replay.items ∧
      t' = { t with driverSteps := t'.driverSteps }) ⟨rfl, rfl⟩ ?_).2
    intro tx tx' _ _ replay₁ _ events _ hturn _ _ hP
    obtain ⟨hitems, htables⟩ := hP
    have hsome : tx.tables.finalSnapshot = some snapshot := by rw [htables]; exact hsnapshot
    obtain ⟨htables', rfl⟩ := hturn.silent hsome (by rw [hitems]; exact hcomplete)
    refine ⟨hitems, ?_⟩
    rw [htables', htables]

/-- Nor of the run. -/
theorem Store.run_closed_silent_bench : ∃ t t',
    ((Store.empty : Store).run Bench.closeoutPlatform Bench.closedRun).runs["run-1"]? = some t ∧
    (((Store.empty : Store).run Bench.closeoutPlatform Bench.closedRun).run Bench.closeoutPlatform
      Bench.afterClose).runs["run-1"]? = some t' ∧
    t' = { t with driverSteps := t'.driverSteps } := by
  obtain ⟨t, -, snapshot, ht, -, hsnapshot⟩ := Store.closed_reached
  obtain ⟨_, t', _, _, -, -, -, -, -, ht', hsame⟩ :=
    Store.run_closed_silent Bench.closeoutPlatform Bench.closedRun Bench.afterClose "run-1" t snapshot
      ht hsnapshot
  exact ⟨t, t', ht, ht', hsame⟩

end Nightshift
