import Nightshift.Continuation

/-!
# The turns of a run

Every successful call on an admitted run is one of twelve turns. A turn appends
its rows to the journal, and the run reads again after it.
-/

namespace Nightshift

open Checked

/-- The retained row of a driver step. -/
def SelfHostedForemanDriverStepV1.row (step : SelfHostedForemanDriverStepV1) : DriverStepRow :=
  ⟨step.stepOrdinal, step.stepDigest, step.schedulerProcessOccurrenceId, step.recordedAt, step⟩

/-- The next driver step continues the retained ones. -/
structure Continues (w : Platform) (runId : String) (t : RunTables) (custody : SelfHostedCustody)
    (step : SelfHostedForemanDriverStepV1) : Prop where
  valid : step.validate w = .ok ()
  run : step.runId = runId
  bootstrap : step.bootstrapDigest = custody.bootstrap.bootstrapDigest
  occurrence : step.bootstrapOccurrenceId = custody.bootstrap.bootstrapOccurrenceId
  ordinal : step.stepOrdinal = custody.steps.length + 1
  bounded : step.stepOrdinal ≤ custody.bootstrap.maximumDriverSteps
  evaluated : custody.bootstrap.evaluatedAt ≤ step.recordedAt
  ordered : ∀ prior, custody.steps.getLast? = some prior →
    prior.recordedAt ≤ step.recordedAt ∧ prior.disposition.closesDriver = false
  length : (w.canonical (.driverStep step)).length ≤ maximumSelfHostedDriverStepBytes
  total : (t.driverSteps.map fun row => (row.rawBytes w).length).sum +
    (w.canonical (.driverStep step)).length ≤ maximumSelfHostedHistoryBytes

/-- What a driver call that retained a new step did. -/
structure Drove (w : Platform) (runId : String) (tx tx' : Tx) (custody : SelfHostedCustody)
    (step : SelfHostedForemanDriverStepV1) : Prop where
  loads : loadSelfHostedBootstrap w tx.tables runId = .ok custody
  continues : Continues w runId tx.tables custody step
  tables : tx' = { tx with tables := { tx.tables with
    driverSteps := tx.tables.driverSteps ++ [step.row] } }

theorem Tx.retainDriverStep_ok {w : Platform} {runId : String} {tx tx' : Tx}
    {custody : SelfHostedCustody} {retained : List String} {ordinal : Nat} {process : String}
    {recordedAt : Instant} {step : SelfHostedForemanDriverStepV1}
    (hcustody : loadSelfHostedBootstrap w tx.tables runId = .ok custody)
    (h : tx.retainDriverStep w runId custody retained ordinal process recordedAt =
      .ok (step, tx')) :
    Drove w runId tx tx' custody step ∧ step.stepOrdinal = ordinal := by
  simp only [retainDriverStep, bind_eq_ok, refuseIf_eq_ok, okOr_eq_ok, mapErr_eq_ok,
    Bool.or_eq_false_iff, bne_eq_false_iff_eq, decide_eq_false_iff_not, gt_iff_lt, not_lt,
    Except.ok.injEq, Prod.mk.injEq] at h
  obtain ⟨_, -, _, ⟨⟨⟨⟨hordinal, hbound⟩, hevaluated⟩, hlater⟩, hopen⟩, deadline, -, projection, -,
    made, hsealed, _, hlength, _, htotal, _, -, rfl, rfl⟩ := h
  simp only [SelfHostedForemanDriverStepV1.sealed, bind_eq_ok, Except.ok.injEq] at hsealed
  obtain ⟨_, hvalid, rfl⟩ := hsealed
  refine ⟨⟨hcustody, ⟨hvalid, rfl, rfl, rfl, hordinal, hbound, hevaluated, fun prior hprior => ?_,
    hlength.2, htotal⟩, rfl⟩, rfl⟩
  rw [hprior] at hlater hopen
  exact ⟨by simpa using hlater, by simpa using hopen⟩

/-- A driver call returns the retained step of its ordinal or retains the next. -/
theorem Tx.advanceSelfHostedDriver_ok {w : Platform} {runId : String} {tx tx' : Tx}
    {retained : List String} {bootstrapDigest : String} {ordinal : Nat} {process : String}
    {recordedAt : Instant} {step : SelfHostedForemanDriverStepV1}
    (h : tx.advanceSelfHostedDriver w retained runId bootstrapDigest ordinal process recordedAt =
      .ok (step, tx')) :
    ∃ custody, loadSelfHostedBootstrap w tx.tables runId = .ok custody ∧
      custody.bootstrap.bootstrapDigest = bootstrapDigest ∧
      ((custody.steps.find? (fun step => step.stepOrdinal == ordinal) = some step ∧ tx' = tx) ∨
        (custody.steps.find? (fun step => step.stepOrdinal == ordinal) = none ∧
          Drove w runId tx tx' custody step ∧ step.stepOrdinal = ordinal)) := by
  simp only [advanceSelfHostedDriver, bind_eq_ok, refuseIf_eq_ok, bne_eq_false_iff_eq] at h
  obtain ⟨custody, hcustody, _, hdigest, hcase⟩ := h
  refine ⟨custody, hcustody, hdigest, ?_⟩
  split at hcase
  case h_1 existing hfind =>
    simp only [Except.ok.injEq, Prod.mk.injEq] at hcase
    obtain ⟨rfl, rfl⟩ := hcase
    exact .inl ⟨hfind, rfl⟩
  case h_2 hfind => exact .inr ⟨hfind, retainDriverStep_ok hcustody hcase⟩

/-- The payloads of the legacy attempt transitions. -/
inductive LegacyPayload : InternalPayload → Prop
  | dispatchRequested : LegacyPayload .dispatchRequested
  | resumeRequested : LegacyPayload .resumeRequested
  | terminalRefused (reason : String) : LegacyPayload (.terminalRefused reason)

/-- The replay event of an accepted adapter event. -/
def adapterReplayEvent (w : Platform) (raw : Bytes) (event : AdapterEventV1) (sequence : Nat) :
    ReplayEvent :=
  ⟨sequence, some event.workItemId, some event.attemptId, .adapter event, w.rawDigest raw⟩

/-- One successful call on a run that reads as `c`, `scan` and `replay`, with
the rows it appended and the replay events they spell. -/
inductive Turn (w : Platform) (runId : String) (c : Contracts) (scan : Scan)
    (replay : Scheduler.Replay) (tx tx' : Tx) : List EventRow → List ReplayEvent → Prop
  | kept (h : tx' = tx) : Turn w runId c scan replay tx tx' [] []
  | drove {custody : SelfHostedCustody} {step : SelfHostedForemanDriverStepV1}
      (h : Drove w runId tx tx' custody step) : Turn w runId c scan replay tx tx' [] []
  | prepared {workItemId attemptId : String} {recordedAt : Instant}
      {preparation : Option DispatchPreparation} {opened : Option OpenedDispatch}
      {events : List InternalEvent}
      (h : Prepared w runId c scan replay tx tx' workItemId attemptId recordedAt preparation
        opened events) :
    Turn w runId c scan replay tx tx' (rowsOf w tx.sequence events)
      (replayEventsOf w tx.sequence events)
  | disposed {workItemId attemptId : String} {history : History} {accepted : AcceptedDisposition}
      {predecessor : Option String} {events : List InternalEvent}
      (h : Disposed w runId c scan replay tx tx' workItemId attemptId history accepted predecessor
        events) :
    Turn w runId c scan replay tx tx' (rowsOf w tx.sequence events)
      (replayEventsOf w tx.sequence events)
  | woken {workItemId attemptId wakeOccurrenceId : String} {history : History}
      {preparation : DispatchPreparation} {openedAt : Instant}
      {deferred : DeferredProviderDispatchV1} {opened : OpenedDispatch}
      {events : List InternalEvent}
      (h : Woken w runId c scan replay tx tx' workItemId attemptId wakeOccurrenceId history
        preparation openedAt deferred opened events) :
    Turn w runId c scan replay tx tx' (rowsOf w tx.sequence events)
      (replayEventsOf w tx.sequence events)
  | resumed {workItemId attemptId resumeOccurrenceId : String} {history : History}
      {dispositionDigest adapterProcessOccurrenceId : String}
      {executionIdentity : ProviderExecutionIdentityV1} {recordedAt : Instant}
      {events : List InternalEvent}
      (h : Resumed w runId c scan replay tx tx' workItemId attemptId resumeOccurrenceId history
        dispositionDigest adapterProcessOccurrenceId executionIdentity recordedAt events) :
    Turn w runId c scan replay tx tx' (rowsOf w tx.sequence events)
      (replayEventsOf w tx.sequence events)
  | transitioned {workItemId attemptId : String} {payload : InternalPayload}
      {events : List InternalEvent} (hpayload : LegacyPayload payload)
      (h : Transitioned w runId scan replay tx tx' workItemId attemptId payload events) :
    Turn w runId c scan replay tx tx' (rowsOf w tx.sequence events)
      (replayEventsOf w tx.sequence events)
  | observed {raw : Bytes} {event : AdapterEventV1}
      (h : Observed w c scan replay tx tx' raw event) :
    Turn w runId c scan replay tx tx' [adapterRow w raw event (tx.sequence + 1)]
      [adapterReplayEvent w raw event (tx.sequence + 1)]
  | terminated {raw : Bytes} {receipt : TerminalReceiptV1} {events : List InternalEvent}
      (hrun : receipt.runId = runId) (h : Terminated w scan replay tx tx' raw receipt events) :
    Turn w runId c scan replay tx tx' (rowsOf w tx.sequence events)
      (replayEventsOf w tx.sequence events)
  | prelaunched {closure : PrelaunchClosureV1} {receipt : NotStartedReceiptV1}
      {events : List InternalEvent} (hrun : closure.binding.runId = runId)
      (h : PrelaunchClosed w replay tx tx' closure receipt events) :
    Turn w runId c scan replay tx tx' (rowsOf w tx.sequence events)
      (replayEventsOf w tx.sequence events)
  | declined {raw : Bytes} {receipt : NotStartedReceiptV1} {events : List InternalEvent}
      (hrun : receipt.runId = runId) (h : Declined w replay tx tx' raw receipt events) :
    Turn w runId c scan replay tx tx' (rowsOf w tx.sequence events)
      (replayEventsOf w tx.sequence events)
  | closedOut {raw : Bytes} {events : List InternalEvent}
      (h : ClosedOut w runId replay tx tx' raw events) :
    Turn w runId c scan replay tx tx' (rowsOf w tx.sequence events)
      (replayEventsOf w tx.sequence events)

/-- Every attempt a row names was minted by one of the draws so far. -/
def Named (w : Platform) (t : RunTables) (draws : Nat) : Prop :=
  ∀ row ∈ t.events, ∀ attempt, row.attemptId = some attempt →
    ∃ n < draws, attempt = "attempt-" ++ w.uuid n

/-- The next attempt is not named by any row. -/
theorem Named.fresh {w : Platform} {t : RunTables} {draws : Nat} (h : Named w t draws) :
    ∀ row ∈ t.events, row.attemptId ≠ some ("attempt-" ++ w.uuid draws) := by
  intro row hrow heq
  obtain ⟨n, hn, hname⟩ := h row hrow _ heq
  exact hn.ne' (w.uuid_fresh _ _ ((String.append_right_inj _).mp hname))

theorem unrequired_rowsOf {w : Platform} {n : Nat} {events : List InternalEvent}
    (h : ∀ e ∈ events, e.payload.rowKind ≠ .capacityRequirement) : Unrequired (rowsOf w n events) := by
  intro row hrow
  obtain ⟨e, he, m, -, rfl⟩ := mem_rowsOf hrow
  exact h e he

namespace Turn

variable {w : Platform} {runId : String} {c : Contracts} {scan : Scan}
  {replay : Scheduler.Replay} {tx tx' : Tx} {rows : List EventRow} {events : List ReplayEvent}

theorem grows (h : Turn w runId c scan replay tx tx' rows events) : Grows tx tx' rows := by
  cases h with
  | kept h => exact h ▸ Grows.refl tx
  | drove h =>
    rw [h.tables]
    exact Grows.of_tables rfl le_rfl rfl rfl rfl rfl rfl (fun _ _ h => h) (fun _ h => h)
      (List.prefix_append _ _)
  | prepared h => exact h.grows
  | disposed h => exact h.grows
  | woken h => exact h.grows
  | resumed h => exact h.grows
  | transitioned _ h => exact h.grows
  | observed h => exact h.grows
  | terminated _ h => exact h.ended.grows
  | prelaunched _ h => exact h.ended.grows
  | declined _ h => exact h.grows
  | closedOut h => exact h.grows

theorem replays (h : Turn w runId c scan replay tx tx' rows events) :
    rows.mapM (EventRow.replayEvent w) = .ok events := by
  cases h with
  | kept | drove => rfl
  | observed h =>
    refine mapM_cons_eq_ok.mpr ⟨_, [], ?_, rfl, rfl⟩
    simp [EventRow.replayEvent, adapterRow, EventRow.rawBytes, h.parsed, adapterReplayEvent,
      mapErr, Functor.map, Except.map]
  | _ => exact mapM_replayEvent_rowsOf w _ _

end Turn

/-- The events of a preparation: an optional capacity admission, the attempt and
its optional first dispatch. -/
theorem Prepared.kinds {w : Platform} {runId : String} {c : Contracts} {scan : Scan}
    {replay : Scheduler.Replay} {tx tx' : Tx} {workItemId attemptId : String}
    {recordedAt : Instant} {preparation : Option DispatchPreparation}
    {opened : Option OpenedDispatch} {events : List InternalEvent}
    (h : Prepared w runId c scan replay tx tx' workItemId attemptId recordedAt preparation opened
      events) : ∀ e ∈ events, e.payload.rowKind ≠ .capacityRequirement ∧
        e.workItemId = some workItemId ∧ e.attemptId = some attemptId := by
  obtain ⟨execution, request, capacityEvents, dispatchEvents, eventId, -, -, hcapacity, -, -, rfl,
    rfl⟩ := h.execution
  intro e he
  rcases List.mem_append.mp he with he | he
  · cases hcapacity with
    | none => cases he
    | some requirement capacity eventId =>
      obtain rfl := List.mem_singleton.mp he
      exact ⟨nofun, rfl, rfl⟩
  · rcases List.mem_cons.mp he with rfl | he
    · exact ⟨nofun, rfl, rfl⟩
    · obtain ⟨dispatch, -, rfl⟩ := Option.mem_map.mp (Option.mem_toList.mp he)
      exact ⟨nofun, rfl, rfl⟩

/-- The capacity history validates again after a preparation. -/
theorem Prepared.capacity {w : Platform} {runId : String} {c : Contracts} {scan : Scan}
    {replay : Scheduler.Replay} {tx tx' : Tx} {workItemId attemptId : String}
    {recordedAt : Instant} {preparation : Option DispatchPreparation}
    {opened : Option OpenedDispatch} {events : List InternalEvent}
    (h : Prepared w runId c scan replay tx tx' workItemId attemptId recordedAt preparation opened
      events)
    (hr : Reads w runId tx.tables c scan replay) (hnamed : Named w tx.tables tx.draws)
    (hvalid : ∀ row ∈ rowsOf w tx.sequence events, validateReadOnlyEventRow w c row = .ok ()) :
    ∃ requirement, validateCapacityHistory w tx'.tables c = .ok requirement := by
  obtain ⟨execution, request, capacityEvents, dispatchEvents, eventId, -, hrequest, hcapacity, -, -,
    rfl, rfl⟩ := h.execution
  obtain ⟨capacity, parsed, position, hreads⟩ := hr.capacityReads
  have hrun := (loadContracts_bound hr.contracts).1
  have hdispatch : ∀ e ∈ (opened.map (dispatchEvent w runId workItemId attemptId)).toList,
      e.payload.concernsCapacity = false ∧ e.payload.rowKind.isCapacity = false := by
    intro e he
    obtain ⟨dispatch, -, rfl⟩ := Option.mem_map.mp (Option.mem_toList.mp he)
    exact ⟨rfl, rfl⟩
  subst hrun
  have hevents := h.grows.events
  cases hcapacity with
  | none hrequirement =>
    have hnone := loadCapacityRequirement_eq hreads.valid hreads.scanned hrequirement
    obtain ⟨capacity', parsed', hreads'⟩ := hreads.append_attempt
      (by simpa using hnone.symm) (fun e he => (hdispatch e he).1) hvalid
    obtain ⟨retained, hretained⟩ := hr.capacitySize
    refine ⟨_, validateCapacityHistory_eq_ok.mpr ⟨⟨retained, ?_⟩, capacity', parsed', position, ?_,
      rfl⟩⟩
    · rw [RunTables.validateCapacityHistorySize_of_plain hevents ?_, hretained]
      intro row hrow
      obtain ⟨e, he, m, -, rfl⟩ := mem_rowsOf hrow
      rcases List.mem_cons.mp he with rfl | he
      · rfl
      · exact (hdispatch e he).2
    · rw [hevents]
      exact hreads'
  | some requirement bundle capacityId hrequirement hbundle hbindings hroom =>
    have hsome := loadCapacityRequirement_eq hreads.valid hreads.scanned hrequirement
    obtain ⟨required, hrequired, rfl⟩ := Option.map_eq_some_iff.mp hsome.symm
    have hfresh : attemptId ∉ capacity.admitted := by
      intro hmem
      obtain ⟨row, hrow, heq⟩ := CapacityScan.mem_admitted hreads.valid hreads.scanned hmem
      exact hnamed.fresh row hrow (h.attempt ▸ heq)
    obtain ⟨capacity', parsed', hreads'⟩ := hreads.append_admitted hrequired hfresh hbundle
      hbindings hrequest (fun e he => (hdispatch e he).1) hvalid
    refine ⟨_, validateCapacityHistory_eq_ok.mpr
      ⟨RunTables.validateCapacityHistorySize_of_room hevents ?_ hroom, capacity', parsed', position,
        ?_, rfl⟩⟩
    · intro row hrow
      obtain ⟨e, he, m, -, rfl⟩ := mem_rowsOf hrow
      rcases List.mem_cons.mp he with rfl | he
      · rfl
      · exact (hdispatch e he).2
    · rw [hevents]
      exact hreads'

namespace Scan

variable {w : Platform} {t : RunTables} {c : Contracts} {scan : Scan}

theorem step_ignored {eventId : String} {workItemId attemptId : Option String}
    {recordedAt : Instant} {payload : InternalPayload} (n : Nat) (h : ignores payload = true) :
    scan.step w t c ((journalEvent c.admission.runId eventId workItemId attemptId recordedAt
      payload).row w (n + 1)) = .ok scan := by
  refine step_row.mpr ⟨validateReadOnlyEventRow_journalEvent n ?_, onPayload_ignored h⟩
  rintro locks request rfl
  cases h

/-- The scan after the locks of an ended attempt were given back. -/
def forgets (scan : Scan) (workItemId attemptId : String) : Scan :=
  { scan with expectedClaims := scan.expectedClaims.filter fun _ holder =>
      holder.1 != workItemId || holder.2 != attemptId }

/-- An attempt that ends drops its claims and nothing else. -/
theorem foldlM_endEvents {workItemId attemptId eventId releaseId : String} {recordedAt : Instant}
    {payload : InternalPayload} (n : Nat) (h : ignores payload = true) :
    (rowsOf w n (endEvents c.admission.runId workItemId attemptId eventId releaseId recordedAt
      payload)).foldlM (step w t c) scan = .ok (scan.forgets workItemId attemptId) := by
  refine foldlM_cons_eq_ok.mpr ⟨scan, step_ignored n h, foldlM_cons_eq_ok.mpr
    ⟨_, step_row.mpr ⟨validateReadOnlyEventRow_journalEvent (n + 1) nofun, rfl⟩, rfl⟩⟩

/-- The closing checks after an attempt ended. -/
theorem Closes.forgets {t t' : RunTables} (h : scan.Closes t) {workItemId attemptId : String}
    (hclaims : t'.resourceClaims = t.resourceClaims.filter fun _ holder =>
      !(holder.1 == workItemId && holder.2 == attemptId)) :
    (scan.forgets workItemId attemptId).Closes t' where
  successors := h.successors
  dispatched := h.dispatched
  parked := h.parked
  claims history hhistory := by
    rw [hclaims, h.claims history hhistory]
    simp [Scan.forgets, bne]

theorem Closes.of_claims {t t' : RunTables} (h : scan.Closes t)
    (hclaims : t'.resourceClaims = t.resourceClaims) : scan.Closes t' :=
  ⟨h.successors, h.dispatched, h.parked, fun history hhistory => by
    rw [hclaims, h.claims history hhistory]⟩

end Scan

/-! Every body but a preparation appends rows the capacity validator passes over. -/

section Neutral

variable {w : Platform} {runId : String} {c : Contracts} {scan : Scan}
  {replay : Scheduler.Replay} {tx tx' : Tx} {workItemId attemptId : String}
  {events : List InternalEvent}

theorem Disposed.neutral {history : History} {accepted : AcceptedDisposition}
    {predecessor : Option String}
    (h : Disposed w runId c scan replay tx tx' workItemId attemptId history accepted predecessor
      events) : ∀ row ∈ rowsOf w tx.sequence events, CapacityNeutral w row := by
  obtain ⟨locks, -, rfl⟩ := h.locks
  refine capacityNeutral_rowsOf fun e he => ?_
  rcases List.mem_cons.mp he with rfl | he
  · rfl
  · split at he
    · obtain rfl := List.mem_singleton.mp he
      rfl
    · cases he

theorem Woken.neutral {wakeOccurrenceId : String} {history : History}
    {preparation : DispatchPreparation} {openedAt : Instant}
    {deferred : DeferredProviderDispatchV1} {opened : OpenedDispatch}
    (h : Woken w runId c scan replay tx tx' workItemId attemptId wakeOccurrenceId history
      preparation openedAt deferred opened events) :
    ∀ row ∈ rowsOf w tx.sequence events, CapacityNeutral w row := by
  obtain ⟨lockEvents, hlocks, rfl⟩ := h.locks
  refine capacityNeutral_rowsOf fun e he => ?_
  rcases List.mem_append.mp he with he | he
  · cases hlocks with
    | reacquired locks =>
      obtain rfl := List.mem_singleton.mp he
      rfl
    | kept => cases he
  · rcases List.mem_cons.mp he with rfl | he
    · rfl
    · obtain rfl := List.mem_singleton.mp he
      rfl

theorem Resumed.neutral {resumeOccurrenceId : String} {history : History}
    {dispositionDigest adapterProcessOccurrenceId : String}
    {executionIdentity : ProviderExecutionIdentityV1} {recordedAt : Instant}
    (h : Resumed w runId c scan replay tx tx' workItemId attemptId resumeOccurrenceId history
      dispositionDigest adapterProcessOccurrenceId executionIdentity recordedAt events) :
    ∀ row ∈ rowsOf w tx.sequence events, CapacityNeutral w row := by
  rw [h.journaled]
  refine capacityNeutral_rowsOf fun e he => ?_
  obtain rfl := List.mem_singleton.mp he
  rfl

theorem Transitioned.neutral {payload : InternalPayload} (hpayload : LegacyPayload payload)
    (h : Transitioned w runId scan replay tx tx' workItemId attemptId payload events) :
    ∀ row ∈ rowsOf w tx.sequence events, CapacityNeutral w row := by
  obtain ⟨eventId, recordedAt, rfl⟩ := h.journaled
  refine capacityNeutral_rowsOf fun e he => ?_
  obtain rfl := List.mem_singleton.mp he
  cases hpayload <;> rfl

theorem Observed.neutral {raw : Bytes} {event : AdapterEventV1}
    (_ : Observed w c scan replay tx tx' raw event) :
    ∀ row ∈ [adapterRow w raw event (tx.sequence + 1)], CapacityNeutral w row := by
  intro row hrow
  obtain rfl := List.mem_singleton.mp hrow
  exact .adapter rfl

theorem Ended.neutral {receipt : ReceiptRow} {payload : InternalPayload}
    (h : Ended w runId tx tx' workItemId attemptId receipt payload events)
    (hpayload : payload.concernsCapacity = false) :
    ∀ row ∈ rowsOf w tx.sequence events, CapacityNeutral w row := by
  obtain ⟨eventId, releaseId, recordedAt, rfl⟩ := h.journaled
  refine capacityNeutral_rowsOf fun e he => ?_
  simp only [endEvents, List.mem_cons, List.not_mem_nil, or_false] at he
  rcases he with rfl | rfl
  · exact hpayload
  · rfl

theorem Declined.neutral {raw : Bytes} {receipt : NotStartedReceiptV1}
    (h : Declined w replay tx tx' raw receipt events) :
    ∀ row ∈ rowsOf w tx.sequence events, CapacityNeutral w row := by
  obtain ⟨eventId, rfl⟩ := h.journaled
  refine capacityNeutral_rowsOf fun e he => ?_
  obtain rfl := List.mem_singleton.mp he
  rfl

theorem ClosedOut.neutral {raw : Bytes} (h : ClosedOut w runId replay tx tx' raw events) :
    ∀ row ∈ rowsOf w tx.sequence events, CapacityNeutral w row := by
  obtain ⟨eventId, recordedAt, digest, rfl⟩ := h.journaled
  refine capacityNeutral_rowsOf fun e he => ?_
  obtain rfl := List.mem_singleton.mp he
  rfl

end Neutral

namespace Turn

variable {w : Platform} {runId : String} {c : Contracts} {scan : Scan}
  {replay : Scheduler.Replay} {tx tx' : Tx} {rows : List EventRow} {events : List ReplayEvent}

/-- A turn that prepares no attempt appends only rows the capacity validator passes over. -/
theorem neutral_or_prepared (h : Turn w runId c scan replay tx tx' rows events) :
    (∀ row ∈ rows, CapacityNeutral w row) ∨
      ∃ workItemId attemptId recordedAt preparation opened journaled,
        Prepared w runId c scan replay tx tx' workItemId attemptId recordedAt preparation opened
          journaled ∧ rows = rowsOf w tx.sequence journaled := by
  cases h with
  | kept | drove => exact .inl fun _ h => nomatch h
  | prepared h => exact .inr ⟨_, _, _, _, _, _, h, rfl⟩
  | disposed h => exact .inl h.neutral
  | woken h => exact .inl h.neutral
  | resumed h => exact .inl h.neutral
  | transitioned hpayload h => exact .inl (h.neutral hpayload)
  | observed h => exact .inl h.neutral
  | terminated _ h => exact .inl (h.ended.neutral rfl)
  | prelaunched _ h => exact .inl (h.ended.neutral rfl)
  | declined _ h => exact .inl h.neutral
  | closedOut h => exact .inl h.neutral

/-- No turn adds a capacity requirement. -/
theorem unrequired (h : Turn w runId c scan replay tx tx' rows events) : Unrequired rows := by
  rcases h.neutral_or_prepared with hneutral | ⟨_, _, _, _, _, _, hprepared, rfl⟩
  · intro row hrow
    cases hneutral row hrow with
    | adapter hkind => rw [hkind]; nofun
    | internal e n hpayload =>
      rw [InternalEvent.row_kind]
      cases hp : e.payload <;> first | (rw [hp] at hpayload; cases hpayload; done) | nofun
  · exact unrequired_rowsOf fun e he => (hprepared.kinds e he).1

theorem carries (h : Turn w runId c scan replay tx tx' rows events) :
    Carries tx.tables tx'.tables :=
  h.grows.carries h.unrequired

/-- The strict history loads again after every turn. -/
theorem loads (h : Turn w runId c scan replay tx tx' rows events)
    (hr : Reads w runId tx.tables c scan replay) (hbooked : Booked tx.tables tx.sequence) :
    ∃ history, loadExecutionAvailabilityHistory w tx'.tables c = .ok history := by
  have hrun := (loadContracts_bound hr.contracts).1
  have hturn := h
  cases h with
  | kept h => exact h ▸ ⟨_, hr.loads_history⟩
  | drove h =>
    exact hr.loads_plain hturn.grows hbooked (h.tables ▸ ⟨rfl, rfl⟩) (fun _ h => nomatch h)
      hturn.unrequired rfl (hr.closes.of_claims (h.tables ▸ rfl))
  | prepared h => exact h.history
  | disposed h => exact h.loads
  | woken h => exact h.loads
  | resumed h => exact h.loads
  | transitioned hpayload h =>
    obtain ⟨eventId, recordedAt, rfl⟩ := h.journaled
    subst hrun
    refine hr.loads_plain hturn.grows hbooked h.custody ?_ hturn.unrequired
      (foldlM_cons_eq_ok.mpr ⟨_, Scan.step_ignored _ (by cases hpayload <;> rfl), rfl⟩)
      (hr.closes.of_claims h.claims)
    intro row hrow
    obtain rfl := List.mem_singleton.mp hrow
    cases hpayload <;> rfl
  | observed h =>
    refine hr.loads_plain hturn.grows hbooked h.custody ?_ hturn.unrequired
      (foldlM_cons_eq_ok.mpr ⟨scan, ?_, rfl⟩) (hr.closes.of_claims h.claims)
    · intro row hrow
      obtain rfl := List.mem_singleton.mp hrow
      rfl
    · rw [Scan.step, h.valid]
      rfl
  | terminated hrun' h =>
    obtain ⟨eventId, releaseId, recordedAt, rfl⟩ := h.ended.journaled
    have hgrows := hturn.grows
    have hunrequired := hturn.unrequired
    rw [hrun', ← hrun] at hgrows hunrequired
    refine hr.loads_plain hgrows hbooked h.ended.custody ?_ hunrequired
      (Scan.foldlM_endEvents _ rfl) (hr.closes.forgets h.ended.claims)
    intro row hrow
    simp only [endEvents, rowsOf_cons, rowsOf_nil, List.mem_cons, List.not_mem_nil,
      or_false] at hrow
    rcases hrow with rfl | rfl <;> rfl
  | prelaunched hrun' h =>
    obtain ⟨projection, hprojection⟩ := h.loads
    obtain ⟨c', scan', replay', hr', -⟩ := loadProjection_eq_ok.mp hprojection
    have hc : c' = c := by
      have := hr'.contracts
      rw [hturn.carries.loadContracts, hrun'] at this
      exact hr.contracts_eq this
    exact hc ▸ ⟨_, hr'.loads_history⟩
  | declined hrun' h =>
    obtain ⟨eventId, rfl⟩ := h.journaled
    have hgrows := hturn.grows
    have hunrequired := hturn.unrequired
    rw [hrun', ← hrun] at hgrows hunrequired
    refine hr.loads_plain hgrows hbooked h.custody ?_ hunrequired
      (foldlM_cons_eq_ok.mpr ⟨_, Scan.step_ignored _ rfl, rfl⟩) (hr.closes.of_claims h.claims)
    intro row hrow
    obtain rfl := List.mem_singleton.mp hrow
    rfl
  | closedOut h =>
    obtain ⟨eventId, recordedAt, digest, rfl⟩ := h.journaled
    subst hrun
    refine hr.loads_plain hturn.grows hbooked h.custody ?_ hturn.unrequired
      (foldlM_cons_eq_ok.mpr ⟨_, Scan.step_ignored _ rfl, rfl⟩) (hr.closes.of_claims h.claims)
    intro row hrow
    obtain rfl := List.mem_singleton.mp hrow
    rfl

/-- The capacity history validates again after every turn. -/
theorem capacity (h : Turn w runId c scan replay tx tx' rows events)
    (hr : Reads w runId tx.tables c scan replay) (hbooked : Booked tx.tables tx.sequence)
    (hnamed : Named w tx.tables tx.draws) :
    ∃ requirement, validateCapacityHistory w tx'.tables c = .ok requirement := by
  have hvalid := hr.rows_valid h.carries h.grows.events (h.loads hr hbooked)
  rcases h.neutral_or_prepared with hneutral | ⟨_, _, _, _, _, _, hprepared, rfl⟩
  · exact hr.capacity_neutral h.grows.events hvalid hneutral
  · exact hprepared.capacity hr hnamed hvalid

/-- After a turn the run reads as the scan and the replay went on. -/
theorem reads (h : Turn w runId c scan replay tx tx' rows events)
    (hr : Reads w runId tx.tables c scan replay) (hbooked : Booked tx.tables tx.sequence)
    (hnamed : Named w tx.tables tx.draws) :
    ∃ scan', Reads w runId tx'.tables c scan' (replay.run events) ∧
      rows.foldlM (Scan.step w tx'.tables c) scan = .ok scan' :=
  hr.extend h.carries h.grows.events (h.capacity hr hbooked hnamed) (h.loads hr hbooked) h.replays

/-- A turn names only the item and attempt it works on: an active attempt, or
the one it mints. -/
theorem attempts (h : Turn w runId c scan replay tx tx' rows events) :
    ∀ row ∈ rows, ∀ attempt, row.attemptId = some attempt →
      (∃ workItemId item, Active replay workItemId attempt item) ∨
        (attempt = "attempt-" ++ w.uuid tx.draws ∧ tx.draws < tx'.draws) := by
  have hof : ∀ {journaled : List InternalEvent} {attemptId : String},
      (∀ e ∈ journaled, e.attemptId = some attemptId) →
      (∃ workItemId item, Active replay workItemId attemptId item) →
      ∀ row ∈ rowsOf w tx.sequence journaled, ∀ attempt, row.attemptId = some attempt →
        ∃ workItemId item, Active replay workItemId attempt item := by
    intro journaled attemptId hall hactive row hrow attempt hattempt
    obtain ⟨e, he, m, -, rfl⟩ := mem_rowsOf hrow
    obtain rfl := Option.some.inj ((hall e he).symm.trans hattempt)
    exact hactive
  cases h with
  | kept | drove => exact fun _ h => nomatch h
  | prepared h =>
    intro row hrow attempt hattempt
    obtain ⟨e, he, m, -, rfl⟩ := mem_rowsOf hrow
    obtain rfl := Option.some.inj ((h.kinds e he).2.2.symm.trans hattempt)
    exact .inr ⟨h.attempt, h.drawn⟩
  | disposed h =>
    obtain ⟨locks, -, rfl⟩ := h.locks
    refine fun row hrow attempt ha => .inl (hof (fun e he => ?_) ⟨_, h.active⟩ row hrow attempt ha)
    rcases List.mem_cons.mp he with rfl | he
    · rfl
    · split at he
      · obtain rfl := List.mem_singleton.mp he
        rfl
      · cases he
  | woken h =>
    obtain ⟨lockEvents, hlocks, rfl⟩ := h.locks
    refine fun row hrow attempt ha => .inl (hof (fun e he => ?_) ⟨_, h.active⟩ row hrow attempt ha)
    rcases List.mem_append.mp he with he | he
    · cases hlocks with
      | reacquired locks =>
        obtain rfl := List.mem_singleton.mp he
        rfl
      | kept => cases he
    · rcases List.mem_cons.mp he with rfl | he
      · rfl
      · obtain rfl := List.mem_singleton.mp he
        rfl
  | resumed h =>
    rw [h.journaled]
    refine fun row hrow attempt ha => .inl (hof (fun e he => ?_) ⟨_, h.active⟩ row hrow attempt ha)
    obtain rfl := List.mem_singleton.mp he
    rfl
  | transitioned hpayload h =>
    obtain ⟨eventId, recordedAt, rfl⟩ := h.journaled
    refine fun row hrow attempt ha => .inl (hof (fun e he => ?_) ⟨_, h.active⟩ row hrow attempt ha)
    obtain rfl := List.mem_singleton.mp he
    rfl
  | observed h =>
    intro row hrow attempt hattempt
    obtain rfl := List.mem_singleton.mp hrow
    obtain rfl := Option.some.inj hattempt
    exact .inl ⟨_, h.active⟩
  | terminated _ h =>
    obtain ⟨eventId, releaseId, recordedAt, rfl⟩ := h.ended.journaled
    refine fun row hrow attempt ha => .inl (hof (fun e he => ?_) ⟨_, h.active⟩ row hrow attempt ha)
    simp only [endEvents, List.mem_cons, List.not_mem_nil, or_false] at he
    rcases he with rfl | rfl <;> rfl
  | prelaunched _ h =>
    obtain ⟨eventId, releaseId, recordedAt, rfl⟩ := h.ended.journaled
    refine fun row hrow attempt ha => .inl (hof (fun e he => ?_) ⟨_, h.active⟩ row hrow attempt ha)
    simp only [endEvents, List.mem_cons, List.not_mem_nil, or_false] at he
    rcases he with rfl | rfl <;> rfl
  | declined _ h =>
    obtain ⟨eventId, rfl⟩ := h.journaled
    intro row hrow attempt hattempt
    obtain rfl := List.mem_singleton.mp hrow
    cases hattempt
  | closedOut h =>
    obtain ⟨eventId, recordedAt, digest, rfl⟩ := h.journaled
    intro row hrow attempt hattempt
    obtain rfl := List.mem_singleton.mp hrow
    cases hattempt

theorem named (h : Turn w runId c scan replay tx tx' rows events)
    (hr : Reads w runId tx.tables c scan replay) (hnamed : Named w tx.tables tx.draws) :
    Named w tx'.tables tx'.draws := by
  intro row hrow attempt hattempt
  rw [h.grows.events] at hrow
  rcases List.mem_append.mp hrow with hrow | hrow
  · obtain ⟨n, hn, heq⟩ := hnamed row hrow attempt hattempt
    exact ⟨n, hn.trans_le h.grows.draws, heq⟩
  · rcases h.attempts row hrow attempt hattempt with ⟨id, item, hitem, hactive, -⟩ | ⟨heq, hlt⟩
    · obtain ⟨old, hold, -, ha⟩ := hr.active_named hitem hactive
      obtain ⟨n, hn, heq⟩ := hnamed old hold attempt ha
      exact ⟨n, hn.trans_le h.grows.draws, heq⟩
    · exact ⟨tx.draws, hlt, heq⟩

end Turn

end Nightshift
