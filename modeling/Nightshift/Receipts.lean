import Nightshift.Steps

/-!
# Wakes, resumes, receipts and closeout

The inversion lemmas of the remaining transaction bodies. A repeated wake,
resume, prelaunch closure or close returns what is retained and changes no
table.
-/

namespace Nightshift

open Checked

def resumeEvent (runId workItemId attemptId resumeOccurrenceId : String)
    (dispositionDigest adapterProcessOccurrenceId : String)
    (executionIdentity : ProviderExecutionIdentityV1) (recordedAt : Instant) : InternalEvent :=
  journalEvent runId ("provider-resume-" ++ resumeOccurrenceId) (some workItemId) (some attemptId)
    recordedAt (.providerExecutionResumeRequested resumeOccurrenceId dispositionDigest
      adapterProcessOccurrenceId executionIdentity)

/-- What a resume that was not retained before did. -/
structure Resumed (w : Platform) (runId : String) (c : Contracts) (scan : Scan)
    (replay : Scheduler.Replay) (tx tx' : Tx) (workItemId attemptId resumeOccurrenceId : String)
    (history : History) (dispositionDigest adapterProcessOccurrenceId : String)
    (executionIdentity : ProviderExecutionIdentityV1) (recordedAt : Instant)
    (events : List InternalEvent) : Prop where
  active : ∃ item, Active replay workItemId attemptId item
  required : scan.history = some history
  unused : resumeOccurrenceId ∉ history.resumeOccurrenceIds
  check : Tx.checkResume history attemptId dispositionDigest adapterProcessOccurrenceId
    executionIdentity recordedAt = .ok ()
  journaled : events = [resumeEvent runId workItemId attemptId resumeOccurrenceId dispositionDigest
    adapterProcessOccurrenceId executionIdentity recordedAt]
  claims : tx'.tables.resourceClaims = tx.tables.resourceClaims
  grows : Grows tx tx' (rowsOf w tx.sequence events)
  same : SameReceipts tx.tables tx'.tables
  loads : ∃ history, loadExecutionAvailabilityHistory w tx'.tables c = .ok history

/-- What a legacy transition of an attempt did. -/
structure Transitioned (w : Platform) (runId : String) (scan : Scan) (replay : Scheduler.Replay)
    (tx tx' : Tx) (workItemId attemptId : String) (payload : InternalPayload)
    (events : List InternalEvent) : Prop where
  active : ∃ item, Active replay workItemId attemptId item
  legacy : scan.history = none
  journaled : ∃ eventId recordedAt, events =
    [journalEvent runId eventId (some workItemId) (some attemptId) recordedAt payload]
  claims : tx'.tables.resourceClaims = tx.tables.resourceClaims
  grows : Grows tx tx' (rowsOf w tx.sequence events)
  same : SameReceipts tx.tables tx'.tables
  custody : SameCustody tx.tables tx'.tables

/-- What an accepted adapter event did. -/
structure Observed (w : Platform) (c : Contracts) (scan : Scan) (replay : Scheduler.Replay)
    (tx tx' : Tx) (raw : Bytes) (event : AdapterEventV1) : Prop where
  active : ∃ item, Active replay event.workItemId event.attemptId item
  legacy : scan.history = none
  parsed : w.parseAdapterEvent raw = .ok event
  valid : validateReadOnlyEventRow w c (adapterRow w raw event (tx.sequence + 1)) = .ok ()
  claims : tx'.tables.resourceClaims = tx.tables.resourceClaims
  grows : Grows tx tx' [adapterRow w raw event (tx.sequence + 1)]
  same : SameReceipts tx.tables tx'.tables
  custody : SameCustody tx.tables tx'.tables

namespace RunTables

variable {w : Platform} {runId : String} {t : RunTables} {c : Contracts} {scan : Scan}
  {replay : Scheduler.Replay}

/-- The holding state exists exactly for availability-required runs. -/
theorem currentHoldingAttemptState_eq (hr : Reads w runId t c scan replay)
    (workItemId attemptId : String) :
    t.currentHoldingAttemptState w runId workItemId attemptId = .ok (scan.history.map fun history =>
      let disposition := (history.dispatches.reverse.find? fun dispatch =>
          dispatch.workItemId == workItemId && dispatch.workAttemptId == attemptId).bind
        fun dispatch => history.lastDispositionOf dispatch.dispatchDigest
      ⟨disposition, disposition.any fun value =>
        history.resumeDispositionDigests.contains value.dispositionDigest⟩) := by
  simp only [currentHoldingAttemptState, hr.contracts, hr.loads_history, ok_bind]
  cases scan.history <;> rfl

theorem refuseHoldingLegacyTransition_ok (hr : Reads w runId t c scan replay)
    {workItemId attemptId : String}
    (h : t.refuseHoldingLegacyTransition w runId workItemId attemptId = .ok ()) :
    scan.history = none := by
  simp only [refuseHoldingLegacyTransition, currentHoldingAttemptState_eq hr, ok_bind,
    refuseIf_eq_ok] at h
  simpa using h

end RunTables

/-- The contracts of a run name one run and one packet. -/
theorem loadContracts_bound {w : Platform} {t : RunTables} {runId : String} {c : Contracts}
    (h : loadContracts w t runId = .ok c) :
    c.admission.runId = runId ∧ c.admission.packetDigest = c.packet.packetDigest := by
  simp only [loadContracts, bind_eq_ok, mapErr_eq_ok, refuseIf_eq_ok, Bool.or_eq_false_iff,
    bne_eq_false_iff_eq, Except.ok.injEq] at h
  obtain ⟨packet, -, _, -, admission, -, _, -, profile, -, _, -, _, hbindings, _, hrow, rfl⟩ := h
  simp only [validateBindings, bind_eq_ok, refuseIf_eq_ok, Bool.or_eq_false_iff,
    bne_eq_false_iff_eq] at hbindings
  obtain ⟨_, hdigests, -⟩ := hbindings
  exact ⟨hrow.1.1.1.1.1.1, hdigests.1⟩

namespace Tx

variable {w : Platform} {runId : String} {c : Contracts} {scan : Scan}
  {replay : Scheduler.Replay} {tx tx' : Tx}

/-- A wake returns the retained dispatch or opens the next one. -/
theorem wakeProviderDispatch_ok (hr : Reads w runId tx.tables c scan replay)
    {workItemId attemptId wakeOccurrenceId : String} {preparation : DispatchPreparation}
    {openedAt : Instant} {opened : OpenedDispatch}
    (h : tx.wakeProviderDispatch w runId workItemId attemptId wakeOccurrenceId preparation
      openedAt = .ok (opened, tx')) :
    ∃ history, scan.history = some history ∧
      ((∃ position, history.wakeOccurrenceIds.findIdx? (· == wakeOccurrenceId) = some position ∧
        retainedWake history position attemptId wakeOccurrenceId preparation openedAt =
          .ok opened ∧ tx' = tx) ∨
      ∃ deferred events, Woken w runId c scan replay tx tx' workItemId attemptId wakeOccurrenceId
        history preparation openedAt deferred opened events) := by
  simp only [wakeProviderDispatch, bind_eq_ok] at h
  obtain ⟨_, hactive, c', hc', history, hhistory, hcase⟩ := h
  obtain rfl := hr.contracts_eq hc'
  have hsome := hr.requireHistory_eq hhistory
  refine ⟨history, hsome, ?_⟩
  split at hcase
  case h_1 position hposition =>
    simp only [bind_eq_ok, Except.ok.injEq, Prod.mk.injEq] at hcase
    obtain ⟨retained, hretained, rfl, rfl⟩ := hcase
    exact .inl ⟨position, hposition, hretained, rfl⟩
  case h_2 hnone =>
    have hunused : wakeOccurrenceId ∉ history.wakeOccurrenceIds := by
      intro hmem
      simpa using List.findIdx?_eq_none_iff.mp hnone _ hmem
    exact .inr (openWake_ok hr (hr.exactActiveAttempt_eq_ok.mp hactive) hsome hunused hcase)

/-- A resume accepts its retained arguments again or journals a new request. -/
theorem resumeProviderExecution_ok (hr : Reads w runId tx.tables c scan replay)
    {workItemId attemptId resumeOccurrenceId dispositionDigest : String}
    {adapterProcessOccurrenceId : String} {executionIdentity : ProviderExecutionIdentityV1}
    {recordedAt : Instant} {result : Unit}
    (h : tx.resumeProviderExecution w runId workItemId attemptId resumeOccurrenceId
      dispositionDigest adapterProcessOccurrenceId executionIdentity recordedAt =
        .ok (result, tx')) :
    ∃ history, scan.history = some history ∧
      ((∃ position, history.resumeOccurrenceIds.findIdx? (· == resumeOccurrenceId) =
          some position ∧
        checkRetainedResume history position workItemId attemptId resumeOccurrenceId
          dispositionDigest adapterProcessOccurrenceId executionIdentity recordedAt = .ok () ∧
        tx' = tx) ∨
      ∃ events, Resumed w runId c scan replay tx tx' workItemId attemptId resumeOccurrenceId
        history dispositionDigest adapterProcessOccurrenceId executionIdentity recordedAt
        events) := by
  simp only [resumeProviderExecution, bind_eq_ok] at h
  obtain ⟨_, hactive, c', hc', history, hhistory, hcase⟩ := h
  obtain rfl := hr.contracts_eq hc'
  have hsome := hr.requireHistory_eq hhistory
  refine ⟨history, hsome, ?_⟩
  split at hcase
  case h_1 position hposition =>
    simp only [bind_eq_ok, Except.ok.injEq, Prod.mk.injEq, true_and] at hcase
    obtain ⟨_, hretained, rfl⟩ := hcase
    exact .inl ⟨position, hposition, hretained, rfl⟩
  case h_2 hnone =>
    simp only [bind_eq_ok, Except.ok.injEq, Prod.mk.injEq, true_and] at hcase
    obtain ⟨_, hcheck, _, -, tx₁, happend, found, hfound, rfl⟩ := hcase
    obtain ⟨-, hfresh, rfl⟩ := appendExecutionAvailabilityBounded_ok happend
    have hunused : resumeOccurrenceId ∉ history.resumeOccurrenceIds := by
      intro hmem
      simpa using List.findIdx?_eq_none_iff.mp hnone _ hmem
    exact .inr ⟨_, hr.exactActiveAttempt_eq_ok.mp hactive, hsome, hunused, hcheck, rfl, rfl,
      Grows.pushProvider w hfresh, ⟨rfl, rfl, rfl⟩, ⟨found, hfound⟩⟩

theorem recordAttemptTransition_ok (hr : Reads w runId tx.tables c scan replay)
    {workItemId attemptId pre : String} {recordedAt : Instant} {payload : InternalPayload}
    {result : Unit} (hkind : payload.rowKind = .internal)
    (h : tx.recordAttemptTransition w runId workItemId attemptId recordedAt payload pre =
      .ok (result, tx')) :
    ∃ events, Transitioned w runId scan replay tx tx' workItemId attemptId payload events := by
  simp only [recordAttemptTransition, bind_eq_ok, Except.ok.injEq, Prod.mk.injEq, true_and] at h
  obtain ⟨_, hactive, _, -, _, hlegacy, tx₁, happend, rfl⟩ := h
  obtain ⟨hfresh, rfl⟩ := (appendInternal_eq_ok hkind).mp happend
  exact ⟨_, hr.exactActiveAttempt_eq_ok.mp hactive,
    RunTables.refuseHoldingLegacyTransition_ok hr hlegacy, ⟨pre ++ "-" ++ tx.uuid w, recordedAt, rfl⟩, rfl,
    (Grows.drawn tx).trans (Grows.pushEvent w hfresh), ⟨rfl, rfl, rfl⟩, ⟨rfl, rfl⟩⟩

theorem acceptAdapterEvent_ok {raw : Bytes} {event : AdapterEventV1} {result : Unit}
    (hr : Reads w event.runId tx.tables c scan replay)
    (hparse : w.parseAdapterEvent raw = .ok event) (hvalid : event.validate w = .ok ())
    (h : tx.acceptAdapterEvent w raw event = .ok (result, tx')) :
    Observed w c scan replay tx tx' raw event := by
  simp only [acceptAdapterEvent, bind_eq_ok, okOr_eq_ok, refuseIf_eq_ok, bne_eq_false_iff_eq,
    Except.ok.injEq, Prod.mk.injEq, true_and] at h
  obtain ⟨c', hc', _, -, _, hpacket, _, hactive, _, hlegacy, execution, hexecution, _, hadapterId,
    adapter, hadapter, _, hversion, projection, -, item, -, _, -, _, -, _, -, _, -, _, -, _, -, _, -,
    tx₁, hinsert, rfl⟩ := h
  obtain rfl := hr.contracts_eq hc'
  obtain ⟨hfresh, rfl⟩ := insertAdapterEvent_eq_ok.mp hinsert
  have hnone : scan.history = none := by
    simp only [RunTables.validateHoldingAdapterEventTransition,
      RunTables.currentHoldingAttemptState_eq hr, ok_bind, refuseIf_eq_ok] at hlegacy
    simpa using hlegacy
  obtain ⟨hrun, hdigest⟩ := loadContracts_bound hr.contracts
  refine ⟨hr.exactActiveAttempt_eq_ok.mp hactive, hnone, hparse, ?_, rfl, Grows.push rfl hfresh,
    ⟨rfl, rfl, rfl⟩, ⟨rfl, rfl⟩⟩
  simp [validateReadOnlyEventRow, adapterRow, EventRow.rawBytes, hparse, hvalid, hrun, hpacket,
    hdigest, hexecution, hadapterId, hadapter, hversion, mapErr, refuseIf]

end Tx

/-- The tables a receipt call leaves alone beside journal, claims and receipts. -/
structure SameCloseout (t t' : RunTables) : Prop where
  snapshot : t'.finalSnapshot = t.finalSnapshot
  driverSteps : t'.driverSteps = t.driverSteps

/-- The two events that end an attempt: its receipt and the release of its locks. -/
def endEvents (runId workItemId attemptId eventId releaseId : String) (recordedAt : Instant)
    (payload : InternalPayload) : List InternalEvent :=
  [journalEvent runId eventId (some workItemId) (some attemptId) recordedAt payload,
    journalEvent runId releaseId (some workItemId) (some attemptId) recordedAt .resourcesReleased]

/-- What ending an attempt did to receipts, claims and journal. -/
structure Ended (w : Platform) (runId : String) (tx tx' : Tx) (workItemId attemptId : String)
    (receipt : ReceiptRow) (payload : InternalPayload) (events : List InternalEvent) : Prop where
  absent : tx.tables.terminalReceipts[workItemId]? = none
  receipts : tx'.tables.terminalReceipts = tx.tables.terminalReceipts.insert workItemId receipt
  claims : tx'.tables.resourceClaims =
    (tx.deleteClaims workItemId attemptId).tables.resourceClaims
  journaled : ∃ eventId releaseId recordedAt, events =
    endEvents runId workItemId attemptId eventId releaseId recordedAt payload
  grows : Grows tx tx' (rowsOf w tx.sequence events)
  same : SameCloseout tx.tables tx'.tables
  custody : SameCustody tx.tables tx'.tables

/-- What an accepted terminal receipt did. -/
structure Terminated (w : Platform) (scan : Scan) (replay : Scheduler.Replay)
    (tx tx' : Tx) (raw : Bytes) (receipt : TerminalReceiptV1) (events : List InternalEvent) :
    Prop where
  active : ∃ item, Active replay receipt.workItemId receipt.attemptId item
  holding : tx.tables.validateHoldingTerminalTransition w receipt = .ok ()
  ended : Ended w receipt.runId tx tx' receipt.workItemId receipt.attemptId
    ⟨some receipt.attemptId, receipt.receiptDigest, raw, .terminal⟩ (.terminalAccepted
      ⟨receipt.state, receipt.resultClassification, receipt.receiptDigest⟩) events

/-- What an accepted prelaunch closure did. -/
structure PrelaunchClosed (w : Platform) (replay : Scheduler.Replay) (tx tx' : Tx)
    (closure : PrelaunchClosureV1) (receipt : NotStartedReceiptV1) (events : List InternalEvent) :
    Prop where
  active : ∃ item, Active replay closure.binding.workItemId closure.binding.workAttemptId item
  ended : Ended w closure.binding.runId tx tx' closure.binding.workItemId
    closure.binding.workAttemptId
    ⟨none, receipt.receiptDigest, w.canonical (.notStartedReceipt receipt), .notStarted⟩
    (.prelaunchClosureAccepted closure receipt) events
  loads : ∃ projection, loadProjection w tx'.tables closure.binding.runId = .ok projection

/-- What an accepted not-started receipt did. -/
structure Declined (w : Platform) (replay : Scheduler.Replay) (tx tx' : Tx) (raw : Bytes)
    (receipt : NotStartedReceiptV1) (events : List InternalEvent) : Prop where
  item : ∃ item, replay.items[receipt.workItemId]? = some item ∧ item.activeAttemptId = none ∧
    item.schedulerState.isExplicitTerminal = false
  absent : tx.tables.terminalReceipts[receipt.workItemId]? = none
  receipts : tx'.tables.terminalReceipts = tx.tables.terminalReceipts.insert receipt.workItemId
    ⟨none, receipt.receiptDigest, raw, .notStarted⟩
  claims : tx'.tables.resourceClaims = tx.tables.resourceClaims
  journaled : ∃ eventId, events = [journalEvent receipt.runId eventId (some receipt.workItemId)
    none receipt.recordedAt (.notStartedAccepted
      ⟨receipt.state, receipt.resultClassification, receipt.receiptDigest⟩)]
  grows : Grows tx tx' (rowsOf w tx.sequence events)
  same : SameCloseout tx.tables tx'.tables
  custody : SameCustody tx.tables tx'.tables

/-- What closing the run did. -/
structure ClosedOut (w : Platform) (runId : String) (replay : Scheduler.Replay) (tx tx' : Tx)
    (raw : Bytes) (events : List InternalEvent) : Prop where
  unclosed : tx.tables.finalSnapshot = none
  complete : ∀ (id : String) item, replay.items[id]? = some item →
    item.schedulerState.isExplicitTerminal = true
  snapshot : ∃ row, tx'.tables.finalSnapshot = some row ∧ row.rawBytes = raw
  wrote : ∃ c latest updatedAt document, loadContracts w tx.tables runId = .ok c ∧
    latestTerminalEvidenceAt w tx.tables = .ok latest ∧ latest ≤ updatedAt ∧
    buildFinalDocument w tx.tables c.packet updatedAt = .ok document ∧
    tx'.tables.finalSnapshot = some ⟨updatedAt,
      w.rawDigest (w.canonical (.finalReceipts document)), w.canonical (.finalReceipts document)⟩
  receipts : tx'.tables.terminalReceipts = tx.tables.terminalReceipts
  driverSteps : tx'.tables.driverSteps = tx.tables.driverSteps
  claims : tx'.tables.resourceClaims = tx.tables.resourceClaims
  journaled : ∃ eventId recordedAt digest, events =
    [journalEvent runId eventId none none recordedAt (.runClosed digest)]
  grows : Grows tx tx' (rowsOf w tx.sequence events)
  custody : SameCustody tx.tables tx'.tables

namespace Tx

variable {w : Platform} {runId : String} {c : Contracts} {scan : Scan}
  {replay : Scheduler.Replay} {tx tx' : Tx}

/-- A receipt, its event and the release of the locks, in one transaction. -/
theorem ended_of_steps {workItemId attemptId eventId releaseId : String} {receipt : ReceiptRow}
    {payload : InternalPayload} {recordedAt : Instant} {tx₁ : Tx}
    (habsent : tx.tables.terminalReceipts[workItemId]? = none)
    (hstart : Grows (tx.withReceipt workItemId receipt) tx₁ [])
    (hclaims : tx₁.tables.resourceClaims = tx.tables.resourceClaims)
    (hreceipts : tx₁.tables.terminalReceipts =
      tx.tables.terminalReceipts.insert workItemId receipt)
    (hsame : SameCloseout tx.tables tx₁.tables) (hcustody : SameCustody tx.tables tx₁.tables)
    (hfresh : tx₁.FreshId (journalEvent runId eventId (some workItemId) (some attemptId)
      recordedAt payload).eventId)
    (hrelease : (tx₁.pushEvent w (journalEvent runId eventId (some workItemId) (some attemptId)
      recordedAt payload)).FreshId releaseId)
    (htx' : tx' = (deleteClaims (tx₁.pushEvent w (journalEvent runId eventId (some workItemId)
      (some attemptId) recordedAt payload)) workItemId attemptId).drawn.pushEvent w
        (journalEvent runId releaseId (some workItemId) (some attemptId) recordedAt
          .resourcesReleased)) :
    ∃ events, Ended w runId tx tx' workItemId attemptId receipt payload events := by
  subst htx'
  have hseq : tx₁.sequence = tx.sequence := hstart.sequence
  have hgrows := ((Grows.withReceipt receipt habsent).trans hstart).trans
    ((Grows.pushEvent w hfresh).trans ((Grows.deleteClaims _ workItemId attemptId).trans
      ((Grows.drawn _).trans (Grows.pushEvent w
        (show (deleteClaims _ workItemId attemptId).drawn.FreshId (journalEvent runId releaseId
          (some workItemId) (some attemptId) recordedAt .resourcesReleased).eventId from
            hrelease)))))
  refine ⟨_, habsent, hreceipts, ?_, ⟨eventId, releaseId, recordedAt, rfl⟩, ?_,
    ⟨hsame.snapshot, hsame.driverSteps⟩, ⟨hcustody.metadata, hcustody.anchors⟩⟩
  · simp only [pushEvent, push, drawn, deleteClaims, hclaims]
  · simp only [List.nil_append, List.singleton_append] at hgrows
    rw [endEvents, rowsOf_cons, rowsOf_cons, rowsOf_nil, ← hseq]
    exact hgrows

theorem acceptTerminalReceipt_ok {raw : Bytes} {receipt : TerminalReceiptV1} {result : Unit}
    (hr : Reads w receipt.runId tx.tables c scan replay)
    (h : tx.acceptTerminalReceipt w raw receipt = .ok (result, tx')) :
    ∃ events, Terminated w scan replay tx tx' raw receipt events := by
  simp only [acceptTerminalReceipt, bind_eq_ok, okOr_eq_ok, refuseIf_eq_ok, Except.ok.injEq,
    Prod.mk.injEq, true_and] at h
  obtain ⟨c', -, _, -, _, -, _, hactive, _, hholding, execution, -, _, -, adapter, -, _, -,
    projection, -, item, -, _, -, _, -, _, -, _, -, _, -, _, -, tx₁, hreceipt, tx₂, happend, tx₃,
    hrelease, rfl⟩ := h
  obtain ⟨habsent, rfl⟩ := insertReceipt_ok hreceipt
  obtain ⟨hfresh, rfl⟩ := (appendInternal_eq_ok rfl).mp happend
  obtain ⟨releaseId, hreleased, htx'⟩ := releaseResources_ok hrelease
  obtain ⟨events, hended⟩ := ended_of_steps habsent (Grows.drawn _) rfl rfl ⟨rfl, rfl⟩ ⟨rfl, rfl⟩
    hfresh hreleased htx'
  exact ⟨events, hr.exactActiveAttempt_eq_ok.mp hactive, hholding, hended⟩

/-- A prelaunch closure returns the retained receipt or ends its attempt. -/
theorem acceptPrelaunchClosure_ok {closure : PrelaunchClosureV1} {result : Bytes}
    (hr : Reads w closure.binding.runId tx.tables c scan replay)
    (h : tx.acceptPrelaunchClosure w closure = .ok (result, tx')) :
    ∃ receipt, prelaunchNotStartedReceipt w closure = .ok receipt ∧
      result = w.canonical (.notStartedReceipt receipt) ∧
      result.length ≤ c.profile.maximumReceiptBytes ∧
      ((∃ prior, tx.tables.terminalReceipts[closure.binding.workItemId]? = some prior ∧
        prior.rawBytes = result ∧ tx' = tx) ∨
      ∃ events, PrelaunchClosed w replay tx tx' closure receipt events) := by
  simp only [acceptPrelaunchClosure, bind_eq_ok, refuseIf_eq_ok] at h
  obtain ⟨c', hc', receipt, hreceipt, _, hsize, hcase⟩ := h
  obtain rfl := hr.contracts_eq hc'
  refine ⟨receipt, hreceipt, ?_⟩
  have hsize' : (w.canonical (.notStartedReceipt receipt)).length ≤
      c'.profile.maximumReceiptBytes := by simpa using hsize
  split at hcase
  case h_1 prior hprior =>
    simp only [bind_eq_ok, refuseIf_eq_ok, bne_eq_false_iff_eq, Except.ok.injEq,
      Prod.mk.injEq] at hcase
    obtain ⟨_, hsame, _, -, rfl, rfl⟩ := hcase
    exact ⟨hsame, hsame ▸ hsize', .inl ⟨prior, hprior, rfl, rfl⟩⟩
  case h_2 habsent =>
    simp only [bind_eq_ok, closePrelaunch, refuseIf_eq_ok, Except.ok.injEq, Prod.mk.injEq] at hcase
    obtain ⟨_, hcheck, tx₃, ⟨tx₁, hinsert, _, -, tx₂, happend, hrelease⟩, projection, hload, rfl,
      rfl⟩ := hcase
    obtain ⟨-, rfl⟩ := insertReceipt_ok hinsert
    obtain ⟨hfresh, rfl⟩ := (appendInternal_eq_ok rfl).mp happend
    obtain ⟨releaseId, hreleased, htx'⟩ := releaseResources_ok hrelease
    obtain ⟨events, hended⟩ := ended_of_steps habsent (Grows.refl _) rfl rfl ⟨rfl, rfl⟩ ⟨rfl, rfl⟩
      hfresh hreleased htx'
    refine ⟨rfl, hsize', .inr ⟨events, ?_, hended, projection, hload⟩⟩
    simp only [checkPrelaunch, bind_eq_ok] at hcheck
    obtain ⟨_, -, _, -, _, -, _, hactive, -⟩ := hcheck
    exact hr.exactActiveAttempt_eq_ok.mp hactive

theorem acceptNotStarted_ok {raw : Bytes} {receipt : NotStartedReceiptV1} {result : Unit}
    (hr : Reads w receipt.runId tx.tables c scan replay)
    (h : tx.acceptNotStarted w raw receipt = .ok (result, tx')) :
    ∃ events, Declined w replay tx tx' raw receipt events := by
  simp only [acceptNotStarted, bind_eq_ok, refuseIf_eq_ok, Except.ok.injEq, Prod.mk.injEq,
    true_and] at h
  obtain ⟨projection, hprojection, item, hfind, _, heligible, c', -, _, -, _, -, tx₁, hinsert, tx₂,
    happend, rfl⟩ := h
  obtain rfl := hr.projection_eq hprojection
  obtain ⟨raw', hraw, rfl⟩ := hr.findItem_eq_ok.mp hfind
  simp only [Bool.or_eq_false_iff, Bool.not_eq_false', LiveWorkItemV1.evaluateReadiness_schedulerState]
    at heligible
  obtain ⟨hidle, hopen, -⟩ :=
    LiveWorkItemV1.eligible_of_readiness (hr.charts hraw).raw heligible.1
  obtain ⟨habsent, rfl⟩ := insertReceipt_ok hinsert
  obtain ⟨hfresh, rfl⟩ := (appendInternal_eq_ok rfl).mp happend
  exact ⟨_, ⟨raw', hraw, hidle, hopen⟩, habsent, rfl, rfl,
    ⟨"not-started-accepted-" ++ w.uuid tx.draws, rfl⟩,
    (Grows.withReceipt _ habsent).trans ((Grows.drawn _).trans (Grows.pushEvent w hfresh)),
    ⟨rfl, rfl⟩, ⟨rfl, rfl⟩⟩

/-- Closing returns the retained snapshot or writes it. -/
theorem close_ok (hr : Reads w runId tx.tables c scan replay) {updatedAt : Instant}
    {result : Bytes} (h : tx.close w runId updatedAt = .ok (result, tx')) :
    (∃ row, tx.tables.finalSnapshot = some row ∧ result = row.rawBytes ∧ tx' = tx) ∨
      ∃ events, ClosedOut w runId replay tx tx' result events := by
  unfold close at h
  split at h
  case h_1 row hrow =>
    simp only [Except.ok.injEq, Prod.mk.injEq] at h
    exact .inl ⟨row, hrow, h.1.symm, h.2.symm⟩
  case h_2 hnone =>
    simp only [bind_eq_ok, refuseIf_eq_ok, Except.ok.injEq, Prod.mk.injEq] at h
    obtain ⟨projection, hprojection, _, hcomplete, latest, hlatest, _, htime, c', hcontracts,
      document, hdocument, tx₁, happend, rfl, rfl⟩ := h
    obtain rfl := hr.projection_eq hprojection
    obtain ⟨hfresh, rfl⟩ := (appendInternal_eq_ok rfl).mp happend
    have hle : latest ≤ updatedAt := by simpa using htime
    refine .inr ⟨_, hnone, fun id item hitem => ?_, ⟨_, rfl, rfl⟩,
      ⟨c', latest, updatedAt, document, hcontracts, hlatest, hle, hdocument, rfl⟩, rfl, rfl, rfl,
      ⟨"run-closed-" ++ w.uuid tx.draws, updatedAt,
        w.rawDigest (w.canonical (.finalReceipts document)), rfl⟩, ?_, ⟨rfl, rfl⟩⟩
    · have hmem : item.evaluateReadiness replay.terminal replay.held ∈ replay.workItems :=
        hr.mem_workItems.mpr ⟨item, (hr.charts hitem).workItemId.symm ▸ hitem, rfl⟩
      simp only [Scheduler.Replay.projection, Bool.not_eq_false', List.isEmpty_iff,
        List.filter_eq_nil_iff] at hcomplete
      simpa using hcomplete _ hmem
    · exact (Grows.withSnapshot _ hnone).trans ((Grows.drawn _).trans (Grows.pushEvent w hfresh))

end Tx

end Nightshift
