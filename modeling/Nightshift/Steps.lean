import Nightshift.Reading

/-!
# What a call does to its run

One inversion lemma for each transaction body. It is stated against the read of
the run before the call, and says which rows were appended, what became of the
claims and the receipts, and which checks the call had passed.
-/

namespace Nightshift

open Checked

/-- An internal event of a run. -/
def journalEvent (runId eventId : String) (workItemId attemptId : Option String)
    (recordedAt : Instant) (payload : InternalPayload) : InternalEvent where
  schema := internalEventSchema
  eventId := eventId
  runId := runId
  workItemId := workItemId
  attemptId := attemptId
  recordedAt := recordedAt
  payload := payload

/-- The attempts whose locks are given back. -/
def Scan.released (scan : Scan) : BTreeSet String :=
  releasedAttempts ((scan.history.map (·.resourceTransitions)).getD [])

/-- The tables beside journal and claims that most calls leave alone. -/
structure SameReceipts (t t' : RunTables) : Prop where
  receipts : t'.terminalReceipts = t.terminalReceipts
  snapshot : t'.finalSnapshot = t.finalSnapshot
  driverSteps : t'.driverSteps = t.driverSteps

/-- The custody columns beside the journal, which only availability events extend. -/
structure SameCustody (t t' : RunTables) : Prop where
  metadata : t'.metadata = t.metadata
  anchors : t'.anchors = t.anchors

namespace Tx

theorem insertClaims_ok {locks : List String} {workItemId attemptId : String} {tx tx' : Tx}
    (h : tx.insertClaims locks workItemId attemptId = .ok tx') :
    (∀ lock ∈ locks, tx.tables.resourceClaims[lock]? = none) ∧
      tx' = tx.withClaims (BTreeMap.insertAll tx.tables.resourceClaims locks
        fun _ => (workItemId, attemptId)) := by
  induction locks generalizing tx with
  | nil =>
    obtain rfl : tx = tx' := by simpa [insertClaims] using h
    exact ⟨by simp, rfl⟩
  | cons lock locks ih =>
    simp only [insertClaims, foldlM_cons_eq_ok, bind_eq_ok, refuseIf_eq_ok, Except.ok.injEq] at h
    obtain ⟨_, ⟨_, hfree, rfl⟩, hrest⟩ := h
    obtain ⟨hnone, rfl⟩ := ih hrest
    refine ⟨fun k hk => ?_, rfl⟩
    rcases List.mem_cons.mp hk with rfl | hk
    · exact Std.ExtTreeMap.getElem?_eq_none_of_contains_eq_false hfree
    · have hk' := hnone k hk
      rw [BTreeMap.getElem?_insert_eq] at hk'
      split at hk'
      · cases hk'
      · exact hk'

/-- Reacquired locks were free or the attempt's own, and are its own afterwards. -/
structure Regained (claims claims' : BTreeMap String (String × String)) (locks : List String)
    (workItemId attemptId : String) : Prop where
  before : ∀ lock ∈ locks,
    claims[lock]? = none ∨ claims[lock]? = some (workItemId, attemptId)
  after : ∀ lock : String, claims'[lock]? =
    if lock ∈ locks then some (workItemId, attemptId) else claims[lock]?

theorem foldlM_reacquireLock_ok {workItemId attemptId : String} {locks : List String}
    {tx tx' : Tx} (h : locks.foldlM (reacquireLock workItemId attemptId) tx = .ok tx') :
    ∃ claims, tx' = tx.withClaims claims ∧
      Regained tx.tables.resourceClaims claims locks workItemId attemptId := by
  induction locks generalizing tx with
  | nil =>
    obtain rfl : tx = tx' := by simpa using h
    exact ⟨tx.tables.resourceClaims, rfl, by simp, by simp⟩
  | cons lock locks ih =>
    obtain ⟨next, hstep, hrest⟩ := foldlM_cons_eq_ok.mp h
    obtain ⟨claims, rfl, hbefore, hafter⟩ := ih hrest
    unfold reacquireLock at hstep
    split at hstep
    case h_1 owner howner =>
      split at hstep
      case isFalse => cases hstep
      case isTrue hmine =>
        obtain rfl := Except.ok.inj hstep
        have hheld : tx.tables.resourceClaims[lock]? = some (workItemId, attemptId) := by
          simp only [Bool.and_eq_true, beq_iff_eq] at hmine
          rw [howner, ← hmine.1, ← hmine.2]
        refine ⟨claims, rfl, ⟨fun k hk => ?_, fun k => ?_⟩⟩
        · rcases List.mem_cons.mp hk with rfl | hk
          · exact .inr hheld
          · exact hbefore k hk
        · rw [hafter k]
          by_cases hk : k = lock
          · subst hk; simp [hheld]
          · simp [hk]
    case h_2 hfree =>
      obtain rfl := Except.ok.inj hstep
      refine ⟨claims, rfl, ⟨fun k hk => ?_, fun k => ?_⟩⟩
      · by_cases he : k = lock
        · subst he; exact .inl hfree
        · have hk' := hbefore k ((List.mem_cons.mp hk).resolve_left he)
          simpa [BTreeMap.getElem?_insert_eq, Ne.symm he] using hk'
      · rw [hafter k]
        by_cases hk : k = lock
        · subst hk; simp
        · simp [hk, BTreeMap.getElem?_insert_eq, Ne.symm hk]

theorem reacquireAttemptResourceClaims_ok {profile : ExecutionProfileV2}
    {workItemId attemptId : String} {tx tx' : Tx}
    (h : tx.reacquireAttemptResourceClaims profile workItemId attemptId = .ok tx') :
    ∃ execution claims, profile.workItems[workItemId]? = some execution ∧
      tx' = tx.withClaims claims ∧ Regained tx.tables.resourceClaims claims
        execution.resourceLockKeys workItemId attemptId := by
  simp only [reacquireAttemptResourceClaims, bind_eq_ok, okOr_eq_ok] at h
  obtain ⟨execution, hexecution, hfold⟩ := h
  obtain ⟨claims, htx, hregained⟩ := foldlM_reacquireLock_ok hfold
  exact ⟨execution, claims, hexecution, htx, hregained⟩

theorem insertReceipt_ok {workItemId : String} {receipt : ReceiptRow} {tx tx' : Tx}
    (h : tx.insertReceipt workItemId receipt = .ok tx') :
    tx.tables.terminalReceipts[workItemId]? = none ∧
      tx' = tx.withReceipt workItemId receipt := by
  simp only [insertReceipt, bind_eq_ok, refuseIf_eq_ok, Except.ok.injEq] at h
  obtain ⟨_, habsent, rfl⟩ := h
  exact ⟨Std.ExtTreeMap.getElem?_eq_none_of_contains_eq_false habsent, rfl⟩

/-- Giving back the locks deletes the claims and journals one event. -/
theorem releaseResources_ok {w : Platform} {runId workItemId attemptId : String}
    {recordedAt : Instant} {tx tx' : Tx}
    (h : tx.releaseResources w runId workItemId attemptId recordedAt = .ok tx') :
    ∃ eventId, tx.FreshId eventId ∧ tx' =
      (tx.deleteClaims workItemId attemptId).drawn.pushEvent w (journalEvent runId eventId
        (some workItemId) (some attemptId) recordedAt .resourcesReleased) := by
  obtain ⟨hfresh, rfl⟩ := (appendInternal_eq_ok rfl).mp h
  exact ⟨_, hfresh, rfl⟩

/-- The members of a dispatch that its caller and the store chose. -/
structure Builds (opened : OpenedDispatch) (preparation : DispatchPreparation)
    (dispatchOrdinal : Nat) (openedAt : Instant) : Prop where
  occurrence : opened.dispatch.dispatchOccurrenceId = preparation.dispatchOccurrenceId
  process : opened.dispatch.adapterProcessOccurrenceId = preparation.adapterProcessOccurrenceId
  session : opened.dispatch.appServerSessionIdentity = preparation.appServerSessionIdentity
  ordinal : opened.dispatch.selectedModelOrdinal = preparation.selectedModelOrdinal
  dispatchOrdinal : opened.dispatch.dispatchOrdinal = dispatchOrdinal
  openedAt : opened.dispatch.openedAt = openedAt

theorem buildProviderDispatch_ok {w : Platform} {predecessor : WorkerStartRequestV2}
    {profile : ExecutionProfileV2} {requirement : ForemanExecutionAvailabilityRequirementV1}
    {preparation : DispatchPreparation} {dispatchOrdinal : Nat} {openedAt : Instant}
    {opened : OpenedDispatch}
    (h : buildProviderDispatch w predecessor profile requirement preparation.dispatchOccurrenceId
      preparation.adapterProcessOccurrenceId preparation.appServerSessionIdentity
      preparation.selectedModelOrdinal dispatchOrdinal openedAt = .ok opened) :
    Builds opened preparation dispatchOrdinal openedAt := by
  simp only [buildProviderDispatch, bind_eq_ok, mapErr_eq_ok, Except.ok.injEq] at h
  obtain ⟨_, -, _, -, _, -, start, -, dispatch, hsealed, _, -, rfl⟩ := h
  simp only [ProviderDispatchOccurrenceV1.sealed, bind_eq_ok, Except.ok.injEq] at hsealed
  obtain ⟨_, -, rfl⟩ := hsealed
  exact ⟨rfl, rfl, rfl, rfl, rfl, rfl⟩

end Tx

/-- The event of an opened dispatch. -/
def dispatchEvent (w : Platform) (runId workItemId attemptId : String)
    (opened : OpenedDispatch) : InternalEvent :=
  journalEvent runId ("provider-dispatch-" ++ opened.dispatch.dispatchOccurrenceId)
    (some workItemId) (some attemptId) opened.dispatch.openedAt
    (.providerDispatchOpened opened.workerStartRequest
      (w.canonical (.startRequestV3 opened.workerStartRequest)) opened.dispatch
      (w.canonical (.dispatch opened.dispatch)))

theorem Tx.appendProviderDispatch_ok {w : Platform} {tx tx' : Tx}
    {runId workItemId attemptId : String} {opened : OpenedDispatch} {maximumEventBytes : Nat}
    (h : tx.appendProviderDispatch w runId workItemId attemptId opened maximumEventBytes =
      .ok tx') :
    tx.FreshId (dispatchEvent w runId workItemId attemptId opened).eventId ∧
      tx' = tx.pushProvider w (dispatchEvent w runId workItemId attemptId opened) :=
  (appendExecutionAvailabilityBounded_ok h).2

/-- The event of an accepted capacity admission. -/
def capacityEvent (runId eventId workItemId attemptId : String) (recordedAt : Instant)
    (capacity : CapacityBundle) : InternalEvent :=
  journalEvent runId eventId (some workItemId) (some attemptId) recordedAt
    (.capacityAdmissionAccepted capacity.admission capacity.admissionBytes
      capacity.observationBytes capacity.policyBytes capacity.decisionBytes)

/-- The capacity events of an attempt: one admission when the run requires it. -/
inductive CapacityEvents (w : Platform) (runId workItemId attemptId : String)
    (recordedAt : Instant) (c : Contracts) (t : RunTables) : List InternalEvent → Prop
  | none (hrequirement : loadCapacityRequirement w t = .ok none) :
    CapacityEvents w runId workItemId attemptId recordedAt c t []
  | some (requirement : ForemanCapacityRequirementV1) (capacity : CapacityBundle)
      (eventId : String) (hrequirement : loadCapacityRequirement w t = .ok (some requirement))
      (hbundle : validateCapacityBundle w capacity.admissionBytes capacity.observationBytes
        capacity.policyBytes capacity.decisionBytes = .ok capacity)
      (hbindings : validateCapacityBindings capacity c.packet c.admission c.profile requirement
        workItemId recordedAt = .ok ())
      (hroom : Tx.CapacityRoom w t
        (capacityEvent runId eventId workItemId attemptId recordedAt capacity)
        c.profile.maximumEventBytes c.maximumCapacityRows) :
    CapacityEvents w runId workItemId attemptId recordedAt c t
      [capacityEvent runId eventId workItemId attemptId recordedAt capacity]

/-- The start request of a fresh attempt and what it repeats of the run. -/
structure Requests (w : Platform) (c : Contracts) (runId workItemId attemptId : String)
    (request : WorkerStartRequestV2) : Prop where
  valid : request.validate w = .ok ()
  run : request.runId = runId
  packet : request.packetDigest = c.packet.packetDigest
  workItem : request.workItemId = workItemId
  attempt : request.attemptId = attemptId
  adapter : (c.profile.workItems[workItemId]?).map (·.adapterId) = some request.adapterId
  modelClass : (c.profile.workItems[workItemId]?).map (·.providerModelClass) =
    some request.providerModelClass

/-- What a successful preparation did: the item was ready and idle, a slot and
its locks were free, and the attempt holds them now. -/
structure Prepared (w : Platform) (runId : String) (c : Contracts) (scan : Scan)
    (replay : Scheduler.Replay) (tx tx' : Tx) (workItemId attemptId : String)
    (recordedAt : Instant) (preparation : Option DispatchPreparation)
    (opened : Option OpenedDispatch) (events : List InternalEvent) : Prop where
  item : ∃ item, replay.items[workItemId]? = some item ∧ item.activeAttemptId = none ∧
    item.schedulerState.isExplicitTerminal = false ∧
    ∀ dependency ∈ item.dependencies, dependency ∈ replay.terminal
  attempt : attemptId = "attempt-" ++ w.uuid tx.draws
  drawn : tx.draws < tx'.draws
  slot : activeWorkers scan.released (replay.projection c runId) < c.maximum
  execution : ∃ execution request capacityEvents dispatchEvents eventId,
    c.profile.workItems[workItemId]? = some execution ∧
    Requests w c runId workItemId attemptId request ∧
    CapacityEvents w runId workItemId attemptId recordedAt c tx.tables capacityEvents ∧
    (∀ lock ∈ execution.resourceLockKeys, tx.tables.resourceClaims[lock]? = none) ∧
    tx'.tables.resourceClaims = BTreeMap.insertAll tx.tables.resourceClaims
      execution.resourceLockKeys (fun _ => (workItemId, attemptId)) ∧
    events = capacityEvents ++ journalEvent runId eventId (some workItemId) (some attemptId)
      recordedAt (.attemptCreated execution.resourceLockKeys request) :: dispatchEvents ∧
    dispatchEvents = (opened.map (dispatchEvent w runId workItemId attemptId)).toList
  path : scan.history.isSome = preparation.isSome
  opens : ∀ value, opened = some value → ∃ prepared, preparation = some prepared ∧
    Tx.Builds value prepared 1 recordedAt
  unopened : opened.isSome = preparation.isSome
  grows : Grows tx tx' (rowsOf w tx.sequence events)
  same : SameReceipts tx.tables tx'.tables
  history : ∃ history, loadExecutionAvailabilityHistory w tx'.tables c = .ok history

namespace Tx

variable {w : Platform} {runId : String} {c : Contracts} {scan : Scan}
  {replay : Scheduler.Replay} {tx tx' : Tx}

theorem startRequest_ok {workItemId attemptId : String} {execution : WorkItemExecutionV1}
    {adapter : AdapterRegistrationV2} {request : WorkerStartRequestV2}
    (hexecution : c.profile.workItems[workItemId]? = some execution)
    (h : tx.startRequest w c runId workItemId attemptId execution adapter = .ok request) :
    Requests w c runId workItemId attemptId request := by
  simp only [startRequest, bind_eq_ok, mapErr_eq_ok, Except.ok.injEq] at h
  obtain ⟨brief, hbrief, sealed, hsealed, _, hstart, rfl⟩ := h
  simp only [WorkerStartRequestV2.sealed, bind_eq_ok, Except.ok.injEq] at hsealed
  obtain ⟨_, hvalid, rfl⟩ := hsealed
  -- the brief is built on the same execution entry, and ties the adapter to it
  have hadapter : adapter.adapterId = execution.adapterId := by
    simp only [workerBrief, bind_eq_ok, okOr_eq_ok, Except.ok.injEq] at hbrief
    obtain ⟨_, -, _, -, _, -, execution', hexecution', _, -, _, -, _, -, _, -, rfl⟩ := hbrief
    obtain rfl := Option.some.inj (hexecution'.symm.trans hexecution)
    simp only [WorkerBriefV2.validateForStart, bind_eq_ok, refuseIf_eq_ok,
      Bool.or_eq_false_iff, bne_eq_false_iff_eq] at hstart
    obtain ⟨_, -, _, -, _, -, _, -, _, -, _, -, _, -, _, -, _, -, _, -, _, -, _, hbound, -⟩ := hstart
    exact hbound.1.1.symm
  exact ⟨hvalid, rfl, rfl, rfl, rfl, by simp [hexecution, hadapter], by simp [hexecution]⟩

theorem appendCapacityAdmission_ok {workItemId attemptId : String} {recordedAt : Instant}
    {requirement : Option ForemanCapacityRequirementV1} {capacity : Option CapacityBundle}
    (h : tx.appendCapacityAdmission w c runId workItemId attemptId requirement recordedAt capacity =
      .ok tx')
    (hload : loadCapacityRequirement w tx.tables = .ok requirement)
    (hpath : checkCapacityPath requirement capacity = .ok ())
    (hbundle : ∀ bundle, capacity = some bundle → validateCapacityBundle w bundle.admissionBytes
      bundle.observationBytes bundle.policyBytes bundle.decisionBytes = .ok bundle) :
    ∃ events, CapacityEvents w runId workItemId attemptId recordedAt c tx.tables events ∧
      Grows tx tx' (rowsOf w tx.sequence events) ∧ tx'.sequence = tx.sequence + events.length ∧
      tx'.tables.resourceClaims = tx.tables.resourceClaims ∧
      SameReceipts tx.tables tx'.tables := by
  simp only [checkCapacityPath, bind_eq_ok, refuseIf_eq_ok] at hpath
  cases capacity with
  | none =>
    obtain rfl : tx = tx' := by simpa [appendCapacityAdmission] using h
    obtain rfl : requirement = none := by simpa using hpath
    exact ⟨[], .none hload, Grows.refl tx, rfl, rfl, ⟨rfl, rfl, rfl⟩⟩
  | some bundle =>
    simp only [appendCapacityAdmission, bind_eq_ok, okOr_eq_ok] at h
    obtain ⟨required, rfl, _, hbindings, happend⟩ := h
    obtain ⟨hroom, hfresh, rfl⟩ := appendInternalBounded_ok happend
    exact ⟨_, .some required bundle _ hload (hbundle bundle rfl) hbindings hroom,
      (Grows.drawn tx).trans (Grows.pushEvent w hfresh), rfl, rfl, ⟨rfl, rfl, rfl⟩⟩

theorem openFirstDispatch_ok {workItemId attemptId : String} {request : WorkerStartRequestV2}
    {history : Option History} {recordedAt : Instant} {preparation : Option DispatchPreparation}
    {opened : Option OpenedDispatch}
    (h : tx.openFirstDispatch w c runId workItemId attemptId request history recordedAt
      preparation = .ok (opened, tx')) :
    Grows tx tx' (rowsOf w tx.sequence
      (opened.map (dispatchEvent w runId workItemId attemptId)).toList) ∧
      tx'.tables.resourceClaims = tx.tables.resourceClaims ∧
      SameReceipts tx.tables tx'.tables ∧ opened.isSome = preparation.isSome ∧
      ∀ value, opened = some value → ∃ prepared, preparation = some prepared ∧
        Builds value prepared 1 recordedAt := by
  cases preparation with
  | none =>
    simp only [openFirstDispatch, Except.ok.injEq, Prod.mk.injEq] at h
    obtain ⟨rfl, rfl⟩ := h
    exact ⟨Grows.refl tx, rfl, ⟨rfl, rfl, rfl⟩, rfl, by simp⟩
  | some prepared =>
    simp only [openFirstDispatch, bind_eq_ok, okOr_eq_ok, Except.ok.injEq, Prod.mk.injEq] at h
    obtain ⟨required, rfl, dispatch, hbuild, next, happend, rfl, rfl⟩ := h
    obtain ⟨hfresh, rfl⟩ := appendProviderDispatch_ok happend
    refine ⟨Grows.pushProvider w hfresh, rfl, ⟨rfl, rfl, rfl⟩, rfl, ?_⟩
    rintro value hvalue
    obtain rfl := Option.some.inj hvalue
    exact ⟨prepared, rfl, buildProviderDispatch_ok hbuild⟩

theorem checkStartPath_ok {history : Option History} {preparation : Option DispatchPreparation}
    (h : checkStartPath history preparation = .ok ()) :
    history.isSome = preparation.isSome := by
  cases history <;> cases preparation <;> simp [checkStartPath] at h ⊢

theorem prepareAttemptInternal_ok (hr : Reads w runId tx.tables c scan replay)
    {workItemId : String} {recordedAt : Instant} {capacity : Option CapacityBundle}
    {preparation : Option DispatchPreparation} {request : WorkerStartRequestV2}
    {opened : Option OpenedDispatch}
    (hbundle : ∀ bundle, capacity = some bundle → validateCapacityBundle w bundle.admissionBytes
      bundle.observationBytes bundle.policyBytes bundle.decisionBytes = .ok bundle)
    (h : tx.prepareAttemptInternal w runId workItemId recordedAt capacity preparation =
      .ok ((request, opened), tx')) :
    ∃ attemptId events, Prepared w runId c scan replay tx tx' workItemId attemptId recordedAt
      preparation opened events := by
  simp only [prepareAttemptInternal, bind_eq_ok, okOr_eq_ok, refuseIf_eq_ok] at h
  obtain ⟨projection, hprojection, item, hfind, _, heligible, prior, -, _, -, _, hlocks, c', hc',
    requirement, hrequirement, history, hhistory, _, hpath, _, hslot, _, hcapacity, execution,
    hexecution, adapter, hadapter, made, hmade, tx₁, hadmit, tx₂, hclaims, tx₃, hcreate,
    ⟨opened', tx₄⟩, hopen, found, hfound, hdone⟩ := h
  obtain rfl := hr.projection_eq hprojection
  obtain rfl := hr.contracts_eq hc'
  obtain rfl := hr.history_eq hhistory
  simp only [Except.ok.injEq, Prod.mk.injEq] at hdone
  obtain ⟨⟨rfl, rfl⟩, rfl⟩ := hdone
  obtain ⟨raw, hraw, rfl⟩ := hr.findItem_eq_ok.mp hfind
  have hstate : LiveWorkItemV1.ofReadiness (raw.readiness replay.terminal replay.held) = true := by
    rw [Bool.not_eq_false', LiveWorkItemV1.evaluateReadiness_schedulerState] at heligible
    exact heligible
  obtain ⟨hidle, hopen', hready⟩ :=
    LiveWorkItemV1.eligible_of_readiness (hr.charts hraw).raw hstate
  obtain ⟨capacityEvents, hevents, hgrows₁, hseq₁, hsame₁, hreceipts₁⟩ :=
    appendCapacityAdmission_ok hadmit hrequirement hcapacity hbundle
  obtain ⟨hfree, rfl⟩ := insertClaims_ok hclaims
  obtain ⟨hfresh, rfl⟩ := (appendInternal_eq_ok rfl).mp hcreate
  obtain ⟨hgrows₄, hsame₄, hreceipts₄, hsome, hopens⟩ := openFirstDispatch_ok hopen
  have hgrows := (((Grows.drawn tx).trans hgrows₁).trans (Grows.withClaims tx₁ _)).trans
    ((Grows.drawn _).trans ((Grows.pushEvent w hfresh).trans hgrows₄))
  refine ⟨_, _, ⟨raw, hraw, hidle, hopen', hready⟩, rfl, ?_, ?_, ⟨execution, made, capacityEvents,
    _, "attempt-created-" ++ w.uuid tx₁.draws, hexecution, startRequest_ok hexecution hmade, hevents,
    ?_, ?_, rfl, rfl⟩, checkStartPath_ok hpath, hopens, hsome, ?_, ?_, ⟨found, hfound⟩⟩
  · exact lt_of_lt_of_le (Nat.lt_succ_self tx.draws) (hgrows₁.trans ((Grows.withClaims tx₁ _).trans
      ((Grows.drawn _).trans ((Grows.pushEvent w hfresh).trans hgrows₄)))).draws
  · simpa [Scan.released, Scheduler.Replay.projection] using hslot
  · simpa [hsame₁, Tx.drawn] using hfree
  · rw [hsame₄, ← (show tx₁.tables.resourceClaims = tx.tables.resourceClaims from hsame₁)]
    rfl
  · have hseq : tx₁.sequence = tx.sequence + capacityEvents.length := hseq₁
    rw [rowsOf_append, rowsOf_cons, ← hseq]
    simp only [List.nil_append, List.append_nil, List.singleton_append] at hgrows
    exact hgrows
  · exact ⟨hreceipts₄.receipts.trans hreceipts₁.receipts,
      hreceipts₄.snapshot.trans hreceipts₁.snapshot,
      hreceipts₄.driverSteps.trans hreceipts₁.driverSteps⟩

end Tx

/-- The event of an accepted disposition. -/
def dispositionEvent (runId workItemId attemptId : String) (accepted : AcceptedDisposition)
    (predecessor : Option String) : InternalEvent :=
  journalEvent runId ("provider-disposition-" ++ accepted.disposition.dispositionDigest)
    (some workItemId) (some attemptId) accepted.disposition.receivedAt
    (.providerDispositionRecorded accepted.observation accepted.observationBytes
      accepted.disposition accepted.dispositionBytes accepted.deferred accepted.deferredBytes
      predecessor)

/-- The event that gives back the locks of a parked attempt. -/
def parkEvent (runId workItemId attemptId : String) (policy : ExecutionAvailabilityPolicyV1)
    (disposition : ProviderAdmissionDispositionV1) (locks : List String) : InternalEvent :=
  journalEvent runId ("provider-resources-released-" ++ disposition.dispositionDigest)
    (some workItemId) (some attemptId) disposition.receivedAt
    (.providerResourcesReleased disposition.dispositionDigest disposition.dispatchDigest
      policy.policyDigest locks)

/-- What recording a disposition did. -/
structure Disposed (w : Platform) (runId : String) (c : Contracts) (scan : Scan)
    (replay : Scheduler.Replay) (tx tx' : Tx) (workItemId attemptId : String)
    (history : History) (accepted : AcceptedDisposition) (predecessor : Option String)
    (events : List InternalEvent) : Prop where
  active : ∃ item, Active replay workItemId attemptId item
  required : scan.history = some history
  graph : ∃ dispatch prior, dispatch ∈ history.dispatches ∧ dispatch.workAttemptId = attemptId ∧
    dispatch.dispatchDigest = accepted.disposition.dispatchDigest ∧
    Tx.checkDispositionPredecessor (history.dispositions.filter fun disposition =>
      disposition.dispatchDigest == dispatch.dispatchDigest).getLast? predecessor
      accepted.disposition = .ok () ∧
    history.providerDeferralHistory attemptId dispatch.dispatchOrdinal = .ok prior ∧
    AvailabilityGraph.validate w history.requirement history.policy dispatch accepted.observation
      accepted.disposition prior accepted.deferred = .ok ()
  locks : ∃ locks : List String, (Tx.parks history.policy accepted.disposition = true →
      (c.profile.workItems[workItemId]?).map (·.resourceLockKeys) = some locks) ∧
    events = dispositionEvent runId workItemId attemptId accepted predecessor ::
      (if Tx.parks history.policy accepted.disposition then
        [parkEvent runId workItemId attemptId history.policy accepted.disposition locks] else [])
  claims : tx'.tables.resourceClaims = if Tx.parks history.policy accepted.disposition then
    (tx.deleteClaims workItemId attemptId).tables.resourceClaims else tx.tables.resourceClaims
  grows : Grows tx tx' (rowsOf w tx.sequence events)
  same : SameReceipts tx.tables tx'.tables
  loads : ∃ history, loadExecutionAvailabilityHistory w tx'.tables c = .ok history

namespace Tx

variable {w : Platform} {runId : String} {c : Contracts} {scan : Scan}
  {replay : Scheduler.Replay} {tx tx' : Tx}

theorem appendProviderDisposition_ok {workItemId attemptId : String}
    {accepted : AcceptedDisposition} {predecessor : Option String} {maximumEventBytes : Nat}
    (h : tx.appendProviderDisposition w runId workItemId attemptId accepted predecessor
      maximumEventBytes = .ok tx') :
    tx.FreshId (dispositionEvent runId workItemId attemptId accepted predecessor).eventId ∧
      tx' = tx.pushProvider w (dispositionEvent runId workItemId attemptId accepted predecessor) :=
  (appendExecutionAvailabilityBounded_ok h).2

theorem parkIfDue_ok {workItemId attemptId : String} {policy : ExecutionAvailabilityPolicyV1}
    {disposition : ProviderAdmissionDispositionV1}
    (h : tx.parkIfDue w c runId workItemId attemptId policy disposition = .ok tx') :
    ∃ locks : List String,
      (parks policy disposition = true →
        (c.profile.workItems[workItemId]?).map (·.resourceLockKeys) = some locks) ∧
      Grows tx tx' (rowsOf w tx.sequence (if parks policy disposition then
        [parkEvent runId workItemId attemptId policy disposition locks] else [])) ∧
      tx'.tables.resourceClaims = (if parks policy disposition then
        (tx.deleteClaims workItemId attemptId).tables.resourceClaims
        else tx.tables.resourceClaims) ∧
      SameReceipts tx.tables tx'.tables := by
  cases hparks : parks policy disposition with
  | false =>
    obtain rfl : tx = tx' := by simpa [parkIfDue, hparks] using h
    exact ⟨[], by simp, Grows.refl tx, rfl, ⟨rfl, rfl, rfl⟩⟩
  | true =>
    rw [parkIfDue, if_pos hparks] at h
    simp only [releaseParked, bind_eq_ok, okOr_eq_ok, Except.ok.injEq] at h
    obtain ⟨execution, hexecution, tx₁, hrelease, rfl⟩ := h
    obtain ⟨-, hfresh, rfl⟩ := appendExecutionAvailabilityBounded_ok hrelease
    exact ⟨_, fun _ => by rw [hexecution]; rfl,
      (Grows.pushProvider w hfresh).trans (Grows.deleteClaims _ workItemId attemptId), rfl,
      ⟨rfl, rfl, rfl⟩⟩

theorem recordProviderDisposition_ok (hr : Reads w runId tx.tables c scan replay)
    {workItemId attemptId : String} {accepted : AcceptedDisposition} {predecessor : Option String}
    {result : ProviderAdmissionDispositionV1}
    (h : tx.recordProviderDisposition w runId workItemId attemptId accepted predecessor =
      .ok (result, tx')) :
    result = accepted.disposition ∧ ∃ history events, Disposed w runId c scan replay tx tx'
      workItemId attemptId history accepted predecessor events := by
  simp only [recordProviderDisposition, bind_eq_ok, okOr_eq_ok, mapErr_eq_ok, Except.ok.injEq,
    Prod.mk.injEq] at h
  obtain ⟨_, hactive, c', hc', history, hhistory, dispatch, hdispatch, _, hpredecessor, prior,
    hprior, _, hgraph, tx₁, happend, tx₂, hpark, found, hfound, rfl, rfl⟩ := h
  obtain rfl := hr.contracts_eq hc'
  obtain ⟨hfresh, rfl⟩ := appendProviderDisposition_ok happend
  obtain ⟨locks, hlocks, hgrows, hclaims, hsame⟩ := parkIfDue_ok hpark
  have hmatch : dispatch.workAttemptId = attemptId ∧
      dispatch.dispatchDigest = accepted.disposition.dispatchDigest := by
    simpa using List.find?_some hdispatch
  exact ⟨rfl, history, _, hr.exactActiveAttempt_eq_ok.mp hactive, hr.requireHistory_eq hhistory,
    ⟨dispatch, prior, List.mem_of_find?_eq_some hdispatch, hmatch.1, hmatch.2, hpredecessor,
      hprior, hgraph⟩, ⟨locks, hlocks, rfl⟩, hclaims, (Grows.pushProvider w hfresh).trans hgrows,
    ⟨hsame.receipts, hsame.snapshot, hsame.driverSteps⟩, ⟨found, hfound⟩⟩

end Tx

/-- The event that takes the locks of a parked attempt again. -/
def reacquireEvent (runId workItemId attemptId wakeOccurrenceId : String)
    (policy : ExecutionAvailabilityPolicyV1) (deferred : DeferredProviderDispatchV1)
    (opened : OpenedDispatch) (openedAt : Instant) (locks : List String) : InternalEvent :=
  journalEvent runId ("provider-resources-reacquired-" ++ wakeOccurrenceId) (some workItemId)
    (some attemptId) openedAt (.providerResourcesReacquired wakeOccurrenceId
      deferred.deferredDispatchDigest opened.dispatch.dispatchDigest policy.policyDigest locks)

def wakeEvent (runId workItemId attemptId wakeOccurrenceId : String)
    (deferred : DeferredProviderDispatchV1) (opened : OpenedDispatch) (openedAt : Instant) :
    InternalEvent :=
  journalEvent runId ("provider-wake-" ++ wakeOccurrenceId) (some workItemId) (some attemptId)
    openedAt (.providerWakeOpened wakeOccurrenceId deferred.deferredDispatchDigest
      opened.dispatch.dispatchDigest)

/-- The lock side of a wake under each of the two policies. -/
inductive Relocks (runId : String) (c : Contracts) (tx tx' : Tx)
    (workItemId attemptId wakeOccurrenceId : String) (policy : ExecutionAvailabilityPolicyV1)
    (deferred : DeferredProviderDispatchV1) (opened : OpenedDispatch) (openedAt : Instant) :
    List InternalEvent → Prop
  | reacquired (locks : List String)
      (hpolicy : policy.parkedResourceLockPolicy = .releaseAndReacquire)
      (hlocks : (c.profile.workItems[workItemId]?).map (·.resourceLockKeys) = some locks)
      (hclaims : Tx.Regained tx.tables.resourceClaims tx'.tables.resourceClaims locks workItemId
        attemptId) :
    Relocks runId c tx tx' workItemId attemptId wakeOccurrenceId policy deferred opened openedAt
      [reacquireEvent runId workItemId attemptId wakeOccurrenceId policy deferred opened openedAt
        locks]
  | kept (hpolicy : policy.parkedResourceLockPolicy = .retainWhileParked)
      (hclaims : tx'.tables.resourceClaims = tx.tables.resourceClaims) :
    Relocks runId c tx tx' workItemId attemptId wakeOccurrenceId policy deferred opened openedAt
      []

/-- What a wake that opened the next dispatch did. -/
structure Woken (w : Platform) (runId : String) (c : Contracts) (scan : Scan)
    (replay : Scheduler.Replay) (tx tx' : Tx) (workItemId attemptId wakeOccurrenceId : String)
    (history : History) (preparation : DispatchPreparation) (openedAt : Instant)
    (deferred : DeferredProviderDispatchV1) (opened : OpenedDispatch)
    (events : List InternalEvent) : Prop where
  active : ∃ item, Active replay workItemId attemptId item
  required : scan.history = some history
  unused : wakeOccurrenceId ∉ history.wakeOccurrenceIds
  slot : history.policy.parkedResourceLockPolicy = .releaseAndReacquire →
    activeWorkers scan.released (replay.projection c runId) < c.maximum
  deferral : Tx.wakeDeferral history attemptId openedAt = .ok deferred
  lawful : Tx.wakeLawful history attemptId deferred preparation = true
  builds : Tx.Builds opened preparation ((history.lane attemptId).length + 1) openedAt
  locks : ∃ lockEvents, Relocks runId c tx tx' workItemId attemptId wakeOccurrenceId
      history.policy deferred opened openedAt lockEvents ∧
    events = lockEvents ++ [wakeEvent runId workItemId attemptId wakeOccurrenceId deferred opened
      openedAt, dispatchEvent w runId workItemId attemptId opened]
  grows : Grows tx tx' (rowsOf w tx.sequence events)
  same : SameReceipts tx.tables tx'.tables
  loads : ∃ history, loadExecutionAvailabilityHistory w tx'.tables c = .ok history

namespace Tx

variable {w : Platform} {runId : String} {c : Contracts} {scan : Scan}
  {replay : Scheduler.Replay} {tx tx' : Tx}

theorem regainLocks_ok {workItemId attemptId wakeOccurrenceId : String}
    {policy : ExecutionAvailabilityPolicyV1} {deferred : DeferredProviderDispatchV1}
    {opened : OpenedDispatch} {openedAt : Instant}
    (h : tx.regainLocks w c runId workItemId attemptId wakeOccurrenceId policy deferred opened
      openedAt = .ok tx') :
    ∃ events, Relocks runId c tx tx' workItemId attemptId wakeOccurrenceId policy deferred opened
        openedAt events ∧
      Grows tx tx' (rowsOf w tx.sequence events) ∧ tx'.sequence = tx.sequence + events.length ∧
      SameReceipts tx.tables tx'.tables := by
  unfold regainLocks at h
  cases hpolicy : policy.parkedResourceLockPolicy with
  | releaseAndReacquire =>
    simp only [hpolicy, bind_eq_ok, okOr_eq_ok] at h
    obtain ⟨tx₁, hregain, execution, hexecution, happend⟩ := h
    obtain ⟨execution', claims, hexecution', rfl, hregained⟩ :=
      reacquireAttemptResourceClaims_ok hregain
    obtain rfl := Option.some.inj (hexecution'.symm.trans hexecution)
    obtain ⟨-, hfresh, rfl⟩ := appendExecutionAvailabilityBounded_ok happend
    exact ⟨_, .reacquired _ hpolicy (by rw [hexecution]; rfl) hregained,
      (Grows.withClaims tx claims).trans (Grows.pushProvider w hfresh), rfl, ⟨rfl, rfl, rfl⟩⟩
  | retainWhileParked =>
    simp only [hpolicy, bind_eq_ok, Except.ok.injEq] at h
    obtain ⟨_, -, rfl⟩ := h
    exact ⟨[], .kept hpolicy rfl, Grows.refl tx, rfl, ⟨rfl, rfl, rfl⟩⟩

theorem checkWakeSlot_ok (hr : Reads w runId tx.tables c scan replay) {history : History}
    (hhistory : scan.history = some history) (h : tx.checkWakeSlot w runId history = .ok ()) :
    history.policy.parkedResourceLockPolicy = .releaseAndReacquire →
      activeWorkers scan.released (replay.projection c runId) < c.maximum := by
  intro hpolicy
  simp only [checkWakeSlot, hpolicy, beq_self_eq_true, if_true, bind_eq_ok, refuseIf_eq_ok] at h
  obtain ⟨projection, hprojection, hslot⟩ := h
  obtain rfl := hr.projection_eq hprojection
  simpa [Scan.released, hhistory, Scheduler.Replay.projection] using hslot

theorem openWake_ok (hr : Reads w runId tx.tables c scan replay)
    {workItemId attemptId wakeOccurrenceId : String} {history : History}
    {preparation : DispatchPreparation} {openedAt : Instant} {opened : OpenedDispatch}
    (hactive : ∃ item, Active replay workItemId attemptId item)
    (hhistory : scan.history = some history)
    (hunused : wakeOccurrenceId ∉ history.wakeOccurrenceIds)
    (h : tx.openWake w c runId workItemId attemptId wakeOccurrenceId history preparation openedAt =
      .ok (opened, tx')) :
    ∃ deferred events, Woken w runId c scan replay tx tx' workItemId attemptId wakeOccurrenceId
      history preparation openedAt deferred opened events := by
  simp only [openWake, bind_eq_ok, refuseIf_eq_ok, Except.ok.injEq, Prod.mk.injEq] at h
  obtain ⟨_, hslot, deferred, hdeferral, _, hlawful, predecessor, -, built, hbuild, tx₁, hlocks, tx₂,
    hwake, tx₃, hdispatch, found, hfound, rfl, rfl⟩ := h
  obtain ⟨lockEvents, hrelocks, hgrows₁, hseq₁, hsame₁⟩ := regainLocks_ok hlocks
  obtain ⟨-, hfresh₂, rfl⟩ := appendExecutionAvailabilityBounded_ok hwake
  obtain ⟨hfresh₃, rfl⟩ := appendProviderDispatch_ok hdispatch
  have hgrows := hgrows₁.trans ((Grows.pushProvider w hfresh₂).trans (Grows.pushProvider w hfresh₃))
  refine ⟨deferred, _, hactive, hhistory, hunused, checkWakeSlot_ok hr hhistory hslot, hdeferral,
    by simpa using hlawful, buildProviderDispatch_ok hbuild, ⟨lockEvents, ?_, rfl⟩, ?_,
    ⟨hsame₁.receipts, hsame₁.snapshot, hsame₁.driverSteps⟩, ⟨found, hfound⟩⟩
  · cases hrelocks with
    | reacquired locks hpolicy hprofile hclaims => exact .reacquired locks hpolicy hprofile hclaims
    | kept hpolicy hclaims => exact .kept hpolicy hclaims
  · rw [rowsOf_append, rowsOf_cons, ← hseq₁]
    exact hgrows

end Tx

end Nightshift
