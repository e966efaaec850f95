import Nightshift.Admission
import Nightshift.Bench
import Nightshift.ScanSteps

/-!
# Whole runs of the store

A successful call admits one run or takes one turn on the tables of a run, and
every other run keeps its tables. By induction over the calls, every run of a
reachable store reads.
-/

namespace Nightshift

open Checked

/-- The journal row that creates an attempt of an item. -/
structure Creates (row : EventRow) (workItemId attemptId : String) (event : InternalEvent)
    (locks : List String) (request : WorkerStartRequestV2) : Prop where
  read : row.internalEvent = .ok event
  kind : row.kind = .internal
  workItemId : row.workItemId = some workItemId
  attemptId : row.attemptId = some attemptId
  payload : event.payload = .attemptCreated locks request

theorem RunTables.loadAttemptStartRequest_ok {t : RunTables} {workItemId attemptId : String}
    {request : WorkerStartRequestV2}
    (h : t.loadAttemptStartRequest workItemId attemptId = .ok request) :
    ∃ row ∈ t.events, ∃ event locks, Creates row workItemId attemptId event locks request := by
  simp only [loadAttemptStartRequest, bind_eq_ok, okOr_eq_ok] at h
  obtain ⟨found, hfold, rfl⟩ := h
  refine foldlM_invariant (fun found => ∀ request, found = some request →
    ∃ row ∈ t.events, ∃ event locks, Creates row workItemId attemptId event locks request)
    (by simp) ?_ hfold request rfl
  intro found row next hrow hP hstep request hrequest
  simp only [List.mem_filter, Bool.and_eq_true, beq_iff_eq] at hrow
  simp only [bind_eq_ok] at hstep
  obtain ⟨event, hevent, hcase⟩ := hstep
  split at hcase
  case h_1 locks startRequest hpayload =>
    simp only [bind_eq_ok, Except.ok.injEq] at hcase
    obtain ⟨_, -, rfl⟩ := hcase
    obtain rfl := Option.some.inj hrequest
    exact ⟨row, hrow.1, event, locks, hevent, hrow.2.2, hrow.2.1.1, hrow.2.1.2, hpayload⟩
  case h_2 =>
    obtain rfl := Except.ok.inj hcase
    exact hP request hrequest

/-- An attempt created in the journal is an attempt of the scan. -/
theorem Scan.mem_attempts_of_creates {w : Platform} {t : RunTables} {c : Contracts}
    {rows : List EventRow} {scan scan' : Scan} {row : EventRow} {workItemId attemptId : String}
    {event : InternalEvent} {locks : List String} {request : WorkerStartRequestV2}
    (h : rows.foldlM (step w t c) scan = .ok scan') (hrow : row ∈ rows)
    (hcreates : Creates row workItemId attemptId event locks request) :
    (workItemId, attemptId) ∈ scan'.attempts := by
  have hkept : ∀ {rows : List EventRow} {scan scan' : Scan},
      rows.foldlM (step w t c) scan = .ok scan' → (workItemId, attemptId) ∈ scan.attempts →
        (workItemId, attemptId) ∈ scan'.attempts := fun h hmem =>
    foldlM_invariant (fun scan => (workItemId, attemptId) ∈ scan.attempts) hmem
      (fun _ _ _ _ hP hstep => (step_moves hstep).attempts hP) h
  induction rows generalizing scan with
  | nil => cases hrow
  | cons first rest ih =>
    obtain ⟨next, hnext, hrest⟩ := foldlM_cons_eq_ok.mp h
    rcases List.mem_cons.mp hrow with rfl | hrow
    · refine hkept hrest ?_
      have hcreated := onPayload_of_step hnext (by rw [hcreates.kind]; nofun) hcreates.read
      simp only [onPayload, hcreates.payload] at hcreated
      obtain ⟨key, hkey⟩ := onAttemptCreated_ok hcreated
      obtain ⟨event', hspells⟩ := validateReadOnlyEventRow_spells
        (foldlM_step_valid h row List.mem_cons_self) (by rw [hcreates.kind]; nofun)
      obtain rfl := Except.ok.inj (hspells.read.symm.trans hcreates.read)
      have hitem := hspells.workItemId.symm.trans hkey.workItemId
      have hattempt := hspells.attemptId.symm.trans hkey.attemptId
      rw [hcreates.workItemId] at hitem
      rw [hcreates.attemptId] at hattempt
      obtain rfl : key = (workItemId, attemptId) :=
        Prod.ext (Option.some.inj hitem).symm (Option.some.inj hattempt).symm
      rw [hkey.after]
      exact Std.ExtTreeMap.mem_insert_self
    · exact ih hrest hrow

/-- The first dispatch is opened with its attempt, so a later opening is refused. -/
theorem Tx.openProviderDispatch_refused {w : Platform} {runId : String} {c : Contracts}
    {scan : Scan} {replay : Scheduler.Replay} {tx : Tx} (hr : Reads w runId tx.tables c scan replay)
    (workItemId attemptId : String) (preparation : DispatchPreparation) (openedAt : Instant)
    (result : OpenedDispatch × Tx) :
    tx.openProviderDispatch w runId workItemId attemptId preparation openedAt ≠ .ok result := by
  intro h
  simp only [openProviderDispatch, bind_eq_ok, refuseIf_eq_ok] at h
  obtain ⟨_, -, c', hc', history, hhistory, _, hunopened, _, -, request, hrequest, -⟩ := h
  obtain rfl := hr.contracts_eq hc'
  have hsome := hr.requireHistory_eq hhistory
  obtain ⟨row, hrow, event, locks, hcreates⟩ := RunTables.loadAttemptStartRequest_ok hrequest
  have hmem := Scan.mem_attempts_of_creates hr.journal hrow hcreates
  have hdispatched := hr.closes.dispatched history hsome
  simp only [Scan.attemptsDispatched, List.all_eq_true, Std.ExtTreeMap.mem_keys] at hdispatched
  obtain ⟨dispatch, hdispatch, hkey⟩ := List.any_eq_true.mp (hdispatched _ hmem)
  simp only [Bool.and_eq_true, beq_iff_eq] at hkey
  have := List.any_eq_false.mp hunopened dispatch hdispatch
  simp [hkey.1.2] at this

/-- Events that name no item leave items and claims alone. -/
theorem Scheduler.Replay.run_unnamed {r : Scheduler.Replay} {events : List ReplayEvent}
    (h : ∀ event ∈ events, event.workItemId = none) :
    (r.run events).items = r.items ∧ (r.run events).claims = r.claims := by
  induction events generalizing r with
  | nil => exact ⟨rfl, rfl⟩
  | cons event events ih =>
    rw [List.forall_mem_cons] at h
    obtain ⟨hitems, hclaims⟩ := @ih (r.step event) h.2
    rw [run_cons, hitems, hclaims, step, h.1]
    exact ⟨rfl, rfl⟩

/-- A run that reads, within the numbers and draws of its store. -/
structure Standing (w : Platform) (runId : String) (c : Contracts) (scan : Scan)
    (replay : Scheduler.Replay) (tx : Tx) : Prop where
  reads : Reads w runId tx.tables c scan replay
  booked : Booked tx.tables tx.sequence
  named : Named w tx.tables tx.draws

namespace Admitted

variable {w : Platform} {runId : String} {c : Contracts} {tx : Tx}

theorem unnamed (h : Admitted w runId c tx) :
    ∀ row ∈ tx.tables.events, row.workItemId = none ∧ row.attemptId = none := by
  obtain ⟨evaluatedAt, mechanisms, events, n, -, ⟨⟨runEvent, capacityEvent, availabilityEvent, rfl⟩⟩,
    hrows⟩ := h.journal
  intro row hrow
  rw [hrows] at hrow
  obtain ⟨e, he, m, -, rfl⟩ := mem_rowsOf hrow
  rcases List.mem_cons.mp he with rfl | he
  · exact ⟨rfl, rfl⟩
  · rcases List.mem_append.mp he with he | he <;>
      (obtain ⟨value, -, rfl⟩ := Option.mem_map.mp (Option.mem_toList.mp he); exact ⟨rfl, rfl⟩)

/-- What the first read of a run finds. -/
structure Opened (c : Contracts) (replay : Scheduler.Replay) : Prop where
  items : Scheduler.initialItems c.profile c.packet.workItems = some replay.items
  claims : replay.claims = ∅

/-- The run right after its admission stands, with its items as they start. -/
theorem standing (h : Admitted w runId c tx) :
    ∃ scan replay, Standing w runId c scan replay tx ∧ Opened c replay := by
  obtain ⟨requirement, hrequirement⟩ := h.capacity
  obtain ⟨hsize, -⟩ := validateCapacityHistory_eq_ok.mp hrequirement
  obtain ⟨history, hhistory⟩ := h.loads
  obtain ⟨havailability, scan, hscan, hcloses, -⟩ :=
    loadExecutionAvailabilityHistory_eq_ok.mp hhistory
  obtain ⟨items, hitems⟩ := h.items
  obtain ⟨evaluatedAt, mechanisms, events, n, -, -, hrows⟩ := h.journal
  have hevents : tx.tables.events.mapM (EventRow.replayEvent w) = .ok (replayEventsOf w n events) := by
    rw [hrows]
    exact mapM_replayEvent_rowsOf w n events
  have hunnamed : ∀ event ∈ replayEventsOf w n events, event.workItemId = none := by
    intro event hevent
    obtain ⟨row, hrow, hreplay⟩ := mem_of_mapM_eq_ok hevents hevent
    exact (row.replayEvent_columns hreplay).1.trans (h.unnamed row hrow).1
  have hreads : Reads w runId tx.tables c scan _ := ⟨h.contracts, hsize, havailability,
    ⟨requirement, hrequirement⟩, hscan, hcloses, _, items, hevents, hitems, rfl⟩
  obtain ⟨hsame, hclaims⟩ := Scheduler.Replay.run_unnamed (r := ⟨items, ∅, none⟩) hunnamed
  refine ⟨scan, _, ⟨hreads, h.booked, ?_⟩, ?_, hclaims⟩
  · intro row hrow attempt hattempt
    rw [(h.unnamed row hrow).2] at hattempt
    cases hattempt
  · rw [hitems, hsame]

end Admitted

/-- A standing run stands after its turn. -/
theorem Standing.turn {w : Platform} {runId : String} {c : Contracts} {scan : Scan}
    {replay : Scheduler.Replay} {tx tx' : Tx} {rows : List EventRow} {events : List ReplayEvent}
    (h : Standing w runId c scan replay tx) (hturn : Turn w runId c scan replay tx tx' rows events) :
    ∃ scan', Standing w runId c scan' (replay.run events) tx' ∧
      rows.foldlM (Scan.step w tx'.tables c) scan = .ok scan' := by
  obtain ⟨scan', hreads, hscan⟩ := hturn.reads h.reads h.booked h.named
  exact ⟨scan', ⟨hreads, hturn.grows.booked h.booked, hturn.named h.reads h.named⟩, hscan⟩

theorem Standing.mono {w : Platform} {runId : String} {c : Contracts} {scan : Scan}
    {replay : Scheduler.Replay} {t : RunTables} {sequence sequence' draws draws' : Nat}
    (h : Standing w runId c scan replay ⟨t, sequence, draws⟩) (hsequence : sequence ≤ sequence')
    (hdraws : draws ≤ draws') : Standing w runId c scan replay ⟨t, sequence', draws'⟩ :=
  ⟨h.reads, h.booked.mono hsequence, fun row hrow attempt hattempt => by
    obtain ⟨n, hn, heq⟩ := h.named row hrow attempt hattempt
    exact ⟨n, hn.trans_le hdraws, heq⟩⟩

/-- The run and the time a call asks an attempt for. -/
def Call.prepares : Call → Option (String × Instant)
  | .prepareAttempt runId _ _ recordedAt
  | .prepareProviderAttempt runId _ _ _ recordedAt => some (runId, recordedAt)
  | _ => none

/-- The bytes of the capacity requirement a call admits a run with. -/
def Call.capacityRequirement : Call → Option Bytes
  | .admitRun _ _ _ capacityRequirementBytes _ _ _ => capacityRequirementBytes
  | .admitSelfHosted inputs => some inputs.capacityRequirementBytes
  | _ => none

/-- The journal of an admitted run opens with the capacity requirement of its call. -/
structure Call.Opens (w : Platform) (call : Call) (t : RunTables)
    (requirement : Option (ForemanCapacityRequirementV1 × Bytes)) : Prop where
  bytes : requirement.map (·.2) = call.capacityRequirement
  valid : ∀ value, requirement = some value →
    validateCapacityRequirementBytes w value.2 = .ok value.1
  opens : CapacityOpens t requirement

theorem Prepared.recorded {w : Platform} {runId : String} {c : Contracts} {scan : Scan}
    {replay : Scheduler.Replay} {tx tx' : Tx} {workItemId attemptId : String}
    {recordedAt : Instant} {preparation : Option DispatchPreparation}
    {opened : Option OpenedDispatch} {events : List InternalEvent}
    (h : Prepared w runId c scan replay tx tx' workItemId attemptId recordedAt preparation opened
      events) : ∀ row ∈ rowsOf w tx.sequence events, row.recordedAt = recordedAt := by
  obtain ⟨execution, request, capacityEvents, dispatchEvents, eventId, -, -, hcapacity, -, -, rfl,
    rfl⟩ := h.execution
  intro row hrow
  obtain ⟨e, he, m, -, rfl⟩ := mem_rowsOf hrow
  rcases List.mem_append.mp he with he | he
  · cases hcapacity with
    | none => cases he
    | some requirement capacity eventId =>
      obtain rfl := List.mem_singleton.mp he
      rfl
  · rcases List.mem_cons.mp he with rfl | he
    · rfl
    · obtain ⟨dispatch, hdispatch, rfl⟩ := Option.mem_map.mp (Option.mem_toList.mp he)
      obtain ⟨prepared, -, hbuilds⟩ := h.opens dispatch hdispatch
      exact hbuilds.openedAt

namespace Store

variable {w : Platform} {s s' : Store} {call : Call} {reply : Reply}

theorem begin_eq_ok {runId : String} {tx : Tx} :
    s.begin_ runId = .ok tx ↔
      ∃ t, s.runs[runId]? = some t ∧ tx = ⟨t, s.sequence, s.draws⟩ := by
  simp only [begin_, okOr_eq_ok, Option.map_eq_some_iff]
  constructor
  · rintro ⟨t, ht, rfl⟩
    exact ⟨t, ht, rfl⟩
  · rintro ⟨t, ht, rfl⟩
    exact ⟨t, ht, rfl⟩

theorem transact_eq_ok {α : Type} {runId : String} {body : Tx → Except ForemanError (α × Tx)}
    {a : α} :
    s.transact runId body = .ok (a, s') ↔
      ∃ tx tx', s.begin_ runId = .ok tx ∧ body tx = .ok (a, tx') ∧ s' = s.commit runId tx' := by
  simp only [transact, bind_eq_ok, Except.ok.injEq, Prod.mk.injEq]
  constructor
  · rintro ⟨tx, hbegin, ⟨b, tx'⟩, hbody, rfl, rfl⟩
    exact ⟨tx, tx', hbegin, hbody, rfl⟩
  · rintro ⟨tx, tx', hbegin, hbody, rfl⟩
    exact ⟨tx, hbegin, (a, tx'), hbody, rfl, rfl⟩

theorem replyWith_eq_ok {α : Type} {answer : α → Reply} {result : Except ForemanError (α × Store)} :
    replyWith answer result = .ok (reply, s') ↔
      ∃ a, result = .ok (a, s') ∧ reply = answer a := by
  simp only [replyWith, bind_eq_ok, Except.ok.injEq, Prod.mk.injEq]
  constructor
  · rintro ⟨⟨a, s''⟩, hresult, rfl, rfl⟩
    exact ⟨a, hresult, rfl⟩
  · rintro ⟨a, hresult, rfl⟩
    exact ⟨(a, s'), hresult, rfl, rfl⟩

/-- Every run of the store stands. -/
def Sound (w : Platform) (s : Store) : Prop :=
  ∀ (runId : String) t, s.runs[runId]? = some t →
    ∃ c scan replay, Standing w runId c scan replay ⟨t, s.sequence, s.draws⟩

/-- A call that took one turn on a run of the store. -/
structure Turned (w : Platform) (s s' : Store) (call : Call) (runId : String) (c : Contracts)
    (scan : Scan) (replay : Scheduler.Replay) (tx tx' : Tx) (rows : List EventRow)
    (events : List ReplayEvent) : Prop where
  begins : s.begin_ runId = .ok tx
  standing : Standing w runId c scan replay tx
  turn : Turn w runId c scan replay tx tx' rows events
  prepares : (∀ row ∈ rows, CapacityNeutral w row) ∨
    ∃ recordedAt, call.prepares = some (runId, recordedAt) ∧
      ∀ row ∈ rows, row.recordedAt = recordedAt
  commits : s' = s.commit runId tx'

/-- What a successful call did to the store. -/
inductive Served (w : Platform) (s : Store) (call : Call) (s' : Store) : Prop
  | admitted {runId : String} {c : Contracts} {tx : Tx} (habsent : s.runs[runId]? = none)
      (hadmitted : Admitted w runId c tx)
      (hopens : ∃ requirement, call.Opens w tx.tables requirement)
      (hsequence : s.sequence ≤ tx.sequence) (hdraws : s.draws ≤ tx.draws)
      (hcommit : s' = s.commit runId tx)
  | turned {runId : String} {c : Contracts} {scan : Scan} {replay : Scheduler.Replay} {tx tx' : Tx}
      {rows : List EventRow} {events : List ReplayEvent}
      (h : Turned w s s' call runId c scan replay tx tx' rows events)

/-- A transaction on a sound store runs on a standing run. -/
theorem Sound.transact {α : Type} {runId : String} {body : Tx → Except ForemanError (α × Tx)}
    {a : α} (hs : s.Sound w) (h : s.transact runId body = .ok (a, s')) :
    ∃ c scan replay tx tx', s.begin_ runId = .ok tx ∧ Standing w runId c scan replay tx ∧
      body tx = .ok (a, tx') ∧ s' = s.commit runId tx' := by
  obtain ⟨tx, tx', hbegin, hbody, hcommit⟩ := transact_eq_ok.mp h
  obtain ⟨t, ht, rfl⟩ := begin_eq_ok.mp hbegin
  obtain ⟨c, scan, replay, hstanding⟩ := hs runId t ht
  exact ⟨c, scan, replay, _, tx', hbegin, hstanding, hbody, hcommit⟩

/-- The capacity requirement of an admission was read from its bytes. -/
theorem mechanismRequirements_capacity {capacityBytes requirementBytes policyBytes : Option Bytes}
    {mechanisms : RunMechanisms}
    (h : mechanismRequirements w capacityBytes requirementBytes policyBytes = .ok mechanisms) :
    mechanisms.capacityRequirement.map (·.2) = capacityBytes ∧
    ∀ value, mechanisms.capacityRequirement = some value →
      validateCapacityRequirementBytes w value.2 = .ok value.1 := by
  have hcapacity : ∀ {capacity : Option (ForemanCapacityRequirementV1 × Bytes)} {bytes : Bytes},
      (fun value => some (value, bytes)) <$> validateCapacityRequirementBytes w bytes =
        .ok capacity → capacity.map (·.2) = some bytes ∧ ∀ value, capacity = some value →
          validateCapacityRequirementBytes w value.2 = .ok value.1 := by
    intro capacity bytes h
    obtain ⟨requirement, hvalid, rfl⟩ := map_eq_ok.mp h
    refine ⟨rfl, fun value hvalue => ?_⟩
    obtain rfl := Option.some.inj hvalue
    exact hvalid
  unfold mechanismRequirements at h
  cases capacityBytes <;> cases requirementBytes <;> cases policyBytes <;>
    simp only [bind_eq_ok, ok_bind, error_bind, Except.ok.injEq, reduceCtorEq, exists_const,
      and_false] at h
  case none.none.none =>
    obtain rfl := h
    exact ⟨rfl, fun value hvalue => by cases hvalue⟩
  case none.some.some =>
    obtain ⟨_, -, rfl⟩ := h
    exact ⟨rfl, fun value hvalue => by cases hvalue⟩
  case some.none.none =>
    obtain ⟨_, h, rfl⟩ := h
    exact hcapacity h
  case some.some.some =>
    obtain ⟨_, h, _, -, rfl⟩ := h
    exact hcapacity h

/-- An admission behind its parsed requirements. -/
theorem admitInternal_served {packetBytes admissionBytes profileBytes : Bytes}
    {evaluatedAt : Instant} {mechanisms : RunMechanisms} {runId : String}
    (hcapacity : mechanisms.capacityRequirement.map (·.2) = call.capacityRequirement)
    (hbytes : ∀ value, mechanisms.capacityRequirement = some value →
      validateCapacityRequirementBytes w value.2 = .ok value.1)
    (h : s.admitInternal w packetBytes admissionBytes profileBytes evaluatedAt mechanisms =
      .ok (runId, s')) : Served w s call s' := by
  obtain ⟨c, tx, habsent, hadmitted, hopens, hsequence, hdraws, hcommit⟩ :=
    admitInternal_ok hbytes h
  exact .admitted habsent hadmitted ⟨_, hcapacity, hbytes, hopens⟩ hsequence hdraws hcommit

/-- A preparation of either kind. -/
theorem prepared_served {runId workItemId : String} {evidence : Option CapacityEvidence}
    {capacity : Option CapacityBundle} {preparation : Option DispatchPreparation}
    {recordedAt : Instant} {result : WorkerStartRequestV2 × Option OpenedDispatch}
    (hs : s.Sound w) (hcall : call.prepares = some (runId, recordedAt))
    (hcapacity : capacityBundle w evidence = .ok capacity)
    (h : s.transact runId (fun tx => tx.prepareAttemptInternal w runId workItemId recordedAt
      capacity preparation) = .ok (result, s')) : Served w s call s' := by
  obtain ⟨c, scan, replay, tx, tx', hbegin, hstanding, hbody, hcommit⟩ := hs.transact h
  have hbundle : ∀ bundle, capacity = some bundle → validateCapacityBundle w bundle.admissionBytes
      bundle.observationBytes bundle.policyBytes bundle.decisionBytes = .ok bundle := by
    intro bundle hsome
    cases evidence with
    | none =>
      obtain rfl := Except.ok.inj hcapacity
      cases hsome
    | some evidence =>
      obtain ⟨bundle', hvalid, hmap⟩ := map_eq_ok.mp hcapacity
      obtain rfl := Option.some.inj (hmap.trans hsome)
      exact (validateCapacityBundle_ok hvalid).reopens
  obtain ⟨attemptId, events, hprepared⟩ :=
    Tx.prepareAttemptInternal_ok hstanding.reads hbundle hbody
  exact .turned ⟨hbegin, hstanding, .prepared hprepared, .inr ⟨recordedAt, hcall,
    hprepared.recorded⟩, hcommit⟩

/-- A legacy transition of an attempt. -/
theorem transitioned_served {runId workItemId attemptId pre : String} {recordedAt : Instant}
    {payload : InternalPayload} (hs : s.Sound w) (hpayload : LegacyPayload payload)
    (h : s.transact runId (fun tx => tx.recordAttemptTransition w runId workItemId attemptId
      recordedAt payload pre) = .ok ((), s')) : Served w s call s' := by
  obtain ⟨c, scan, replay, tx, tx', hbegin, hstanding, hbody, hcommit⟩ := hs.transact h
  obtain ⟨events, htransitioned⟩ := Tx.recordAttemptTransition_ok hstanding.reads
    (by cases hpayload <;> rfl) hbody
  exact .turned ⟨hbegin, hstanding, .transitioned hpayload htransitioned,
    .inl (htransitioned.neutral hpayload), hcommit⟩

/-- A turn that left the tables alone. -/
theorem kept_served {runId : String} {c : Contracts} {scan : Scan} {replay : Scheduler.Replay}
    {tx : Tx} (hbegin : s.begin_ runId = .ok tx) (hstanding : Standing w runId c scan replay tx)
    (hcommit : s' = s.commit runId tx) : Served w s call s' := by
  have hturn : Turn w runId c scan replay tx tx [] [] := .kept rfl
  exact .turned ⟨hbegin, hstanding, hturn, .inl (by simp), hcommit⟩

/-- A successful call admits a run or takes a turn on one. -/
theorem perform_served (hs : s.Sound w) (h : s.perform w call = .ok (reply, s')) :
    Served w s call s' := by
  cases call <;> simp only [perform, replyWith_eq_ok, bind_eq_ok] at h
  case admitRun packetBytes admissionBytes profileBytes capacityBytes requirementBytes policyBytes
      evaluatedAt =>
    obtain ⟨mechanisms, hmechanisms, runId, h, -⟩ := h
    obtain ⟨hcapacity, hbytes⟩ := mechanismRequirements_capacity hmechanisms
    exact admitInternal_served hcapacity hbytes h
  case admitSelfHosted inputs =>
    obtain ⟨runId, h, -⟩ := h
    simp only [admitSelfHosted, bind_eq_ok] at h
    obtain ⟨_, -, bootstrap, -, _, -, capacity, hcapacity, availability, -, admission, -, h⟩ := h
    refine admitInternal_served rfl (fun value hvalue => ?_) h
    obtain rfl := Option.some.inj hvalue
    exact hcapacity
  case prepareAttempt runId workItemId evidence recordedAt =>
    obtain ⟨request, h, -⟩ := h
    simp only [prepareAttempt, bind_eq_ok, Except.ok.injEq, Prod.mk.injEq] at h
    obtain ⟨capacity, hcapacity, ⟨result, s''⟩, h, -, rfl⟩ := h
    exact prepared_served hs rfl hcapacity h
  case prepareProviderAttempt runId workItemId evidence preparation recordedAt =>
    obtain ⟨opened, h, -⟩ := h
    simp only [prepareProviderAttempt, bind_eq_ok, Except.ok.injEq, Prod.mk.injEq] at h
    obtain ⟨capacity, hcapacity, ⟨result, s''⟩, h, opened', -, -, rfl⟩ := h
    exact prepared_served hs rfl hcapacity h
  case openProviderDispatch runId workItemId attemptId preparation openedAt =>
    obtain ⟨opened, h, -⟩ := h
    obtain ⟨c, scan, replay, tx, tx', hbegin, hstanding, hbody, hcommit⟩ := hs.transact h
    exact absurd hbody (Tx.openProviderDispatch_refused hstanding.reads _ _ _ _ _)
  case recordProviderDisposition runId workItemId attemptId evidence predecessor =>
    obtain ⟨disposition, h, -⟩ := h
    simp only [recordProviderDisposition, bind_eq_ok] at h
    obtain ⟨accepted, haccepted, h⟩ := h
    obtain ⟨c, scan, replay, tx, tx', hbegin, hstanding, hbody, hcommit⟩ := hs.transact h
    obtain ⟨-, history, events, hdisposed⟩ := Tx.recordProviderDisposition_ok hstanding.reads hbody
    exact .turned ⟨hbegin, hstanding, .disposed hdisposed, .inl hdisposed.neutral, hcommit⟩
  case wakeProviderDispatch runId workItemId attemptId wakeOccurrenceId preparation openedAt =>
    obtain ⟨opened, h, -⟩ := h
    simp only [wakeProviderDispatch, bind_eq_ok] at h
    obtain ⟨_, -, h⟩ := h
    obtain ⟨c, scan, replay, tx, tx', hbegin, hstanding, hbody, hcommit⟩ := hs.transact h
    obtain ⟨history, -, ⟨position, -, -, rfl⟩ | ⟨deferred, events, hwoken⟩⟩ :=
      Tx.wakeProviderDispatch_ok hstanding.reads hbody
    · exact kept_served hbegin hstanding hcommit
    · exact .turned ⟨hbegin, hstanding, .woken hwoken, .inl hwoken.neutral, hcommit⟩
  case resumeProviderExecution runId workItemId attemptId resumeOccurrenceId dispositionDigest
      adapterProcessOccurrenceId executionIdentity recordedAt =>
    obtain ⟨_, h, -⟩ := h
    simp only [resumeProviderExecution, bind_eq_ok] at h
    obtain ⟨_, -, _, -, _, -, h⟩ := h
    obtain ⟨c, scan, replay, tx, tx', hbegin, hstanding, hbody, hcommit⟩ := hs.transact h
    obtain ⟨history, -, ⟨position, -, -, rfl⟩ | ⟨events, hresumed⟩⟩ :=
      Tx.resumeProviderExecution_ok hstanding.reads hbody
    · exact kept_served hbegin hstanding hcommit
    · exact .turned ⟨hbegin, hstanding, .resumed hresumed, .inl hresumed.neutral, hcommit⟩
  case recordDispatchRequested runId workItemId attemptId recordedAt =>
    obtain ⟨_, h, -⟩ := h
    exact transitioned_served hs .dispatchRequested h
  case recordResumeRequested runId workItemId attemptId recordedAt =>
    obtain ⟨_, h, -⟩ := h
    exact transitioned_served hs .resumeRequested h
  case recordTerminalRefusal runId workItemId attemptId reason recordedAt =>
    obtain ⟨_, h, -⟩ := h
    simp only [recordTerminalRefusal, bind_eq_ok] at h
    obtain ⟨_, -, h⟩ := h
    exact transitioned_served hs (.terminalRefused reason) h
  case acceptAdapterEvent raw =>
    obtain ⟨_, h, -⟩ := h
    simp only [acceptAdapterEvent, bind_eq_ok, mapErr_eq_ok] at h
    obtain ⟨event, hparse, _, hvalid, h⟩ := h
    obtain ⟨c, scan, replay, tx, tx', hbegin, hstanding, hbody, hcommit⟩ := hs.transact h
    have hobserved := Tx.acceptAdapterEvent_ok hstanding.reads hparse hvalid hbody
    exact .turned ⟨hbegin, hstanding, .observed hobserved, .inl hobserved.neutral, hcommit⟩
  case acceptTerminalReceipt raw =>
    obtain ⟨_, h, -⟩ := h
    simp only [acceptTerminalReceipt, bind_eq_ok, mapErr_eq_ok] at h
    obtain ⟨receipt, -, _, -, h⟩ := h
    obtain ⟨c, scan, replay, tx, tx', hbegin, hstanding, hbody, hcommit⟩ := hs.transact h
    obtain ⟨events, hterminated⟩ := Tx.acceptTerminalReceipt_ok hstanding.reads hbody
    exact .turned ⟨hbegin, hstanding, .terminated rfl hterminated,
      .inl (hterminated.ended.neutral rfl), hcommit⟩
  case acceptPrelaunchClosure raw =>
    obtain ⟨_, h, -⟩ := h
    simp only [acceptPrelaunchClosure, bind_eq_ok, mapErr_eq_ok] at h
    obtain ⟨closure, -, h⟩ := h
    obtain ⟨c, scan, replay, tx, tx', hbegin, hstanding, hbody, hcommit⟩ := hs.transact h
    obtain ⟨receipt, -, -, -, ⟨prior, -, -, rfl⟩ | ⟨events, hclosed⟩⟩ :=
      Tx.acceptPrelaunchClosure_ok hstanding.reads hbody
    · exact kept_served hbegin hstanding hcommit
    · exact .turned ⟨hbegin, hstanding, .prelaunched rfl hclosed, .inl (hclosed.ended.neutral rfl),
        hcommit⟩
  case acceptNotStarted raw =>
    obtain ⟨_, h, -⟩ := h
    simp only [acceptNotStarted, bind_eq_ok, mapErr_eq_ok] at h
    obtain ⟨receipt, -, _, -, h⟩ := h
    obtain ⟨c, scan, replay, tx, tx', hbegin, hstanding, hbody, hcommit⟩ := hs.transact h
    obtain ⟨events, hdeclined⟩ := Tx.acceptNotStarted_ok hstanding.reads hbody
    exact .turned ⟨hbegin, hstanding, .declined rfl hdeclined, .inl hdeclined.neutral, hcommit⟩
  case close runId updatedAt =>
    obtain ⟨_, h, -⟩ := h
    obtain ⟨c, scan, replay, tx, tx', hbegin, hstanding, hbody, hcommit⟩ := hs.transact h
    rcases Tx.close_ok hstanding.reads hbody with ⟨row, -, -, rfl⟩ | ⟨events, hclosed⟩
    · exact kept_served hbegin hstanding hcommit
    · exact .turned ⟨hbegin, hstanding, .closedOut hclosed, .inl hclosed.neutral, hcommit⟩
  case advanceSelfHostedDriver runId bootstrapDigest ordinal process recordedAt =>
    obtain ⟨_, h, -⟩ := h
    simp only [advanceSelfHostedDriver, bind_eq_ok] at h
    obtain ⟨_, -, _, -, h⟩ := h
    obtain ⟨c, scan, replay, tx, tx', hbegin, hstanding, hbody, hcommit⟩ := hs.transact h
    obtain ⟨custody, -, -, ⟨-, rfl⟩ | ⟨-, hdrove, -⟩⟩ := Tx.advanceSelfHostedDriver_ok hbody
    · exact kept_served hbegin hstanding hcommit
    · exact .turned ⟨hbegin, hstanding, .drove hdrove, .inl (by simp), hcommit⟩

@[simp] theorem commit_runs (s : Store) (runId : String) (tx : Tx) :
    (s.commit runId tx).runs = s.runs.insert runId tx.tables := rfl

@[simp] theorem commit_sequence (s : Store) (runId : String) (tx : Tx) :
    (s.commit runId tx).sequence = tx.sequence := rfl

@[simp] theorem commit_draws (s : Store) (runId : String) (tx : Tx) :
    (s.commit runId tx).draws = tx.draws := rfl

theorem run_cons (w : Platform) (s : Store) (call : Call) (calls : List Call) :
    s.run w (call :: calls) = (s.after w call).run w calls := rfl

/-- A commit of a standing run keeps every run of the store standing. -/
theorem Sound.commit {runId : String} {c : Contracts} {scan : Scan} {replay : Scheduler.Replay}
    {tx : Tx} (hs : s.Sound w) (hstanding : Standing w runId c scan replay tx)
    (hsequence : s.sequence ≤ tx.sequence) (hdraws : s.draws ≤ tx.draws) :
    (s.commit runId tx).Sound w := by
  intro other t ht
  rw [commit_runs, BTreeMap.getElem?_insert_eq] at ht
  split at ht
  case isTrue heq =>
    obtain rfl := Option.some.inj ht
    exact heq ▸ ⟨c, scan, replay, hstanding⟩
  case isFalse =>
    obtain ⟨c', scan', replay', h⟩ := hs other t ht
    exact ⟨c', scan', replay', h.mono hsequence hdraws⟩

theorem Served.sound (hs : s.Sound w) (h : Served w s call s') : s'.Sound w := by
  cases h with
  | admitted _ hadmitted _ hsequence hdraws hcommit =>
    obtain ⟨scan, replay, hstanding, -⟩ := hadmitted.standing
    exact hcommit ▸ hs.commit hstanding hsequence hdraws
  | turned h =>
    obtain ⟨t, ht, rfl⟩ := begin_eq_ok.mp h.begins
    obtain ⟨scan', hstanding, -⟩ := h.standing.turn h.turn
    have hgrows := h.turn.grows
    exact h.commits ▸ hs.commit hstanding (by rw [hgrows.sequence]; exact Nat.le_add_right _ _)
      hgrows.draws

/-- A call is refused and changes nothing, or is served. -/
theorem after_served (hs : s.Sound w) (call : Call) :
    s.after w call = s ∨ Served w s call (s.after w call) := by
  unfold after
  split
  case h_1 result hresult => exact .inr (perform_served hs hresult)
  case h_2 => exact .inl rfl

/-- What every served call keeps holds after any number of calls. -/
theorem run_invariant {P : Store → Prop} (calls : List Call) (hs : s.Sound w) (hP : P s)
    (hstep : ∀ s call s', call ∈ calls → s.Sound w → P s → Served w s call s' → P s') :
    (s.run w calls).Sound w ∧ P (s.run w calls) := by
  induction calls generalizing s with
  | nil => exact ⟨hs, hP⟩
  | cons call calls ih =>
    have hlater : ∀ s call s', call ∈ calls → s.Sound w → P s → Served w s call s' → P s' :=
      fun s call' s' hcall => hstep s call' s' (List.mem_cons_of_mem _ hcall)
    rw [run_cons]
    rcases after_served hs call with hkept | hserved
    · rw [hkept]
      exact ih hs hP hlater
    · exact ih (hserved.sound hs) (hstep s call _ List.mem_cons_self hs hP hserved) hlater

theorem empty_sound (w : Platform) : (empty : Store).Sound w := by
  intro runId t ht
  simp [empty] at ht

end Store

/-- The reads of one run over any number of its turns. -/
inductive Evolves (w : Platform) (runId : String) (c : Contracts) (t : RunTables) (scan : Scan)
    (replay : Scheduler.Replay) : RunTables → Scan → Scheduler.Replay → Prop
  | refl : Evolves w runId c t scan replay t scan replay
  | turn {tx tx' : Tx} {scan₁ scan₂ : Scan} {replay₁ : Scheduler.Replay} {rows : List EventRow}
      {events : List ReplayEvent}
      (h : Evolves w runId c t scan replay tx.tables scan₁ replay₁)
      (hstanding : Standing w runId c scan₁ replay₁ tx)
      (hturn : Turn w runId c scan₁ replay₁ tx tx' rows events)
      (hnext : Standing w runId c scan₂ (replay₁.run events) tx')
      (hscan : rows.foldlM (Scan.step w tx'.tables c) scan₁ = .ok scan₂) :
      Evolves w runId c t scan replay tx'.tables scan₂ (replay₁.run events)

theorem Evolves.trans {w : Platform} {runId : String} {c : Contracts} {t t₁ t₂ : RunTables}
    {scan scan₁ scan₂ : Scan} {replay replay₁ replay₂ : Scheduler.Replay}
    (h : Evolves w runId c t scan replay t₁ scan₁ replay₁)
    (h' : Evolves w runId c t₁ scan₁ replay₁ t₂ scan₂ replay₂) :
    Evolves w runId c t scan replay t₂ scan₂ replay₂ := by
  induction h' with
  | refl => exact h
  | turn _ hstanding hturn hnext hscan ih => exact .turn ih hstanding hturn hnext hscan

namespace Store

variable {w : Platform} {s s' : Store} {call : Call}

/-- A served call leaves a run as it was or takes it one turn further. -/
theorem Served.evolves (h : Served w s call s') {runId : String} {t : RunTables} {c : Contracts}
    {scan : Scan} {replay : Scheduler.Replay} (ht : s.runs[runId]? = some t)
    (hr : Reads w runId t c scan replay) :
    ∃ t' scan' replay', s'.runs[runId]? = some t' ∧ Reads w runId t' c scan' replay' ∧
      Evolves w runId c t scan replay t' scan' replay' := by
  cases h with
  | @admitted other _ _ habsent _ _ _ _ hcommit =>
    refine ⟨t, scan, replay, ?_, hr, .refl⟩
    rw [hcommit, commit_runs, BTreeMap.getElem?_insert_eq, if_neg, ht]
    rintro rfl
    rw [habsent] at ht
    cases ht
  | @turned other _ _ _ tx tx' _ _ h =>
    obtain ⟨told, htold, rfl⟩ := begin_eq_ok.mp h.begins
    by_cases heq : other = runId
    · subst heq
      obtain rfl := Option.some.inj (htold.symm.trans ht)
      obtain ⟨rfl, rfl, rfl⟩ := hr.unique h.standing.reads
      obtain ⟨scan', hstanding, hscan⟩ := h.standing.turn h.turn
      refine ⟨tx'.tables, scan', _, ?_, hstanding.reads, .turn .refl h.standing h.turn hstanding hscan⟩
      rw [h.commits, commit_runs, BTreeMap.getElem?_insert_eq, if_pos rfl]
    · refine ⟨t, scan, replay, ?_, hr, .refl⟩
      rw [h.commits, commit_runs, BTreeMap.getElem?_insert_eq, if_neg heq, ht]

/-- Over any calls a run evolves. -/
theorem Sound.run_evolves (hs : s.Sound w) (calls : List Call) {runId : String} {t : RunTables}
    {c : Contracts} {scan : Scan} {replay : Scheduler.Replay} (ht : s.runs[runId]? = some t)
    (hr : Reads w runId t c scan replay) :
    ∃ t' scan' replay', (s.run w calls).runs[runId]? = some t' ∧
      Reads w runId t' c scan' replay' ∧ Evolves w runId c t scan replay t' scan' replay' := by
  refine (run_invariant (P := fun s' => ∃ t' scan' replay', s'.runs[runId]? = some t' ∧
    Reads w runId t' c scan' replay' ∧ Evolves w runId c t scan replay t' scan' replay') calls hs
    ⟨t, scan, replay, ht, hr, .refl⟩ fun s₁ call s₂ _ _ hP hserved => ?_).2
  obtain ⟨t₁, scan₁, replay₁, ht₁, hr₁, hevolves⟩ := hP
  obtain ⟨t₂, scan₂, replay₂, ht₂, hr₂, hevolves'⟩ := hserved.evolves ht₁ hr₁
  exact ⟨t₂, scan₂, replay₂, ht₂, hr₂, hevolves.trans hevolves'⟩

/-- A run of the store evolved from its admission. -/
structure Traced (w : Platform) (runId : String) (t : RunTables) (c : Contracts) (scan : Scan)
    (replay : Scheduler.Replay) : Prop where
  reads : Reads w runId t c scan replay
  origin : ∃ tx scan₀ replay₀, Admitted w runId c tx ∧ Standing w runId c scan₀ replay₀ tx ∧
    Admitted.Opened c replay₀ ∧ Evolves w runId c tx.tables scan₀ replay₀ t scan replay

/-- Every run of a reachable store was admitted and evolved by its turns. -/
theorem run_traced (w : Platform) (calls : List Call) :
    ((empty : Store).run w calls).Sound w ∧ ∀ (runId : String) t,
      ((empty : Store).run w calls).runs[runId]? = some t →
        ∃ c scan replay, Traced w runId t c scan replay := by
  refine run_invariant (P := fun s => ∀ (runId : String) t, s.runs[runId]? = some t →
    ∃ c scan replay, Traced w runId t c scan replay) calls (empty_sound w)
    (fun runId t ht => by simp [empty] at ht) fun s call s' _ hs hP hserved runId t' ht' => ?_
  cases hold : s.runs[runId]? with
  | some t =>
    obtain ⟨c, scan, replay, hr, tx, scan₀, replay₀, hadmitted, hstanding, hopened, hevolves⟩ :=
      hP runId t hold
    obtain ⟨t'', scan', replay', ht'', hr', hevolves'⟩ := hserved.evolves hold hr
    obtain rfl := Option.some.inj (ht''.symm.trans ht')
    exact ⟨c, scan', replay', hr', tx, scan₀, replay₀, hadmitted, hstanding, hopened,
      hevolves.trans hevolves'⟩
  | none =>
    cases hserved with
    | @admitted other c tx habsent hadmitted _ _ _ hcommit =>
      rw [hcommit, commit_runs, BTreeMap.getElem?_insert_eq] at ht'
      split at ht'
      case isTrue heq =>
        subst heq
        obtain rfl := Option.some.inj ht'
        obtain ⟨scan, replay, hstanding, hopened⟩ := hadmitted.standing
        exact ⟨c, scan, replay, hstanding.reads, tx, scan, replay, hadmitted, hstanding, hopened,
          .refl⟩
      case isFalse =>
        rw [hold] at ht'
        cases ht'
    | @turned other c scan replay tx tx' _ _ h =>
      obtain ⟨told, htold, rfl⟩ := begin_eq_ok.mp h.begins
      rw [h.commits, commit_runs, BTreeMap.getElem?_insert_eq] at ht'
      split at ht'
      case isTrue heq =>
        rw [heq, hold] at htold
        cases htold
      case isFalse =>
        rw [hold] at ht'
        cases ht'

end Store

/-- No call can brick a run: every run of a reachable store loads. -/
theorem Store.run_loads (w : Platform) (calls : List Call) (runId : String) (t : RunTables)
    (h : ((Store.empty : Store).run w calls).runs[runId]? = some t) :
    ∃ projection, loadProjection w t runId = .ok projection := by
  obtain ⟨c, scan, replay, htraced⟩ := (Store.run_traced w calls).2 runId t h
  exact ⟨_, htraced.reads.loads⟩

/-- The bench admits its run and opens an attempt of it. -/
theorem Store.open_attempt_reached :
    ∃ t, ((Store.empty : Store).run benchPlatform Bench.openAttempt).runs["run-1"]? = some t := by
  have hrun : (((Store.empty : Store).run benchPlatform Bench.openAttempt).runs["run-1"]?).isSome =
      true := by decide +kernel
  exact Option.isSome_iff_exists.mp hrun

/-- A run with one open attempt loads. -/
theorem Store.run_loads_open_attempt : ∃ t projection,
    ((Store.empty : Store).run benchPlatform Bench.openAttempt).runs["run-1"]? = some t ∧
      loadProjection benchPlatform t "run-1" = .ok projection := by
  obtain ⟨t, ht⟩ := Store.open_attempt_reached
  obtain ⟨projection, hloads⟩ := Store.run_loads benchPlatform Bench.openAttempt "run-1" t ht
  exact ⟨t, projection, ht, hloads⟩

end Nightshift
