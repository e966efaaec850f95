import Nightshift.Capacity

/-!
# Continuing a read

A run that reads, and to which a call appended rows, reads again: the contracts
are kept, the capacity validator passes the new rows, the strict scan goes on
from where it stood and the replay runs over the new events.
-/

namespace Nightshift

open Checked

/-- The replay event of an internal event under its sequence number. -/
def InternalEvent.replayEvent (w : Platform) (event : InternalEvent) (sequence : Nat) :
    ReplayEvent where
  sequence := sequence
  workItemId := event.workItemId
  attemptId := event.attemptId
  kind := event.payload.replayKind
  rawDigest := w.rawDigest (w.canonical (.event event))

/-- The replay events of consecutive internal events. -/
def replayEventsOf (w : Platform) (sequence : Nat) : List InternalEvent → List ReplayEvent
  | [] => []
  | event :: events =>
    event.replayEvent w (sequence + 1) :: replayEventsOf w (sequence + 1) events

theorem mapM_replayEvent_rowsOf (w : Platform) (n : Nat) (events : List InternalEvent) :
    (rowsOf w n events).mapM (EventRow.replayEvent w) = .ok (replayEventsOf w n events) := by
  induction events generalizing n with
  | nil => rfl
  | cons e events ih =>
    refine mapM_cons_eq_ok.mpr ⟨_, _, ?_, ih (n + 1), rfl⟩
    simp [EventRow.replayEvent, InternalEvent.replayEvent, Functor.map, Except.map]

theorem mem_replayEventsOf {w : Platform} {n : Nat} {events : List InternalEvent}
    {event : ReplayEvent} (h : event ∈ replayEventsOf w n events) :
    ∃ e ∈ events, ∃ m, event = e.replayEvent w m := by
  induction events generalizing n with
  | nil => cases h
  | cons e events ih =>
    rcases List.mem_cons.mp h with rfl | h
    · exact ⟨e, List.mem_cons_self, _, rfl⟩
    · obtain ⟨e', he', m, rfl⟩ := ih h
      exact ⟨e', List.mem_cons_of_mem _ he', m, rfl⟩

/-- A journal event of the run fills the columns of its row. -/
theorem validateReadOnlyEventRow_journalEvent {w : Platform} {c : Contracts}
    {eventId : String} {workItemId attemptId : Option String} {recordedAt : Instant}
    {payload : InternalPayload} (n : Nat)
    (hcreated : ∀ locks request, payload ≠ .attemptCreated locks request) :
    validateReadOnlyEventRow w c ((journalEvent c.admission.runId eventId workItemId attemptId
      recordedAt payload).row w (n + 1)) = .ok () := by
  cases payload <;>
    first
      | exact absurd rfl (hcreated _ _)
      | simp [validateReadOnlyEventRow, journalEvent, refuseIf]

namespace Scan

variable {w : Platform} {t t' : RunTables} {c : Contracts} {scan scan' : Scan}
  {rows : List EventRow}

/-- Every row the scan passed is valid. -/
theorem foldlM_step_valid (h : rows.foldlM (step w t c) scan = .ok scan') :
    ∀ row ∈ rows, validateReadOnlyEventRow w c row = .ok () := by
  induction rows generalizing scan with
  | nil => simp
  | cons row rows ih =>
    obtain ⟨next, hnext, hrest⟩ := foldlM_cons_eq_ok.mp h
    rw [List.forall_mem_cons]
    refine ⟨?_, ih hrest⟩
    simp only [step, bind_eq_ok] at hnext
    exact hnext.choose_spec.1

/-- The step of a valid internal row is the step of its payload. -/
theorem step_row {e : InternalEvent} {n : Nat} :
    scan.step w t c (e.row w n) = .ok scan' ↔
      validateReadOnlyEventRow w c (e.row w n) = .ok () ∧
        scan.onPayload w t c (e.row w n) e = .ok scan' := by
  simp only [step, bind_eq_ok, InternalEvent.row_kind, InternalEvent.row_internalEvent, ok_bind,
    beq_eq_false_iff_ne.mpr (InternalPayload.rowKind_ne_adapterEvent e.payload),
    Bool.false_eq_true, if_false]
  constructor
  · rintro ⟨_, hvalid, hpayload⟩
    exact ⟨hvalid, hpayload⟩
  · rintro ⟨hvalid, hpayload⟩
    exact ⟨(), hvalid, hpayload⟩

/-- The payloads the strict scan passes over. -/
def ignores : InternalPayload → Bool
  | .capacityRequirementAdmitted .. | .capacityAdmissionAccepted .. | .dispatchRequested
  | .resumeRequested | .terminalAccepted .. | .terminalRefused .. | .notStartedAccepted ..
  | .runClosed .. => true
  | _ => false

theorem onPayload_ignored {row : EventRow} {e : InternalEvent} (h : ignores e.payload = true) :
    scan.onPayload w t c row e = .ok scan := by
  obtain ⟨schema, eventId, runId, workItemId, attemptId, recordedAt, payload⟩ := e
  cases payload <;> first | rfl | cases h

end Scan

namespace RunTables

variable {w : Platform} {t t' : RunTables} {rows : List EventRow}

/-- Rows numbered past the custody columns do not enter the custody join. -/
theorem custodyJoin_append (hcustody : SameCustody t t') (hevents : t'.events = t.events ++ rows)
    (hnumbered : ∀ row ∈ rows, ∀ entry ∈ t.metadata, entry.sequence < row.sequence) :
    t'.custodyJoin = t.custodyJoin := by
  unfold custodyJoin
  rw [hcustody.metadata, hcustody.anchors, hevents]
  refine List.flatMap_congr fun entry hentry => ?_
  have hnone : rows.filter (fun row => row.sequence == entry.sequence) = [] := by
    rw [List.filter_eq_nil_iff]
    intro row hrow
    simpa using (hnumbered row hrow entry hentry).ne'
  rw [List.filter_append, hnone, List.append_nil]

/-- Rows of other kinds leave the availability history as large as it was. -/
theorem validateExecutionAvailabilityHistorySize_of_plain (hrun : t'.run = t.run)
    (hmarkers : t'.markers = t.markers) (hcustody : SameCustody t t')
    (hevents : t'.events = t.events ++ rows)
    (hnumbered : ∀ row ∈ rows, ∀ entry ∈ t.metadata, entry.sequence < row.sequence)
    (hplain : ∀ row ∈ rows, row.kind.isProvider = false) (maximumEventBytes : Nat)
    (allow : Bool) :
    t'.validateExecutionAvailabilityHistorySize w maximumEventBytes allow =
      t.validateExecutionAvailabilityHistorySize w maximumEventBytes allow := by
  have hcount : t'.providerRowCount = t.providerRowCount := by
    have hnil : rows.filter (·.kind.isProvider) = [] := by
      rw [List.filter_eq_nil_iff]
      intro row hrow
      simp [hplain row hrow]
    simp [providerRowCount, hevents, hnil]
  unfold validateExecutionAvailabilityHistorySize
  rw [hrun, hmarkers, hcount, custodyJoin_append hcustody hevents hnumbered, hcustody.metadata,
    hcustody.anchors]

end RunTables

/-- Sequence numbers in use never pass the last one. -/
structure Booked (t : RunTables) (sequence : Nat) : Prop where
  rows : ∀ row ∈ t.events, row.sequence ≤ sequence
  metadata : ∀ entry ∈ t.metadata, entry.sequence ≤ sequence
  identities : (t.events.map (·.eventId)).Nodup

theorem Booked.mono {t : RunTables} {n m : Nat} (h : Booked t n) (hle : n ≤ m) : Booked t m :=
  ⟨fun row hrow => (h.rows row hrow).trans hle,
    fun entry hentry => (h.metadata entry hentry).trans hle, h.identities⟩

theorem Grows.booked {tx tx' : Tx} {rows : List EventRow} (h : Grows tx tx' rows)
    (hbooked : Booked tx.tables tx.sequence) : Booked tx'.tables tx'.sequence where
  rows row hrow := by
    rw [h.events] at hrow
    rcases List.mem_append.mp hrow with hrow | hrow
    · exact (hbooked.rows row hrow).trans (by rw [h.sequence]; omega)
    · exact (h.lt_sequence hrow).2
  metadata entry hentry := by
    obtain ⟨added, hadded, hle⟩ := h.metadata
    rw [hadded] at hentry
    rcases List.mem_append.mp hentry with hentry | hentry
    · exact (hbooked.metadata entry hentry).trans (by rw [h.sequence]; omega)
    · exact hle entry hentry
  identities := h.identities hbooked.identities

namespace Reads

variable {w : Platform} {runId : String} {t t' : RunTables} {c : Contracts} {scan scan' : Scan}
  {replay : Scheduler.Replay} {rows : List EventRow} {events : List ReplayEvent}

/-- A read continues over rows that the capacity validator and the scan pass. -/
theorem extend (hr : Reads w runId t c scan replay) (hcarries : Carries t t')
    (hevents : t'.events = t.events ++ rows)
    (hcapacity : ∃ requirement, validateCapacityHistory w t' c = .ok requirement)
    (hloads : ∃ history, loadExecutionAvailabilityHistory w t' c = .ok history)
    (hreplayed : rows.mapM (EventRow.replayEvent w) = .ok events) :
    ∃ scan', Reads w runId t' c scan' (replay.run events) ∧
      rows.foldlM (Scan.step w t' c) scan = .ok scan' := by
  obtain ⟨requirement, hrequirement⟩ := hcapacity
  obtain ⟨hsize, -⟩ := validateCapacityHistory_eq_ok.mp hrequirement
  obtain ⟨history, hhistory⟩ := hloads
  obtain ⟨havailability, scan', hscan', hcloses, -⟩ :=
    loadExecutionAvailabilityHistory_eq_ok.mp hhistory
  obtain ⟨old, items, hold, hitems, rfl⟩ := hr.replayed
  refine ⟨scan', ⟨hcarries.loadContracts.trans hr.contracts, hsize, havailability,
    ⟨requirement, hrequirement⟩, hscan', hcloses, old ++ events, items, ?_, hitems,
    (Scheduler.Replay.run_append _ _ _).symm⟩, (hcarries.ofJournal_iff hevents hr.journal).mp hscan'⟩
  rw [hevents]
  exact mapM_append_eq_ok.mpr ⟨old, events, hold, hreplayed, rfl⟩

/-- The new rows are valid when the whole journal loads. -/
theorem rows_valid (hr : Reads w runId t c scan replay) (hcarries : Carries t t')
    (hevents : t'.events = t.events ++ rows)
    (hloads : ∃ history, loadExecutionAvailabilityHistory w t' c = .ok history) :
    ∀ row ∈ rows, validateReadOnlyEventRow w c row = .ok () := by
  obtain ⟨history, hhistory⟩ := hloads
  obtain ⟨-, scan', hscan', -, -⟩ := loadExecutionAvailabilityHistory_eq_ok.mp hhistory
  exact Scan.foldlM_step_valid ((hcarries.ofJournal_iff hevents hr.journal).mp hscan')

/-- The capacity side of a read, as one structure. -/
theorem capacityReads (hr : Reads w runId t c scan replay) :
    ∃ capacity parsed position, CapacityReads w c t.events capacity parsed position := by
  obtain ⟨requirement, hrequirement⟩ := hr.capacity
  obtain ⟨-, capacity, parsed, position, hreads, -⟩ :=
    validateCapacityHistory_eq_ok.mp hrequirement
  exact ⟨capacity, parsed, position, hreads⟩

theorem capacity_neutral (hr : Reads w runId t c scan replay)
    (hevents : t'.events = t.events ++ rows)
    (hvalid : ∀ row ∈ rows, validateReadOnlyEventRow w c row = .ok ())
    (hneutral : ∀ row ∈ rows, CapacityNeutral w row) :
    ∃ requirement, validateCapacityHistory w t' c = .ok requirement := by
  obtain ⟨capacity, parsed, position, hreads⟩ := hr.capacityReads
  obtain ⟨parsed', hreads'⟩ := hreads.append_neutral hvalid hneutral
  obtain ⟨retained, hretained⟩ := hr.capacitySize
  have hplain : ∀ row ∈ rows, row.kind.isCapacity = false := by
    intro row hrow
    cases hneutral row hrow with
    | adapter hkind => rw [hkind]; rfl
    | internal e n hpayload =>
      rw [InternalEvent.row_kind]
      cases hp : e.payload <;> first | rfl | (rw [hp] at hpayload; cases hpayload)
  refine ⟨_, validateCapacityHistory_eq_ok.mpr ⟨⟨retained, ?_⟩, capacity, parsed', position, ?_,
    rfl⟩⟩
  · rw [RunTables.validateCapacityHistorySize_of_plain hevents hplain, hretained]
  · rw [hevents]
    exact hreads'

/-- Rows that are no availability events, and that the scan passes, keep the history loading. -/
theorem loads_plain {tx tx' : Tx} (hr : Reads w runId tx.tables c scan replay)
    (hgrows : Grows tx tx' rows) (hbooked : Booked tx.tables tx.sequence)
    (hcustody : SameCustody tx.tables tx'.tables)
    (hplain : ∀ row ∈ rows, row.kind.isProvider = false) (hrows : Unrequired rows)
    (hscan : rows.foldlM (Scan.step w tx'.tables c) scan = .ok scan')
    (hcloses : scan'.Closes tx'.tables) :
    ∃ history, loadExecutionAvailabilityHistory w tx'.tables c = .ok history := by
  obtain ⟨retained, hretained⟩ := hr.availabilitySize
  refine ⟨_, loadExecutionAvailabilityHistory_eq_ok.mpr ⟨⟨retained, ?_⟩, scan',
    ((hgrows.carries hrows).ofJournal_iff hgrows.events hr.journal).mpr hscan, hcloses, rfl⟩⟩
  rw [RunTables.validateExecutionAvailabilityHistorySize_of_plain hgrows.run hgrows.markers hcustody
    hgrows.events ?_ hplain, hretained]
  intro row hrow entry hentry
  exact lt_of_le_of_lt (hbooked.metadata entry hentry) (hgrows.lt_sequence hrow).1

end Reads

/-- An admitted attempt was named by a row. -/
theorem CapacityScan.mem_admitted {w : Platform} {c : Contracts} {rows : List EventRow}
    {scan : CapacityScan} (hvalid : ∀ row ∈ rows, validateReadOnlyEventRow w c row = .ok ())
    (hscan : rows.foldlM (CapacityScan.step w c) CapacityScan.start = .ok scan)
    {attempt : String} (h : attempt ∈ scan.admitted) :
    ∃ row ∈ rows, row.attemptId = some attempt := by
  refine foldlM_invariant
    (fun scan => ∀ attempt ∈ scan.admitted, ∃ row ∈ rows, row.attemptId = some attempt)
    (fun attempt hmem => by simp [CapacityScan.start] at hmem) (fun start row next hrow hP hstep => ?_)
    hscan attempt h
  by_cases hkind : row.kind = .adapterEvent
  · obtain rfl : start = next := by simpa [CapacityScan.step, hkind] using hstep
    exact hP
  obtain ⟨event, hspells⟩ := validateReadOnlyEventRow_spells (hvalid row hrow) hkind
  simp only [CapacityScan.step, beq_eq_false_iff_ne.mpr hkind, Bool.false_eq_true, if_false,
    hspells.read, ok_bind] at hstep
  cases hp : event.payload
  case capacityRequirementAdmitted candidate bytes =>
    simp only [hp, bind_eq_ok, Except.ok.injEq] at hstep
    obtain ⟨_, -, _, -, _, -, rfl⟩ := hstep
    exact hP
  case capacityAdmissionAccepted =>
    simp only [hp, bind_eq_ok, okOr_eq_ok, Except.ok.injEq] at hstep
    obtain ⟨_, -, named, hnamed, _, -, _, -, _, -, _, -, rfl⟩ := hstep
    intro attempt hmem
    rcases Std.ExtTreeSet.mem_insert.mp hmem with heq | hmem
    · obtain rfl := Std.LawfulEqOrd.compare_eq_iff_eq.mp heq
      exact ⟨row, hrow, by rw [← hspells.attemptId, hnamed]⟩
    · exact hP attempt hmem
  case attemptCreated =>
    simp only [hp, bind_eq_ok, Except.ok.injEq] at hstep
    obtain ⟨_, -, rfl⟩ := hstep
    exact hP
  all_goals
    rw [hp] at hstep
    obtain rfl := Except.ok.inj hstep
    exact hP

/-- What an admitted capacity bundle says of the attempt it admits. -/
theorem validateCapacityBindings_request {w : Platform} {c : Contracts} {capacity : CapacityBundle}
    {requirement : ForemanCapacityRequirementV1} {workItemId attemptId : String}
    {recordedAt : Instant} {request : WorkerStartRequestV2}
    (h : validateCapacityBindings capacity c.packet c.admission c.profile requirement workItemId
      recordedAt = .ok ())
    (hrequest : Requests w c c.admission.runId workItemId attemptId request) :
    capacity.admission.packetDigest = request.packetDigest ∧
      capacity.admission.runId = request.runId ∧
      capacity.admission.workItemId = request.workItemId ∧
      capacity.admission.adapterId = request.adapterId ∧
      capacity.admission.profileModelClass = request.providerModelClass := by
  simp only [validateCapacityBindings, bind_eq_ok, okOr_eq_ok, refuseIf_eq_ok,
    Bool.or_eq_false_iff, bne_eq_false_iff_eq] at h
  obtain ⟨work, -, execution, hexecution, _, -, _, hbinding, -⟩ := h
  have hadapter := hrequest.adapter
  have hclass := hrequest.modelClass
  rw [hexecution] at hadapter hclass
  refine ⟨by rw [hbinding.1.1.1.1.1.1.1, hrequest.packet], by rw [hbinding.1.1.1.1.2, hrequest.run],
    by rw [hbinding.1.1.1.2, hrequest.workItem], ?_, ?_⟩
  · rw [hbinding.1.1.2]
    exact Option.some.inj hadapter
  · rw [hbinding.2]
    exact Option.some.inj hclass

theorem capacityNeutral_rowsOf {w : Platform} {n : Nat} {events : List InternalEvent}
    (h : ∀ e ∈ events, e.payload.concernsCapacity = false) :
    ∀ row ∈ rowsOf w n events, CapacityNeutral w row := by
  intro row hrow
  obtain ⟨e, he, m, -, rfl⟩ := mem_rowsOf hrow
  exact .internal e m (h e he)

namespace CapacityReads

variable {w : Platform} {c : Contracts} {t : RunTables} {scan : CapacityScan}
  {parsed : List (Option InternalEvent)} {position n : Nat}
  {workItemId attemptId eventId : String} {recordedAt : Instant} {locks : List String}
  {request : WorkerStartRequestV2} {dispatchEvents : List InternalEvent}

/-- The event that creates an attempt. -/
abbrev createdEvent (c : Contracts) (eventId workItemId attemptId : String) (recordedAt : Instant)
    (locks : List String) (request : WorkerStartRequestV2) : InternalEvent :=
  journalEvent c.admission.runId eventId (some workItemId) (some attemptId) recordedAt
    (.attemptCreated locks request)

/-- An attempt of a run without a capacity requirement. -/
theorem append_attempt (h : CapacityReads w c t.events scan parsed position)
    (hrequirement : scan.requirement = none)
    (hdispatch : ∀ e ∈ dispatchEvents, e.payload.concernsCapacity = false)
    (hvalid : ∀ row ∈ rowsOf w n (createdEvent c eventId workItemId attemptId recordedAt locks
      request :: dispatchEvents), validateReadOnlyEventRow w c row = .ok ()) :
    ∃ scan' parsed', CapacityReads w c (t.events ++ rowsOf w n (createdEvent c eventId workItemId
      attemptId recordedAt locks request :: dispatchEvents)) scan' parsed' position := by
  have hneutral := capacityNeutral_rowsOf (w := w) (n := n + 1) hdispatch
  obtain ⟨parsedMore, hparsed, hadmitted, hentries⟩ := mapM_parsedEvent_neutral hneutral
  refine ⟨{ scan with attempts := scan.attempts.insert attemptId }, _, h.append hvalid
    (foldlM_cons_eq_ok.mpr ⟨_, rfl, CapacityScan.foldlM_step_neutral hneutral _⟩) rfl
    ⟨by simp [hrequirement], h.consistent.legacy⟩
    (mapM_cons_eq_ok.mpr ⟨_, parsedMore, rfl, hparsed, rfl⟩) ?_ fun index previous => ?_⟩
  · simp only [List.forall_mem_cons]
    exact ⟨rfl, hadmitted⟩
  · rw [hrequirement]
    exact checkCapacityPlacements_neutral hentries _ _ (index + 1) _

/-- An attempt of a capacity-required run, behind the admission it rests on. -/
theorem append_admitted {capacity : CapacityBundle} {required : RetainedCapacityRequirement}
    {capacityId : String} (h : CapacityReads w c t.events scan parsed position)
    (hrequirement : scan.requirement = some required) (hfresh : attemptId ∉ scan.admitted)
    (hbundle : validateCapacityBundle w capacity.admissionBytes capacity.observationBytes
      capacity.policyBytes capacity.decisionBytes = .ok capacity)
    (hbindings : validateCapacityBindings capacity c.packet c.admission c.profile
      required.requirement workItemId recordedAt = .ok ())
    (hrequest : Requests w c c.admission.runId workItemId attemptId request)
    (hdispatch : ∀ e ∈ dispatchEvents, e.payload.concernsCapacity = false)
    (hvalid : ∀ row ∈ rowsOf w n (capacityEvent c.admission.runId capacityId workItemId attemptId
      recordedAt capacity :: createdEvent c eventId workItemId attemptId recordedAt locks request ::
        dispatchEvents), validateReadOnlyEventRow w c row = .ok ()) :
    ∃ scan' parsed', CapacityReads w c (t.events ++ rowsOf w n (capacityEvent c.admission.runId
      capacityId workItemId attemptId recordedAt capacity :: createdEvent c eventId workItemId
        attemptId recordedAt locks request :: dispatchEvents)) scan' parsed' position := by
  have hneutral := capacityNeutral_rowsOf (w := w) (n := n + 1 + 1) hdispatch
  obtain ⟨parsedMore, hparsed, hadmitted, hentries⟩ := mapM_parsedEvent_neutral hneutral
  have hcomplete : scan.attempts = scan.admitted := by
    simpa [hrequirement] using h.consistent.complete
  have hbound := validateCapacityBindings_request hbindings hrequest
  have hscan : scan.step w c ((capacityEvent c.admission.runId capacityId workItemId attemptId
      recordedAt capacity).row w (n + 1)) =
        .ok { scan with admitted := scan.admitted.insert attemptId } := by
    simp [CapacityScan.step, capacityEvent, journalEvent, okOr, hbundle, refuseIf, hfresh,
      hrequirement, hbindings]
  refine ⟨⟨scan.requirement, scan.attempts.insert attemptId, scan.admitted.insert attemptId⟩, _,
    h.append hvalid (foldlM_cons_eq_ok.mpr ⟨_, hscan, foldlM_cons_eq_ok.mpr ⟨_, rfl,
      CapacityScan.foldlM_step_neutral hneutral _⟩⟩) rfl
    ⟨by simp [hcomplete], by simp [hrequirement]⟩
    (mapM_cons_eq_ok.mpr ⟨_, _, rfl, mapM_cons_eq_ok.mpr ⟨_, parsedMore, rfl, hparsed, rfl⟩, rfl⟩)
    ?_ fun index previous => ?_⟩
  · simp only [List.forall_mem_cons]
    exact ⟨rfl, rfl, hadmitted⟩
  · rw [hrequirement]
    refine bind_eq_ok.mpr ⟨(), ?_, checkCapacityPlacements_neutral hentries _ _ _ _⟩
    simp [checkCapacityPlacement, capacityEvent, createdEvent, journalEvent, okOr, refuseIf,
      hbound, hrequest.attempt]

end CapacityReads

end Nightshift
