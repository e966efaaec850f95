import Nightshift.Foreman
import Nightshift.Replay
import Nightshift.Rows

/-!
# Reading a run

What a successful `load_projection` establishes, as one predicate over the
tables: the reopened contracts, the scan of the strict validator and the state
of the replay. All three are functions of the tables.
-/

namespace Nightshift

open Checked

/-- The projection of a replay state. -/
def Scheduler.Replay.projection (replay : Scheduler.Replay) (c : Contracts) (runId : String) :
    LiveRunProjectionV1 where
  schema := liveRunProjectionSchemaV1
  runId := runId
  packetId := c.packet.packetId
  packetDigest := c.packet.packetDigest
  admissionDigest := c.admission.admissionDigest
  profileDigest := c.profile.profileDigest
  maximumConcurrentWorkers := c.maximum
  workItems := replay.workItems
  resourceClaims := BTreeMap.valuesOf replay.claims
  closedFinalReceiptsDigest := replay.closedFinalReceiptsDigest
  authorityEffect := localSchedulingOnly

/-- The closing checks of the strict validator. -/
structure Scan.Closes (scan : Scan) (t : RunTables) : Prop where
  successors : (BTreeMap.valuesOf scan.laneLast).any (·.lacksSuccessor) = false
  dispatched : ∀ history, scan.history = some history → scan.attemptsDispatched history = true
  parked : ∀ history, scan.history = some history → scan.parkedReleased history = true
  claims : ∀ history, scan.history = some history → t.resourceClaims = scan.expectedClaims

theorem Scan.close_eq_ok {scan : Scan} {t : RunTables} {result : Option History} :
    scan.close t = .ok result ↔ scan.Closes t ∧ result = scan.history := by
  unfold Scan.close
  simp only [bind_eq_ok, refuseIf_eq_ok]
  cases hhistory : scan.history with
  | none =>
    simp only [Except.ok.injEq]
    constructor
    · rintro ⟨_, hlane, rfl⟩
      exact ⟨⟨hlane, by simp [hhistory], by simp [hhistory], by simp [hhistory]⟩, rfl⟩
    · rintro ⟨hclose, rfl⟩
      exact ⟨(), hclose.successors, rfl⟩
  | some history =>
    simp only [bind_eq_ok, refuseIf_eq_ok, Except.ok.injEq, Bool.not_eq_false',
      bne_eq_false_iff_eq]
    constructor
    · rintro ⟨_, hlane, _, hdispatched, _, hparked, _, hclaims, rfl⟩
      refine ⟨⟨hlane, ?_, ?_, ?_⟩, rfl⟩ <;>
        (intro h' hh; rw [hhistory] at hh; obtain rfl := Option.some.inj hh; assumption)
    · rintro ⟨hclose, rfl⟩
      exact ⟨(), hclose.successors, (), hclose.dispatched _ hhistory, (),
        hclose.parked _ hhistory, (), hclose.claims _ hhistory, rfl⟩

/-- The columns of a valid internal row repeat its event. -/
structure Spells (c : Contracts) (row : EventRow) (event : InternalEvent) : Prop where
  read : row.internalEvent = .ok event
  kind : row.kind = event.payload.rowKind
  runId : event.runId = c.admission.runId
  workItemId : event.workItemId = row.workItemId
  attemptId : event.attemptId = row.attemptId
  recordedAt : event.recordedAt = row.recordedAt

theorem validateReadOnlyEventRow_spells {w : Platform} {c : Contracts} {row : EventRow}
    (h : validateReadOnlyEventRow w c row = .ok ()) (hkind : row.kind ≠ .adapterEvent) :
    ∃ event, Spells c row event := by
  simp only [validateReadOnlyEventRow, bind_eq_ok] at h
  obtain ⟨_, -, hrow⟩ := h
  rw [if_neg (by simpa using hkind)] at hrow
  simp only [bind_eq_ok, refuseIf_eq_ok, Bool.or_eq_false_iff, bne_eq_false_iff_eq] at hrow
  obtain ⟨event, hevent, _, ⟨⟨⟨⟨⟨⟨hk, -⟩, -⟩, hrun⟩, hitem⟩, hattempt⟩, hat⟩, -⟩ := hrow
  exact ⟨event, hevent, hk, hrun, hitem, hattempt, hat⟩

/-- What a successful read of a run found. -/
structure Reads (w : Platform) (runId : String) (t : RunTables) (c : Contracts) (scan : Scan)
    (replay : Scheduler.Replay) : Prop where
  contracts : loadContracts w t runId = .ok c
  capacitySize : ∃ retained, t.validateCapacityHistorySize w c.profile.maximumEventBytes
    c.maximumCapacityRows = .ok retained
  availabilitySize : ∃ retained, t.validateExecutionAvailabilityHistorySize w
    c.profile.maximumEventBytes false = .ok retained
  capacity : ∃ requirement, validateCapacityHistory w t c = .ok requirement
  journal : Scan.ofJournal w t c = .ok scan
  closes : scan.Closes t
  replayed : ∃ events items, t.events.mapM (EventRow.replayEvent w) = .ok events ∧
    Scheduler.initialItems c.profile c.packet.workItems = some items ∧
    replay = (Scheduler.Replay.mk items ∅ none).run events

theorem loadProjection_eq_ok {w : Platform} {t : RunTables} {runId : String}
    {projection : LiveRunProjectionV1} :
    loadProjection w t runId = .ok projection ↔
      ∃ c scan replay, Reads w runId t c scan replay ∧ projection = replay.projection c runId := by
  simp only [loadProjection, validateExecutionAvailabilityHistoryRows, bind_eq_ok, okOr_eq_ok,
    Scan.close_eq_ok, Scheduler.replay, Option.bind_eq_bind, Option.bind_eq_some_iff]
  constructor
  · rintro ⟨c, hc, n, hn, m, hm, r, hr, h, ⟨scan, hscan, hclose, rfl⟩, events, hevents, items,
      hitems, hp⟩
    exact ⟨c, scan, _, ⟨hc, ⟨n, hn⟩, ⟨m, hm⟩, ⟨r, hr⟩, hscan, hclose, events, items, hevents,
      hitems, rfl⟩, (Option.some.inj hp).symm⟩
  · rintro ⟨c, scan, _, ⟨hc, ⟨n, hn⟩, ⟨m, hm⟩, ⟨r, hr⟩, hscan, hclose, events, items, hevents,
      hitems, rfl⟩, rfl⟩
    exact ⟨c, hc, n, hn, m, hm, r, hr, scan.history, ⟨scan, hscan, hclose, rfl⟩, events, hevents,
      items, hitems, rfl⟩

theorem loadExecutionAvailabilityHistory_eq_ok {w : Platform} {t : RunTables} {c : Contracts}
    {history : Option History} :
    loadExecutionAvailabilityHistory w t c = .ok history ↔
      (∃ retained, t.validateExecutionAvailabilityHistorySize w c.profile.maximumEventBytes false =
        .ok retained) ∧
      ∃ scan, Scan.ofJournal w t c = .ok scan ∧ scan.Closes t ∧ history = scan.history := by
  simp only [loadExecutionAvailabilityHistory, validateExecutionAvailabilityHistoryRows,
    bind_eq_ok, Scan.close_eq_ok]
  constructor
  · rintro ⟨n, hn, scan, hscan, hclose, he⟩
    exact ⟨⟨n, hn⟩, scan, hscan, hclose, he⟩
  · rintro ⟨⟨n, hn⟩, scan, hscan, hclose, he⟩
    exact ⟨n, hn, scan, hscan, hclose, he⟩

/-- A replay event repeats the item and attempt of its row. -/
theorem EventRow.replayEvent_columns {w : Platform} (row : EventRow) {event : ReplayEvent}
    (h : row.replayEvent w = .ok event) :
    event.workItemId = row.workItemId ∧ event.attemptId = row.attemptId := by
  unfold EventRow.replayEvent at h
  split at h
  all_goals
    obtain ⟨kind, -, hevent⟩ := bind_eq_ok.mp h
    obtain rfl := Except.ok.inj hevent
    exact ⟨rfl, rfl⟩

/-- What packet and profile say of an item of the replay. -/
structure Charts (c : Contracts) (id : String) (item : LiveWorkItemV1) : Prop where
  workItemId : item.workItemId = id
  work : ∃ work ∈ c.packet.workItems, work.id = id ∧ item.dependencies = work.dependencies
  locks : (c.profile.workItems[id]?).map (·.resourceLockKeys) = some item.resourceLockKeys
  raw : LiveWorkItemV1.ofReadiness item.schedulerState = false

/-- The exact active attempt of an item that has no receipt. -/
def Active (replay : Scheduler.Replay) (workItemId attemptId : String) (item : LiveWorkItemV1) :
    Prop :=
  replay.items[workItemId]? = some item ∧ item.activeAttemptId = some attemptId ∧
    item.schedulerState.isExplicitTerminal = false

namespace Reads

variable {w : Platform} {runId : String} {t : RunTables} {c c' : Contracts} {scan scan' : Scan}
  {replay replay' : Scheduler.Replay}

theorem loads (h : Reads w runId t c scan replay) :
    loadProjection w t runId = .ok (replay.projection c runId) :=
  loadProjection_eq_ok.mpr ⟨c, scan, replay, h, rfl⟩

/-- The contracts, the scan and the replay are functions of the tables. -/
theorem unique (h : Reads w runId t c scan replay) (h' : Reads w runId t c' scan' replay') :
    c' = c ∧ scan' = scan ∧ replay' = replay := by
  obtain rfl : c' = c := Except.ok.inj (h'.contracts.symm.trans h.contracts)
  obtain rfl : scan' = scan := Except.ok.inj (h'.journal.symm.trans h.journal)
  obtain ⟨events, items, hevents, hitems, rfl⟩ := h.replayed
  obtain ⟨events', items', hevents', hitems', rfl⟩ := h'.replayed
  obtain rfl : events' = events := Except.ok.inj (hevents'.symm.trans hevents)
  obtain rfl : items' = items := Option.some.inj (hitems'.symm.trans hitems)
  exact ⟨rfl, rfl, rfl⟩

theorem contracts_eq (h : Reads w runId t c scan replay) (hc : loadContracts w t runId = .ok c') :
    c' = c :=
  Except.ok.inj (hc.symm.trans h.contracts)

theorem projection_eq (h : Reads w runId t c scan replay) {projection : LiveRunProjectionV1}
    (hp : loadProjection w t runId = .ok projection) : projection = replay.projection c runId :=
  Except.ok.inj (hp.symm.trans h.loads)

theorem history_eq (h : Reads w runId t c scan replay) {history : Option History}
    (hh : loadExecutionAvailabilityHistory w t c = .ok history) : history = scan.history := by
  obtain ⟨-, scan', hscan', -, rfl⟩ := loadExecutionAvailabilityHistory_eq_ok.mp hh
  rw [Except.ok.inj (hscan'.symm.trans h.journal)]

theorem loads_history (h : Reads w runId t c scan replay) :
    loadExecutionAvailabilityHistory w t c = .ok scan.history :=
  loadExecutionAvailabilityHistory_eq_ok.mpr
    ⟨h.availabilitySize, scan, h.journal, h.closes, rfl⟩

theorem requireHistory_eq (h : Reads w runId t c scan replay) {history : History}
    {message : String} (hh : requireHistory w t c message = .ok history) :
    scan.history = some history := by
  simp only [requireHistory, bind_eq_ok, okOr_eq_ok] at hh
  obtain ⟨found, hfound, hsome⟩ := hh
  rw [← h.history_eq hfound, hsome]

theorem charts (h : Reads w runId t c scan replay) {id : String} {item : LiveWorkItemV1}
    (hitem : replay.items[id]? = some item) : Charts c id item := by
  obtain ⟨events, items, -, hitems, rfl⟩ := h.replayed
  refine Scheduler.Replay.run_items_invariant _ (fun id item event hP => ?_) events
    (fun id item hinit => ?_) id item hitem
  · have hsame := item.apply_sameContract event
    exact ⟨by rw [hsame.workItemId, hP.workItemId], by rw [hsame.dependencies]; exact hP.work,
      by rw [hsame.resourceLockKeys]; exact hP.locks, LiveWorkItemV1.apply_ofReadiness hP.raw event⟩
  · obtain ⟨work, hwork, rfl, hfirst⟩ := (Scheduler.initialItems_spec hitems).1 id item hinit
    obtain ⟨hid, hdependencies, hlocks, -, hstate, -⟩ := Scheduler.initialItem_eq_some hfirst
    exact ⟨hid, ⟨work, hwork, rfl, hdependencies⟩, hlocks, by rw [hstate]; rfl⟩

/-- Every packet item is in the replay. -/
theorem item_of_work (h : Reads w runId t c scan replay) {work : WorkItemV1}
    (hwork : work ∈ c.packet.workItems) : ∃ item, replay.items[work.id]? = some item := by
  obtain ⟨events, items, -, hitems, rfl⟩ := h.replayed
  rw [← Option.isSome_iff_exists, Scheduler.Replay.run_items_isSome]
  exact (Scheduler.initialItems_spec hitems).2 work hwork

/-- The active attempt of an item is named by a row of it. -/
theorem active_named (h : Reads w runId t c scan replay) {id attempt : String}
    {item : LiveWorkItemV1} (hitem : replay.items[id]? = some item)
    (hactive : item.activeAttemptId = some attempt) :
    ∃ row ∈ t.events, row.workItemId = some id ∧ row.attemptId = some attempt := by
  obtain ⟨events, items, hevents, hitems, rfl⟩ := h.replayed
  rcases Scheduler.Replay.run_active _ hitem hactive with ⟨old, hold, hactive⟩ | ⟨e, he, hid, ha⟩
  · obtain ⟨work, -, -, hfirst⟩ := (Scheduler.initialItems_spec hitems).1 id old hold
    rw [(Scheduler.initialItem_eq_some hfirst).2.2.2.1] at hactive
    cases hactive
  · obtain ⟨row, hrow, hreplay⟩ := mem_of_mapM_eq_ok hevents he
    obtain ⟨hitem', hattempt'⟩ := row.replayEvent_columns hreplay
    exact ⟨row, hrow, hitem' ▸ hid, hattempt' ▸ ha⟩

theorem mem_workItems (h : Reads w runId t c scan replay) {item : LiveWorkItemV1} :
    item ∈ replay.workItems ↔ ∃ raw : LiveWorkItemV1, replay.items[raw.workItemId]? = some raw ∧
      item = raw.evaluateReadiness replay.terminal replay.held := by
  simp only [Scheduler.Replay.workItems, List.mem_map, BTreeMap.mem_valuesOf]
  constructor
  · rintro ⟨raw, ⟨id, hraw⟩, rfl⟩
    exact ⟨raw, (h.charts hraw).workItemId.symm ▸ hraw, rfl⟩
  · rintro ⟨raw, hraw, rfl⟩
    exact ⟨raw, ⟨_, hraw⟩, rfl⟩

theorem findItem_eq_ok (h : Reads w runId t c scan replay) {id : String}
    {item : LiveWorkItemV1} :
    findItem (replay.projection c runId) id = .ok item ↔
      ∃ raw, replay.items[id]? = some raw ∧
        item = raw.evaluateReadiness replay.terminal replay.held := by
  simp only [findItem, okOr_eq_ok, Scheduler.Replay.projection]
  constructor
  · intro hfind
    obtain ⟨raw, hraw, rfl⟩ := h.mem_workItems.mp (List.mem_of_find?_eq_some hfind)
    have hid : raw.workItemId = id := by simpa using List.find?_some hfind
    exact ⟨raw, hid ▸ hraw, rfl⟩
  · rintro ⟨raw, hraw, rfl⟩
    have hid : raw.workItemId = id := (h.charts hraw).workItemId
    have hmem : raw.evaluateReadiness replay.terminal replay.held ∈ replay.workItems :=
      h.mem_workItems.mpr ⟨raw, hid.symm ▸ hraw, rfl⟩
    cases hfind : replay.workItems.find? fun item => item.workItemId == id with
    | none =>
      have := List.find?_eq_none.mp hfind _ hmem
      simp [hid] at this
    | some found =>
      obtain ⟨other, hother, rfl⟩ := h.mem_workItems.mp (List.mem_of_find?_eq_some hfind)
      have hsame : other.workItemId = id := by simpa using List.find?_some hfind
      rw [hsame, hraw] at hother
      rw [Option.some.inj hother]

theorem mem_terminal (h : Reads w runId t c scan replay) {id : String} :
    id ∈ replay.terminal ↔
      ∃ item, replay.items[id]? = some item ∧ item.schedulerState.isExplicitTerminal = true := by
  simp only [Scheduler.Replay.terminal, BTreeSet.mem_collect, List.mem_map, List.mem_filter,
    BTreeMap.mem_valuesOf]
  constructor
  · rintro ⟨item, ⟨⟨key, hitem⟩, hterminal⟩, rfl⟩
    exact ⟨item, (h.charts hitem).workItemId.symm ▸ hitem, hterminal⟩
  · rintro ⟨item, hitem, hterminal⟩
    exact ⟨item, ⟨⟨id, hitem⟩, hterminal⟩, (h.charts hitem).workItemId⟩

theorem exactActiveAttempt_eq_ok (h : Reads w runId t c scan replay)
    {workItemId attemptId : String} :
    t.exactActiveAttempt w runId workItemId attemptId = .ok () ↔
      ∃ item, Active replay workItemId attemptId item := by
  simp only [RunTables.exactActiveAttempt, bind_eq_ok, refuseIf_eq_ok, bne_eq_false_iff_eq]
  constructor
  · rintro ⟨projection, hp, item, hfind, _, hterminal, hactive⟩
    obtain rfl := h.projection_eq hp
    obtain ⟨raw, hraw, rfl⟩ := h.findItem_eq_ok.mp hfind
    exact ⟨raw, hraw, by simpa using hactive, by simpa using hterminal⟩
  · rintro ⟨item, hitem, hactive, hterminal⟩
    exact ⟨_, h.loads, _, h.findItem_eq_ok.mpr ⟨item, hitem, rfl⟩, (), by simpa using hterminal,
      by simpa using hactive⟩

end Reads

end Nightshift
