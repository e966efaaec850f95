import Nightshift.LockCustody

/-!
# No deadlock on dependencies

An item that has no attempt and no receipt waits for its dependencies until the
readiness pass, and the dependencies of some open item all have receipts. That
item is ready, waits for a lock of a live attempt, or has an attempt.
-/

namespace Nightshift

open Checked

/-- An item without an attempt waits or has a receipt, and one with an attempt does not wait for
its dependencies. -/
structure Phased (item : LiveWorkItemV1) : Prop where
  idle : item.activeAttemptId = none → item.schedulerState.isExplicitTerminal = false →
    item.schedulerState = .waitingDependencies
  busy : item.activeAttemptId.isSome = true → item.schedulerState ≠ .waitingDependencies

namespace LiveWorkItemV1

/-- No event makes an item wait for its dependencies. -/
theorem apply_ne_waiting {item : LiveWorkItemV1} {event : ReplayEvent}
    (h : item.schedulerState ≠ .waitingDependencies) :
    (item.apply event).schedulerState ≠ .waitingDependencies := by
  unfold apply
  cases event.kind <;> try exact h
  all_goals try simp [acceptOutcome]
  case adapter adapterEvent =>
    simp only [applyAdapterEvent, stateAfterAdapter]
    cases adapterEvent.kind <;> first | exact h | simp
  case providerDispositionRecorded state identity =>
    cases state <;> simp [stateAfterDisposition]

theorem foldl_apply_ne_waiting {item : LiveWorkItemV1} (events : List ReplayEvent)
    (h : item.schedulerState ≠ .waitingDependencies) :
    (events.foldl apply item).schedulerState ≠ .waitingDependencies := by
  induction events generalizing item with
  | nil => exact h
  | cons event events ih => exact ih (apply_ne_waiting h)

end LiveWorkItemV1

section Phases

variable {w : Platform} {runId : String} {c : Contracts} {scan : Scan}
  {replay : Scheduler.Replay} {tx tx' : Tx} {rows : List EventRow} {events : List ReplayEvent}

/-- A turn that names an item without an attempt prepares or declines it. -/
theorem Turn.idle (h : Turn w runId c scan replay tx tx' rows events) {named : String}
    {item : LiveWorkItemV1} (hitem : replay.items[named]? = some item)
    (hidle : item.activeAttemptId = none) :
    (∀ event ∈ events, event.workItemId ≠ some named) ∨
      (∃ attemptId recordedAt preparation opened journaled, Prepared w runId c scan replay tx tx'
        named attemptId recordedAt preparation opened journaled ∧
        events = replayEventsOf w tx.sequence journaled) ∨
      ∃ outcome event, events = [event] ∧ event.workItemId = some named ∧
        event.kind = .notStartedAccepted outcome := by
  have hother : ∀ {id attempt : String}, (∃ found, Active replay id attempt found) →
      (∀ row ∈ rows, row.workItemId = some id) → ∀ event ∈ events, event.workItemId ≠ some named := by
    rintro id attempt ⟨found, hfound, hactive, -⟩ hrows event hevent hnames
    obtain rfl := Option.some.inj ((h.event_workItemId hrows event hevent).symm.trans hnames)
    obtain rfl := Option.some.inj (hfound.symm.trans hitem)
    rw [hactive] at hidle
    cases hidle
  have hturn := h
  cases h with
  | kept | drove => exact .inl (by simp)
  | @prepared workItemId _ _ _ _ _ h =>
    by_cases heq : workItemId = named
    · subst heq
      exact .inr (.inl ⟨_, _, _, _, _, h, rfl⟩)
    · refine .inl fun event hevent hnames => heq ?_
      have hrows := workItemId_of_mem_rowsOf (w := w) (n := tx.sequence) fun e he => (h.kinds e he).2.1
      exact Option.some.inj ((hturn.event_workItemId hrows event hevent).symm.trans hnames)
  | disposed h => exact .inl (hother h.active (workItemId_of_mem_rowsOf h.names_item))
  | woken h => exact .inl (hother h.active (workItemId_of_mem_rowsOf h.names_item))
  | resumed h =>
    refine .inl (hother h.active (workItemId_of_mem_rowsOf fun e he => ?_))
    obtain rfl := List.mem_singleton.mp (h.journaled ▸ he)
    rfl
  | transitioned _ h =>
    obtain ⟨eventId, recordedAt, rfl⟩ := h.journaled
    refine .inl (hother h.active (workItemId_of_mem_rowsOf fun e he => ?_))
    obtain rfl := List.mem_singleton.mp he
    rfl
  | observed h =>
    refine .inl (hother h.active fun row hrow => ?_)
    obtain rfl := List.mem_singleton.mp hrow
    rfl
  | terminated _ h => exact .inl (hother h.active (workItemId_of_mem_rowsOf h.ended.names_item))
  | prelaunched _ h => exact .inl (hother h.active (workItemId_of_mem_rowsOf h.ended.names_item))
  | @declined _ receipt _ _ h =>
    obtain ⟨eventId, rfl⟩ := h.journaled
    by_cases heq : named = receipt.workItemId
    · exact .inr (.inr ⟨_, _, rfl, congrArg some heq.symm, rfl⟩)
    · refine .inl fun event hevent hnames => heq ?_
      obtain rfl := List.mem_singleton.mp hevent
      exact (Option.some.inj hnames).symm
  | closedOut h =>
    obtain ⟨eventId, recordedAt, digest, rfl⟩ := h.journaled
    refine .inl fun event hevent hnames => ?_
    obtain rfl := List.mem_singleton.mp hevent
    cases hnames

theorem Turn.phased (h : Turn w runId c scan replay tx tx' rows events)
    (hphased : ∀ (id : String) item, replay.items[id]? = some item → Phased item) :
    ∀ (id : String) item, (replay.run events).items[id]? = some item → Phased item := by
  intro id item hitem
  have hsome := h.item_isSome id
  rw [hitem] at hsome
  obtain ⟨old, hold⟩ := Option.isSome_iff_exists.mp hsome.symm
  have hphase := hphased id old hold
  cases hattempt : old.activeAttemptId with
  | some attempt =>
    obtain ⟨same, hsame, hactive⟩ := h.keeps_attempt hold hattempt
    obtain rfl := Option.some.inj (hsame.symm.trans hitem)
    refine ⟨fun hnone => ?_, fun _ => ?_⟩
    · rw [hactive] at hnone
      cases hnone
    have hbusy := hphase.busy (by rw [hattempt]; rfl)
    rcases h.subject with hnone | ⟨named, -, -, -, hnames⟩
    · rw [(Scheduler.Replay.run_unnamed (h.event_workItemId hnone)).1, hold] at hitem
      exact Option.some.inj hitem ▸ hbusy
    · by_cases heq : id = named
      · rw [replay.run_items_self hold (heq ▸ h.event_workItemId hnames)] at hitem
        exact Option.some.inj hitem ▸ LiveWorkItemV1.foldl_apply_ne_waiting events hbusy
      · rw [replay.run_items_other heq (h.event_workItemId hnames), hold] at hitem
        exact Option.some.inj hitem ▸ hbusy
  | none =>
    rcases h.idle hold hattempt with
      hspared | ⟨attemptId, _, _, _, journaled, hprepared, rfl⟩ | ⟨outcome, event, rfl, hnames, hkind⟩
    · have hkept : (replay.run events).items[id]? = replay.items[id]? := by
        rcases h.subject with hnone | ⟨named, -, -, -, hnamed⟩
        · rw [(Scheduler.Replay.run_unnamed (h.event_workItemId hnone)).1]
        · by_cases heq : id = named
          · cases events with
            | nil => rfl
            | cons event events =>
              exact absurd (heq ▸ h.event_workItemId hnamed event List.mem_cons_self)
                (hspared event List.mem_cons_self)
          · exact replay.run_items_other heq (h.event_workItemId hnamed)
      rw [hkept, hold] at hitem
      exact Option.some.inj hitem ▸ hphase
    · obtain ⟨same, hsame, hactive⟩ := hprepared.attempted
      obtain rfl := Option.some.inj (hsame.symm.trans hitem)
      refine ⟨fun hnone => ?_, fun _ => ?_⟩
      · rw [hactive] at hnone
        cases hnone
      have hnamed : ∀ event ∈ replayEventsOf w tx.sequence journaled,
          event.workItemId = some id := by
        intro event hevent
        obtain ⟨e, he, m, rfl⟩ := mem_replayEventsOf hevent
        exact (hprepared.kinds e he).2.1
      obtain ⟨first, created, rest, locks, request, rfl, hpayload, -, -⟩ := hprepared.created
      rw [replay.run_items_self hold hnamed, replayEventsOf_append, replayEventsOf,
        List.foldl_append, List.foldl_cons] at hitem
      have hdispatching : ∀ (item : LiveWorkItemV1) n,
          (item.apply (created.replayEvent w n)).schedulerState ≠ .waitingDependencies := by
        intro item n
        simp [LiveWorkItemV1.apply, InternalEvent.replayEvent, hpayload, InternalPayload.replayKind]
      exact Option.some.inj hitem ▸ LiveWorkItemV1.foldl_apply_ne_waiting _ (hdispatching _ _)
    · rw [replay.run_items_self hold (by simpa using hnames)] at hitem
      obtain rfl := Option.some.inj hitem
      have hsettled : (old.apply event).schedulerState = .notStarted := by
        simp [LiveWorkItemV1.apply, hkind, LiveWorkItemV1.acceptOutcome]
      refine ⟨fun _ hopen => ?_, fun _ => ?_⟩
      · rw [List.foldl_cons, List.foldl_nil, hsettled] at hopen
        cases hopen
      · rw [List.foldl_cons, List.foldl_nil, hsettled]
        simp

end Phases

theorem Store.Traced.phased {w : Platform} {runId : String} {t : RunTables} {c : Contracts}
    {scan : Scan} {replay : Scheduler.Replay} (h : Store.Traced w runId t c scan replay) :
    ∀ (id : String) item, replay.items[id]? = some item → Phased item := by
  refine h.invariant
    (P := fun _ _ replay => ∀ (id : String) item, replay.items[id]? = some item → Phased item)
    (fun _ _ _ _ _ hopened id item hitem => ?_) fun _ _ _ _ _ _ _ _ hturn _ _ hP => hturn.phased hP
  obtain ⟨work, -, -, hfirst⟩ := (Scheduler.initialItems_spec hopened.items).1 id item hitem
  obtain ⟨-, -, -, hidle, hstate, -⟩ := Scheduler.initialItem_eq_some hfirst
  refine ⟨fun _ _ => hstate, fun hsome => ?_⟩
  rw [hidle] at hsome
  cases hsome

/-- What an item that is not stuck waits for: nothing, the locks of another item's attempt, or
its own attempt. -/
inductive Proceeds (t : RunTables) (projection : LiveRunProjectionV1) (item : LiveWorkItemV1) : Prop
  | ready (hstate : item.schedulerState = .readyEntryEvaluation)
      (hidle : item.activeAttemptId = none)
      (hfree : ∀ lock ∈ item.resourceLockKeys, t.resourceClaims[lock]? = none)
  | blocked (hstate : item.schedulerState = .waitingResource) (lock : String)
      (holder : LiveWorkItemV1) (attempt : String) (hlock : lock ∈ item.resourceLockKeys)
      (hholder : holder ∈ projection.workItems) (hactive : holder.activeAttemptId = some attempt)
      (hopen : holder.schedulerState.isExplicitTerminal = false)
      (hclaim : t.resourceClaims[lock]? = some (holder.workItemId, attempt))
  | attempted (attempt : String) (hactive : item.activeAttemptId = some attempt)
      (hstate : item.schedulerState ≠ .waitingDependencies)

/-- The dependencies of some open item all have receipts. -/
theorem Reads.exists_minimal {w : Platform} {runId : String} {t : RunTables} {c : Contracts}
    {scan : Scan} {replay : Scheduler.Replay} (h : Reads w runId t c scan replay) {id : String}
    (hopen : replay.Unreceipted id) :
    ∃ (id : String) (item : LiveWorkItemV1), replay.items[id]? = some item ∧
      item.schedulerState.isExplicitTerminal = false ∧
      ∀ dependency ∈ item.dependencies, dependency ∈ replay.terminal := by
  have hordered := loadContracts_wellOrdered h.contracts
  obtain ⟨rank, hrank⟩ := hordered.ranked
  induction hn : rank id using Nat.strong_induction_on generalizing id with
  | _ n ih =>
    obtain ⟨item, hitem, hstate⟩ := hopen
    by_cases hall : ∀ dependency ∈ item.dependencies, dependency ∈ replay.terminal
    · exact ⟨id, item, hitem, hstate, hall⟩
    · -- a dependency without a receipt has a smaller rank
      push Not at hall
      obtain ⟨dependency, hdependency, hwaits⟩ := hall
      obtain ⟨work, hwork, rfl, hsame⟩ := (h.charts hitem).work
      rw [hsame] at hdependency
      obtain ⟨other, hother, hid⟩ := List.mem_map.mp (hordered.known work hwork dependency hdependency)
      obtain ⟨found, hfound⟩ := h.item_of_work hother
      rw [hid] at hfound
      refine ih (rank dependency) (hn ▸ hrank work hwork dependency hdependency)
        ⟨found, hfound, ?_⟩ rfl
      rw [← Bool.not_eq_true]
      exact fun hterminal => hwaits (h.mem_terminal.mpr ⟨found, hfound, hterminal⟩)

/-- Scheduling never deadlocks on dependencies: while some item of a reachable run has no
receipt, some such item is ready with its locks free, waits for a lock that the attempt of an
item without a receipt holds, or has an attempt. -/
theorem Store.run_no_deadlock (w : Platform) (calls : List Call) (runId : String) (t : RunTables)
    (projection : LiveRunProjectionV1) (open_ : LiveWorkItemV1)
    (ht : ((Store.empty : Store).run w calls).runs[runId]? = some t)
    (hloads : loadProjection w t runId = .ok projection) (hmem : open_ ∈ projection.workItems)
    (hopen : open_.schedulerState.isExplicitTerminal = false) :
    ∃ item ∈ projection.workItems, item.schedulerState.isExplicitTerminal = false ∧
      Proceeds t projection item := by
  obtain ⟨c, scan, replay, htraced⟩ := (Store.run_traced w calls).2 runId t ht
  obtain ⟨-, hc, hr, -⟩ := htraced.custody
  obtain rfl := hr.projection_eq hloads
  obtain ⟨raw, hraw, rfl⟩ := hr.mem_workItems.mp hmem
  obtain ⟨id, item, hitem, hstate, hready⟩ :=
    hr.exists_minimal ⟨raw, hraw, by simpa using hopen⟩
  have hid : item.workItemId = id := (hr.charts hitem).workItemId
  have hphase := htraced.phased id item hitem
  have hheld : ∀ lock : String, lock ∈ replay.held ↔ (t.resourceClaims[lock]?).isSome = true := by
    intro lock
    rw [← lockTable, ← hc.replayed, Scheduler.Replay.lockTable, Option.isSome_map,
      Scheduler.Replay.held, BTreeSet.mem_collect, BTreeMap.mem_keys_iff, Option.isSome_iff_exists]
  refine ⟨_, hr.mem_workItems.mpr ⟨item, hid.symm ▸ hitem, rfl⟩, by simpa using hstate, ?_⟩
  cases hattempt : item.activeAttemptId with
  | some attempt =>
    refine .attempted attempt (by simpa using hattempt) ?_
    rw [LiveWorkItemV1.evaluateReadiness_schedulerState,
      LiveWorkItemV1.readiness_of_active hattempt]
    exact hphase.busy (by rw [hattempt]; rfl)
  | none =>
    have hwaiting := hphase.idle hattempt hstate
    have hall : item.dependencies.all replay.terminal.contains = true := by
      rw [List.all_eq_true]
      exact fun dependency hdependency =>
        Std.ExtTreeSet.contains_iff_mem.mpr (hready dependency hdependency)
    by_cases hlocks : item.resourceLockKeys.any replay.held.contains = true
    · obtain ⟨lock, hlock, hcontains⟩ := List.any_eq_true.mp hlocks
      obtain ⟨⟨other, attempt⟩, hclaim⟩ := Option.isSome_iff_exists.mp
        ((hheld lock).mp (Std.ExtTreeSet.contains_iff_mem.mp hcontains))
      obtain ⟨holder, hholder, rfl, hactive, hopen', -⟩ :=
        hr.mem_live.mp (hc.whole.held lock (other, attempt) hclaim).1
      refine .blocked ?_ lock holder attempt (by simpa using hlock) hholder hactive hopen' hclaim
      simp [LiveWorkItemV1.readiness, hattempt, hwaiting, hall, hlocks,
        SchedulerStateV1.isExplicitTerminal]
    · refine .ready ?_ (by simpa using hattempt) fun lock hlock => ?_
      · simp only [Bool.not_eq_true] at hlocks
        simp [LiveWorkItemV1.readiness, hattempt, hwaiting, hall, hlocks,
          SchedulerStateV1.isExplicitTerminal]
      · rw [LiveWorkItemV1.evaluateReadiness_resourceLockKeys] at hlock
        cases hclaim : t.resourceClaims[lock]? with
        | none => rfl
        | some holder =>
          refine absurd (List.any_eq_true.mpr ⟨lock, hlock, ?_⟩) hlocks
          exact Std.ExtTreeSet.contains_iff_mem.mpr ((hheld lock).mpr (by rw [hclaim]; rfl))

/-- The bench run has an open item. -/
theorem Store.open_item_evaluated :
    (((Store.empty : Store).run benchPlatform Bench.openAttempt).runs["run-1"]?).any (fun t =>
      (loadProjection benchPlatform t "run-1").toOption.any fun projection =>
        projection.workItems.any fun item => !item.schedulerState.isExplicitTerminal) = true := by
  decide +kernel

/-- Some open item of the bench run is not stuck. -/
theorem Store.run_no_deadlock_open_attempt : ∃ t projection,
    ((Store.empty : Store).run benchPlatform Bench.openAttempt).runs["run-1"]? = some t ∧
      loadProjection benchPlatform t "run-1" = .ok projection ∧
      ∃ item ∈ projection.workItems, item.schedulerState.isExplicitTerminal = false ∧
        Proceeds t projection item := by
  have hrun := Store.open_item_evaluated
  simp only [Option.any_eq_true, List.any_eq_true, Bool.not_eq_true', toOption_eq_some] at hrun
  obtain ⟨t, ht, projection, hloads, item, hitem, hopen⟩ := hrun
  exact ⟨t, projection, ht, hloads, Store.run_no_deadlock benchPlatform Bench.openAttempt "run-1" t
    projection item ht hloads hitem hopen⟩

end Nightshift
