import Nightshift.Attempts

/-!
# The turns and rows that move locks

Four journal events move locks. Every other row leaves the claims of the
validator and of the replay alone, and every turn appends at most one that moves
some.
-/

namespace Nightshift

open Checked

namespace Scheduler.Replay

/-- The attempt of an item. -/
def attemptOf (replay : Replay) (id : String) : Option String :=
  (replay.items[id]?).bind (·.activeAttemptId)

/-- An item without a receipt. -/
def Unreceipted (replay : Replay) (id : String) : Prop :=
  ∃ item, replay.items[id]? = some item ∧ item.schedulerState.isExplicitTerminal = false

end Scheduler.Replay

theorem active_iff {replay : Scheduler.Replay} {id attempt : String} :
    (∃ item, Active replay id attempt item) ↔
      replay.attemptOf id = some attempt ∧ replay.Unreceipted id := by
  constructor
  · rintro ⟨item, hitem, hactive, hopen⟩
    exact ⟨by rw [Scheduler.Replay.attemptOf, hitem]; exact hactive, item, hitem, hopen⟩
  · rintro ⟨hattempt, item, hitem, hopen⟩
    refine ⟨item, hitem, ?_, hopen⟩
    rw [Scheduler.Replay.attemptOf, hitem] at hattempt
    exact hattempt

namespace Turn

variable {w : Platform} {runId : String} {c : Contracts} {scan : Scan}
  {replay : Scheduler.Replay} {tx tx' : Tx} {rows : List EventRow} {events : List ReplayEvent}

/-- Items are neither added nor dropped. -/
theorem item_isSome (_ : Turn w runId c scan replay tx tx' rows events) (id : String) :
    ((replay.run events).items[id]?).isSome = (replay.items[id]?).isSome :=
  replay.run_items_isSome events id

/-- Without a creation every item keeps its attempt. -/
theorem attemptOf_uncreated (h : Turn w runId c scan replay tx tx' rows events)
    (hkinds : ∀ event ∈ events, ∀ locks, event.kind ≠ .attemptCreated locks) (id : String) :
    (replay.run events).attemptOf id = replay.attemptOf id := by
  cases hitem : replay.items[id]? with
  | none =>
    have hnone := h.item_isSome id
    rw [hitem, Option.isSome_none, Option.isSome_eq_false_iff, Option.isNone_iff_eq_none] at hnone
    rw [Scheduler.Replay.attemptOf, Scheduler.Replay.attemptOf, hnone, hitem]
  | some item =>
    rcases h.subject with hnone | ⟨named, -, -, -, hnames⟩
    · rw [Scheduler.Replay.attemptOf, (Scheduler.Replay.run_unnamed (h.event_workItemId hnone)).1,
        Scheduler.Replay.attemptOf]
    · by_cases heq : id = named
      · rw [Scheduler.Replay.attemptOf, Scheduler.Replay.attemptOf,
          replay.run_items_self hitem (heq ▸ h.event_workItemId hnames), hitem]
        exact LiveWorkItemV1.foldl_apply_keeps_attempt hkinds
      · rw [Scheduler.Replay.attemptOf,
          replay.run_items_other heq (h.event_workItemId hnames), Scheduler.Replay.attemptOf]

end Turn

/-- A preparation gives its item the attempt and every other item keeps its own. -/
theorem Prepared.attemptOf {w : Platform} {runId : String} {c : Contracts} {scan : Scan}
    {replay : Scheduler.Replay} {tx tx' : Tx} {workItemId attemptId : String}
    {recordedAt : Instant} {preparation : Option DispatchPreparation}
    {opened : Option OpenedDispatch} {events : List InternalEvent}
    (h : Prepared w runId c scan replay tx tx' workItemId attemptId recordedAt preparation opened
      events) (id : String) :
    (replay.run (replayEventsOf w tx.sequence events)).attemptOf id =
      if id = workItemId then some attemptId else replay.attemptOf id := by
  by_cases heq : id = workItemId
  · obtain ⟨item, hitem, hactive⟩ := h.attempted
    rw [if_pos heq, heq, Scheduler.Replay.attemptOf, hitem]
    exact hactive
  · have hnamed : ∀ event ∈ replayEventsOf w tx.sequence events,
        event.workItemId = some workItemId := by
      intro event hevent
      obtain ⟨e, he, m, rfl⟩ := mem_replayEventsOf hevent
      exact (h.kinds e he).2.1
    rw [if_neg heq, Scheduler.Replay.attemptOf, replay.run_items_other heq hnamed,
      Scheduler.Replay.attemptOf]

/-- The items without a receipt are those the receipt table lacks. -/
theorem Settled.unreceipted_iff {t : RunTables} {replay : Scheduler.Replay} (h : Settled t replay)
    (id : String) : replay.Unreceipted id ↔
      (replay.items[id]?).isSome = true ∧ t.terminalReceipts[id]? = none := by
  constructor
  · rintro ⟨item, hitem, hopen⟩
    refine ⟨by rw [hitem]; rfl, ?_⟩
    rcases h.items id item hitem with ⟨hnone, -⟩ | ⟨row, -, hby⟩
    · exact hnone
    · rw [hby.terminal] at hopen
      cases hopen
  · rintro ⟨hsome, hnone⟩
    obtain ⟨item, hitem⟩ := Option.isSome_iff_exists.mp hsome
    refine ⟨item, hitem, ?_⟩
    rcases h.items id item hitem with ⟨-, hunsettled⟩ | ⟨row, hrow, -⟩
    · exact hunsettled.unreceipted
    · rw [hnone] at hrow
      cases hrow

/-- An item whose receipt row a turn leaves alone stays on its side. -/
theorem Turn.unreceipted_iff {w : Platform} {runId : String} {c : Contracts} {scan : Scan}
    {replay : Scheduler.Replay} {tx tx' : Tx} {rows : List EventRow} {events : List ReplayEvent}
    (h : Turn w runId c scan replay tx tx' rows events) (hs : Settled tx.tables replay) {id : String}
    (hsame : tx'.tables.terminalReceipts[id]? = tx.tables.terminalReceipts[id]?) :
    (replay.run events).Unreceipted id ↔ replay.Unreceipted id := by
  rw [(h.settled hs).unreceipted_iff, hs.unreceipted_iff, hsame, h.item_isSome]

/-! ## The journal events that move locks -/

def InternalPayload.movesLocks : InternalPayload → Bool
  | .attemptCreated .. | .resourcesReleased | .providerResourcesReleased ..
  | .providerResourcesReacquired .. => true
  | _ => false

def ReplayKind.movesLocks : ReplayKind → Bool
  | .attemptCreated .. | .resourcesReleased | .providerResourcesReleased
  | .providerResourcesReacquired .. => true
  | _ => false

@[simp] theorem InternalPayload.replayKind_movesLocks (payload : InternalPayload) :
    payload.replayKind.movesLocks = payload.movesLocks := by
  cases payload <;> rfl

/-- A row that moves no lock. -/
def EventRow.Still (row : EventRow) : Prop :=
  ∀ payload, row.payload? = some payload → payload.movesLocks = false

theorem EventRow.still_row {w : Platform} {e : InternalEvent} {n : Nat}
    (h : e.payload.movesLocks = false) : (e.row w n).Still := by
  intro payload hpayload
  rw [InternalEvent.row_payload?] at hpayload
  exact Option.some.inj hpayload ▸ h

theorem still_rowsOf {w : Platform} {n : Nat} {events : List InternalEvent}
    (h : ∀ e ∈ events, e.payload.movesLocks = false) : ∀ row ∈ rowsOf w n events, row.Still := by
  intro row hrow
  obtain ⟨e, he, m, -, rfl⟩ := mem_rowsOf hrow
  exact EventRow.still_row (h e he)

theorem Spells.payload? {c : Contracts} {row : EventRow} {event : InternalEvent}
    (h : Spells c row event) : row.payload? = some event.payload := by
  have hkind : row.kind ≠ .adapterEvent := by
    rw [h.kind]
    exact event.payload.rowKind_ne_adapterEvent
  exact EventRow.payload_of_internalEvent hkind h.read

/-- Two scans with the same claims and the same released attempts. -/
structure Scan.SameLocks (scan scan' : Scan) : Prop where
  claims : scan'.expectedClaims = scan.expectedClaims
  released : scan'.released = scan.released

namespace Scan

variable {w : Platform} {t : RunTables} {c : Contracts} {scan scan₁ scan' : Scan} {row : EventRow}

theorem SameLocks.refl (scan : Scan) : SameLocks scan scan := ⟨rfl, rfl⟩

theorem SameLocks.trans (h : SameLocks scan scan₁) (h' : SameLocks scan₁ scan') :
    SameLocks scan scan' :=
  ⟨h'.claims.trans h.claims, h'.released.trans h.released⟩

theorem SameLocks.of_history {history : History} (hhistory : scan.history = some history)
    (hclaims : scan'.expectedClaims = scan.expectedClaims)
    (hafter : (scan'.history.map (·.resourceTransitions)) = some history.resourceTransitions) :
    SameLocks scan scan' :=
  ⟨hclaims, by unfold Scan.released; rw [hafter, hhistory]; rfl⟩

theorem Move.sameLocks (h : Move w t c scan scan' row) (hstill : row.Still) :
    SameLocks scan scan' := by
  have hpayload : ∀ {event : InternalEvent}, Spells c row event →
      event.payload.movesLocks = true → False := fun hspells hmoves => by
    rw [hstill _ hspells.payload?] at hmoves
    cases hmoves
  cases h with
  | adapter _ h | ignored _ _ _ h =>
    subst h
    exact SameLocks.refl _
  | admitted _ _ _ _ h =>
    subst h
    exact ⟨rfl, rfl⟩
  | configured _ _ _ _ hnone h =>
    subst h
    exact ⟨rfl, by unfold Scan.released; rw [hnone]; rfl⟩
  | created _ hspells _ _ hcreated => exact (hpayload hspells (by rw [hcreated]; rfl)).elim
  | parkReleased _ hspells _ _ _ _ hparked => exact (hpayload hspells (by rw [hparked]; rfl)).elim
  | parkReacquired _ hspells _ _ _ _ _ hparked =>
    exact (hpayload hspells (by rw [hparked]; rfl)).elim
  | released _ hspells hreleased => exact (hpayload hspells (by rw [hreleased]; rfl)).elim
  | prelaunched _ _ _ _ _ _ h =>
    rw [h.after]
    exact ⟨rfl, rfl⟩
  | dispatched _ _ _ _ _ _ _ _ h | dispositioned _ _ _ _ _ _ _ _ _ _ _ _ _ h
  | woken _ _ _ _ _ _ _ _ _ h | resumed _ _ _ _ _ _ _ _ _ _ h =>
    rw [h.after]
    exact .of_history h.required rfl rfl

theorem foldlM_sameLocks {rows : List EventRow} (h : rows.foldlM (step w t c) scan = .ok scan')
    (hstill : ∀ row ∈ rows, row.Still) : SameLocks scan scan' := by
  induction rows generalizing scan with
  | nil =>
    obtain rfl : scan = scan' := Except.ok.inj h
    exact SameLocks.refl scan
  | cons row rows ih =>
    rw [List.forall_mem_cons] at hstill
    obtain ⟨next, hnext, hrest⟩ := foldlM_cons_eq_ok.mp h
    exact ((step_moves hnext).sameLocks hstill.1).trans (ih hrest hstill.2)

/-- One row that may move locks, among rows that move none. -/
theorem foldlM_around (first rest : List InternalEvent) {e : InternalEvent} {n : Nat}
    (h : (rowsOf w n (first ++ e :: rest)).foldlM (step w t c) scan = .ok scan')
    (hothers : ∀ e ∈ first ++ rest, e.payload.movesLocks = false) :
    ∃ scan₁ scan₂ row, SameLocks scan scan₁ ∧ scan₁.onPayload w t c row e = .ok scan₂ ∧
      SameLocks scan₂ scan' := by
  rw [rowsOf_append, rowsOf_cons, List.foldlM_append, bind_eq_ok] at h
  obtain ⟨scan₁, hfirst, h⟩ := h
  obtain ⟨scan₂, hrow, hrest⟩ := foldlM_cons_eq_ok.mp h
  refine ⟨scan₁, scan₂, _, foldlM_sameLocks hfirst (still_rowsOf fun e he =>
    hothers e (List.mem_append_left _ he)), (step_row.mp hrow).2, foldlM_sameLocks hrest
    (still_rowsOf fun e he => hothers e (List.mem_append_right _ he))⟩

end Scan

namespace Scheduler.Replay

variable {r : Replay}

theorem claimsAfter_still {claims : BTreeMap String ResourceClaimV1} {id : String}
    {event : ReplayEvent} (h : event.kind.movesLocks = false) :
    claimsAfter claims id event = claims := by
  unfold claimsAfter
  cases hkind : event.kind <;> rw [hkind] at h <;> first | rfl | cases h

theorem step_claims_still {event : ReplayEvent} (h : event.kind.movesLocks = false) :
    (r.step event).claims = r.claims := by
  unfold step
  split
  · rfl
  · split
    · rfl
    · exact claimsAfter_still h

theorem run_claims_still {events : List ReplayEvent}
    (h : ∀ event ∈ events, event.kind.movesLocks = false) : (r.run events).claims = r.claims := by
  induction events generalizing r with
  | nil => rfl
  | cons event events ih =>
    rw [List.forall_mem_cons] at h
    rw [run_cons, ih h.2, step_claims_still h.1]

/-- One event that may move locks, among events that move none. -/
theorem run_claims_around (w : Platform) (n : Nat) (first rest : List InternalEvent)
    {e : InternalEvent} {id : String} {item : LiveWorkItemV1} (hitem : r.items[id]? = some item)
    (hothers : ∀ e ∈ first ++ rest, e.payload.movesLocks = false)
    (hid : e.workItemId = some id) :
    ∃ m, (r.run (replayEventsOf w n (first ++ e :: rest))).claims =
      claimsAfter r.claims id (e.replayEvent w m) := by
  have hstill : ∀ {events : List InternalEvent} {m : Nat},
      (∀ e ∈ events, e.payload.movesLocks = false) →
        ∀ event ∈ replayEventsOf w m events, event.kind.movesLocks = false := by
    intro events m hevents event hevent
    obtain ⟨e, he, k, rfl⟩ := mem_replayEventsOf hevent
    simpa [InternalEvent.replayEvent] using hevents e he
  have hsome : ((r.run (replayEventsOf w n first)).items[id]?).isSome = true := by
    rw [run_items_isSome, hitem]
    rfl
  obtain ⟨item', hitem'⟩ := Option.isSome_iff_exists.mp hsome
  refine ⟨n + first.length + 1, ?_⟩
  rw [replayEventsOf_append, run_append, replayEventsOf, run_cons, run_claims_still (hstill fun e he =>
    hothers e (List.mem_append_right _ he)), step_claims _ (by exact hid) hitem',
    run_claims_still (hstill fun e he => hothers e (List.mem_append_left _ he))]

end Scheduler.Replay

end Nightshift
