import Nightshift.AdmissionWindow
import Nightshift.Finality

/-!
# One attempt for each item

Only a preparation creates an attempt, and only for an item that has none and
whose dependencies all have receipts. The attempt of an item then stays its
attempt.
-/

namespace Nightshift

open Checked

/-- A row that creates an attempt of an item. -/
def EventRow.Starts (row : EventRow) (id attempt : String) : Prop :=
  row.workItemId = some id ∧ row.attemptId = some attempt ∧
    ∃ locks request, row.payload? = some (.attemptCreated locks request)

/-- A row that gives an item its receipt. -/
def EventRow.Settling (row : EventRow) (id : String) : Prop :=
  row.workItemId = some id ∧ ∃ payload, row.payload? = some payload ∧
    payload.replayKind.settles = true

/-- Where the marked element of two appended lists lies. -/
theorem split_append {α : Type} {xs ys before after : List α} {x : α}
    (h : xs ++ ys = before ++ x :: after) :
    (∃ rest, xs = before ++ x :: rest) ∨ ∃ rest, ys = rest ++ x :: after ∧ before = xs ++ rest := by
  rcases List.append_eq_append_iff.mp h with ⟨rest, rfl, hys⟩ | ⟨rest, rfl, hrest⟩
  · exact .inr ⟨rest, hys, rfl⟩
  · cases rest with
    | nil => exact .inr ⟨[], hrest.symm, by simp⟩
    | cons y rest =>
      obtain ⟨rfl, -⟩ := List.cons.inj hrest
      exact .inl ⟨rest, rfl⟩

/-- A replay event that is no adapter event spells the payload of its row. -/
theorem EventRow.payload_of_replayEvent {w : Platform} {row : EventRow} {event : ReplayEvent}
    (h : row.replayEvent w = .ok event) (hadapter : ∀ value, event.kind ≠ .adapter value) :
    ∃ payload, row.payload? = some payload ∧ event.kind = payload.replayKind := by
  unfold replayEvent at h
  split at h
  case isTrue =>
    simp only [bind_eq_ok, map_eq_ok, Except.ok.injEq] at h
    obtain ⟨_, ⟨value, -, rfl⟩, rfl⟩ := h
    exact absurd rfl (hadapter value)
  case isFalse hkind =>
    unfold internalEvent at h
    split at h
    case h_2 => cases h
    case h_1 e hbody =>
      refine ⟨e.payload, ?_, ?_⟩
      · simp only [payload?, hbody]
        rw [if_neg (by simpa using hkind)]
      · simp only [bind_eq_ok, map_eq_ok, Except.ok.injEq] at h
        obtain ⟨_, ⟨_, rfl, rfl⟩, rfl⟩ := h
        rfl

theorem CapacityNeutral.not_starts {w : Platform} {row : EventRow} (h : CapacityNeutral w row)
    {locks : List String} {request : WorkerStartRequestV2} :
    row.payload? ≠ some (.attemptCreated locks request) := by
  intro hpayload
  cases h with
  | adapter hkind =>
    unfold EventRow.payload? at hpayload
    split at hpayload
    · rw [if_pos hkind] at hpayload
      cases hpayload
    · cases hpayload
  | internal e n hneutral =>
    rw [InternalEvent.row_payload?] at hpayload
    rw [Option.some.inj hpayload] at hneutral
    cases hneutral

namespace LiveWorkItemV1

variable {item : LiveWorkItemV1} {event : ReplayEvent}

theorem apply_keeps_attempt (h : ∀ locks, event.kind ≠ .attemptCreated locks) :
    (item.apply event).activeAttemptId = item.activeAttemptId := by
  unfold apply
  cases hkind : event.kind <;> try rfl
  case attemptCreated locks => exact absurd hkind (h locks)
  case providerDispositionRecorded state identity => cases identity <;> rfl

theorem foldl_apply_keeps_attempt {events : List ReplayEvent}
    (h : ∀ event ∈ events, ∀ locks, event.kind ≠ .attemptCreated locks) :
    (events.foldl apply item).activeAttemptId = item.activeAttemptId := by
  induction events generalizing item with
  | nil => rfl
  | cons event events ih =>
    rw [List.forall_mem_cons] at h
    rw [List.foldl_cons, ih h.2, apply_keeps_attempt h.1]

/-- The attempt of an item after the event that creates it. -/
theorem foldl_apply_created {first rest : List ReplayEvent} {locks : List String}
    (hkind : event.kind = .attemptCreated locks)
    (hrest : ∀ event ∈ rest, ∀ locks, event.kind ≠ .attemptCreated locks) :
    ((first ++ event :: rest).foldl apply item).activeAttemptId = event.attemptId := by
  rw [List.foldl_append, List.foldl_cons, foldl_apply_keeps_attempt hrest, apply, hkind]

end LiveWorkItemV1

/-- A receipt was journaled for every terminal item. -/
theorem Scheduler.Replay.run_terminal {r : Scheduler.Replay} {events : List ReplayEvent}
    {id : String} {item : LiveWorkItemV1} (hitem : (r.run events).items[id]? = some item)
    (hterminal : item.schedulerState.isExplicitTerminal = true) :
    (∃ old, r.items[id]? = some old ∧ old.schedulerState.isExplicitTerminal = true) ∨
      ∃ event ∈ events, event.workItemId = some id ∧ event.kind.settles = true := by
  induction events generalizing r with
  | nil => exact .inl ⟨item, hitem, hterminal⟩
  | cons event events ih =>
    rcases ih hitem with ⟨old, hold, hstate⟩ | ⟨e, he, hnames⟩
    · rw [step_items] at hold
      split at hold
      case isFalse => exact .inl ⟨old, hold, hstate⟩
      case isTrue hid =>
        obtain ⟨before, hbefore, rfl⟩ := Option.map_eq_some_iff.mp hold
        cases hsettles : event.kind.settles with
        | true => exact .inr ⟨event, List.mem_cons_self, hid, hsettles⟩
        | false =>
          cases hopen : before.schedulerState.isExplicitTerminal with
          | true => exact .inl ⟨before, hbefore, hopen⟩
          | false =>
            rw [LiveWorkItemV1.apply_isExplicitTerminal hsettles hopen] at hstate
            cases hstate
    · exact .inr ⟨e, List.mem_cons_of_mem _ he, hnames⟩

/-- A terminal item was settled by a row of the journal. -/
theorem Reads.settling_row {w : Platform} {runId : String} {t : RunTables} {c : Contracts}
    {scan : Scan} {replay : Scheduler.Replay} (h : Reads w runId t c scan replay) {id : String}
    {item : LiveWorkItemV1} (hitem : replay.items[id]? = some item)
    (hterminal : item.schedulerState.isExplicitTerminal = true) :
    ∃ row ∈ t.events, row.Settling id := by
  obtain ⟨events, items, hevents, hitems, rfl⟩ := h.replayed
  rcases Scheduler.Replay.run_terminal hitem hterminal with ⟨old, hold, hstate⟩ | ⟨e, he, hid, hkind⟩
  · obtain ⟨work, -, -, hfirst⟩ := (Scheduler.initialItems_spec hitems).1 id old hold
    rw [(Scheduler.initialItem_eq_some hfirst).2.2.2.2.1] at hstate
    cases hstate
  · obtain ⟨row, hrow, hreplay⟩ := mem_of_mapM_eq_ok hevents he
    obtain ⟨payload, hpayload, hsame⟩ := EventRow.payload_of_replayEvent hreplay
      (fun value hadapter => by rw [hadapter] at hkind; cases hkind)
    exact ⟨row, hrow, (row.replayEvent_columns hreplay).1 ▸ hid, payload, hpayload, hsame ▸ hkind⟩

/-- The one row of a preparation that creates the attempt, with what lies around it. -/
theorem Prepared.created {w : Platform} {runId : String} {c : Contracts} {scan : Scan}
    {replay : Scheduler.Replay} {tx tx' : Tx} {workItemId attemptId : String}
    {recordedAt : Instant} {preparation : Option DispatchPreparation}
    {opened : Option OpenedDispatch} {events : List InternalEvent}
    (h : Prepared w runId c scan replay tx tx' workItemId attemptId recordedAt preparation opened
      events) : ∃ first created rest locks request, events = first ++ created :: rest ∧
      created.payload = .attemptCreated locks request ∧ created.attemptId = some attemptId ∧
      (∀ e ∈ first ++ rest, ∀ locks request, e.payload ≠ .attemptCreated locks request) ∧
      ∃ execution : WorkItemExecutionV1, c.profile.workItems[workItemId]? = some execution ∧
        locks = execution.resourceLockKeys := by
  obtain ⟨execution, request, capacityEvents, dispatchEvents, eventId, hexecution, -, hcapacity, -,
    -, rfl, rfl⟩ := h.execution
  refine ⟨_, _, _, _, _, rfl, rfl, rfl, fun e he locks request hpayload => ?_, execution,
    hexecution, rfl⟩
  rcases List.mem_append.mp he with he | he
  · cases hcapacity with
    | none => cases he
    | some requirement capacity eventId =>
      obtain rfl := List.mem_singleton.mp he
      cases hpayload
  · obtain ⟨dispatch, -, rfl⟩ := Option.mem_map.mp (Option.mem_toList.mp he)
    cases hpayload

/-- An event replays as a creation exactly when its payload creates an attempt. -/
theorem InternalPayload.replayKind_created {payload : InternalPayload} {locks : List String}
    (h : payload.replayKind = .attemptCreated locks) :
    ∃ request, payload = .attemptCreated locks request := by
  cases payload <;> first | cases h; done | skip
  case attemptCreated keys request =>
    obtain rfl := ReplayKind.attemptCreated.inj h
    exact ⟨request, rfl⟩

theorem replayEventsOf_append (w : Platform) (n : Nat) (events more : List InternalEvent) :
    replayEventsOf w n (events ++ more) =
      replayEventsOf w n events ++ replayEventsOf w (n + events.length) more := by
  induction events generalizing n with
  | nil => rfl
  | cons e events ih => simp [replayEventsOf, ih, Nat.add_right_comm n 1, ← Nat.add_assoc]

theorem uncreated_replayEventsOf {w : Platform} {n : Nat} {events : List InternalEvent}
    (h : ∀ e ∈ events, ∀ locks request, e.payload ≠ .attemptCreated locks request) :
    ∀ event ∈ replayEventsOf w n events, ∀ locks, event.kind ≠ .attemptCreated locks := by
  intro event hevent locks hkind
  obtain ⟨e, he, m, rfl⟩ := mem_replayEventsOf hevent
  obtain ⟨request, hpayload⟩ := InternalPayload.replayKind_created hkind
  exact h e he locks request hpayload

namespace Turn

variable {w : Platform} {runId : String} {c : Contracts} {scan : Scan}
  {replay : Scheduler.Replay} {tx tx' : Tx} {rows : List EventRow} {events : List ReplayEvent}

/-- A turn prepares an attempt or replays no creation. -/
theorem uncreated_or_prepared (h : Turn w runId c scan replay tx tx' rows events) :
    ((∀ row ∈ rows, ∀ id attempt, ¬ row.Starts id attempt) ∧
        ∀ event ∈ events, ∀ locks, event.kind ≠ .attemptCreated locks) ∨
      ∃ workItemId attemptId recordedAt preparation opened journaled,
        Prepared w runId c scan replay tx tx' workItemId attemptId recordedAt preparation opened
          journaled ∧ rows = rowsOf w tx.sequence journaled ∧
        events = replayEventsOf w tx.sequence journaled := by
  rcases h.neutral_or_prepared with hneutral | ⟨_, _, _, _, _, journaled, hprepared, rfl⟩
  · refine .inl ⟨fun row hrow id attempt hstarts => ?_, fun event hevent locks hkind => ?_⟩
    · obtain ⟨-, -, locks, request, hpayload⟩ := hstarts
      exact (hneutral row hrow).not_starts hpayload
    · obtain ⟨row, hrow, hreplay⟩ := mem_of_mapM_eq_ok h.replays hevent
      obtain ⟨payload, hpayload, hsame⟩ := EventRow.payload_of_replayEvent hreplay
        (fun value hadapter => by rw [hadapter] at hkind; cases hkind)
      obtain ⟨request, rfl⟩ := InternalPayload.replayKind_created (hsame.symm.trans hkind)
      exact (hneutral row hrow).not_starts hpayload
  · exact .inr ⟨_, _, _, _, _, journaled, hprepared, rfl,
      Except.ok.inj (h.replays.symm.trans (mapM_replayEvent_rowsOf w _ _))⟩

/-- The attempt of an item stays its attempt. -/
theorem keeps_attempt (h : Turn w runId c scan replay tx tx' rows events) {id attempt : String}
    {item : LiveWorkItemV1} (hitem : replay.items[id]? = some item)
    (hactive : item.activeAttemptId = some attempt) :
    ∃ item', (replay.run events).items[id]? = some item' ∧
      item'.activeAttemptId = some attempt := by
  rcases h.subject with hnone | ⟨named, found, hfound, -, hnames⟩
  · rw [(Scheduler.Replay.run_unnamed (h.event_workItemId hnone)).1]
    exact ⟨item, hitem, hactive⟩
  · have hevents := h.event_workItemId hnames
    by_cases heq : id = named
    · subst heq
      refine ⟨_, replay.run_items_self hitem hevents, ?_⟩
      rcases h.uncreated_or_prepared with ⟨-, hkinds⟩ | ⟨_, _, _, _, _, journaled, hprepared, rfl, rfl⟩
      · rw [LiveWorkItemV1.foldl_apply_keeps_attempt hkinds, hactive]
      · -- a prepared item had no attempt
        obtain ⟨idle, hidle, hnone, -⟩ := hprepared.item
        obtain ⟨first, created, rest, _, _, rfl, -⟩ := hprepared.created
        have hmem : created ∈ first ++ created :: rest := by simp
        obtain ⟨m, hrow⟩ := row_mem_rowsOf (w := w) (n := tx.sequence) hmem
        have hnamed := hnames _ hrow
        rw [InternalEvent.row_workItemId, (hprepared.kinds created hmem).2.1] at hnamed
        obtain rfl := Option.some.inj hnamed
        obtain rfl := Option.some.inj (hidle.symm.trans hitem)
        rw [hactive] at hnone
        cases hnone
    · exact ⟨item, by rw [replay.run_items_other heq hevents, hitem], hactive⟩

end Turn

/-- Every creation in the journal made the attempt the item still has. -/
def Attempted (t : RunTables) (replay : Scheduler.Replay) : Prop :=
  ∀ row ∈ t.events, ∀ id attempt, row.Starts id attempt →
    ∃ item, replay.items[id]? = some item ∧ item.activeAttemptId = some attempt

/-- A creation is the only one of its item so far, behind the receipts of the dependencies. -/
structure Founded (c : Contracts) (before : List EventRow) (id : String) : Prop where
  single : ∀ row ∈ before, ∀ attempt, ¬ row.Starts id attempt
  behind : ∃ work ∈ c.packet.workItems, work.id = id ∧
    ∀ dependency ∈ work.dependencies, ∃ row ∈ before, row.Settling dependency

/-- Every creation of the journal was founded when it was appended. -/
def Ordered (c : Contracts) (t : RunTables) : Prop :=
  ∀ before row after id attempt, t.events = before ++ row :: after → row.Starts id attempt →
    Founded c before id

/-- The rows of a preparation hold one creation, that of its attempt. -/
theorem Prepared.starts {w : Platform} {runId : String} {c : Contracts} {scan : Scan}
    {replay : Scheduler.Replay} {tx tx' : Tx} {workItemId attemptId : String}
    {recordedAt : Instant} {preparation : Option DispatchPreparation}
    {opened : Option OpenedDispatch} {events : List InternalEvent}
    (h : Prepared w runId c scan replay tx tx' workItemId attemptId recordedAt preparation opened
      events) {before after : List EventRow} {row : EventRow} {id attempt : String}
    (hrows : rowsOf w tx.sequence events = before ++ row :: after) (hstarts : row.Starts id attempt) :
    id = workItemId ∧ attempt = attemptId ∧ ∀ row ∈ before, ∀ id attempt, ¬ row.Starts id attempt := by
  obtain ⟨first, created, rest, locks, request, rfl, hpayload, hattempt, hothers, -⟩ := h.created
  have hquiet : ∀ row : EventRow, (∃ e ∈ first ++ rest, ∃ m, row = e.row w m) →
      ∀ id attempt, ¬ row.Starts id attempt := by
    rintro row ⟨e, he, m, rfl⟩ id attempt ⟨-, -, locks, request, hcreates⟩
    rw [InternalEvent.row_payload?] at hcreates
    exact hothers e he locks request (Option.some.inj hcreates)
  rw [rowsOf_append, rowsOf_cons] at hrows
  rcases split_append hrows with ⟨tail, hfirst⟩ | ⟨head, hhead, rfl⟩
  · have hmem : row ∈ rowsOf w tx.sequence first := by rw [hfirst]; simp
    obtain ⟨e, he, m, -, heq⟩ := mem_rowsOf hmem
    exact absurd hstarts (hquiet row ⟨e, List.mem_append_left _ he, m, heq⟩ id attempt)
  · cases head with
    | nil =>
      obtain ⟨rfl, -⟩ := List.cons.inj hhead
      have hitem := (h.kinds created (by simp)).2.1
      obtain ⟨hid, ha, -⟩ := hstarts
      rw [InternalEvent.row_workItemId, hitem] at hid
      rw [InternalEvent.row_attemptId, hattempt] at ha
      refine ⟨(Option.some.inj hid).symm, (Option.some.inj ha).symm, fun row hrow => ?_⟩
      rw [List.append_nil] at hrow
      obtain ⟨e, he, m, -, heq⟩ := mem_rowsOf hrow
      exact hquiet row ⟨e, List.mem_append_left _ he, m, heq⟩
    | cons top head =>
      obtain ⟨-, htail⟩ := List.cons.inj hhead
      have hmem : row ∈ rowsOf w (tx.sequence + first.length + 1) rest := by rw [htail]; simp
      obtain ⟨e, he, m, -, heq⟩ := mem_rowsOf hmem
      exact absurd hstarts (hquiet row ⟨e, List.mem_append_right _ he, m, heq⟩ id attempt)

/-- The prepared item has the attempt afterwards. -/
theorem Prepared.attempted {w : Platform} {runId : String} {c : Contracts} {scan : Scan}
    {replay : Scheduler.Replay} {tx tx' : Tx} {workItemId attemptId : String}
    {recordedAt : Instant} {preparation : Option DispatchPreparation}
    {opened : Option OpenedDispatch} {events : List InternalEvent}
    (h : Prepared w runId c scan replay tx tx' workItemId attemptId recordedAt preparation opened
      events) :
    ∃ item, (replay.run (replayEventsOf w tx.sequence events)).items[workItemId]? = some item ∧
      item.activeAttemptId = some attemptId := by
  obtain ⟨item, hitem, -⟩ := h.item
  have hnamed : ∀ event ∈ replayEventsOf w tx.sequence events, event.workItemId = some workItemId := by
    intro event hevent
    obtain ⟨e, he, m, rfl⟩ := mem_replayEventsOf hevent
    exact (h.kinds e he).2.1
  refine ⟨_, replay.run_items_self hitem hnamed, ?_⟩
  obtain ⟨first, created, rest, locks, request, rfl, hpayload, hattempt, hothers, -⟩ := h.created
  have hkind : ∀ n, (created.replayEvent w n).kind = .attemptCreated locks := by
    intro n
    simp [InternalEvent.replayEvent, hpayload, InternalPayload.replayKind]
  rw [replayEventsOf_append, replayEventsOf, LiveWorkItemV1.foldl_apply_created (hkind _)]
  · exact hattempt
  · exact uncreated_replayEventsOf fun e he => hothers e (List.mem_append_right _ he)

theorem Turn.attempted {w : Platform} {runId : String} {c : Contracts} {scan : Scan}
    {replay : Scheduler.Replay} {tx tx' : Tx} {rows : List EventRow} {events : List ReplayEvent}
    (h : Turn w runId c scan replay tx tx' rows events) (hs : Attempted tx.tables replay) :
    Attempted tx'.tables (replay.run events) := by
  intro row hrow id attempt hstarts
  rw [h.grows.events] at hrow
  rcases List.mem_append.mp hrow with hrow | hrow
  · obtain ⟨item, hitem, hactive⟩ := hs row hrow id attempt hstarts
    exact h.keeps_attempt hitem hactive
  · rcases h.uncreated_or_prepared with
      ⟨hrows, -⟩ | ⟨workItemId, attemptId, _, _, _, journaled, hprepared, rfl, rfl⟩
    · exact absurd hstarts (hrows row hrow id attempt)
    · obtain ⟨before, after, hsplit⟩ := List.append_of_mem hrow
      obtain ⟨rfl, rfl, -⟩ := hprepared.starts hsplit hstarts
      exact hprepared.attempted

/-- A turn creates an attempt only where that is founded. -/
theorem Turn.ordered {w : Platform} {runId : String} {c : Contracts} {scan : Scan}
    {replay : Scheduler.Replay} {tx tx' : Tx} {rows : List EventRow} {events : List ReplayEvent}
    (h : Turn w runId c scan replay tx tx' rows events) (hr : Reads w runId tx.tables c scan replay)
    (hs : Attempted tx.tables replay) (ho : Ordered c tx.tables) : Ordered c tx'.tables := by
  intro before row after id attempt hsplit hstarts
  rw [h.grows.events] at hsplit
  rcases split_append hsplit with ⟨rest, hold⟩ | ⟨rest, hrows, rfl⟩
  · exact ho before row rest id attempt hold hstarts
  · rcases h.uncreated_or_prepared with
      ⟨hquiet, -⟩ | ⟨workItemId, attemptId, _, _, _, journaled, hprepared, rfl, rfl⟩
    · exact absurd hstarts (hquiet row (by rw [hrows]; simp) id attempt)
    · obtain ⟨rfl, rfl, hfirst⟩ := hprepared.starts hrows hstarts
      obtain ⟨item, hitem, hidle, hopen, hdependencies⟩ := hprepared.item
      refine ⟨fun other hother found hfound => ?_, ?_⟩
      · rcases List.mem_append.mp hother with hother | hother
        · obtain ⟨same, hsame, hactive⟩ := hs other hother _ found hfound
          obtain rfl := Option.some.inj (hsame.symm.trans hitem)
          rw [hidle] at hactive
          cases hactive
        · exact hfirst other hother _ found hfound
      · obtain ⟨work, hwork, hid, hsame⟩ := (hr.charts hitem).work
        refine ⟨work, hwork, hid, fun dependency hdependency => ?_⟩
        obtain ⟨settled, hsettled, hterminal⟩ :=
          hr.mem_terminal.mp (hdependencies dependency (hsame.symm ▸ hdependency))
        obtain ⟨earlier, hearlier, hsettling⟩ := hr.settling_row hsettled hterminal
        exact ⟨earlier, List.mem_append_left _ hearlier, hsettling⟩

theorem Admitted.not_starts {w : Platform} {runId : String} {c : Contracts} {tx : Tx}
    (h : Admitted w runId c tx) : ∀ row ∈ tx.tables.events, ∀ id attempt, ¬ row.Starts id attempt := by
  rintro row hrow id attempt ⟨hid, -⟩
  rw [(h.unnamed row hrow).1] at hid
  cases hid

theorem Store.Traced.attempts {w : Platform} {runId : String} {t : RunTables} {c : Contracts}
    {scan : Scan} {replay : Scheduler.Replay} (h : Store.Traced w runId t c scan replay) :
    Attempted t replay ∧ Ordered c t := by
  refine h.invariant (P := fun t _ replay => Attempted t replay ∧ Ordered c t)
    (fun tx _ _ hadmitted _ _ => ⟨fun row hrow id attempt hstarts => ?_,
      fun before row after id attempt hsplit hstarts => ?_⟩)
    fun _ _ _ _ _ _ _ hstanding hturn _ _ hP =>
      ⟨hturn.attempted hP.1, hturn.ordered hstanding.reads hP.1 hP.2⟩
  · exact absurd hstarts (hadmitted.not_starts row hrow id attempt)
  · exact absurd hstarts (hadmitted.not_starts row (by rw [hsplit]; simp) id attempt)

/-- The packet of a run is well ordered. -/
theorem loadContracts_wellOrdered {w : Platform} {t : RunTables} {runId : String} {c : Contracts}
    (h : loadContracts w t runId = .ok c) : Packet.WellOrdered c.packet.workItems := by
  simp only [loadContracts, bind_eq_ok, mapErr_eq_ok, Except.ok.injEq] at h
  obtain ⟨packet, -, _, hintegrity, admission, -, _, -, profile, -, _, -, _, -, _, -, rfl⟩ := h
  exact Packet.validateIntegrity_wellOrdered hintegrity

/-- An item of the packet is attempted at most once, and only behind the receipts of all its
dependencies; the projection shows that attempt. -/
theorem Store.run_single_attempt (w : Platform) (calls : List Call) (runId : String)
    (t : RunTables) (c : Contracts) (before after : List EventRow) (row : EventRow)
    (id attempt : String) (ht : ((Store.empty : Store).run w calls).runs[runId]? = some t)
    (hc : loadContracts w t runId = .ok c) (hsplit : t.events = before ++ row :: after)
    (hstarts : row.Starts id attempt) :
    (∀ other ∈ before ++ after, ∀ attempt, ¬ other.Starts id attempt) ∧
      (∃ work ∈ c.packet.workItems, work.id = id) ∧
      (∀ work ∈ c.packet.workItems, work.id = id →
        ∀ dependency ∈ work.dependencies, ∃ row ∈ before, row.Settling dependency) ∧
      ∃ projection item, loadProjection w t runId = .ok projection ∧
        item ∈ projection.workItems ∧ item.workItemId = id ∧
        item.activeAttemptId = some attempt := by
  obtain ⟨c', scan, replay, htraced⟩ := (Store.run_traced w calls).2 runId t ht
  have hr := htraced.reads
  obtain rfl := hr.contracts_eq hc
  obtain ⟨hattempted, hordered⟩ := htraced.attempts
  have hfounded := hordered before row after id attempt hsplit hstarts
  obtain ⟨work, hwork, hid, hbehind⟩ := hfounded.behind
  refine ⟨fun other hother found hfound => ?_, ⟨work, hwork, hid⟩, fun same hsame heq => ?_, ?_⟩
  · rcases List.mem_append.mp hother with hother | hother
    · exact hfounded.single other hother found hfound
    · -- a later creation would not be founded
      obtain ⟨middle, rest, rfl⟩ := List.append_of_mem hother
      have hlater := hordered (before ++ row :: middle) other rest id found
        (by rw [hsplit]; simp) hfound
      exact hlater.single row (by simp) attempt hstarts
  · obtain rfl : same = work :=
      List.inj_on_of_nodup_map (loadContracts_wellOrdered hc).nodup hsame hwork (heq.trans hid.symm)
    exact hbehind
  · obtain ⟨raw, hraw, hactive⟩ := hattempted row (by rw [hsplit]; simp) id attempt hstarts
    have hraw' : raw.workItemId = id := (hr.charts hraw).workItemId
    exact ⟨_, _, hr.loads, hr.mem_workItems.mpr ⟨raw, hraw'.symm ▸ hraw, rfl⟩, by simpa using hraw',
      by simpa using hactive⟩

/-- A read internal row carries the payload of its event. -/
theorem EventRow.payload_of_internalEvent {row : EventRow} {event : InternalEvent}
    (hkind : row.kind ≠ .adapterEvent) (h : row.internalEvent = .ok event) :
    row.payload? = some event.payload := by
  unfold internalEvent at h
  unfold payload?
  split at h
  case h_1 e hbody =>
    obtain rfl := Except.ok.inj h
    rw [if_neg hkind]
  case h_2 => cases h

/-- Every row of a run that reads was stepped by the strict scan. -/
theorem Reads.stepped {w : Platform} {runId : String} {t : RunTables} {c : Contracts} {scan : Scan}
    {replay : Scheduler.Replay} (h : Reads w runId t c scan replay) {row : EventRow}
    (hrow : row ∈ t.events) : ∃ before after, Scan.step w t c before row = .ok after := by
  have hgen : ∀ (rows : List EventRow) (s : Scan), rows.foldlM (Scan.step w t c) s = .ok scan →
      ∀ row ∈ rows, ∃ before after, Scan.step w t c before row = .ok after := by
    intro rows
    induction rows with
    | nil => simp
    | cons first rows ih =>
      intro s hfold
      obtain ⟨next, hnext, hrest⟩ := foldlM_cons_eq_ok.mp hfold
      rw [List.forall_mem_cons]
      exact ⟨⟨s, next, hnext⟩, ih next hrest⟩
  exact hgen t.events _ h.journal row hrow

/-- A row that creates an attempt names the item and the attempt. -/
theorem Reads.starts {w : Platform} {runId : String} {t : RunTables} {c : Contracts} {scan : Scan}
    {replay : Scheduler.Replay} (h : Reads w runId t c scan replay) {row : EventRow}
    {event : InternalEvent} {locks : List String} {request : WorkerStartRequestV2}
    (hrow : row ∈ t.events) (hkind : row.kind ≠ .adapterEvent) (hread : row.internalEvent = .ok event)
    (hpayload : event.payload = .attemptCreated locks request) :
    ∃ id attempt, row.Starts id attempt := by
  obtain ⟨before, after, hstep⟩ := h.stepped hrow
  have hcreates := Scan.onPayload_of_step hstep hkind hread
  simp only [Scan.onPayload, hpayload] at hcreates
  obtain ⟨key, hcreated⟩ := Scan.onAttemptCreated_ok hcreates
  obtain ⟨same, hspells⟩ : ∃ event, Spells c row event := by
    simp only [Scan.step, bind_eq_ok] at hstep
    obtain ⟨_, hvalid, -⟩ := hstep
    exact validateReadOnlyEventRow_spells hvalid hkind
  obtain rfl := Except.ok.inj (hspells.read.symm.trans hread)
  exact ⟨key.1, key.2, hspells.workItemId ▸ hcreated.workItemId,
    hspells.attemptId ▸ hcreated.attemptId, locks, request,
    by rw [EventRow.payload_of_internalEvent hkind hread, hpayload]⟩

/-- The late attempt of the bench is the only one of its item. -/
theorem Store.run_single_attempt_bench : ∃ t before row after id attempt,
    ((Store.empty : Store).run benchPlatform Bench.lateAttempt).runs["run-1"]? = some t ∧
      t.events = before ++ row :: after ∧ row.Starts id attempt ∧
      ∀ other ∈ before ++ after, ∀ attempt, ¬ other.Starts id attempt := by
  have hrun := Store.attempts_evaluated.2
  simp only [Option.any_eq_true, List.any_eq_true, Bool.and_eq_true, bne_iff_ne,
    toOption_eq_some] at hrun
  obtain ⟨t, ht, c, hc, row, hrow, hkind, event, hread, hstrays⟩ := hrun
  obtain ⟨c', scan, replay, htraced⟩ := (Store.run_traced benchPlatform Bench.lateAttempt).2 _ t ht
  unfold Bench.strays at hstrays
  split at hstrays
  case h_1 locks request hpayload =>
    obtain ⟨id, attempt, hstarts⟩ := htraced.reads.starts hrow hkind hread hpayload
    obtain ⟨before, after, hsplit⟩ := List.append_of_mem hrow
    have hsingle := Store.run_single_attempt benchPlatform Bench.lateAttempt "run-1" t c before after
      row id attempt ht hc hsplit hstarts
    exact ⟨t, before, row, after, id, attempt, ht, hsplit, hstarts, hsingle.1⟩
  case h_2 => cases hstrays

end Nightshift
