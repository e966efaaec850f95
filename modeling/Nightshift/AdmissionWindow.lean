import Nightshift.Runs

/-!
# The admission window

The window of the operator's admission is checked when the run is admitted. An
attempt is recorded at the instant its client supplies, whenever that is.
-/

namespace Nightshift

open Checked

/-- An instant of the window of an admission. -/
def ForemanAdmissionV1.Within (a : ForemanAdmissionV1) (instant : Instant) : Prop :=
  a.admittedAt ≤ instant ∧ instant ≤ a.expiresAt

instance (a : ForemanAdmissionV1) (instant : Instant) : Decidable (a.Within instant) :=
  inferInstanceAs (Decidable (_ ∧ _))

theorem ForemanAdmissionV1.within_of_validateAt {w : Platform} {a : ForemanAdmissionV1}
    {now : Instant} (h : a.validateAt w now = .ok ()) : a.Within now := by
  simp only [validateAt, bind_eq_ok, refuseIf_eq_ok, Bool.or_eq_false_iff,
    decide_eq_false_iff_not, not_lt] at h
  obtain ⟨_, -, hnow⟩ := h
  exact hnow

theorem CapacityNeutral.payload {w : Platform} {row : EventRow} {event : InternalEvent}
    (h : CapacityNeutral w row) (hkind : row.kind ≠ .adapterEvent)
    (hread : row.internalEvent = .ok event) : event.payload.concernsCapacity = false := by
  cases h with
  | adapter h => exact absurd h hkind
  | internal e n hpayload =>
    obtain rfl : e = event := by simpa using hread
    exact hpayload

/-- The payloads that only an admission journals. -/
def InternalPayload.opensRun : InternalPayload → Bool
  | runAdmitted | capacityRequirementAdmitted .. => true
  | _ => false

theorem InternalPayload.opensRun_eq_false {payload : InternalPayload}
    (h : payload.concernsCapacity = false) : payload.opensRun = false := by
  cases payload <;> first | rfl | cases h

theorem Prepared.opensRun {w : Platform} {runId : String} {c : Contracts}
    {scan : Scan} {replay : Scheduler.Replay} {tx tx' : Tx} {workItemId attemptId : String}
    {recordedAt : Instant} {preparation : Option DispatchPreparation}
    {opened : Option OpenedDispatch} {events : List InternalEvent}
    (h : Prepared w runId c scan replay tx tx' workItemId attemptId recordedAt preparation opened
      events) : ∀ e ∈ events, e.payload.opensRun = false := by
  obtain ⟨execution, request, capacityEvents, dispatchEvents, eventId, -, -, hcapacity, -, -, rfl,
    rfl⟩ := h.execution
  intro e he
  rcases List.mem_append.mp he with he | he
  · cases hcapacity with
    | none => cases he
    | some requirement capacity eventId =>
      obtain rfl := List.mem_singleton.mp he
      rfl
  · rcases List.mem_cons.mp he with rfl | he
    · rfl
    · obtain ⟨dispatch, -, rfl⟩ := Option.mem_map.mp (Option.mem_toList.mp he)
      rfl

/-- No turn journals an admission event. -/
theorem Turn.opensRun {w : Platform} {runId : String} {c : Contracts} {scan : Scan}
    {replay : Scheduler.Replay} {tx tx' : Tx} {rows : List EventRow} {events : List ReplayEvent}
    (h : Turn w runId c scan replay tx tx' rows events) {row : EventRow} (hrow : row ∈ rows)
    (hkind : row.kind ≠ .adapterEvent) {event : InternalEvent}
    (hread : row.internalEvent = .ok event) : event.payload.opensRun = false := by
  rcases h.neutral_or_prepared with hneutral | ⟨_, _, _, _, _, journaled, hprepared, rfl⟩
  · exact InternalPayload.opensRun_eq_false ((hneutral row hrow).payload hkind hread)
  · obtain ⟨e, he, m, -, rfl⟩ := mem_rowsOf hrow
    obtain rfl : e = event := by simpa using hread
    exact hprepared.opensRun e he

/-- The journal behind a turn holds the earlier events and those of its rows. -/
theorem Turn.journaled_iff {w : Platform} {runId : String} {c : Contracts} {scan : Scan}
    {replay : Scheduler.Replay} {tx tx' : Tx} {rows : List EventRow} {events : List ReplayEvent}
    (h : Turn w runId c scan replay tx tx' rows events) {event : InternalEvent} :
    Journaled tx'.tables event ↔ Journaled tx.tables event ∨
      ∃ row ∈ rows, row.kind ≠ .adapterEvent ∧ row.internalEvent = .ok event := by
  simp only [Journaled, h.grows.events, List.mem_append, or_and_right, exists_or]

/-- Where the admission and the attempts of a journal come from. -/
structure Timed (calls : List Call) (runId : String) (t : RunTables) (c : Contracts) : Prop where
  admitted : ∀ event, Journaled t event → event.payload = .runAdmitted →
    c.admission.Within event.recordedAt
  created : ∀ event locks request, Journaled t event →
    event.payload = .attemptCreated locks request →
      ∃ call ∈ calls, call.prepares = some (runId, event.recordedAt)

/-- The run-level events of an admission are recorded within its window. -/
theorem Admitted.timed {w : Platform} {runId : String} {c : Contracts} {tx : Tx}
    (h : Admitted w runId c tx) (calls : List Call) : Timed calls runId tx.tables c := by
  obtain ⟨evaluatedAt, mechanisms, events, n, hwindow, ⟨⟨runEvent, capacityEvent,
    availabilityEvent, rfl⟩⟩, hrows⟩ := h.journal
  have hevent : ∀ event, Journaled tx.tables event → event.recordedAt = evaluatedAt ∧
      ∀ locks request, event.payload ≠ .attemptCreated locks request := by
    rintro event ⟨row, hrow, -, hread⟩
    rw [hrows] at hrow
    obtain ⟨e, he, m, -, rfl⟩ := mem_rowsOf hrow
    obtain rfl : e = event := by simpa using hread
    rcases List.mem_cons.mp he with rfl | he
    · exact ⟨rfl, nofun⟩
    · rcases List.mem_append.mp he with he | he <;>
        (obtain ⟨value, -, rfl⟩ := Option.mem_map.mp (Option.mem_toList.mp he)
         exact ⟨rfl, nofun⟩)
  refine ⟨fun event hjournaled _ => ?_, fun event locks request hjournaled hpayload => ?_⟩
  · rw [(hevent event hjournaled).1]
    exact ForemanAdmissionV1.within_of_validateAt hwindow
  · exact absurd hpayload ((hevent event hjournaled).2 locks request)

/-- A turn records an attempt only at the instant of its call. -/
theorem Store.Turned.timed {w : Platform} {s s' : Store} {call : Call} {calls : List Call}
    {runId : String} {c : Contracts} {scan : Scan} {replay : Scheduler.Replay} {tx tx' : Tx}
    {rows : List EventRow} {events : List ReplayEvent}
    (h : Store.Turned w s s' call runId c scan replay tx tx' rows events) (hcall : call ∈ calls)
    (ht : Timed calls runId tx.tables c) : Timed calls runId tx'.tables c := by
  refine ⟨fun event hjournaled hpayload => ?_, fun event locks request hjournaled hpayload => ?_⟩
  · rcases h.turn.journaled_iff.mp hjournaled with hold | ⟨row, hrow, hkind, hread⟩
    · exact ht.admitted event hold hpayload
    · have := h.turn.opensRun hrow hkind hread
      rw [hpayload] at this
      cases this
  · rcases h.turn.journaled_iff.mp hjournaled with hold | ⟨row, hrow, hkind, hread⟩
    · exact ht.created event locks request hold hpayload
    · rcases h.prepares with hneutral | ⟨recordedAt, hprepares, hrecorded⟩
      · have := (hneutral row hrow).payload hkind hread
        rw [hpayload] at this
        cases this
      · refine ⟨call, hcall, ?_⟩
        obtain ⟨scan', hnext, -⟩ := h.standing.turn h.turn
        have hvalid := Scan.foldlM_step_valid hnext.reads.journal row
          (by rw [h.turn.grows.events]; exact List.mem_append_right _ hrow)
        obtain ⟨event', hspells⟩ := validateReadOnlyEventRow_spells hvalid hkind
        obtain rfl := Except.ok.inj (hspells.read.symm.trans hread)
        rw [hprepares, hspells.recordedAt, hrecorded row hrow]

/-- Every run admission is recorded within the window, and every attempt at the
instant its client supplied. -/
theorem Store.run_timed (w : Platform) (calls : List Call) (runId : String) (t : RunTables)
    (c : Contracts) (ht : ((Store.empty : Store).run w calls).runs[runId]? = some t)
    (hc : loadContracts w t runId = .ok c) : Timed calls runId t c := by
  have hrun := (Store.run_invariant (P := fun s => ∀ (runId : String) t c,
    s.runs[runId]? = some t → loadContracts w t runId = .ok c → Timed calls runId t c) calls
    (Store.empty_sound w) (fun runId t c ht => by simp [Store.empty] at ht) ?_).2
  · exact hrun runId t c ht hc
  intro s call s' hcall hs hP hserved runId t c ht hc
  cases hserved with
  | @admitted other c₀ tx _ hadmitted _ _ _ hcommit =>
    rw [hcommit, Store.commit_runs, BTreeMap.getElem?_insert_eq] at ht
    split at ht
    case isTrue heq =>
      subst heq
      obtain rfl := Option.some.inj ht
      obtain rfl := Except.ok.inj (hc.symm.trans hadmitted.contracts)
      exact hadmitted.timed calls
    case isFalse => exact hP runId t c ht hc
  | @turned other c₀ scan replay tx tx' rows events h =>
    rw [h.commits, Store.commit_runs, BTreeMap.getElem?_insert_eq] at ht
    split at ht
    case isTrue heq =>
      subst heq
      obtain rfl := Option.some.inj ht
      obtain rfl := Except.ok.inj (hc.symm.trans (h.turn.carries.loadContracts.trans
        h.standing.reads.contracts))
      obtain ⟨told, htold, rfl⟩ := Store.begin_eq_ok.mp h.begins
      exact h.timed hcall (hP other told c htold h.standing.reads.contracts)
    case isFalse => exact hP runId t c ht hc

/-- The run admission lies in the window; an attempt is recorded at the instant
of a preparing call, and lies in the window when those calls do. -/
theorem Store.run_admission_window (w : Platform) (calls : List Call) (runId : String)
    (t : RunTables) (c : Contracts)
    (ht : ((Store.empty : Store).run w calls).runs[runId]? = some t)
    (hc : loadContracts w t runId = .ok c) :
    (∀ event, Journaled t event → event.payload = .runAdmitted →
      c.admission.Within event.recordedAt) ∧
    (∀ event locks request, Journaled t event → event.payload = .attemptCreated locks request →
      ∃ call ∈ calls, call.prepares = some (runId, event.recordedAt)) ∧
    ((∀ call ∈ calls, ∀ instant, call.prepares = some (runId, instant) →
        c.admission.Within instant) →
      ∀ event locks request, Journaled t event → event.payload = .attemptCreated locks request →
        c.admission.Within event.recordedAt) := by
  have htimed := Store.run_timed w calls runId t c ht hc
  refine ⟨htimed.admitted, htimed.created, fun hcalls event locks request hjournaled hpayload => ?_⟩
  obtain ⟨call, hcall, hprepares⟩ := htimed.created event locks request hjournaled hpayload
  exact hcalls call hcall _ hprepares

namespace Bench

/-- A run and an attempt prepared long after its admission expired. -/
def lateAttempt : List Call :=
  [.admitRun [1] [2] [3] none none none 1, .prepareAttempt "run-1" "a" none 2000000000000]

/-- The event creates an attempt outside the window of the admission. -/
def strays (c : Contracts) (event : InternalEvent) : Bool :=
  match event.payload with
  | .attemptCreated _ _ => !decide (c.admission.Within event.recordedAt)
  | _ => false

end Bench

/-- The attempt of the bench is prepared inside the window, the late one outside. -/
theorem Store.attempts_evaluated :
    (((Store.empty : Store).run benchPlatform Bench.openAttempt).runs["run-1"]?).any
      (fun t => (loadContracts benchPlatform t "run-1").toOption.any fun c =>
        decide (c.admission.Within 2)) = true ∧
      (((Store.empty : Store).run benchPlatform Bench.lateAttempt).runs["run-1"]?).any
        (fun t => (loadContracts benchPlatform t "run-1").toOption.any fun c =>
          t.events.any fun row => row.kind != .adapterEvent &&
            row.internalEvent.toOption.any (Bench.strays c)) = true := by
  decide +kernel

/-- An attempt prepared within the window. -/
theorem Store.run_admission_window_open_attempt : ∃ t c,
    ((Store.empty : Store).run benchPlatform Bench.openAttempt).runs["run-1"]? = some t ∧
      loadContracts benchPlatform t "run-1" = .ok c ∧
      ∀ event locks request, Journaled t event → event.payload = .attemptCreated locks request →
        c.admission.Within event.recordedAt := by
  have hrun := Store.attempts_evaluated.1
  simp only [Option.any_eq_true, decide_eq_true_eq, toOption_eq_some] at hrun
  obtain ⟨t, ht, c, hc, hwithin⟩ := hrun
  have hwindow := Store.run_admission_window benchPlatform Bench.openAttempt "run-1" t c ht hc
  refine ⟨t, c, ht, hc, hwindow.2.2 fun call hcall instant hprepares => ?_⟩
  simp only [Bench.openAttempt, List.mem_cons, List.not_mem_nil, or_false] at hcall
  rcases hcall with rfl | rfl
  · cases hprepares
  · obtain ⟨-, rfl⟩ := Prod.mk.inj (Option.some.inj hprepares)
    exact hwithin

/-- An attempt is prepared although the admission of its run has expired. -/
theorem Store.expired_admission_prepares : ¬ ∀ (t : RunTables) (c : Contracts)
    (event : InternalEvent) (locks : List String) (request : WorkerStartRequestV2),
    ((Store.empty : Store).run benchPlatform Bench.lateAttempt).runs["run-1"]? = some t →
      loadContracts benchPlatform t "run-1" = .ok c → Journaled t event →
        event.payload = .attemptCreated locks request → c.admission.Within event.recordedAt := by
  intro hclaim
  have hrun := Store.attempts_evaluated.2
  simp only [Option.any_eq_true, List.any_eq_true, Bool.and_eq_true, bne_iff_ne,
    toOption_eq_some] at hrun
  obtain ⟨t, ht, c, hc, row, hrow, hkind, event, hevent, hstrays⟩ := hrun
  unfold Bench.strays at hstrays
  split at hstrays
  case h_1 locks request hpayload =>
    have hwithin := hclaim t c event locks request ht hc ⟨row, hrow, hkind, hevent⟩ hpayload
    simp [hwithin] at hstrays
  case h_2 => cases hstrays

end Nightshift
