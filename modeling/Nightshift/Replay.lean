import Nightshift.Scheduler

/-!
# Facts of the replay

A replay never changes what the packet and the profile say of an item, an event
touches only the item it names, and the readiness pass moves only items that
have no attempt and no receipt.
-/

namespace Nightshift

namespace LiveWorkItemV1

variable (item : LiveWorkItemV1) (event : ReplayEvent)

/-- The members an event never changes. -/
structure SameContract (item item' : LiveWorkItemV1) : Prop where
  workItemId : item'.workItemId = item.workItemId
  dependencies : item'.dependencies = item.dependencies
  resourceLockKeys : item'.resourceLockKeys = item.resourceLockKeys

theorem SameContract.refl (item : LiveWorkItemV1) : SameContract item item := ⟨rfl, rfl, rfl⟩

theorem SameContract.trans {a b c : LiveWorkItemV1} (h₁ : SameContract a b)
    (h₂ : SameContract b c) : SameContract a c :=
  ⟨h₂.workItemId.trans h₁.workItemId, h₂.dependencies.trans h₁.dependencies,
    h₂.resourceLockKeys.trans h₁.resourceLockKeys⟩

theorem apply_sameContract : SameContract item (item.apply event) := by
  unfold apply
  cases event.kind <;> try exact ⟨rfl, rfl, rfl⟩
  case providerDispositionRecorded state identity =>
    cases identity <;> exact ⟨rfl, rfl, rfl⟩

/-- An event keeps the attempt of an item or makes its own attempt active. -/
theorem apply_activeAttemptId : (item.apply event).activeAttemptId = item.activeAttemptId ∨
    (item.apply event).activeAttemptId = event.attemptId := by
  unfold apply
  cases event.kind <;> try exact .inl rfl
  case attemptCreated => exact .inr rfl
  case providerDispositionRecorded state identity => cases identity <;> exact .inl rfl

theorem foldl_apply_sameContract (events : List ReplayEvent) :
    SameContract item (events.foldl apply item) := by
  induction events generalizing item with
  | nil => exact SameContract.refl item
  | cons event events ih => exact (apply_sameContract item event).trans (ih _)

/-- The state the readiness pass leaves. -/
def readiness (terminal held : BTreeSet String) (item : LiveWorkItemV1) : SchedulerStateV1 :=
  if item.activeAttemptId.isNone && !item.schedulerState.isExplicitTerminal &&
      !(item.schedulerState == .terminalReceiptRefused ||
        item.schedulerState == .indeterminateMechanismState) then
    if item.dependencies.all terminal.contains then
      if item.resourceLockKeys.any held.contains then .waitingResource else .readyEntryEvaluation
    else .waitingDependencies
  else item.schedulerState

theorem evaluateReadiness_eq (terminal held : BTreeSet String) :
    item.evaluateReadiness terminal held =
      { item with
        dependencyTerminality := item.dependencies.foldl
          (fun map dependency => map.insert dependency (terminal.contains dependency)) ∅
        schedulerState := item.readiness terminal held } := by
  simp only [evaluateReadiness, readiness]
  split
  · split
    · split <;> rfl
    · rfl
  · rfl

theorem evaluateReadiness_sameContract (terminal held : BTreeSet String) :
    SameContract item (item.evaluateReadiness terminal held) := by
  rw [evaluateReadiness_eq]
  exact ⟨rfl, rfl, rfl⟩

@[simp] theorem evaluateReadiness_workItemId (terminal held : BTreeSet String) :
    (item.evaluateReadiness terminal held).workItemId = item.workItemId := by
  rw [evaluateReadiness_eq]

@[simp] theorem evaluateReadiness_dependencies (terminal held : BTreeSet String) :
    (item.evaluateReadiness terminal held).dependencies = item.dependencies := by
  rw [evaluateReadiness_eq]

@[simp] theorem evaluateReadiness_resourceLockKeys (terminal held : BTreeSet String) :
    (item.evaluateReadiness terminal held).resourceLockKeys = item.resourceLockKeys := by
  rw [evaluateReadiness_eq]

@[simp] theorem evaluateReadiness_activeAttemptId (terminal held : BTreeSet String) :
    (item.evaluateReadiness terminal held).activeAttemptId = item.activeAttemptId := by
  rw [evaluateReadiness_eq]

@[simp] theorem evaluateReadiness_acceptedTerminalOutcome (terminal held : BTreeSet String) :
    (item.evaluateReadiness terminal held).acceptedTerminalOutcome =
      item.acceptedTerminalOutcome := by
  rw [evaluateReadiness_eq]

@[simp] theorem evaluateReadiness_schedulerState (terminal held : BTreeSet String) :
    (item.evaluateReadiness terminal held).schedulerState = item.readiness terminal held := by
  rw [evaluateReadiness_eq]

/-- The readiness pass neither gives nor takes a receipt. -/
@[simp] theorem readiness_isExplicitTerminal (terminal held : BTreeSet String) :
    (item.readiness terminal held).isExplicitTerminal =
      item.schedulerState.isExplicitTerminal := by
  unfold readiness
  split
  case isTrue h =>
    have hstate : item.schedulerState.isExplicitTerminal = false := by
      simp only [Bool.and_eq_true, Bool.not_eq_true'] at h
      exact h.1.2
    rw [hstate]
    split
    · split <;> rfl
    · rfl
  case isFalse => rfl

variable {item}

/-- An item with an attempt keeps its state in the readiness pass. -/
theorem readiness_of_active {terminal held : BTreeSet String} {attempt : String}
    (h : item.activeAttemptId = some attempt) :
    item.readiness terminal held = item.schedulerState := by
  simp [readiness, h]

/-- So does an item with a receipt. -/
theorem readiness_of_terminal {terminal held : BTreeSet String}
    (h : item.schedulerState.isExplicitTerminal = true) :
    item.readiness terminal held = item.schedulerState := by
  simp [readiness, h]

/-- The two states only the readiness pass gives. -/
def ofReadiness (state : SchedulerStateV1) : Bool :=
  state == .readyEntryEvaluation || state == .waitingResource

theorem apply_ofReadiness (h : ofReadiness item.schedulerState = false) (event : ReplayEvent) :
    ofReadiness (item.apply event).schedulerState = false := by
  unfold apply
  cases event.kind <;> try exact h
  all_goals try rfl
  case adapter adapterEvent =>
    simp only [applyAdapterEvent, stateAfterAdapter]
    cases adapterEvent.kind <;> first | exact h | rfl
  case providerDispositionRecorded state identity =>
    cases state <;> rfl

/-- An item the readiness pass finds eligible has neither attempt nor receipt,
and every dependency of it is terminal. -/
theorem eligible_of_readiness {terminal held : BTreeSet String}
    (hraw : ofReadiness item.schedulerState = false)
    (h : ofReadiness (item.readiness terminal held) = true) :
    item.activeAttemptId = none ∧ item.schedulerState.isExplicitTerminal = false ∧
      ∀ dependency ∈ item.dependencies, dependency ∈ terminal := by
  unfold readiness at h
  split at h
  case isTrue hidle =>
    simp only [Bool.and_eq_true, Bool.not_eq_true', Option.isNone_iff_eq_none] at hidle
    refine ⟨hidle.1.1, hidle.1.2, ?_⟩
    split at h
    · rename_i hall
      simpa [List.all_eq_true] using hall
    · exact absurd h (by decide)
  case isFalse =>
    rw [hraw] at h
    exact absurd h (by decide)

end LiveWorkItemV1

namespace Scheduler

namespace Replay

variable (r : Replay)

theorem run_append (events more : List ReplayEvent) :
    r.run (events ++ more) = (r.run events).run more := by
  simp [run, List.foldl_append]

@[simp] theorem run_nil : r.run [] = r := rfl

@[simp] theorem run_cons (event : ReplayEvent) (events : List ReplayEvent) :
    r.run (event :: events) = (r.step event).run events := rfl

/-- The item an event names is stepped and every other item is kept. -/
theorem step_items (event : ReplayEvent) (id : String) :
    (r.step event).items[id]? =
      if event.workItemId = some id then (r.items[id]?).map (·.apply event) else r.items[id]? := by
  unfold step
  split
  case h_1 hnone => simp [hnone]
  case h_2 named hnamed =>
    rw [hnamed]
    split
    case h_1 habsent =>
      by_cases h : named = id
      · subst h; simp [habsent]
      · simp [h]
    case h_2 item hitem =>
      rw [BTreeMap.getElem?_insert_eq]
      by_cases h : named = id
      · subst h; simp [hitem]
      · simp [h]

/-- A property of items that every event keeps holds throughout a replay. -/
theorem run_items_invariant {P : String → LiveWorkItemV1 → Prop}
    (hstep : ∀ id item event, P id item → P id (item.apply event)) (events : List ReplayEvent)
    (h : ∀ (id : String) item, r.items[id]? = some item → P id item) :
    ∀ (id : String) item, (r.run events).items[id]? = some item → P id item := by
  induction events generalizing r with
  | nil => exact h
  | cons event events ih =>
    refine ih (r.step event) fun id item hitem => ?_
    rw [step_items] at hitem
    split at hitem
    · obtain ⟨old, hold, rfl⟩ := Option.map_eq_some_iff.mp hitem
      exact hstep id old event (h id old hold)
    · exact h id item hitem

/-- A replay never adds or drops an item. -/
theorem run_items_isSome (events : List ReplayEvent) (id : String) :
    ((r.run events).items[id]?).isSome = (r.items[id]?).isSome := by
  induction events generalizing r with
  | nil => rfl
  | cons event events ih =>
    rw [run_cons, ih, step_items]
    split <;> simp

/-- Events of one item leave every other item alone. -/
theorem run_items_other {events : List ReplayEvent} {id other : String} (hne : other ≠ id)
    (h : ∀ event ∈ events, event.workItemId = some id) :
    (r.run events).items[other]? = r.items[other]? := by
  induction events generalizing r with
  | nil => rfl
  | cons event events ih =>
    rw [run_cons, ih _ fun e he => h e (List.mem_cons_of_mem _ he), step_items,
      h event List.mem_cons_self, if_neg]
    simpa using hne.symm

/-- Events of one item are applied to it in order. -/
theorem run_items_self {events : List ReplayEvent} {id : String} {item : LiveWorkItemV1}
    (hitem : r.items[id]? = some item) (h : ∀ event ∈ events, event.workItemId = some id) :
    (r.run events).items[id]? = some (events.foldl LiveWorkItemV1.apply item) := by
  induction events generalizing r item with
  | nil => exact hitem
  | cons event events ih =>
    rw [run_cons, List.foldl_cons]
    refine ih _ ?_ fun e he => h e (List.mem_cons_of_mem _ he)
    rw [step_items, h event List.mem_cons_self, if_pos rfl, hitem]
    rfl

/-- An attempt becomes active by the event that creates it. -/
theorem run_active {events : List ReplayEvent} {id attempt : String} {item : LiveWorkItemV1}
    (hitem : (r.run events).items[id]? = some item) (hactive : item.activeAttemptId = some attempt) :
    (∃ old, r.items[id]? = some old ∧ old.activeAttemptId = some attempt) ∨
      ∃ event ∈ events, event.workItemId = some id ∧ event.attemptId = some attempt := by
  induction events generalizing r with
  | nil => exact .inl ⟨item, hitem, hactive⟩
  | cons event events ih =>
    rcases ih (r.step event) hitem with ⟨old, hold, hactive⟩ | ⟨e, he, hnames⟩
    · rw [step_items] at hold
      split at hold
      case isFalse => exact .inl ⟨old, hold, hactive⟩
      case isTrue hid =>
        obtain ⟨before, hbefore, rfl⟩ := Option.map_eq_some_iff.mp hold
        rcases before.apply_activeAttemptId event with heq | heq
        · exact .inl ⟨before, hbefore, heq ▸ hactive⟩
        · exact .inr ⟨event, List.mem_cons_self, hid, heq ▸ hactive⟩
    · exact .inr ⟨e, List.mem_cons_of_mem _ he, hnames⟩

/-- The claim map after an event of a known item. -/
theorem step_claims {event : ReplayEvent} {id : String} {item : LiveWorkItemV1}
    (hid : event.workItemId = some id) (hitem : r.items[id]? = some item) :
    (r.step event).claims = claimsAfter r.claims id event := by
  simp [step, hid, hitem]

end Replay

theorem initialItem_eq_some {profile : ExecutionProfileV2} {work : WorkItemV1}
    {item : LiveWorkItemV1} (h : initialItem profile work = some item) :
    item.workItemId = work.id ∧ item.dependencies = work.dependencies ∧
      (profile.workItems[work.id]?).map (·.resourceLockKeys) = some item.resourceLockKeys ∧
      item.activeAttemptId = none ∧ item.schedulerState = .waitingDependencies ∧
      item.acceptedTerminalOutcome = none := by
  simp only [initialItem, Option.bind_eq_bind, Option.bind_eq_some_iff] at h
  obtain ⟨execution, hexecution, adapter, -, hitem⟩ := h
  obtain rfl := Option.some.inj hitem
  simp [hexecution]

/-- Before any event every packet item stands under its own id. -/
theorem initialItems_spec {profile : ExecutionProfileV2} {works : List WorkItemV1}
    {items : BTreeMap String LiveWorkItemV1} (h : initialItems profile works = some items) :
    (∀ (id : String) item, items[id]? = some item →
      ∃ work ∈ works, work.id = id ∧ initialItem profile work = some item) ∧
    ∀ work ∈ works, (items[work.id]?).isSome = true := by
  have hgen : ∀ (rest : List WorkItemV1) (m items : BTreeMap String LiveWorkItemV1),
      rest.foldlM (fun map work => (initialItem profile work).map (map.insert work.id)) m =
        some items →
      (∀ (id : String) item, items[id]? = some item → m[id]? = some item ∨
        ∃ work ∈ rest, work.id = id ∧ initialItem profile work = some item) ∧
      (∀ work ∈ rest, (items[work.id]?).isSome = true) ∧
      ∀ id : String, (m[id]?).isSome = true → (items[id]?).isSome = true := by
    intro rest
    induction rest with
    | nil =>
      intro m items hitems
      obtain rfl : m = items := by simpa using hitems
      exact ⟨fun _ _ h => .inl h, by simp, fun _ h => h⟩
    | cons work rest ih =>
      intro m items hitems
      simp only [List.foldlM_cons, Option.bind_eq_bind, Option.bind_eq_some_iff,
        Option.map_eq_some_iff] at hitems
      obtain ⟨_, ⟨first, hfirst, rfl⟩, hrest⟩ := hitems
      obtain ⟨hback, hforth, hmono⟩ := ih _ _ hrest
      refine ⟨fun id item hitem => ?_, fun work' hwork' => ?_, fun id hid => hmono id ?_⟩
      · rcases hback id item hitem with hin | ⟨work', hwork', he⟩
        · rw [BTreeMap.getElem?_insert_eq] at hin
          split at hin
          · rename_i hid
            exact .inr ⟨work, List.mem_cons_self, hid, by rw [hfirst, ← hin]⟩
          · exact .inl hin
        · exact .inr ⟨work', List.mem_cons_of_mem _ hwork', he⟩
      · rcases List.mem_cons.mp hwork' with rfl | hwork'
        · exact hmono _ (by simp)
        · exact hforth work' hwork'
      · rw [BTreeMap.getElem?_insert_eq]
        split
        · rfl
        · exact hid
  obtain ⟨hback, hforth, -⟩ := hgen works ∅ items h
  refine ⟨fun id item hitem => ?_, hforth⟩
  rcases hback id item hitem with hempty | hwork
  · simp at hempty
  · exact hwork

end Scheduler

end Nightshift
