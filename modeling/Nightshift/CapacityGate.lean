import Nightshift.AdmissionWindow

/-!
# The capacity gate

In a run admitted with a capacity requirement every attempt stands right behind
the one capacity admission it rests on. A run admitted without one holds no
capacity evidence at all.
-/

namespace Nightshift

open Checked

/-- An internal event at one place of the journal. -/
structure JournaledAt (t : RunTables) (index : Nat) (row : EventRow) (event : InternalEvent) :
    Prop where
  place : t.events[index]? = some row
  kind : row.kind ≠ .adapterEvent
  read : row.internalEvent = .ok event

theorem JournaledAt.journaled {t : RunTables} {index : Nat} {row : EventRow}
    {event : InternalEvent} (h : JournaledAt t index row event) : Journaled t event :=
  ⟨row, List.mem_of_getElem? h.place, h.kind, h.read⟩

theorem Journaled.exists_at {t : RunTables} {event : InternalEvent} (h : Journaled t event) :
    ∃ index row, JournaledAt t index row event := by
  obtain ⟨row, hrow, hkind, hread⟩ := h
  obtain ⟨index, hplace⟩ := List.getElem?_of_mem hrow
  exact ⟨index, row, hplace, hkind, hread⟩

/-- What admits a work item at an instant: a current observation, the decision it
and the policy determine there, and a cost class that decision admits. -/
structure CapacityBundle.Admits (w : Platform) (bundle : CapacityBundle)
    (packet : NightshiftPacketV1) (requirement : ForemanCapacityRequirementV1)
    (workItemId : String) (instant : Instant) : Prop where
  valid : bundle.Valid w
  current : bundle.observation.observedAt ≤ instant ∧ instant < bundle.observation.expiresAt
  decided : decideCapacity w bundle.observation bundle.policy instant = .ok bundle.decision
  newWork : bundle.decision.admission ≠ .noNewWork
  cost : ∃ work cost, packet.workItems.find? (fun work => work.id == workItemId) = some work ∧
    requirement.modelCostClasses[work.modelRouting.class_]? = some cost ∧
    (cost = .expensive → bundle.decision.allowNewExpensiveWork = true) ∧
    (bundle.decision.admission = .cheapBoundedOnly → cost = .cheap)

theorem admitsCost_eq_ok {decision : CapacityDecisionV1} {cost : CapacityCostClassV1}
    (h : admitsCost decision cost = .ok ()) : decision.admission ≠ .noNewWork ∧
      (cost = .expensive → decision.allowNewExpensiveWork = true) ∧
      (decision.admission = .cheapBoundedOnly → cost = .cheap) := by
  unfold admitsCost at h
  split at h
  case h_1 => cases h
  case h_2 hadmission =>
    obtain rfl : cost = .cheap := by simpa using h
    exact ⟨by simp [hadmission], nofun, fun _ => rfl⟩
  case h_3 hadmission =>
    refine ⟨by simp [hadmission], fun hcost => ?_, by simp [hadmission]⟩
    subst hcost
    simpa using h

/-- The bindings of a valid bundle admit its work item. -/
theorem CapacityBundle.admits {w : Platform} {bundle : CapacityBundle} {c : Contracts}
    {requirement : ForemanCapacityRequirementV1} {workItemId : String} {recordedAt : Instant}
    (hvalid : bundle.Valid w)
    (h : validateCapacityBindings bundle c.packet c.admission c.profile requirement workItemId
      recordedAt = .ok ()) : bundle.Admits w c.packet requirement workItemId recordedAt := by
  simp only [validateCapacityBindings, bind_eq_ok, okOr_eq_ok, refuseIf_eq_ok,
    Bool.or_eq_false_iff, bne_eq_false_iff_eq, decide_eq_false_iff_not, not_lt, not_le] at h
  obtain ⟨work, hwork, execution, -, _, ⟨-, hclass⟩, _, ⟨⟨-, hmodel⟩, -⟩, _, -, _, -, _,
    ⟨⟨⟨-, hdecision⟩, hobserved⟩, hexpires⟩, hcost⟩ := h
  obtain ⟨hnew, hexpensive, hcheap⟩ := admitsCost_eq_ok hcost
  exact ⟨hvalid, ⟨hobserved, hexpires⟩, hdecision ▸ hvalid.decided, hnew,
    work, _, hwork, hmodel ▸ hclass, hexpensive, hcheap⟩

/-- The attempt of an event stands behind the one capacity admission it rests on. -/
structure Gated (w : Platform) (c : Contracts) (requirement : ForemanCapacityRequirementV1)
    (t : RunTables) (index : Nat) (row : EventRow) (event : InternalEvent) (earlier : EventRow)
    (accepted : InternalEvent) (bundle : CapacityBundle) (workItemId : String) : Prop where
  adjacent : JournaledAt t index earlier accepted
  payload : accepted.payload = .capacityAdmissionAccepted bundle.admission bundle.admissionBytes
    bundle.observationBytes bundle.policyBytes bundle.decisionBytes
  sequence : row.sequence = earlier.sequence + 1
  recordedAt : accepted.recordedAt = event.recordedAt
  workItem : accepted.workItemId = some workItemId ∧ event.workItemId = some workItemId
  attempt : accepted.attemptId = event.attemptId
  only : ∀ other row' event', JournaledAt t other row' event' →
    event'.payload.rowKind = .capacityAdmission → event'.attemptId = event.attemptId →
      other = index
  admits : bundle.Admits w c.packet requirement workItemId event.recordedAt

namespace CapacityScan

variable {w : Platform} {c : Contracts} {scan scan' : CapacityScan} {row : EventRow}
  {rows : List EventRow} {event : InternalEvent}

/-- What the scan establishes of one capacity admission. -/
structure Accepted (w : Platform) (c : Contracts) (scan scan' : CapacityScan)
    (event : InternalEvent) (bundle : CapacityBundle) (required : RetainedCapacityRequirement)
    (workItemId attemptId : String) : Prop where
  payload : event.payload = .capacityAdmissionAccepted bundle.admission bundle.admissionBytes
    bundle.observationBytes bundle.policyBytes bundle.decisionBytes
  workItem : event.workItemId = some workItemId
  attempt : event.attemptId = some attemptId
  fresh : attemptId ∉ scan.admitted
  requires : scan.requirement = some required
  admits : bundle.Admits w c.packet required.requirement workItemId event.recordedAt
  after : scan' = { scan with admitted := scan.admitted.insert attemptId }

theorem step_accepted (hkind : row.kind ≠ .adapterEvent) (hread : row.internalEvent = .ok event)
    (hpayload : event.payload.rowKind = .capacityAdmission) (h : scan.step w c row = .ok scan') :
    ∃ bundle required workItemId attemptId,
      Accepted w c scan scan' event bundle required workItemId attemptId := by
  simp only [step, beq_eq_false_iff_ne.mpr hkind, Bool.false_eq_true, if_false, hread,
    ok_bind] at h
  cases hp : event.payload <;> rw [hp] at hpayload <;> cases hpayload
  case capacityAdmissionAccepted admission admissionBytes observationBytes policyBytes
      decisionBytes =>
    simp only [hp, bind_eq_ok, okOr_eq_ok, refuseIf_eq_ok, Bool.or_eq_false_iff,
      bne_eq_false_iff_eq, Except.ok.injEq] at h
    obtain ⟨workItemId, hitem, attemptId, hattempt, bundle, hbundle, _, ⟨rfl, hfresh⟩, required,
      hrequired, _, hbound, rfl⟩ := h
    obtain ⟨rfl, rfl, rfl, rfl⟩ := validateCapacityBundle_bytes hbundle
    refine ⟨bundle, required, workItemId, attemptId, hp, hitem, hattempt, ?_, hrequired,
      CapacityBundle.admits (validateCapacityBundle_ok hbundle) hbound, rfl⟩
    intro hmem
    rw [Std.ExtTreeSet.contains_iff_mem.mpr hmem] at hfresh
    cases hfresh

/-- A step keeps the requirement and the admitted attempts. -/
structure Keeps (scan scan' : CapacityScan) : Prop where
  requirement : ∀ required, scan.requirement = some required → scan'.requirement = some required
  admitted : ∀ attemptId ∈ scan.admitted, attemptId ∈ scan'.admitted

theorem step_keeps (h : scan.step w c row = .ok scan') : Keeps scan scan' := by
  unfold step at h
  split at h
  · obtain rfl := Except.ok.inj h
    exact ⟨fun _ h => h, fun _ h => h⟩
  obtain ⟨event, hread, h⟩ := bind_eq_ok.mp h
  split at h
  · simp only [bind_eq_ok, refuseIf_eq_ok, Bool.or_eq_false_iff, Except.ok.injEq] at h
    obtain ⟨_, ⟨⟨⟨hnone, -⟩, -⟩, -⟩, _, -, _, -, rfl⟩ := h
    refine ⟨fun required hrequired => ?_, fun _ h => h⟩
    simp [hrequired] at hnone
  · simp only [bind_eq_ok, Except.ok.injEq] at h
    obtain ⟨_, -, _, -, _, -, _, -, _, -, _, -, rfl⟩ := h
    exact ⟨fun _ h => h, fun _ h => Std.ExtTreeSet.mem_insert.mpr (.inr h)⟩
  · simp only [bind_eq_ok, Except.ok.injEq] at h
    obtain ⟨_, -, rfl⟩ := h
    exact ⟨fun _ h => h, fun _ h => h⟩
  · obtain rfl := Except.ok.inj h
    exact ⟨fun _ h => h, fun _ h => h⟩

theorem foldlM_step_keeps (h : rows.foldlM (step w c) scan = .ok scan') : Keeps scan scan' :=
  foldlM_invariant (Keeps scan) ⟨fun _ h => h, fun _ h => h⟩
    (fun _ _ _ _ hkeeps hstep =>
      ⟨fun r hr => (step_keeps hstep).requirement r (hkeeps.requirement r hr),
        fun a ha => (step_keeps hstep).admitted a (hkeeps.admitted a ha)⟩) h

end CapacityScan

/-- The placement rule holds at every place of the journal. -/
theorem checkCapacityPlacements_getElem? {required : Bool} {runPosition index : Nat}
    {previous : Option InternalEvent} {entries : List (EventRow × Option InternalEvent)}
    (h : checkCapacityPlacements required runPosition index previous entries = .ok ())
    {i : Nat} {entry : EventRow × Option InternalEvent} (hentry : entries[i]? = some entry) :
    checkCapacityPlacement required runPosition (index + i)
      (if i = 0 then previous else (entries[i - 1]?).bind (·.2)) entry entries[i + 1]? =
        .ok () := by
  induction entries generalizing index previous i with
  | nil => cases hentry
  | cons first rest ih =>
    simp only [checkCapacityPlacements, bind_eq_ok] at h
    obtain ⟨_, hfirst, hrest⟩ := h
    cases i with
    | zero =>
      obtain rfl := Option.some.inj hentry
      simpa [List.head?_eq_getElem?] using hfirst
    | succ i =>
      have hlater := ih hrest (i := i) hentry
      rw [Nat.add_assoc, Nat.add_comm 1 i] at hlater
      rw [if_neg (Nat.succ_ne_zero i), Nat.add_sub_cancel, List.getElem?_cons_succ]
      cases i with
      | zero => simpa using hlater
      | succ i => simpa using hlater

namespace CapacityReads

variable {w : Platform} {c : Contracts} {t : RunTables} {scan : CapacityScan}
  {parsed : List (Option InternalEvent)} {position index : Nat} {row : EventRow}
  {event : InternalEvent}

theorem entry (h : CapacityReads w c t.events scan parsed position)
    (hat : JournaledAt t index row event) :
    (t.events.zip parsed)[index]? = some (row, some event) := by
  obtain ⟨value, hvalue, hplace⟩ := getElem?_of_mapM_eq_ok h.parses hat.place
  have hparsed : parsedEvent row = .ok (some event) := by
    simp [parsedEvent, hat.kind, hat.read]
  obtain rfl := Except.ok.inj (hparsed.symm.trans hvalue)
  exact List.getElem?_zip_eq_some.mpr ⟨hat.place, hplace⟩

/-- An entry with an event stands in the journal. -/
theorem journaledAt (h : CapacityReads w c t.events scan parsed position)
    (hentry : (t.events.zip parsed)[index]? = some (row, some event)) :
    JournaledAt t index row event := by
  obtain ⟨hplace, hevent⟩ := List.getElem?_zip_eq_some.mp hentry
  obtain ⟨value, hvalue, hparsed⟩ := getElem?_of_mapM_eq_ok h.parses hplace
  obtain rfl := Option.some.inj (hevent.symm.trans hparsed)
  unfold parsedEvent at hvalue
  split at hvalue
  case isTrue => cases hvalue
  case isFalse hkind =>
    obtain ⟨event', hread, hsome⟩ := map_eq_ok.mp hvalue
    obtain rfl := Option.some.inj hsome
    exact ⟨hplace, by simpa using hkind, hread⟩

/-- A capacity admission of the journal, with the requirement of the whole read. -/
theorem accepted (h : CapacityReads w c t.events scan parsed position)
    (hat : JournaledAt t index row event) (hpayload : event.payload.rowKind = .capacityAdmission) :
    ∃ before after bundle required workItemId attemptId,
      CapacityScan.Accepted w c before after event bundle required workItemId attemptId ∧
      scan.requirement = some required ∧ attemptId ∈ scan.admitted ∧
      (t.events.drop (index + 1)).foldlM (CapacityScan.step w c) after = .ok scan := by
  obtain ⟨before, after, -, hstep, hrest⟩ := foldlM_getElem?_eq_ok hat.place h.scanned
  obtain ⟨bundle, required, workItemId, attemptId, haccepted⟩ :=
    CapacityScan.step_accepted hat.kind hat.read hpayload hstep
  have hkeeps := CapacityScan.foldlM_step_keeps hrest
  refine ⟨before, after, bundle, required, workItemId, attemptId, haccepted,
    hkeeps.requirement required ?_, hkeeps.admitted attemptId ?_, hrest⟩
  · rw [haccepted.after]
    exact haccepted.requires
  · rw [haccepted.after]
    exact Std.ExtTreeSet.mem_insert_self

/-- An attempt is admitted once. -/
theorem accepted_unique (h : CapacityReads w c t.events scan parsed position) {other : Nat}
    {row' : EventRow} {event' : InternalEvent} (hat : JournaledAt t index row event)
    (hat' : JournaledAt t other row' event')
    (hpayload : event.payload.rowKind = .capacityAdmission)
    (hpayload' : event'.payload.rowKind = .capacityAdmission)
    (hattempt : event'.attemptId = event.attemptId) : other = index := by
  -- of two places the later one would find the attempt admitted
  have hlater : ∀ {i j : Nat} {r r' : EventRow} {e e' : InternalEvent}, JournaledAt t i r e →
      JournaledAt t j r' e' → e.payload.rowKind = .capacityAdmission →
      e'.payload.rowKind = .capacityAdmission → e'.attemptId = e.attemptId → ¬ i < j := by
    intro i j r r' e e' hi hj hp hp' ha hlt
    obtain ⟨before, after, bundle, required, workItemId, attemptId, haccepted, -, -, hrest⟩ :=
      h.accepted hi hp
    have hplace : (t.events.drop (i + 1))[j - (i + 1)]? = some r' := by
      rw [List.getElem?_drop, show i + 1 + (j - (i + 1)) = j by omega]
      exact hj.place
    obtain ⟨before', after', hbetween, hstep, -⟩ := foldlM_getElem?_eq_ok hplace hrest
    obtain ⟨_, _, _, attemptId', haccepted'⟩ :=
      CapacityScan.step_accepted hj.kind hj.read hp' hstep
    obtain rfl : attemptId = attemptId' := by
      have := haccepted'.attempt.symm.trans (ha.trans haccepted.attempt)
      exact (Option.some.inj this).symm
    refine haccepted'.fresh ((CapacityScan.foldlM_step_keeps hbetween).admitted attemptId ?_)
    rw [haccepted.after]
    exact Std.ExtTreeSet.mem_insert_self
  rcases Nat.lt_trichotomy other index with hlt | heq | hlt
  · exact absurd hlt (hlater hat' hat hpayload' hpayload hattempt.symm)
  · exact heq
  · exact absurd hlt (hlater hat hat' hpayload hpayload' hattempt)

/-- Every attempt of a capacity-required journal stands behind its admission. -/
theorem gated (h : CapacityReads w c t.events scan parsed position)
    {required : RetainedCapacityRequirement} (hrequired : scan.requirement = some required)
    {locks : List String} {request : WorkerStartRequestV2} (hat : JournaledAt t index row event)
    (hpayload : event.payload = .attemptCreated locks request) :
    ∃ place earlier accepted bundle workItemId, index = place + 1 ∧
      Gated w c required.requirement t place row event earlier accepted bundle workItemId := by
  have hplaced := checkCapacityPlacements_getElem? h.placed (h.entry hat)
  simp only [checkCapacityPlacement, hpayload, hrequired, Option.isSome_some, Bool.true_and,
    refuseIf_eq_ok, Bool.not_eq_false', isCapacityAdmission, Option.any_eq_true,
    beq_iff_eq] at hplaced
  obtain ⟨accepted, hprevious, hkind⟩ := hplaced
  cases index with
  | zero => simp at hprevious
  | succ place =>
    rw [if_neg (Nat.succ_ne_zero place), Nat.add_sub_cancel, Option.bind_eq_some_iff] at hprevious
    obtain ⟨⟨earlier, parsedEarlier⟩, hentry, rfl⟩ := hprevious
    have hearlier : JournaledAt t place earlier accepted := h.journaledAt hentry
    obtain ⟨before, after, bundle, required', workItemId, attemptId, haccepted, hrequired', -, -⟩ :=
      h.accepted hearlier hkind
    obtain rfl := Option.some.inj (hrequired.symm.trans hrequired')
    -- the admission itself demands the attempt behind it
    have hnext := checkCapacityPlacements_getElem? h.placed hentry
    simp only [checkCapacityPlacement, haccepted.payload, h.entry hat, Option.bind_some,
      Option.map_some, bind_eq_ok, okOr_eq_ok, Option.some.injEq, exists_eq_left', hpayload,
      refuseIf_eq_ok, Bool.or_eq_false_iff, bne_eq_false_iff_eq] at hnext
    obtain ⟨⟨⟨⟨⟨⟨⟨⟨⟨⟨hsequence, -⟩, hitem⟩, hattempt⟩, hrecorded⟩, -⟩, -⟩, -⟩, -⟩, -⟩, -⟩ := hnext
    refine ⟨place, earlier, accepted, bundle, workItemId, rfl, hearlier, haccepted.payload,
      hsequence, hrecorded.symm, ⟨haccepted.workItem, hitem.trans haccepted.workItem⟩,
      hattempt.symm, ?_, hrecorded ▸ haccepted.admits⟩
    intro other row' event' hother hcapacity hsame
    exact h.accepted_unique hearlier hother hkind hcapacity (hsame.trans hattempt)

/-- A read without a requirement passes no capacity evidence. -/
theorem legacy (h : CapacityReads w c t.events scan parsed position)
    (hnone : scan.requirement = none) (hat : JournaledAt t index row event) :
    event.payload.rowKind ≠ .capacityAdmission := by
  intro hkind
  obtain ⟨_, _, _, required, _, _, -, hsome, -, -⟩ := h.accepted hat hkind
  rw [hnone] at hsome
  cases hsome

/-- The retained requirement is the one its event carries. -/
theorem requirement (h : CapacityReads w c t.events scan parsed position)
    {value : ForemanCapacityRequirementV1} {bytes : Bytes} (hat : JournaledAt t index row event)
    (hpayload : event.payload = .capacityRequirementAdmitted value bytes) :
    ∃ required, scan.requirement = some required ∧ required.requirement = value := by
  obtain ⟨before, after, -, hstep, hrest⟩ := foldlM_getElem?_eq_ok hat.place h.scanned
  simp only [CapacityScan.step, beq_eq_false_iff_ne.mpr hat.kind, Bool.false_eq_true, if_false,
    hat.read, ok_bind, hpayload, bind_eq_ok, Except.ok.injEq] at hstep
  obtain ⟨_, -, _, -, _, -, rfl⟩ := hstep
  exact ⟨_, (CapacityScan.foldlM_step_keeps hrest).requirement _ rfl, rfl⟩

/-- A requirement is retained only from an event of the journal. -/
theorem exists_requirement (h : CapacityReads w c t.events scan parsed position)
    (hsome : scan.requirement ≠ none) : ∃ event value bytes, Journaled t event ∧
      event.payload = .capacityRequirementAdmitted value bytes := by
  by_contra hno
  refine hsome (foldlM_invariant (fun scan : CapacityScan => scan.requirement = none) rfl
    (fun before row after hrow hnone hstep => ?_) h.scanned)
  unfold CapacityScan.step at hstep
  split at hstep
  case isTrue => exact Except.ok.inj hstep ▸ hnone
  case isFalse hkind =>
    obtain ⟨event, hread, hstep⟩ := bind_eq_ok.mp hstep
    split at hstep
    · rename_i value bytes hpayload
      exact absurd ⟨event, value, bytes, ⟨row, hrow, by simpa using hkind, hread⟩, hpayload⟩ hno
    · simp only [bind_eq_ok, Except.ok.injEq] at hstep
      obtain ⟨_, -, _, -, _, -, _, -, _, -, _, -, rfl⟩ := hstep
      exact hnone
    · simp only [bind_eq_ok, Except.ok.injEq] at hstep
      obtain ⟨_, -, rfl⟩ := hstep
      exact hnone
    · exact Except.ok.inj hstep ▸ hnone

end CapacityReads

/-- A turn adds no capacity requirement and drops none. -/
theorem Turn.capacityOpens {w : Platform} {runId : String} {c : Contracts} {scan : Scan}
    {replay : Scheduler.Replay} {tx tx' : Tx} {rows : List EventRow} {events : List ReplayEvent}
    {requirement : Option (ForemanCapacityRequirementV1 × Bytes)}
    (h : Turn w runId c scan replay tx tx' rows events)
    (hopens : CapacityOpens tx.tables requirement) : CapacityOpens tx'.tables requirement := by
  intro value bytes
  rw [← hopens value bytes]
  constructor
  · rintro ⟨event, hjournaled, hpayload⟩
    rcases h.journaled_iff.mp hjournaled with hold | ⟨row, hrow, hkind, hread⟩
    · exact ⟨event, hold, hpayload⟩
    · have := h.opensRun hrow hkind hread
      rw [hpayload] at this
      cases this
  · rintro ⟨event, hold, hpayload⟩
    exact ⟨event, h.journaled_iff.mpr (.inl hold), hpayload⟩

theorem Evolves.capacityOpens {w : Platform} {runId : String} {c : Contracts} {t t' : RunTables}
    {scan scan' : Scan} {replay replay' : Scheduler.Replay}
    {requirement : Option (ForemanCapacityRequirementV1 × Bytes)}
    (h : Evolves w runId c t scan replay t' scan' replay')
    (hopens : CapacityOpens t requirement) : CapacityOpens t' requirement := by
  induction h with
  | refl => exact hopens
  | turn _ _ hturn _ _ ih => exact hturn.capacityOpens ih

/-- A journal reads and retains the capacity requirement of its admission. -/
theorem Reads.capacity_gate {w : Platform} {runId : String} {t : RunTables} {c : Contracts}
    {scan : Scan} {replay : Scheduler.Replay}
    {requirement : Option (ForemanCapacityRequirementV1 × Bytes)}
    (hr : Reads w runId t c scan replay) (hopens : CapacityOpens t requirement) :
    (∀ value, requirement = some value → ∀ index row event locks request,
      JournaledAt t index row event → event.payload = .attemptCreated locks request →
        ∃ place earlier accepted bundle workItemId, index = place + 1 ∧
          Gated w c value.1 t place row event earlier accepted bundle workItemId) ∧
    (requirement = none → ∀ event, Journaled t event →
      event.payload.rowKind ≠ .capacityRequirement ∧
        event.payload.rowKind ≠ .capacityAdmission) := by
  obtain ⟨retained, hcapacity⟩ := hr.capacity
  obtain ⟨-, capacity, parsed, position, hreads, -⟩ := validateCapacityHistory_eq_ok.mp hcapacity
  constructor
  · rintro ⟨value, bytes⟩ rfl index row event locks request hat hpayload
    obtain ⟨opening, hjournaled, hopening⟩ := (hopens value bytes).mpr rfl
    obtain ⟨place, earlier, hplace⟩ := hjournaled.exists_at
    obtain ⟨required, hrequired, rfl⟩ := hreads.requirement hplace hopening
    exact hreads.gated hrequired hat hpayload
  · rintro rfl event hjournaled
    have hnone : capacity.requirement = none := by
      by_contra hsome
      obtain ⟨opening, value, bytes, hjournaled, hopening⟩ := hreads.exists_requirement hsome
      exact absurd ((hopens value bytes).mp ⟨opening, hjournaled, hopening⟩) (by simp)
    obtain ⟨index, row, hat⟩ := hjournaled.exists_at
    refine ⟨fun hkind => ?_, hreads.legacy hnone hat⟩
    cases hpayload : event.payload with
    | capacityRequirementAdmitted value bytes =>
      exact absurd ((hopens value bytes).mp ⟨event, hjournaled, hpayload⟩) (by simp)
    | _ => rw [hpayload] at hkind; cases hkind

namespace Store

/-- The call behind which a run is there for the first time admitted it. -/
theorem Served.opens {w : Platform} {s s' : Store} {call : Call} (h : Served w s call s')
    {runId : String} {t : RunTables} (habsent : s.runs[runId]? = none)
    (ht : s'.runs[runId]? = some t) : ∃ requirement, call.Opens w t requirement := by
  cases h with
  | admitted _ _ hopens _ _ hcommit =>
    rw [hcommit, commit_runs, BTreeMap.getElem?_insert_eq] at ht
    split at ht
    case isTrue => exact Option.some.inj ht ▸ hopens
    case isFalse => exact absurd (habsent.symm.trans ht) (by simp)
  | turned h =>
    obtain ⟨told, htold, rfl⟩ := begin_eq_ok.mp h.begins
    rw [h.commits, commit_runs, BTreeMap.getElem?_insert_eq] at ht
    split at ht
    case isTrue heq => exact absurd (habsent.symm.trans (heq ▸ htold)) (by simp)
    case isFalse => exact absurd (habsent.symm.trans ht) (by simp)

/-- The capacity gate. In a run that a call admitted with a capacity requirement, every attempt
stands right behind the one admission it rests on, whatever calls follow; in a run admitted
without one there is no capacity evidence. -/
theorem run_capacity_gate (w : Platform) (before after : List Call) (call : Call) (runId : String)
    (admitted t : RunTables) (c : Contracts)
    (habsent : ((empty : Store).run w before).runs[runId]? = none)
    (hadmitted : ((empty : Store).run w (before ++ [call])).runs[runId]? = some admitted)
    (ht : ((empty : Store).run w (before ++ call :: after)).runs[runId]? = some t)
    (hc : loadContracts w t runId = .ok c) :
    (∀ bytes, call.capacityRequirement = some bytes → ∃ requirement,
      validateCapacityRequirementBytes w bytes = .ok requirement ∧
      ∀ index row event locks request, JournaledAt t index row event →
        event.payload = .attemptCreated locks request →
          ∃ place earlier accepted bundle workItemId, index = place + 1 ∧
            Gated w c requirement t place row event earlier accepted bundle workItemId) ∧
    (call.capacityRequirement = none → ∀ event, Journaled t event →
      event.payload.rowKind ≠ .capacityRequirement ∧
        event.payload.rowKind ≠ .capacityAdmission) := by
  have hsound := (run_traced w before).1
  have hstep : (empty : Store).run w (before ++ [call]) =
      ((empty : Store).run w before).after w call := by
    simp [run, List.foldl_append]
  have hserved : Served w ((empty : Store).run w before) call
      (((empty : Store).run w before).after w call) := by
    rcases after_served hsound call with hkept | hserved
    · rw [hstep, hkept, habsent] at hadmitted
      cases hadmitted
    · exact hserved
  rw [hstep] at hadmitted
  obtain ⟨requirement, hopens⟩ := hserved.opens habsent hadmitted
  have hsound' := hserved.sound hsound
  obtain ⟨c₀, scan, replay, hstanding⟩ := hsound' runId admitted hadmitted
  obtain ⟨t', scan', replay', ht', hreads, hevolves⟩ :=
    hsound'.run_evolves after hadmitted hstanding.reads
  have hrun : (empty : Store).run w (before ++ call :: after) =
      (((empty : Store).run w before).after w call).run w after := by
    simp [run, List.foldl_append]
  rw [hrun, ht'] at ht
  obtain rfl := Option.some.inj ht
  obtain rfl := hreads.contracts_eq hc
  obtain ⟨hgated, hlegacy⟩ := hreads.capacity_gate (hevolves.capacityOpens hopens.opens)
  refine ⟨fun bytes hbytes => ?_, fun hnone => hlegacy ?_⟩
  · rw [← hopens.bytes] at hbytes
    obtain ⟨value, rfl, rfl⟩ := Option.map_eq_some_iff.mp hbytes
    exact ⟨value.1, hopens.valid value rfl, hgated value rfl⟩
  · rw [← hopens.bytes] at hnone
    exact Option.map_eq_none_iff.mp hnone

/-- The one attempt of a small capacity-required run stands behind its admission. -/
theorem run_capacity_gate_open_attempt : ∃ t c requirement row event place earlier accepted bundle
    workItemId,
    ((empty : Store).run Bench.capacityPlatform
      ([] ++ Bench.admitCapacityRun :: [Bench.capacityAttempt])).runs["run-1"]? = some t ∧
    JournaledAt t 3 row event ∧ 3 = place + 1 ∧
    Gated Bench.capacityPlatform c requirement t place row event earlier accepted bundle
      workItemId := by
  have hruns : (((empty : Store).run Bench.capacityPlatform
        ([] ++ [Bench.admitCapacityRun])).runs["run-1"]?).isSome = true ∧
      (((empty : Store).run Bench.capacityPlatform
        ([] ++ Bench.admitCapacityRun :: [Bench.capacityAttempt])).runs["run-1"]?).any (fun t =>
          (loadContracts Bench.capacityPlatform t "run-1").toOption.any fun _ =>
            (t.events[3]?).any fun row => row.kind != .adapterEvent &&
              row.internalEvent.toOption.any Bench.creates) = true := by decide +kernel
  obtain ⟨hadmitted, hrun⟩ := hruns
  obtain ⟨admitted, hadmitted⟩ := Option.isSome_iff_exists.mp hadmitted
  simp only [Option.any_eq_true, Bool.and_eq_true, bne_iff_ne, toOption_eq_some] at hrun
  obtain ⟨t, ht, c, hc, row, hplace, hkind, event, hread, hcreates⟩ := hrun
  obtain ⟨hgated, -⟩ := run_capacity_gate Bench.capacityPlatform [] [Bench.capacityAttempt]
    Bench.admitCapacityRun "run-1" admitted t c (by simp [empty, run]) hadmitted ht hc
  obtain ⟨requirement, -, hgated⟩ := hgated [4] rfl
  have hat : JournaledAt t 3 row event := ⟨hplace, hkind, hread⟩
  unfold Bench.creates at hcreates
  split at hcreates
  case h_1 locks request hpayload =>
    obtain ⟨place, earlier, accepted, bundle, workItemId, hindex, hgate⟩ :=
      hgated 3 row event locks request hat hpayload
    exact ⟨t, c, requirement, row, event, place, earlier, accepted, bundle, workItemId, ht, hat,
      hindex, hgate⟩
  case h_2 => cases hcreates

end Store

end Nightshift
