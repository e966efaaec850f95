import Nightshift.Turns

/-!
# The admitted run

Admission writes at most three run-level events over empty tables. The run it
leaves reads, and holds no attempt, no claim and no receipt.
-/

namespace Nightshift

open Checked

/-- The run-level events of an admission. -/
structure AdmissionEvents (runId : String) (evaluatedAt : Instant) (mechanisms : RunMechanisms)
    (events : List InternalEvent) : Prop where
  journaled : ∃ runEvent capacityEvent availabilityEvent : String, events =
    journalEvent runId runEvent none none evaluatedAt .runAdmitted ::
      ((mechanisms.capacityRequirement.map fun requirement =>
        journalEvent runId capacityEvent none none evaluatedAt
          (.capacityRequirementAdmitted requirement.1 requirement.2)).toList ++
      (mechanisms.executionAvailability.map fun configuration =>
        journalEvent runId availabilityEvent none none evaluatedAt
          (.executionAvailabilityConfigured configuration.requirement
            configuration.requirementBytes configuration.policy configuration.policyBytes)).toList)

/-- What the tables of a run hold right after its admission. -/
structure Admitted (w : Platform) (runId : String) (c : Contracts) (tx : Tx) : Prop where
  contracts : loadContracts w tx.tables runId = .ok c
  items : ∃ items, Scheduler.initialItems c.profile c.packet.workItems = some items
  journal : ∃ evaluatedAt mechanisms events n, c.admission.validateAt w evaluatedAt = .ok () ∧
    AdmissionEvents runId evaluatedAt mechanisms events ∧ tx.tables.events = rowsOf w n events
  booked : Booked tx.tables tx.sequence
  capacity : ∃ requirement, validateCapacityHistory w tx.tables c = .ok requirement
  loads : ∃ history, loadExecutionAvailabilityHistory w tx.tables c = .ok history
  claims : tx.tables.resourceClaims = ∅
  receipts : tx.tables.terminalReceipts = ∅
  snapshot : tx.tables.finalSnapshot = none
  driverSteps : tx.tables.driverSteps = []

/-- An internal event of the journal of a run. -/
def Journaled (t : RunTables) (event : InternalEvent) : Prop :=
  ∃ row ∈ t.events, row.kind ≠ .adapterEvent ∧ row.internalEvent = .ok event

/-- The capacity requirement that a journal retains, with its exact bytes. -/
def CapacityOpens (t : RunTables)
    (requirement : Option (ForemanCapacityRequirementV1 × Bytes)) : Prop :=
  ∀ value bytes, (∃ event, Journaled t event ∧
    event.payload = .capacityRequirementAdmitted value bytes) ↔ requirement = some (value, bytes)

theorem AdmissionEvents.capacityOpens {w : Platform} {runId : String} {evaluatedAt : Instant}
    {mechanisms : RunMechanisms} {events : List InternalEvent} {t : RunTables} {n : Nat}
    (h : AdmissionEvents runId evaluatedAt mechanisms events)
    (hrows : t.events = rowsOf w n events) : CapacityOpens t mechanisms.capacityRequirement := by
  obtain ⟨runEvent, capacityId, availabilityId, rfl⟩ := h.journaled
  intro value bytes
  constructor
  · rintro ⟨event, ⟨row, hrow, -, hread⟩, hpayload⟩
    rw [hrows] at hrow
    obtain ⟨e, he, m, -, rfl⟩ := mem_rowsOf hrow
    obtain rfl : e = event := by simpa using hread
    rcases List.mem_cons.mp he with rfl | he
    · cases hpayload
    · rcases List.mem_append.mp he with he | he
      · obtain ⟨requirement, hrequirement, rfl⟩ := Option.mem_map.mp (Option.mem_toList.mp he)
        obtain ⟨rfl, rfl⟩ := InternalPayload.capacityRequirementAdmitted.inj hpayload
        exact hrequirement
      · obtain ⟨configuration, -, rfl⟩ := Option.mem_map.mp (Option.mem_toList.mp he)
        cases hpayload
  · intro hrequirement
    have hmem : journalEvent runId capacityId none none evaluatedAt
        (.capacityRequirementAdmitted value bytes) ∈ journalEvent runId runEvent none none
          evaluatedAt .runAdmitted :: ((mechanisms.capacityRequirement.map fun requirement =>
            journalEvent runId capacityId none none evaluatedAt
              (.capacityRequirementAdmitted requirement.1 requirement.2)).toList ++
          (mechanisms.executionAvailability.map fun configuration =>
            journalEvent runId availabilityId none none evaluatedAt
              (.executionAvailabilityConfigured configuration.requirement
                configuration.requirementBytes configuration.policy
                configuration.policyBytes)).toList) := by
      simp [hrequirement]
    obtain ⟨m, hm⟩ := row_mem_rowsOf (w := w) (n := n) hmem
    exact ⟨_, ⟨_, hrows ▸ hm, by simp, InternalEvent.row_internalEvent _ _ _⟩, rfl⟩

/-- The tables an admission event leaves alone. -/
structure SameBeside (t t' : RunTables) : Prop where
  run : t'.run = t.run
  claims : t'.resourceClaims = t.resourceClaims
  receipts : t'.terminalReceipts = t.terminalReceipts
  snapshot : t'.finalSnapshot = t.finalSnapshot
  driverSteps : t'.driverSteps = t.driverSteps

theorem SameBeside.trans {t t₁ t₂ : RunTables} (h₁ : SameBeside t t₁) (h₂ : SameBeside t₁ t₂) :
    SameBeside t t₂ :=
  ⟨h₂.run.trans h₁.run, h₂.claims.trans h₁.claims, h₂.receipts.trans h₁.receipts,
    h₂.snapshot.trans h₁.snapshot, h₂.driverSteps.trans h₁.driverSteps⟩

namespace Tx

variable {w : Platform} {tx tx' : Tx} {c : Contracts} {evaluatedAt : Instant}

/-- The fresh tables with the marker of an availability-required run. -/
def marked (tx : Tx) (required : Bool) : Tx :=
  { tx with tables := { tx.tables with markers := tx.tables.markers + required.toNat } }

/-- The capacity requirement, when there is one, found room in the history. -/
theorem admitCapacityRequirement_ok {requirement : Option (ForemanCapacityRequirementV1 × Bytes)}
    (h : tx.admitCapacityRequirement w c evaluatedAt requirement = .ok tx') :
    ∃ eventId : String, Grows tx tx' (rowsOf w tx.sequence (requirement.map fun requirement =>
        journalEvent c.admission.runId eventId none none evaluatedAt
          (.capacityRequirementAdmitted requirement.1 requirement.2)).toList) ∧
      SameBeside tx.tables tx'.tables ∧
      ∀ value, requirement = some value → CapacityRoom w tx.tables
        (journalEvent c.admission.runId eventId none none evaluatedAt
          (.capacityRequirementAdmitted value.1 value.2)) c.profile.maximumEventBytes
        c.maximumCapacityRows := by
  cases requirement with
  | none =>
    obtain rfl : tx = tx' := by simpa [admitCapacityRequirement] using h
    exact ⟨"", Grows.refl tx, ⟨rfl, rfl, rfl, rfl, rfl⟩, nofun⟩
  | some value =>
    obtain ⟨hroom, hfresh, rfl⟩ := appendInternalBounded_ok h
    refine ⟨"capacity-required" ++ "-" ++ tx.uuid w,
      (Grows.drawn tx).trans (Grows.pushEvent w hfresh), ⟨rfl, rfl, rfl, rfl, rfl⟩, ?_⟩
    intro other hother
    obtain rfl := Option.some.inj hother
    exact hroom

theorem admitExecutionAvailability_ok {configuration : Option Configuration}
    (h : tx.admitExecutionAvailability w c evaluatedAt configuration = .ok tx') :
    ∃ eventId : String, Grows (tx.marked configuration.isSome) tx' (rowsOf w tx.sequence
        (configuration.map fun configuration =>
          journalEvent c.admission.runId eventId none none evaluatedAt
            (.executionAvailabilityConfigured configuration.requirement
              configuration.requirementBytes configuration.policy
              configuration.policyBytes)).toList) ∧
      SameBeside tx.tables tx'.tables := by
  cases configuration with
  | none =>
    obtain rfl : tx = tx' := by simpa [admitExecutionAvailability] using h
    exact ⟨"", Grows.refl _, ⟨rfl, rfl, rfl, rfl, rfl⟩⟩
  | some configuration =>
    obtain ⟨-, hfresh, rfl⟩ := appendExecutionAvailabilityBounded_ok h
    exact ⟨"execution-availability-required" ++ "-" ++ tx.uuid w,
      (Grows.drawn _).trans (Grows.pushProvider w hfresh), ⟨rfl, rfl, rfl, rfl, rfl⟩⟩

theorem admitBootstrap_ok {retained : List BootstrapRow} {custody : Option BootstrapCustody}
    (h : tx.admitBootstrap c retained custody = .ok tx') :
    ∃ bootstrap, tx' = { tx with tables := { tx.tables with bootstrap := bootstrap } } := by
  cases custody with
  | none =>
    obtain rfl : tx = tx' := by simpa [admitBootstrap] using h
    exact ⟨tx.tables.bootstrap, rfl⟩
  | some custody =>
    simp only [admitBootstrap, bind_eq_ok, refuseIf_eq_ok, okOr_eq_ok, Except.ok.injEq] at h
    obtain ⟨_, -, deadline, -, _, -, _, -, rfl⟩ := h
    exact ⟨_, rfl⟩

end Tx

/-- The first row of a journal reads as a run admission. -/
theorem CapacityReads.admission {w : Platform} {c : Contracts} {eventId : String}
    {recordedAt : Instant} {n : Nat}
    (hvalid : validateReadOnlyEventRow w c ((journalEvent c.admission.runId eventId none none
      recordedAt .runAdmitted).row w n) = .ok ()) :
    CapacityReads w c [(journalEvent c.admission.runId eventId none none recordedAt
      .runAdmitted).row w n] CapacityScan.start [some (journalEvent c.admission.runId eventId none
        none recordedAt .runAdmitted)] 0 where
  valid row hrow := List.mem_singleton.mp hrow ▸ hvalid
  scanned := rfl
  consistent := ⟨rfl, by simp [CapacityScan.start]⟩
  parses := rfl
  admitted := by simp [admissionPositions, isRunAdmitted, journalEvent, List.range_succ]
  adjacent h := by cases h
  placed := rfl

/-- The requirement event behind it reads as the requirement of the run. -/
theorem CapacityReads.required {w : Platform} {c : Contracts} {eventId capacityId : String}
    {recordedAt : Instant} {n : Nat} {requirement : ForemanCapacityRequirementV1} {bytes : Bytes}
    (hvalid : ∀ row ∈ rowsOf w n [journalEvent c.admission.runId eventId none none recordedAt
        .runAdmitted, journalEvent c.admission.runId capacityId none none recordedAt
          (.capacityRequirementAdmitted requirement bytes)],
      validateReadOnlyEventRow w c row = .ok ())
    (hbytes : validateCapacityRequirementBytes w bytes = .ok requirement)
    (hbound : validateCapacityRequirement requirement c.packet c.admission c.profile = .ok ()) :
    ∃ scan parsed, CapacityReads w c (rowsOf w n [journalEvent c.admission.runId eventId none none
        recordedAt .runAdmitted, journalEvent c.admission.runId capacityId none none recordedAt
          (.capacityRequirementAdmitted requirement bytes)]) scan parsed 0 := by
  simp only [validateCapacityRequirementBytes, bind_eq_ok, mapErr_eq_ok, refuseIf_eq_ok,
    bne_eq_false_iff_eq, Except.ok.injEq] at hbytes
  obtain ⟨_, -, parsed, -, _, hvalidated, _, hcanonical, rfl⟩ := hbytes
  refine ⟨⟨some ⟨recordedAt, parsed, bytes⟩, ∅, ∅⟩, [some _, some _], hvalid, ?_, ⟨by simp, by simp⟩,
    rfl, ?_, fun _ => ?_, ?_⟩
  · refine foldlM_cons_eq_ok.mpr ⟨CapacityScan.start, rfl, foldlM_cons_eq_ok.mpr ⟨_, ?_, rfl⟩⟩
    simp [CapacityScan.step, CapacityScan.start, journalEvent, refuseIf, hcanonical, hvalidated,
      hbound, mapErr]
  · simp [admissionPositions, isRunAdmitted, journalEvent, List.range_succ]
  · simp [checkRequirementAdjacent, okOr, journalEvent, InternalPayload.rowKind, refuseIf]
  · simp [checkCapacityPlacements, checkCapacityPlacement, journalEvent, refuseIf]

/-- Bound contracts give every packet item its profile entry and adapter. -/
theorem initialItems_of_bindings {w : Platform} {packet : NightshiftPacketV1}
    {admission : ForemanAdmissionV1} {profile : ExecutionProfileV2}
    (hvalid : profile.validate w = .ok ())
    (hbindings : validateBindings packet admission profile = .ok ()) :
    ∃ items, Scheduler.initialItems profile packet.workItems = some items := by
  have hitem : ∀ work ∈ packet.workItems, ∃ item, Scheduler.initialItem profile work = some item := by
    intro work hwork
    simp only [validateBindings, bind_eq_ok, refuseIf_eq_ok, bne_eq_false_iff_eq] at hbindings
    obtain ⟨_, -, _, -, _, -, _, hsame, -⟩ := hbindings
    have hmem : work.id ∈ BTreeSet.collect profile.workItems.keys := by
      rw [← hsame, BTreeSet.mem_collect]
      exact List.mem_map_of_mem hwork
    obtain ⟨execution, hexecution⟩ := BTreeMap.mem_keys_iff.mp (BTreeSet.mem_collect.mp hmem)
    simp only [ExecutionProfileV2.validate, bind_eq_ok, forEach_eq_ok] at hvalid
    obtain ⟨_, -, _, -, _, -, _, -, _, -, _, -, _, hexecutions, -⟩ := hvalid
    have hchecked := hexecutions (work.id, execution)
      (Std.ExtTreeMap.mem_toList_iff_getElem?_eq_some.mpr hexecution)
    simp only [ExecutionProfileV2.validateExecution, bind_eq_ok, refuseIf_eq_ok,
      Bool.not_eq_false'] at hchecked
    obtain ⟨_, -, _, hadapter, -⟩ := hchecked
    obtain ⟨adapter, hadapter⟩ := BTreeMap.mem_keys_iff.mp
      (Std.ExtTreeMap.mem_keys.mpr (Std.ExtTreeMap.contains_iff_mem.mp hadapter))
    simp [Scheduler.initialItem, hexecution, hadapter]
  unfold Scheduler.initialItems
  generalize (∅ : BTreeMap String LiveWorkItemV1) = start
  generalize packet.workItems = works at hitem ⊢
  induction works generalizing start with
  | nil => exact ⟨start, rfl⟩
  | cons work works ih =>
    obtain ⟨item, hfirst⟩ := hitem work List.mem_cons_self
    obtain ⟨items, hitems⟩ := ih (start.insert work.id item)
      fun work' hwork' => hitem work' (List.mem_cons_of_mem _ hwork')
    exact ⟨items, by simpa [hfirst] using hitems⟩

/-- The contracts of an admission are those its run row reopens. -/
theorem admittedContracts_ok {w : Platform} {packetBytes admissionBytes profileBytes : Bytes}
    {evaluatedAt : Instant} {mechanisms : RunMechanisms} {c : Contracts}
    (h : admittedContracts w packetBytes admissionBytes profileBytes evaluatedAt mechanisms =
      .ok c) (required : Bool) :
    (∀ t : RunTables, t.run = (freshTables c packetBytes admissionBytes profileBytes required).run →
      loadContracts w t c.admission.runId = .ok c) ∧
    c.admission.validateAt w evaluatedAt = .ok () ∧
    (∃ items, Scheduler.initialItems c.profile c.packet.workItems = some items) ∧
    ∀ value, mechanisms.capacityRequirement = some value →
      validateCapacityRequirement value.1 c.packet c.admission c.profile = .ok () := by
  simp only [admittedContracts, bind_eq_ok, mapErr_eq_ok, Packet.validateAt,
    ForemanAdmissionV1.validateAt] at h
  obtain ⟨packet, hpacket, _, ⟨_, hintegrity, -⟩, admission, hadmission, _,
    ⟨_, hadmitted, hwindow⟩, profile, hprofile, _, hvalid, _, hbindings, hrest⟩ := h
  have hdone : c = ⟨packet, admission, profile, admission.maximumConcurrentWorkers⟩ ∧
      ∀ value, mechanisms.capacityRequirement = some value →
        validateCapacityRequirement value.1 packet admission profile = .ok () := by
    cases hcapacity : mechanisms.capacityRequirement with
    | none =>
      cases havailability : mechanisms.executionAvailability with
      | none =>
        simp only [hcapacity, havailability, ok_bind, Except.ok.injEq] at hrest
        exact ⟨hrest.symm, fun value hvalue => by cases hvalue⟩
      | some configuration =>
        simp only [hcapacity, havailability, ok_bind, bind_eq_ok, Except.ok.injEq] at hrest
        obtain ⟨_, -, hc⟩ := hrest
        exact ⟨hc.symm, fun value hvalue => by cases hvalue⟩
    | some requirement =>
      cases havailability : mechanisms.executionAvailability with
      | none =>
        simp only [hcapacity, havailability, ok_bind, bind_eq_ok, Except.ok.injEq] at hrest
        obtain ⟨_, hrequirement, hc⟩ := hrest
        exact ⟨hc.symm, fun value hvalue => Option.some.inj hvalue ▸ hrequirement⟩
      | some configuration =>
        simp only [hcapacity, havailability, bind_eq_ok, Except.ok.injEq] at hrest
        obtain ⟨_, hrequirement, _, -, hc⟩ := hrest
        exact ⟨hc.symm, fun value hvalue => Option.some.inj hvalue ▸ hrequirement⟩
  obtain ⟨rfl, hrequirement⟩ := hdone
  refine ⟨fun t hrun => ?_, bind_eq_ok.mpr ⟨(), hadmitted, hwindow⟩,
    initialItems_of_bindings hvalid hbindings, hrequirement⟩
  simp [loadContracts, hrun, freshTables, hpacket, hintegrity, hadmission, hadmitted, hprofile,
    hvalid, hbindings, mapErr, refuseIf]

/-- A loaded history has scanned every row of its journal. -/
theorem loadExecutionAvailabilityHistory_valid {w : Platform} {t : RunTables} {c : Contracts}
    (h : ∃ history, loadExecutionAvailabilityHistory w t c = .ok history) :
    ∀ row ∈ t.events, validateReadOnlyEventRow w c row = .ok () := by
  obtain ⟨history, hhistory⟩ := h
  obtain ⟨-, scan, hscan, -, -⟩ := loadExecutionAvailabilityHistory_eq_ok.mp hhistory
  exact Scan.foldlM_step_valid hscan

/-- The capacity side of the journal an admission wrote. -/
theorem capacity_of_admission {w : Platform} {c : Contracts} {t : RunTables} {n : Nat}
    {runEvent capacityId : String} {recordedAt : Instant}
    {requirement : Option (ForemanCapacityRequirementV1 × Bytes)} {more : List InternalEvent}
    (hvalid : ∀ row ∈ t.events, validateReadOnlyEventRow w c row = .ok ())
    (hevents : t.events = rowsOf w n (journalEvent c.admission.runId runEvent none none recordedAt
      .runAdmitted :: ((requirement.map fun requirement =>
        journalEvent c.admission.runId capacityId none none recordedAt
          (.capacityRequirementAdmitted requirement.1 requirement.2)).toList ++ more)))
    (hmore : ∀ e ∈ more, e.payload.concernsCapacity = false)
    (hrequirement : ∀ value, requirement = some value →
      validateCapacityRequirementBytes w value.2 = .ok value.1 ∧
        validateCapacityRequirement value.1 c.packet c.admission c.profile = .ok ()) :
    ∃ scan parsed, CapacityReads w c t.events scan parsed 0 := by
  rw [hevents] at hvalid ⊢
  cases requirement with
  | none =>
    rw [Option.map_none, Option.toList_none, List.nil_append, rowsOf_cons] at hvalid ⊢
    rw [List.forall_mem_cons] at hvalid
    obtain ⟨parsed, hreads⟩ := (CapacityReads.admission hvalid.1).append_neutral hvalid.2
      (capacityNeutral_rowsOf hmore)
    exact ⟨_, parsed, hreads⟩
  | some value =>
    obtain ⟨hbytes, hbound⟩ := hrequirement value rfl
    rw [Option.map_some, Option.toList_some, List.singleton_append, ← List.singleton_append,
      ← List.singleton_append (l := more), ← List.append_assoc, rowsOf_append] at hvalid ⊢
    rw [List.forall_mem_append] at hvalid
    obtain ⟨scan, parsed, hreads⟩ := CapacityReads.required hvalid.1 hbytes hbound
    obtain ⟨parsed', hreads'⟩ := hreads.append_neutral hvalid.2 (capacityNeutral_rowsOf hmore)
    exact ⟨scan, parsed', hreads'⟩

/-- What the transaction of an admission did to the tables it started from. -/
structure Started (w : Platform) (c : Contracts) (evaluatedAt : Instant)
    (mechanisms : RunMechanisms) (tx tx' : Tx) (runEvent capacityId availabilityId : String) :
    Prop where
  events : tx'.tables.events = tx.tables.events ++ rowsOf w tx.sequence
    (journalEvent c.admission.runId runEvent none none evaluatedAt .runAdmitted ::
      ((mechanisms.capacityRequirement.map fun requirement =>
        journalEvent c.admission.runId capacityId none none evaluatedAt
          (.capacityRequirementAdmitted requirement.1 requirement.2)).toList ++
      (mechanisms.executionAvailability.map fun configuration =>
        journalEvent c.admission.runId availabilityId none none evaluatedAt
          (.executionAvailabilityConfigured configuration.requirement
            configuration.requirementBytes configuration.policy
            configuration.policyBytes)).toList))
  booked : Booked tx.tables tx.sequence → Booked tx'.tables tx'.sequence
  sequence : tx.sequence ≤ tx'.sequence
  draws : tx.draws ≤ tx'.draws
  room : ∀ value, mechanisms.capacityRequirement = some value → ∃ t : RunTables,
    t.events = tx.tables.events ++ rowsOf w tx.sequence
      [journalEvent c.admission.runId runEvent none none evaluatedAt .runAdmitted] ∧
    Tx.CapacityRoom w t (journalEvent c.admission.runId capacityId none none evaluatedAt
      (.capacityRequirementAdmitted value.1 value.2)) c.profile.maximumEventBytes
      c.maximumCapacityRows
  same : SameBeside tx.tables tx'.tables
  loads : ∃ history, loadExecutionAvailabilityHistory w tx'.tables c = .ok history

theorem Tx.admitRun_ok {w : Platform} {c : Contracts} {evaluatedAt : Instant}
    {retained : List BootstrapRow} {mechanisms : RunMechanisms} {tx tx' : Tx}
    (h : tx.admitRun w c evaluatedAt retained mechanisms = .ok tx') :
    ∃ runEvent capacityId availabilityId,
      Started w c evaluatedAt mechanisms tx tx' runEvent capacityId availabilityId := by
  simp only [admitRun, bind_eq_ok, Except.ok.injEq] at h
  obtain ⟨tx₁, hrun, tx₂, hcapacity, tx₃, havailability, tx₄, hbootstrap, found, hfound, rfl⟩ := h
  obtain ⟨hfresh, htx₁⟩ := (appendInternal_eq_ok rfl).mp hrun
  obtain ⟨capacityId, hgrows₂, hsame₂, hroom⟩ := admitCapacityRequirement_ok hcapacity
  obtain ⟨availabilityId, hgrows₃, hsame₃⟩ := admitExecutionAvailability_ok havailability
  obtain ⟨bootstrap, rfl⟩ := admitBootstrap_ok hbootstrap
  have hgrows₁ : Grows tx tx₁ (rowsOf w tx.sequence [journalEvent c.admission.runId
      ("run-admitted" ++ "-" ++ tx.uuid w) none none evaluatedAt .runAdmitted]) :=
    htx₁ ▸ (Grows.drawn tx).trans (Grows.pushEvent w hfresh)
  have hsame₁ : SameBeside tx.tables tx₁.tables := htx₁ ▸ ⟨rfl, rfl, rfl, rfl, rfl⟩
  have hseq₁ : tx₁.sequence = tx.sequence + 1 := hgrows₁.sequence
  have hseq₂ := hgrows₂.sequence
  rw [hseq₁, length_rowsOf] at hseq₂
  have hsame := hsame₁.trans (hsame₂.trans hsame₃)
  refine ⟨"run-admitted" ++ "-" ++ tx.uuid w, capacityId, availabilityId, ?_, fun hbooked => ?_, ?_, ?_, fun value hvalue => ?_,
    ⟨hsame.run, hsame.claims, hsame.receipts, hsame.snapshot, hsame.driverSteps⟩, ⟨found, hfound⟩⟩
  · have hevents₃ : tx₃.tables.events = tx₂.tables.events ++ _ := hgrows₃.events
    rw [hseq₂] at hevents₃
    have hevents₂ := hgrows₂.events
    rw [hseq₁, hgrows₁.events] at hevents₂
    show tx₃.tables.events = _
    rw [hevents₃, hevents₂, rowsOf_cons, rowsOf_cons, rowsOf_nil, rowsOf_append,
      List.append_assoc, List.append_assoc, List.singleton_append]
  · have hbooked₂ := hgrows₂.booked (hgrows₁.booked hbooked)
    have hbooked₃ := hgrows₃.booked ⟨hbooked₂.rows, hbooked₂.metadata, hbooked₂.identities⟩
    exact ⟨hbooked₃.rows, hbooked₃.metadata, hbooked₃.identities⟩
  · have hseq₃ : tx₃.sequence = tx₂.sequence + _ := hgrows₃.sequence
    show tx.sequence ≤ tx₃.sequence
    omega
  · exact hgrows₁.draws.trans (hgrows₂.draws.trans hgrows₃.draws)
  · exact ⟨tx₁.tables, hgrows₁.events, hroom value hvalue⟩

/-- Tables before the first journal row. -/
structure Blank (t : RunTables) : Prop where
  events : t.events = []
  metadata : t.metadata = []
  claims : t.resourceClaims = ∅
  receipts : t.terminalReceipts = ∅
  snapshot : t.finalSnapshot = none
  driverSteps : t.driverSteps = []

/-- The capacity history of an admission is within its bounds. -/
theorem Started.capacitySize {w : Platform} {c : Contracts} {evaluatedAt : Instant}
    {mechanisms : RunMechanisms} {tx tx' : Tx} {runEvent capacityId availabilityId : String}
    (h : Started w c evaluatedAt mechanisms tx tx' runEvent capacityId availabilityId)
    (hblank : Blank tx.tables) :
    ∃ retained, tx'.tables.validateCapacityHistorySize w c.profile.maximumEventBytes
      c.maximumCapacityRows = .ok retained := by
  have hevents := h.events
  have hmore : ∀ n, ∀ row ∈ rowsOf w n (mechanisms.executionAvailability.map fun configuration =>
        journalEvent c.admission.runId availabilityId none none evaluatedAt
          (.executionAvailabilityConfigured configuration.requirement
            configuration.requirementBytes configuration.policy
            configuration.policyBytes)).toList, row.kind.isCapacity = false := by
    intro n row hrow
    obtain ⟨e, he, m, -, rfl⟩ := mem_rowsOf hrow
    obtain ⟨configuration, -, rfl⟩ := Option.mem_map.mp (Option.mem_toList.mp he)
    rfl
  cases hrequirement : mechanisms.capacityRequirement with
  | none =>
    rw [hrequirement, Option.map_none, Option.toList_none, List.nil_append, rowsOf_cons] at hevents
    rw [RunTables.validateCapacityHistorySize_of_plain hevents]
    · exact ⟨(0, 0), by
        simp [RunTables.validateCapacityHistorySize, RunTables.capacityLengths, hblank.events,
          pure, Except.pure]⟩
    · rw [List.forall_mem_cons]
      exact ⟨rfl, hmore _⟩
  | some value =>
    obtain ⟨t, ht, hroom⟩ := h.room value hrequirement
    rw [hrequirement, Option.map_some, Option.toList_some, rowsOf_cons, List.singleton_append,
      rowsOf_cons, ← List.singleton_append, ← List.append_assoc] at hevents
    rw [rowsOf_cons, rowsOf_nil] at ht
    rw [← ht] at hevents
    exact RunTables.validateCapacityHistorySize_of_room hevents (hmore _) hroom

theorem Started.admitted {w : Platform} {c : Contracts} {evaluatedAt : Instant}
    {mechanisms : RunMechanisms} {tx tx' : Tx} {runEvent capacityId availabilityId : String}
    (h : Started w c evaluatedAt mechanisms tx tx' runEvent capacityId availabilityId)
    (hblank : Blank tx.tables) (hload : loadContracts w tx'.tables c.admission.runId = .ok c)
    (hwindow : c.admission.validateAt w evaluatedAt = .ok ())
    (hitems : ∃ items, Scheduler.initialItems c.profile c.packet.workItems = some items)
    (hrequirement : ∀ value, mechanisms.capacityRequirement = some value →
      validateCapacityRequirementBytes w value.2 = .ok value.1 ∧
        validateCapacityRequirement value.1 c.packet c.admission c.profile = .ok ()) :
    Admitted w c.admission.runId c tx' := by
  have hevents := h.events
  rw [hblank.events, List.nil_append] at hevents
  obtain ⟨scan, parsed, hreads⟩ := capacity_of_admission
    (loadExecutionAvailabilityHistory_valid h.loads) hevents (fun e he => by
      obtain ⟨configuration, -, rfl⟩ := Option.mem_map.mp (Option.mem_toList.mp he)
      rfl) hrequirement
  have hbooked := h.booked ⟨by simp [hblank.events], by simp [hblank.metadata], by
    simp [hblank.events]⟩
  exact ⟨hload, hitems, ⟨evaluatedAt, mechanisms, _, _, hwindow,
    ⟨runEvent, capacityId, availabilityId, rfl⟩, hevents⟩, hbooked,
    ⟨_, validateCapacityHistory_eq_ok.mpr ⟨h.capacitySize hblank, scan, parsed, 0, hreads, rfl⟩⟩,
    h.loads, h.same.claims.trans hblank.claims, h.same.receipts.trans hblank.receipts,
    h.same.snapshot.trans hblank.snapshot, h.same.driverSteps.trans hblank.driverSteps⟩

/-- A run that was just admitted. -/
theorem Store.admitInternal_ok {w : Platform} {s s' : Store}
    {packetBytes admissionBytes profileBytes : Bytes} {evaluatedAt : Instant}
    {mechanisms : RunMechanisms} {runId : String}
    (hbytes : ∀ value, mechanisms.capacityRequirement = some value →
      validateCapacityRequirementBytes w value.2 = .ok value.1)
    (h : s.admitInternal w packetBytes admissionBytes profileBytes evaluatedAt mechanisms =
      .ok (runId, s')) :
    ∃ c tx, s.runs[runId]? = none ∧ Admitted w runId c tx ∧
      CapacityOpens tx.tables mechanisms.capacityRequirement ∧ s.sequence ≤ tx.sequence ∧
      s.draws ≤ tx.draws ∧ s' = s.commit runId tx := by
  simp only [admitInternal, bind_eq_ok, refuseIf_eq_ok, Except.ok.injEq, Prod.mk.injEq] at h
  obtain ⟨c, hcontracts, _, habsent, tx, hadmit, rfl, rfl⟩ := h
  obtain ⟨hload, hwindow, hitems, hbound⟩ :=
    admittedContracts_ok hcontracts mechanisms.executionAvailability.isSome
  obtain ⟨runEvent, capacityId, availabilityId, hstarted⟩ := Tx.admitRun_ok hadmit
  exact ⟨c, tx, Std.ExtTreeMap.getElem?_eq_none_of_contains_eq_false habsent,
    hstarted.admitted ⟨rfl, rfl, rfl, rfl, rfl, rfl⟩ (hload _ hstarted.same.run) hwindow hitems
      fun value hvalue => ⟨hbytes value hvalue, hbound value hvalue⟩,
    AdmissionEvents.capacityOpens ⟨runEvent, capacityId, availabilityId, rfl⟩ hstarted.events,
    hstarted.sequence, hstarted.draws, rfl⟩

end Nightshift
