import Nightshift.Lib.Cadence
import Nightshift.PostureBench
import Nightshift.SavedCheckRetention

/-!
# Slots tile the time line

The two schedules of the daemon number their occurrences by whole cadences since
the first one: the saved check from its epoch, the obligation of an inventory
entry from its first due time and a fixed jitter. Both cut the elapsed time down
to whole seconds before they divide it. An instant still belongs to exactly one
occurrence, the one whose slot has begun and whose next slot has not.
-/

namespace Nightshift.SavedCheck

open Checked Diagnostic Canonical

namespace SavedCheckScheduleV1

/-- When an occurrence is due, on the unbounded time line. -/
def dueAt (policy : SavedCheckScheduleV1) (k : Nat) : Instant :=
  policy.epoch + (k * policy.intervalSeconds : Nat) * 1000000000

/-- The last instant an occurrence may be answered at. -/
def latestAt (policy : SavedCheckScheduleV1) (k : Nat) : Instant :=
  policy.dueAt k + (policy.admissibleDelaySeconds : Nat) * 1000000000

/-- The slot of an occurrence. -/
def slotNumbered (w : SavedCheckPlatform) (policy : SavedCheckScheduleV1) (k : Nat) :
    RecurrenceSlotV1 :=
  let open_ : RecurrenceSlotV1 :=
    { schema := slotSchemaV1
      slotId := ""
      policyId := policy.policyId
      configurationVersion := w.sha256 (w.scheduleCanonical policy)
      subjectId := policy.subjectId
      scopeId := policy.scopeId
      schedulerClockId := policy.schedulerClockId
      nominalDueAt := policy.dueAt k
      latestAdmissible := ⟨policy.schedulerClockId, policy.latestAt k⟩
      occurrence := k
      trigger := .scheduled
      catchUpOf := none }
  { open_ with slotId := w.sha256 (w.recurrenceSlotCanonical open_) }

/-- The request of an occurrence, whenever it is selected. -/
def requestNumbered (w : SavedCheckPlatform) (policy : SavedCheckScheduleV1) (k : Nat) :
    SavedCheckDueRequestV1 where
  schema := requestSchema
  policyDigest := w.sha256 (w.scheduleCanonical policy)
  slot := policy.slotNumbered w k
  evaluationId := w.sha256
    (w.requestIdentityCanonical requestSchema (policy.slotNumbered w k).slotId)
  definitionReference := policy.definitionReference
  definitionDigest := policy.definitionDigest
  sourceIdentity := policy.sourceIdentity

theorem interval_pos {policy : SavedCheckScheduleV1} {u : Unit} (h : policy.validate = .ok u) :
    0 < policy.intervalSeconds := by
  simp only [validate, bind_eq_ok, refuseIf_eq_ok] at h
  obtain ⟨_, -, _, -, _, -, hbounds⟩ := h
  simp only [Bool.or_eq_false_iff, decide_eq_false_iff_not] at hbounds
  omega

/-- The cells of the cadence begin at the due times. -/
theorem mem_cell_iff {policy : SavedCheckScheduleV1} {at_ : Instant} {k : Nat} :
    at_ ∈ Cadence.cell policy.epoch (1000000000 * policy.intervalSeconds : Nat) k ↔
      policy.dueAt k ≤ at_ ∧ at_ < policy.dueAt (k + 1) := by
  have hstart : ∀ n, Cadence.start policy.epoch (1000000000 * policy.intervalSeconds : Nat) n =
      policy.dueAt n := by
    intro n
    simp only [Cadence.start, dueAt, Nat.cast_mul, Nat.cast_ofNat]
    ring
  rw [Cadence.mem_cell, hstart, hstart]

theorem occurrence_iff {policy : SavedCheckScheduleV1} {at_ : Instant}
    (hvalid : policy.validate = .ok ()) (hlate : policy.epoch ≤ at_) {k : Nat} :
    (at_ - policy.epoch).toNat / 1000000000 / policy.intervalSeconds = k ↔
      policy.dueAt k ≤ at_ ∧ at_ < policy.dueAt (k + 1) := by
  rw [← mem_cell_iff, Cadence.mem_cell_iff_units (by decide) (interval_pos hvalid) hlate]
  exact eq_comm

variable {w : SavedCheckPlatform} {policy : SavedCheckScheduleV1} {clock : String} {at_ : Instant}

/-- The slot of an instant is the slot of the occurrence it belongs to. -/
theorem slotAt_eq_ok {slot : RecurrenceSlotV1}
    (h : policy.slotAt w (w.sha256 (w.scheduleCanonical policy)) at_ = .ok slot) :
    slot = policy.slotNumbered w
      ((at_ - policy.epoch).toNat / 1000000000 / policy.intervalSeconds) := by
  simp only [slotAt, bind_eq_ok, okOr_eq_ok, mapErr_eq_ok, Except.ok.injEq] at h
  obtain ⟨due, hdue, latest, hlatest, _, -, rfl⟩ := h
  have hdue := checkedAddSeconds_eq_some hdue
  have hlatest := checkedAddSeconds_eq_some hlatest
  subst hdue hlatest
  simp only [slotNumbered, dueAt, latestAt, Nat.cast_mul]

/-- A scheduled slot that is due is missed exactly behind its last admissible instant. -/
theorem timingAt_missed {w : CanonicalPlatform} {slot : RecurrenceSlotV1} {timing : SlotTimingV1}
    (h : slot.timingAt w clock at_ = .ok timing) :
    slot.nominalDueAt ≤ at_ ∧ (timing = .missed ↔ slot.latestAdmissible.at_ < at_) := by
  simp only [RecurrenceSlotV1.timingAt, bind_eq_ok, refuseIf_eq_ok, decide_eq_false_iff_not] at h
  obtain ⟨_, -, _, -, _, hdue, admitted, hadmitted, h⟩ := h
  simp only [invalid, mapErr_eq_ok, RecurrenceLatestAdmissibleV1.admits, bind_eq_ok,
    refuseIf_eq_ok, Except.ok.injEq] at hadmitted
  obtain ⟨_, -, _, -, _, -, rfl⟩ := hadmitted
  refine ⟨Int.not_lt.mp hdue, ?_⟩
  by_cases hadmits : at_ ≤ slot.latestAdmissible.at_
  · have hlate := Int.not_lt.mpr hadmits
    simp only [hadmits, decide_true, Bool.not_true, Bool.false_eq_true, if_false] at h
    have hanswered : timing ≠ .missed := by
      rintro rfl
      split at h
      · cases h
      · split at h <;> cases h
    simp only [hanswered, hlate]
  · have hlate := Int.not_le.mp hadmits
    simp only [hadmits, decide_false, Bool.not_false, if_true, Except.ok.injEq] at h
    simp only [← h, hlate]

/-- What a selection at or behind the epoch says. -/
theorem select_eq_ok {selection : SelectionV1} (hlate : policy.epoch ≤ at_)
    (h : policy.select w clock at_ = .ok selection) :
    ∃ k : Nat, policy.validate = .ok () ∧
      (∀ n, n = k ↔ policy.dueAt n ≤ at_ ∧ at_ < policy.dueAt (n + 1)) ∧
      selection = if at_ ≤ policy.latestAt k then .due (policy.requestNumbered w k)
        else .missed (policy.slotNumbered w k) := by
  simp only [select, bind_eq_ok, refuseIf_eq_ok] at h
  obtain ⟨_, hvalid, _, -, h⟩ := h
  have hepoch : ¬ at_ < policy.epoch := Int.not_lt.mpr hlate
  simp only [hepoch, if_false, bind_eq_ok, mapErr_eq_ok] at h
  obtain ⟨slot, hslot, timing, htiming, h⟩ := h
  have hslot := slotAt_eq_ok hslot
  generalize hk : (at_ - policy.epoch).toNat / 1000000000 / policy.intervalSeconds = k at hslot
  subst hslot
  have hmissed := (timingAt_missed htiming).2
  refine ⟨k, hvalid, fun n => ?_, ?_⟩
  · rw [← occurrence_iff hvalid hlate, hk]
    exact eq_comm
  · by_cases hmiss : timing = .missed
    · have hpast : ¬ at_ ≤ policy.latestAt k := Int.not_le.mpr (hmissed.mp hmiss)
      simp only [hmiss, if_true, Except.ok.injEq] at h
      rw [if_neg hpast, ← h]
    · have hopen : at_ ≤ policy.latestAt k := Int.not_lt.mp fun hpast => hmiss (hmissed.mpr hpast)
      simp only [hmiss, if_false, Except.ok.injEq] at h
      rw [if_pos hopen, ← h]
      rfl

end SavedCheckScheduleV1

/-- `selection.slot` -/
def SelectionV1.slot : SelectionV1 → Option RecurrenceSlotV1
  | .notDue => none
  | .missed slot => some slot
  | .due request => some request.slot

/-- `selection.selection == Selection::Due` -/
def SelectionV1.isDue : SelectionV1 → Bool
  | .due _ => true
  | _ => false

/-- `selection.selection == Selection::Missed` -/
def SelectionV1.isMissed : SelectionV1 → Bool
  | .missed _ => true
  | _ => false

end Nightshift.SavedCheck

namespace Nightshift.Diagnostic

open Checked

theorem checkedSeconds_iff {value : Nat} {field : String} {duration : Duration} :
    checkedSeconds value field = .ok duration ↔
      value ≤ maximumI64 / 1000 ∧ duration = value * 1000000000 := by
  have hlimit : maximumI64 / 1000 ≤ maximumI64 := Nat.div_le_self _ _
  simp only [checkedSeconds, bind_eq_ok, refuseIf_eq_ok, Except.ok.injEq,
    decide_eq_false_iff_not, exists_const]
  constructor
  · rintro ⟨-, hfits, rfl⟩
    exact ⟨Nat.not_lt.mp hfits, rfl⟩
  · rintro ⟨hfits, rfl⟩
    exact ⟨by omega, by omega, rfl⟩

theorem checkedAddSigned_iff {at_ sum : Instant} {duration : Duration} :
    checkedAddSigned at_ duration = some sum ↔
      sum = at_ + duration ∧ minimumInstant ≤ sum ∧ sum ≤ maximumInstant := by
  unfold checkedAddSigned
  constructor
  · intro h
    split at h
    · rename_i hrange
      cases h
      exact ⟨rfl, hrange⟩
    · cases h
  · rintro ⟨rfl, hrange⟩
    exact if_pos hrange

/-- The due times of a slot, each step of the arithmetic written out. -/
theorem slotDueAt_iff {w : DiagnosticPlatform} {policy : SchedulePolicy} {key : DiagnosticKey}
    {k : Nat} {due : Instant} : slotDueAt w policy key k = .ok due ↔
      policy.validate w = .ok () ∧ ∃ first, w.parseFromRfc3339 policy.firstDueAt = .ok first ∧
        policy.cadenceSeconds * k ≤ maximumI64 / 1000 ∧
        minimumInstant ≤ first + (policy.cadenceSeconds * k : Nat) * 1000000000 ∧
        first + (policy.cadenceSeconds * k : Nat) * 1000000000 ≤ maximumInstant ∧
        deterministicJitter w policy key ≤ maximumI64 / 1000 ∧
        due = first + (policy.cadenceSeconds * k : Nat) * 1000000000 +
          deterministicJitter w policy key * 1000000000 ∧
        minimumInstant ≤ due ∧ due ≤ maximumInstant := by
  have hword : maximumI64 / 1000 < u64Limit := by decide
  simp only [slotDueAt, bind_eq_ok, okOr_eq_ok, refuseIf_eq_ok, parseTime_eq_ok,
    checkedSeconds_iff, checkedAddSigned_iff, decide_eq_false_iff_not]
  constructor
  · rintro ⟨_, hpolicy, first, hfirst, _, -, _, ⟨hfits, rfl⟩, _, ⟨rfl, hlower, hupper⟩, _,
      ⟨hjitter, rfl⟩, rfl, hrange⟩
    exact ⟨hpolicy, first, hfirst, hfits, hlower, hupper, hjitter, rfl, hrange⟩
  · rintro ⟨hpolicy, first, hfirst, hfits, hlower, hupper, hjitter, rfl, hrange⟩
    exact ⟨_, hpolicy, first, hfirst, (), by omega, _, ⟨hfits, rfl⟩, _, ⟨rfl, hlower, hupper⟩, _,
      ⟨hjitter, rfl⟩, rfl, hrange⟩

/-- The slot has begun, and the next slot has not or has no representable due time. -/
def Covers (w : DiagnosticPlatform) (policy : SchedulePolicy) (key : DiagnosticKey) (k : Nat)
    (at_ : Instant) : Prop :=
  ∃ due, slotDueAt w policy key k = .ok due ∧ due ≤ at_ ∧
    ∀ next, slotDueAt w policy key (k + 1) = .ok next → at_ < next

variable {w : DiagnosticPlatform} {policy : SchedulePolicy} {key : DiagnosticKey} {zero at_ : Instant}

/-- The whole time line is shorter than a duration may be, so a representable sum has representable
parts. -/
theorem offset_in_range {first : Int} {offset jitter : Nat}
    (hlower : (-8334601228800000000000 : Int) ≤ first)
    (hupper : first + (offset : Nat) * 1000000000 + (jitter : Nat) * 1000000000 ≤
      (8210266876799999999999 : Int)) :
    offset ≤ 9223372036854775 ∧
      (-8334601228800000000000 : Int) ≤ first + (offset : Nat) * 1000000000 ∧
      first + (offset : Nat) * 1000000000 ≤ (8210266876799999999999 : Int) ∧
      (-8334601228800000000000 : Int) ≤
        first + (offset : Nat) * 1000000000 + (jitter : Nat) * 1000000000 := by
  omega

/-- Behind a representable slot 0, exactly the slots up to the end of the time line have due
times, and these are the starts of the cadence. -/
theorem slotDueAt_behind (hzero : slotDueAt w policy key 0 = .ok zero) {k : Nat} {due : Instant} :
    slotDueAt w policy key k = .ok due ↔
      due = Cadence.start zero (1000000000 * policy.cadenceSeconds : Nat) k ∧
        due ≤ maximumInstant := by
  obtain ⟨hpolicy, first, hfirst, -, hlower, -, hjitter, hzero, hrange⟩ := slotDueAt_iff.mp hzero
  simp only [Nat.mul_zero, Nat.cast_zero, zero_mul, add_zero] at hlower hzero
  have hstart : Cadence.start zero (1000000000 * policy.cadenceSeconds : Nat) k =
      first + (policy.cadenceSeconds * k : Nat) * 1000000000 +
        deterministicJitter w policy key * 1000000000 := by
    simp only [Cadence.start, hzero, Nat.cast_mul, Nat.cast_ofNat]
    ring
  rw [slotDueAt_iff, hstart]
  constructor
  · rintro ⟨-, first', hfirst', -, -, -, -, rfl, -, hupper⟩
    obtain rfl : first = first' := by simpa [hfirst] using hfirst'
    exact ⟨rfl, hupper⟩
  · rintro ⟨rfl, hupper⟩
    have hoffset := offset_in_range hlower hupper
    exact ⟨hpolicy, first, hfirst, hoffset.1, hoffset.2.1, hoffset.2.2.1, hjitter, rfl,
      hoffset.2.2.2, hupper⟩

theorem covers_iff (hzero : slotDueAt w policy key 0 = .ok zero) (hrange : at_ ≤ maximumInstant)
    {k : Nat} : Covers w policy key k at_ ↔
      at_ ∈ Cadence.cell zero (1000000000 * policy.cadenceSeconds : Nat) k := by
  simp only [Covers, slotDueAt_behind hzero, Cadence.mem_cell]
  constructor
  · rintro ⟨_, ⟨rfl, -⟩, hbegun, hnext⟩
    refine ⟨hbegun, ?_⟩
    by_contra hlate
    have hlate := Int.not_lt.mp hlate
    exact absurd (hnext _ ⟨rfl, Int.le_trans hlate hrange⟩) (Int.not_lt.mpr hlate)
  · rintro ⟨hbegun, hnext⟩
    exact ⟨_, ⟨rfl, Int.le_trans hbegun hrange⟩, hbegun, fun _ h => h.1 ▸ hnext⟩

/-- The occurrence of an instant is the slot that covers it. -/
theorem expectedOccurrenceAt_iff (hzero : slotDueAt w policy key 0 = .ok zero)
    (hrange : at_ ≤ maximumInstant) (hlate : zero ≤ at_) {k : Nat} :
    expectedOccurrenceAt w policy key at_ = .ok (some k) ↔ Covers w policy key k at_ := by
  obtain ⟨hpolicy, -⟩ := slotDueAt_iff.mp hzero
  have hpos := SchedulePolicy.cadence_pos hpolicy
  have hfloor : ((at_ - zero).tdiv 1000000000).toNat = (at_ - zero).toNat / 1000000000 := by
    obtain ⟨elapsed, helapsed⟩ := Int.eq_ofNat_of_zero_le (Int.sub_nonneg.mpr hlate)
    rw [helapsed]
    rfl
  rw [covers_iff hzero hrange, Cadence.mem_cell_iff_units (by decide) hpos hlate]
  simp only [expectedOccurrenceAt, hzero, ok_bind, Int.not_lt.mpr hlate, if_false, hfloor,
    Except.ok.injEq, Option.some.injEq]
  exact eq_comm

/-- A slot with a due time can be made. -/
theorem makeRunSlot_of_due {k : Nat} {due : Instant} (h : slotDueAt w policy key k = .ok due) :
    ∃ slot, makeRunSlot w policy key k = .ok slot ∧ slot.occurrence = k := by
  simp [makeRunSlot, h]

end Nightshift.Diagnostic

namespace Nightshift.ScheduleTiling

open Checked SavedCheck Diagnostic

variable {w : SavedCheckPlatform} {policy policy' : SavedCheckScheduleV1} {clock clock' : String}
  {at_ at' : Instant} {request request' : SavedCheckDueRequestV1}

/-- A due selection carries the request of the occurrence, whatever the instant was. -/
theorem due_eq_requestNumbered (h : policy.select w clock at_ = .ok (.due request)) :
    request = policy.requestNumbered w request.slot.occurrence := by
  by_cases hlate : policy.epoch ≤ at_
  · obtain ⟨k, -, -, hselection⟩ := SavedCheckScheduleV1.select_eq_ok hlate h
    split at hselection
    · cases hselection
      rfl
    · cases hselection
  · have hepoch : at_ < policy.epoch := Int.not_le.mp hlate
    simp [SavedCheckScheduleV1.select, bind_eq_ok, hepoch] at h

/-- Due selections share a request only with the selections of their policy and occurrence. -/
theorem due_request_iff (h : policy.select w clock at_ = .ok (.due request))
    (h' : policy'.select w clock' at' = .ok (.due request'))
    (hdigest : w.sha256 (w.scheduleCanonical policy) = w.sha256 (w.scheduleCanonical policy') →
      policy = policy') :
    request = request' ↔ policy = policy' ∧ request.slot.occurrence = request'.slot.occurrence := by
  have hrequest := due_eq_requestNumbered h
  have hrequest' := due_eq_requestNumbered h'
  constructor
  · intro heq
    have hpolicy : request.policyDigest = request'.policyDigest := by rw [heq]
    rw [hrequest, hrequest'] at hpolicy
    exact ⟨hdigest hpolicy, by rw [heq]⟩
  · rintro ⟨rfl, hoccurrence⟩
    rw [hrequest, hrequest', hoccurrence]

/-- Occurrence selection: the saved check numbers every instant from its epoch on by the one
occurrence it belongs to, answers it exactly up to its last admissible instant, and names it by one
request; an obligation numbers every instant from its slot 0 on by the one slot that covers it. -/
theorem occurrences_tile :
    (∀ (w : SavedCheckPlatform) (policy : SavedCheckScheduleV1) (clock : String) (at_ : Instant)
        (selection : SelectionV1), policy.epoch ≤ at_ → policy.select w clock at_ = .ok selection →
      0 < policy.intervalSeconds ∧ ∃ slot, selection.slot = some slot ∧
        (∀ k, slot.occurrence = k ↔ policy.dueAt k ≤ at_ ∧ at_ < policy.dueAt (k + 1)) ∧
        (selection.isDue ↔ at_ ≤ policy.latestAt slot.occurrence) ∧
        (selection.isMissed ↔ ¬ at_ ≤ policy.latestAt slot.occurrence) ∧
        (selection.isMissed → selection.request = none)) ∧
    (∀ (w : SavedCheckPlatform) (policy policy' : SavedCheckScheduleV1) (clock clock' : String)
        (at_ at' : Instant) (request request' : SavedCheckDueRequestV1),
      policy.select w clock at_ = .ok (.due request) →
      policy'.select w clock' at' = .ok (.due request') →
      (w.sha256 (w.scheduleCanonical policy) = w.sha256 (w.scheduleCanonical policy') →
        policy = policy') →
      (request = request' ↔
        policy = policy' ∧ request.slot.occurrence = request'.slot.occurrence)) ∧
    ∀ (w : DiagnosticPlatform) (policy : SchedulePolicy) (key : DiagnosticKey),
      policy.validate w = .ok () →
      0 < policy.cadenceSeconds ∧ 0 < min (policy.jitterBoundSeconds + 1) (u64Limit - 1) ∧
      (∀ error, slotDueAt w policy key 0 = .error error →
        ∀ at_, expectedOccurrenceAt w policy key at_ = .error error) ∧
      ∀ first, slotDueAt w policy key 0 = .ok first → ∀ at_ ≤ maximumInstant,
        (expectedOccurrenceAt w policy key at_ = .ok none ↔ at_ < first) ∧
        (first ≤ at_ → ∃ k slot, expectedOccurrenceAt w policy key at_ = .ok (some k) ∧
          (∀ l, l = k ↔ Covers w policy key l at_) ∧ makeRunSlot w policy key k = .ok slot) := by
  refine ⟨?_, ?_, ?_⟩
  · intro w policy clock at_ selection hlate h
    obtain ⟨k, hvalid, hcell, rfl⟩ := SavedCheckScheduleV1.select_eq_ok hlate h
    have hpos := SavedCheckScheduleV1.interval_pos hvalid
    by_cases hopen : at_ ≤ policy.latestAt k
    · rw [if_pos hopen]
      refine ⟨hpos, _, rfl, fun n => eq_comm.trans (hcell n), ?_⟩
      simpa [SelectionV1.isDue, SelectionV1.isMissed, SavedCheckScheduleV1.requestNumbered,
        SavedCheckScheduleV1.slotNumbered] using hopen
    · rw [if_neg hopen]
      refine ⟨hpos, _, rfl, fun n => eq_comm.trans (hcell n), ?_⟩
      simpa [SelectionV1.isDue, SelectionV1.isMissed, SelectionV1.request,
        SavedCheckScheduleV1.slotNumbered] using hopen
  · intro w policy policy' clock clock' at_ at' request request' h h' hdigest
    exact due_request_iff h h' hdigest
  · intro w policy key hvalid
    refine ⟨SchedulePolicy.cadence_pos hvalid, by simp [u64Limit], ?_, ?_⟩
    · intro error hzero at_
      simp [expectedOccurrenceAt, hzero]
    · intro first hzero at_ hrange
      constructor
      · simp only [expectedOccurrenceAt, hzero, ok_bind]
        by_cases hearly : at_ < first <;> simp [hearly]
      · intro hlate
        have hsome : ∃ k, expectedOccurrenceAt w policy key at_ = .ok (some k) := by
          simp only [expectedOccurrenceAt, hzero, ok_bind, Int.not_lt.mpr hlate, if_false]
          exact ⟨_, rfl⟩
        obtain ⟨k, hk⟩ := hsome
        have hcovers := (expectedOccurrenceAt_iff hzero hrange hlate).mp hk
        obtain ⟨due, hdue, -⟩ := hcovers
        obtain ⟨slot, hslot, -⟩ := makeRunSlot_of_due hdue
        refine ⟨k, slot, hk, fun l => ?_, hslot⟩
        rw [← expectedOccurrenceAt_iff hzero hrange hlate, hk]
        simp [eq_comm]

end Nightshift.ScheduleTiling

namespace Nightshift.ScheduleBench

open Checked Diagnostic SavedCheck PostureBench

/-- Its second slot lies behind the last instant. -/
def sparse : SchedulePolicy := { schedule with cadenceSeconds := 10000000000000 }

/-- Its jitter may take the first slot behind the last instant, and here does. -/
def scattered : SchedulePolicy := { schedule with jitterBoundSeconds := 10000000000000 }

def scattering : DiagnosticPlatform := { platform with sha256Word := fun _ => 10000000000000 }

def key : DiagnosticKey := entry.binding.key

/-- Two accepted schedules at an instant of their first day: one has no due time for the slot after
the expected one, the other has no expected slot and does not say that it is early either. -/
theorem slot_times_can_be_unrepresentable :
    (sparse.validate platform = .ok () ∧
      expectedOccurrenceAt platform sparse key evaluatedAt = .ok (some 0) ∧
      ¬ ∃ next, slotDueAt platform sparse key 1 = .ok next ∧ evaluatedAt < next) ∧
    (scattered.validate scattering = .ok () ∧
      expectedOccurrenceAt scattering scattered key evaluatedAt =
        .error "schedule jitter arithmetic overflow") := by
  have hnext : slotDueAt platform sparse key 1 = .error "schedule cadence arithmetic overflow" := by
    decide +kernel
  refine ⟨⟨by decide +kernel, by decide +kernel, ?_⟩, by decide +kernel, by decide +kernel⟩
  rintro ⟨next, hslot, -⟩
  rw [hnext] at hslot
  cases hslot

end Nightshift.ScheduleBench

namespace Nightshift.SavedCheckBench

open Checked SavedCheck CanonicalBench

/-- One minute is due from the epoch on, and the rest of the first hour is missed. -/
theorem first_hour_is_tiled :
    (∃ slot, (SelectionV1.due request).slot = some slot ∧
      (∀ k, slot.occurrence = k ↔ policy.dueAt k ≤ now ∧ now < policy.dueAt (k + 1))) ∧
    Diagnostic.expectedOccurrenceAt PostureBench.platform PostureBench.schedule ScheduleBench.key
      PostureBench.evaluatedAt = .ok (some 0) := by
  obtain ⟨-, -, hselected, -⟩ := closed_checks
  obtain ⟨hchecks, -, hobligations⟩ := ScheduleTiling.occurrences_tile
  obtain ⟨-, slot, hslot, hcell, -⟩ := hchecks _ policy "clock-1" now _ (by decide) hselected
  refine ⟨⟨slot, hslot, hcell⟩, ?_⟩
  have hzero : Diagnostic.slotDueAt PostureBench.platform PostureBench.schedule ScheduleBench.key 0 =
      .ok 1767225600000000000 := by
    decide +kernel
  obtain ⟨-, -, -, hlate⟩ := hobligations PostureBench.platform PostureBench.schedule
    ScheduleBench.key (by decide +kernel)
  obtain ⟨k, -, hk, hcovers, -⟩ := (hlate _ hzero PostureBench.evaluatedAt (by decide)).2 (by decide)
  have hfirst : Diagnostic.Covers PostureBench.platform PostureBench.schedule ScheduleBench.key 0
      PostureBench.evaluatedAt := by
    refine ⟨_, hzero, by decide, fun next hnext => ?_⟩
    have hone : Diagnostic.slotDueAt PostureBench.platform PostureBench.schedule ScheduleBench.key 1 =
        .ok 1767229200000000000 := by
      decide +kernel
    rw [hone] at hnext
    cases hnext
    decide
  rw [hk, ← (hcovers 0).mpr hfirst]

end Nightshift.SavedCheckBench
