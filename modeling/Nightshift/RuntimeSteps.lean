import Nightshift.CanonicalHistory
import Nightshift.CanonicalRuntime
import Nightshift.Lib.Trail

/-!
# The steps of a runtime process

What one action of a runtime process may do, given the actions the same process
took before it. A new observation rests on the origin head and the compositions
the process has read; AG is asked only behind the commit of the prepared request
and its claim. Everything else is quiet. The three accounts are proved together
along each call, and every run is made of such actions.
-/

namespace Nightshift.Canonical

open Checked Diagnostic Interleave

/-! ## Quiet moves of the store -/

/-- The recorded observation of a cycle. -/
def observationAt (s : Store) (c : String) : Option ObservationRecordV1 :=
  (s.cycles[c]?).bind (·.snapshot.observation)

/-- No observation is added. -/
def Unobserving (s s' : Store) : Prop :=
  ∀ c o, observationAt s' c = some o → observationAt s c = some o

/-- A transition by a closure that makes lawful moves and adds no observation. -/
def Turns (w : CanonicalPlatform) (s s' : Store) : Prop :=
  ∃ c d eventKind now mutate after, (∀ before mutated, mutate before = .ok mutated →
    Mutated before mutated ∧ mutated.observation = before.observation) ∧
    transitionTransaction w c d eventKind now mutate s = .ok (after, s')

/-- What every store operation but the recording of an observation does. -/
def QuietMove (w : CanonicalPlatform) (s s' : Store) : Prop :=
  Turns w s s' ∨ (Promise w s s' ∧ Unobserving s s')

section Store

variable {w : CanonicalPlatform} {s s' : Store} {c d eventKind : String} {now : Instant}
  {mutate : ObservationCycleV1 → Except CanonicalStoreError ObservationCycleV1}
  {after : ObservationCycleV1}

/-- A transition writes one observation and leaves the others. -/
theorem AdvanceSpec.observation_get {before : ObservationCycleV1}
    (h : AdvanceSpec s s' c eventKind before after) (hid : after.cycleId = c) (c' : String) :
    observationAt s' c' = if c = c' then after.observation else observationAt s c' := by
  subst hid
  rw [Canonical.observationAt, (h.toWritten rfl).cycles_get]
  by_cases hc : after.cycleId = c'
  · simp [hc, Store.cycleRow]
  · simp [hc, Canonical.observationAt]

theorem AdvanceSpec.observation_before {before : ObservationCycleV1}
    (h : AdvanceSpec s s' c eventKind before after) : observationAt s c = before.observation := by
  obtain ⟨row, hrow, rfl⟩ := h.found
  simp [Canonical.observationAt, hrow]

theorem Turns.quiet (h : Turns w s s') (hwf : Wf w s) : Promise w s s' ∧ Unobserving s s' := by
  obtain ⟨c, d, eventKind, now, mutate, after, hmutate, h⟩ := h
  obtain ⟨row, mutated, version, -, -, hmutated, hafter, hid, hfollows, hvalid, hspec⟩ :=
    transitionTransaction_spec hwf (fun _ _ _ _ hm => (hmutate _ _ hm).1) h
  refine ⟨.inr (.advanced c eventKind row.snapshot after hfollows hvalid hspec), ?_⟩
  intro c' o ho
  rw [hspec.observation_get hid] at ho
  split at ho
  · rename_i hc
    subst hc
    have hsame : after.observation = row.snapshot.observation := by
      rw [hafter]
      exact (hmutate _ _ hmutated).2
    rw [hspec.observation_before, ← hsame]
    exact ho
  · exact ho

theorem QuietMove.quiet (h : QuietMove w s s') (hwf : Wf w s) :
    Promise w s s' ∧ Unobserving s s' := by
  rcases h with hturns | hquiet
  · exact hturns.quiet hwf
  · exact hquiet

theorem unobserving_of_claim {cycle : ObservationCycleV1} (hinitial : Initial w cycle)
    (hspec : ClaimSpec s s' cycle eventKind) : Unobserving s s' := by
  intro c' o ho
  rw [observationAt, hspec.toWritten.cycles_get] at ho
  split at ho
  · simp [Store.cycleRow, hinitial.observation] at ho
  · exact ho

end Store

/-! ## Quiet operations -/

section Operations

variable {w : CanonicalPlatform}

theorem quiet_transition {c d eventKind : String} {lease : Option LiveCycleLeaseV1}
    {now : Instant} {mutate : ObservationCycleV1 → Except CanonicalStoreError ObservationCycleV1}
    (hmutate : ∀ before mutated, mutate before = .ok mutated →
      Mutated before mutated ∧ mutated.observation = before.observation) :
    Moves (QuietMove w) (transition w c lease d eventKind now mutate) := by
  refine (Moves.check _).bind fun _ => .commit ?_
  intro s after s' h
  exact .inl ⟨c, d, eventKind, now, mutate, after, hmutate, h⟩

theorem quiet_claim {cycle : ObservationCycleV1} {eventKind : String} (hinitial : Initial w cycle) :
    Moves (QuietMove w) (Call.commit (claimTransaction cycle eventKind)) := by
  refine .commit ?_
  intro s u s' h
  have hspec := claimTransaction_spec hinitial.version hinitial.prior h
  exact .inr ⟨.inr (.claimed cycle eventKind hinitial hspec), unobserving_of_claim hinitial hspec⟩

theorem quiet_claimSlot (uuid : String) (processNonce : Nat) (slot : RecurrenceSlotV1)
    (clock : String) (now : Instant) :
    Moves (QuietMove w) (claimSlot w uuid processNonce slot clock now) := by
  refine (Moves.check _).bind fun _ => (Moves.check _).bind fun _ => .check_bind ?_
  intro _ hvalid
  exact (quiet_claim (initial_initialCycle (.inl rfl) hvalid)).bind fun _ => .pure _

theorem quiet_recordMissed (uuid : String) (slot : RecurrenceSlotV1) (clock : String)
    (now : Instant) (reason : String) :
    Moves (QuietMove w) (recordMissed w uuid slot clock now reason) := by
  refine (Moves.check _).bind fun _ => (Moves.check _).bind fun _ =>
    (Moves.check _).bind fun _ => .check_bind ?_
  intro _ hvalid
  exact (quiet_claim (initial_initialCycle (.inr rfl) hvalid)).bind fun _ => .pure _

theorem quiet_attachAgOccurrence (lease : LiveCycleLeaseV1) (digest : String)
    (ag : AgOccurrenceReferenceV1) (now : Instant) :
    Moves (QuietMove w) (attachAgOccurrence w lease digest ag now) := by
  refine (Moves.check _).bind fun _ => quiet_transition ?_
  intro before mutated h
  refine ⟨attachAgOccurrence_mutated h, ?_⟩
  simp only [Mutate.attachAgOccurrence, bind_eq_ok] at h
  obtain ⟨_, -, _, -, _, -, _, -, h⟩ := h
  cases h
  rfl

theorem quiet_recordAgStatus (cycleId digest : String) (ag : AgOccurrenceReferenceV1)
    (now : Instant) : Moves (QuietMove w) (recordAgStatus w cycleId digest ag now) := by
  refine (Moves.check _).bind fun _ => (readOnly_getCycle w cycleId).moves.bind fun current =>
    (Moves.check _).bind fun _ => ?_
  split
  · exact .pure _
  · refine quiet_transition ?_
    intro before mutated h
    refine ⟨recordAgStatus_mutated h, ?_⟩
    simp only [Mutate.recordAgStatus, bind_eq_ok] at h
    obtain ⟨_, -, _, -, _, -, _, -, h⟩ := h
    cases h
    rfl

theorem quiet_recordAgRefusal (cycleId digest : String) (refusal : AgRefusalReferenceV1)
    (now : Instant) : Moves (QuietMove w) (recordAgRefusal w cycleId digest refusal now) := by
  refine (Moves.check _).bind fun _ => quiet_transition ?_
  intro before mutated h
  refine ⟨recordAgRefusal_mutated h, ?_⟩
  simp only [Mutate.recordAgRefusal, bind_eq_ok] at h
  obtain ⟨_, -, _, -, _, -, _, -, _, -, h⟩ := h
  cases h
  rfl

theorem quiet_recoverAgOccurrence (cycleId digest : String) (ag : AgOccurrenceReferenceV1)
    (now : Instant) : Moves (QuietMove w) (recoverAgOccurrence w cycleId digest ag now) := by
  refine (Moves.check _).bind fun _ => quiet_transition ?_
  intro before mutated h
  refine ⟨recoverAgOccurrence_mutated h, ?_⟩
  simp only [Mutate.recoverAgOccurrence, bind_eq_ok] at h
  obtain ⟨_, -, _, -, _, -, h⟩ := h
  cases h
  rfl

theorem quiet_markRecoveryRequired (cycleId digest reason : String) (now : Instant) :
    Moves (QuietMove w) (markRecoveryRequired w cycleId digest reason now) := by
  refine (Moves.check _).bind fun _ => quiet_transition ?_
  intro before mutated h
  refine ⟨markRecoveryRequired_mutated h, ?_⟩
  simp only [Mutate.markRecoveryRequired, bind_eq_ok] at h
  obtain ⟨_, -, h⟩ := h
  cases h
  rfl

theorem quiet_closeWithoutProposal (lease : LiveCycleLeaseV1) (digest : String) (now : Instant) :
    Moves (QuietMove w) (closeWithoutProposal w lease digest now) := by
  refine quiet_transition ?_
  intro before mutated h
  refine ⟨closeWithoutProposal_mutated h, ?_⟩
  simp only [Mutate.closeWithoutProposal, bind_eq_ok] at h
  obtain ⟨_, -, h⟩ := h
  cases h
  rfl

theorem unobserving_of_cycles {s s' : Store} (h : s'.cycles = s.cycles) : Unobserving s s' := by
  intro c o ho
  rwa [observationAt, h] at ho

theorem cycles_externalTransaction {handoff : ExternalObservationHandoffV1}
    {custody out : ExternalObservationCustodyProvenanceV1} {s s' : Store}
    (h : externalTransaction w handoff custody s = .ok (out, s')) : s'.cycles = s.cycles := by
  unfold externalTransaction at h
  split at h
  · obtain ⟨_, -, h⟩ := bind_eq_ok.mp h
    obtain ⟨_, -, h⟩ := bind_eq_ok.mp h
    split at h
    · cases h
      rfl
    · exact absurd h throw_ne_ok
  · obtain ⟨_, -, h⟩ := bind_eq_ok.mp h
    cases h
    rfl

theorem cycles_steadyTransaction {handoff : SteadyStateObservationHandoffV1}
    {custody out : SteadyStateObservationCustodyV1} {s s' : Store}
    (h : steadyTransaction w handoff custody s = .ok (out, s')) : s'.cycles = s.cycles := by
  unfold steadyTransaction at h
  split at h
  · obtain ⟨_, -, h⟩ := bind_eq_ok.mp h
    obtain ⟨_, -, h⟩ := bind_eq_ok.mp h
    split at h
    · cases h
      rfl
    · exact absurd h throw_ne_ok
  · obtain ⟨_, -, h⟩ := bind_eq_ok.mp h
    cases h
    rfl

theorem quiet_recordExternalObservation (handoff : ExternalObservationHandoffV1)
    (receivedAt : Instant) :
    Moves (QuietMove w) (recordExternalObservation w handoff receivedAt) := by
  refine (Moves.check _).bind fun _ => (Moves.check _).bind fun _ => .commit ?_
  intro s custody s' h
  exact .inr ⟨promise_externalTransaction h, unobserving_of_cycles (cycles_externalTransaction h)⟩

theorem quiet_recordSteadyStateObservation (handoff : SteadyStateObservationHandoffV1)
    (receivedAt : Instant) :
    Moves (QuietMove w) (recordSteadyStateObservation w handoff receivedAt) := by
  refine (Moves.check _).bind fun _ => (Moves.check _).bind fun _ => .commit ?_
  intro s custody s' h
  exact .inr ⟨promise_steadyTransaction h, unobserving_of_cycles (cycles_steadyTransaction h)⟩

end Operations

end Nightshift.Canonical
