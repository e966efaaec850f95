import Nightshift.CanonicalChain

/-!
# Clients of the canonical store

Any number of clients call the operations of the store, each with arguments of
its own, and their actions interleave in any order. Whatever they do, the store
only moves by whole transactions, and every transaction keeps the invariant.
-/

namespace Nightshift.Canonical

open Checked Diagnostic Interleave

/-! ## Transactions -/

/-- Everything a committed transaction of any client does. -/
inductive Commit (w : CanonicalPlatform) (s : Store) : Store → Prop
  | claimed {s' : Store} (cycle : ObservationCycleV1) (eventKind : String) :
      Initial w cycle → ClaimSpec s s' cycle eventKind → Commit w s s'
  | advanced {s' : Store} (cycleId eventKind : String) (before after : ObservationCycleV1) :
      Follows w before after → after.validate w = .ok () →
      AdvanceSpec s s' cycleId eventKind before after → Commit w s s'
  | external (row : ExternalRow) :
      (∀ other ∈ BTreeMap.valuesOf s.external,
        other.observation.observationId ≠ row.observation.observationId) →
      Commit w s { s with external := s.external.insert row.observation.observationId row }
  | steady (row : SteadyRow) :
      (∀ other ∈ BTreeMap.valuesOf s.steady,
        other.observation.observationId ≠ row.observation.observationId) →
      Commit w s { s with steady := s.steady.insert row.observation.observationId row }

/-- What a client promises: it only reads, or commits. -/
def Promise (w : CanonicalPlatform) (s s' : Store) : Prop := s' = s ∨ Commit w s s'

theorem Wf.frame {w : CanonicalPlatform} {s s' : Store} (h : Wf w s) (hslots : s'.slots = s.slots)
    (hcycles : s'.cycles = s.cycles) (hevents : s'.events = s.events)
    (hclaims : s'.claims = s.claims) (hauthoring : s'.authoring = s.authoring)
    (hcustody : s'.custody = s.custody) : Wf w s' where
  backed := by
    intro c row hrow
    rw [hcycles] at hrow
    refine (h.backed c row hrow).frame ?_ (by rw [hslots]) (by rw [hclaims]) (by rw [hauthoring])
      (by rw [hcustody])
    rw [Store.eventsOf, hevents]
    rfl
  slots := by
    rw [hslots, hcycles]
    exact h.slots
  events := by
    rw [hevents, hcycles]
    exact h.events
  claims := by
    rw [hclaims, hcycles]
    exact h.claims
  authoring := by
    rw [hauthoring, hcycles]
    exact h.authoring
  custody := by
    rw [hcustody, hcycles]
    exact h.custody
  occurrences := by
    rw [hclaims]
    exact h.occurrences

theorem Wf.commit {w : CanonicalPlatform} {s s' : Store} (h : Wf w s) (hcommit : Commit w s s') :
    Wf w s' := by
  cases hcommit with
  | claimed cycle eventKind hinitial hspec => exact h.claim hinitial hspec
  | advanced cycleId eventKind before after hfollows hvalid hspec =>
    exact h.advance hfollows hvalid hspec
  | external row => exact h.frame rfl rfl rfl rfl rfl rfl
  | steady row => exact h.frame rfl rfl rfl rfl rfl rfl

theorem Wf.promise {w : CanonicalPlatform} {s s' : Store} (h : Wf w s)
    (hpromise : Promise w s s') : Wf w s' := by
  rcases hpromise with rfl | hcommit
  · exact h
  · exact h.commit hcommit

/-- What a transaction does to one cycle: nothing, or it commits its next snapshot. -/
theorem Commit.on_cycle {w : CanonicalPlatform} {s s' : Store} (hcommit : Commit w s s')
    (h : Wf w s) (c : String) :
    (s'.eventsOf c = s.eventsOf c ∧ s'.cycles[c]? = s.cycles[c]?) ∨
      ∃ cycle eventKind, cycle.cycleId = c ∧ Written s s' cycle eventKind ∧
        ((Initial w cycle ∧ s.cycles[c]? = none ∧ s.eventsOf c = []) ∨
          ∃ row, s.cycles[c]? = some row ∧ Follows w row.snapshot cycle) := by
  cases hcommit with
  | claimed cycle eventKind hinitial hspec =>
    have hwritten := hspec.toWritten
    by_cases hc : cycle.cycleId = c
    · subst hc
      have hnone : s.eventsOf cycle.cycleId = [] := by
        rw [List.eq_nil_iff_forall_not_mem]
        intro event hevent
        obtain ⟨hmem, hid⟩ := Store.mem_eventsOf.mp hevent
        exact not_mem_of_getElem?_eq_none hspec.cycleFree (hid ▸ h.events event hmem)
      exact .inr ⟨cycle, eventKind, rfl, hwritten, .inl ⟨hinitial, hspec.cycleFree, hnone⟩⟩
    · exact .inl ⟨hwritten.eventsOf_other hc, by rw [hwritten.cycles_get, if_neg hc]⟩
  | advanced cycleId eventKind before after hfollows hvalid hspec =>
    obtain ⟨row, hrow, rfl⟩ := hspec.found
    have hid : after.cycleId = cycleId :=
      hfollows.cycleId_eq.trans (h.backed cycleId row hrow).key
    have hwritten := hspec.toWritten hid
    by_cases hc : after.cycleId = c
    · rw [← hid, hc] at hrow
      exact .inr ⟨after, eventKind, hc, hwritten, .inr ⟨row, hrow, hfollows⟩⟩
    · exact .inl ⟨hwritten.eventsOf_other hc, by rw [hwritten.cycles_get, if_neg hc]⟩
  | external row => exact .inl ⟨rfl, rfl⟩
  | steady row => exact .inl ⟨rfl, rfl⟩

/-- The log of a cycle only grows. -/
theorem Promise.eventsOf_grown {w : CanonicalPlatform} {s s' : Store} (h : Promise w s s')
    (hwf : Wf w s) (c : String) : s.eventsOf c <+: s'.eventsOf c := by
  rcases h with rfl | hcommit
  · exact List.prefix_rfl
  · rcases hcommit.on_cycle hwf c with ⟨hevents, -⟩ | ⟨cycle, eventKind, rfl, hwritten, -⟩
    · rw [hevents]
    · rw [hwritten.eventsOf_self]
      exact List.prefix_append _ _

/-! ## Operations -/

/-- The operations a client may call, with their arguments; the UUIDs are what the call draws. -/
inductive Operation where
  | claimSlot (uuid : String) (processNonce : Nat) (slot : RecurrenceSlotV1)
      (schedulerClockId : String) (now : Instant)
  | recordMissed (uuid : String) (slot : RecurrenceSlotV1) (schedulerClockId : String)
      (now : Instant) (reason : String)
  | recordObservation (lease : LiveCycleLeaseV1) (expectedDigest : String)
      (observation : ObservationRecordV1) (attention : AttentionRecordV1)
      (temporalPosture : Option TemporalPostureV1) (now : Instant)
  | prepareAgOccurrence (lease : LiveCycleLeaseV1) (expectedDigest : String)
      (intent : TypedCoarseIntentV2) (request : PreparedAgRequestV1)
      (authoring : PreparedAuthoringEvidenceV1) (now : Instant)
  | attachAgOccurrence (lease : LiveCycleLeaseV1) (expectedDigest : String)
      (ag : AgOccurrenceReferenceV1) (now : Instant)
  | recordAgStatus (cycleId expectedDigest : String) (ag : AgOccurrenceReferenceV1)
      (now : Instant)
  | recordAgRefusal (cycleId expectedDigest : String) (refusal : AgRefusalReferenceV1)
      (now : Instant)
  | recoverAgOccurrence (cycleId expectedDigest : String) (ag : AgOccurrenceReferenceV1)
      (now : Instant)
  | markRecoveryRequired (cycleId expectedDigest reason : String) (now : Instant)
  | closeWithoutProposal (lease : LiveCycleLeaseV1) (expectedDigest : String) (now : Instant)
  | recoverAfterRestart (now : Instant)
  | recordExternalObservation (handoff : ExternalObservationHandoffV1) (receivedAt : Instant)
  | recordSteadyStateObservation (handoff : SteadyStateObservationHandoffV1)
      (receivedAt : Instant)

namespace Operation

def call (w : CanonicalPlatform) : Operation → Call Store CanonicalStoreError Unit
  | claimSlot uuid processNonce slot clock now =>
    (Canonical.claimSlot w uuid processNonce slot clock now).ignore
  | recordMissed uuid slot clock now reason =>
    (Canonical.recordMissed w uuid slot clock now reason).ignore
  | recordObservation lease digest observation attention temporalPosture now =>
    (Canonical.recordObservation w lease digest observation attention temporalPosture now).ignore
  | prepareAgOccurrence lease digest intent request authoring now =>
    (Canonical.prepareAgOccurrence w lease digest intent request authoring now).ignore
  | attachAgOccurrence lease digest ag now =>
    (Canonical.attachAgOccurrence w lease digest ag now).ignore
  | recordAgStatus cycleId digest ag now =>
    (Canonical.recordAgStatus w cycleId digest ag now).ignore
  | recordAgRefusal cycleId digest refusal now =>
    (Canonical.recordAgRefusal w cycleId digest refusal now).ignore
  | recoverAgOccurrence cycleId digest ag now =>
    (Canonical.recoverAgOccurrence w cycleId digest ag now).ignore
  | markRecoveryRequired cycleId digest reason now =>
    (Canonical.markRecoveryRequired w cycleId digest reason now).ignore
  | closeWithoutProposal lease digest now =>
    (Canonical.closeWithoutProposal w lease digest now).ignore
  | recoverAfterRestart now => (Canonical.recoverAfterRestart w now).ignore
  | recordExternalObservation handoff receivedAt =>
    (Canonical.recordExternalObservation w handoff receivedAt).ignore
  | recordSteadyStateObservation handoff receivedAt =>
    (Canonical.recordSteadyStateObservation w handoff receivedAt).ignore

/-- The cycle and the digest a transition compares and sets. -/
def target : Operation → Option (String × String)
  | recordObservation lease digest _ _ _ _ => some (lease.cycleId, digest)
  | prepareAgOccurrence lease digest _ _ _ _ => some (lease.cycleId, digest)
  | attachAgOccurrence lease digest _ _ => some (lease.cycleId, digest)
  | recordAgStatus cycleId digest _ _ => some (cycleId, digest)
  | recordAgRefusal cycleId digest _ _ => some (cycleId, digest)
  | recoverAgOccurrence cycleId digest _ _ => some (cycleId, digest)
  | markRecoveryRequired cycleId digest _ _ => some (cycleId, digest)
  | closeWithoutProposal lease digest _ => some (lease.cycleId, digest)
  | _ => none

/-- The one operation that runs more than one transaction. -/
def sweeps : Operation → Bool
  | recoverAfterRestart _ => true
  | _ => false

end Operation

/-! ## What an operation may write -/

/-- A transition of cycle `c` at digest `d`, by a closure that makes only lawful moves. -/
def Transits (w : CanonicalPlatform) (c d : String) (s s' : Store) : Prop :=
  ∃ eventKind now mutate after, (∀ before mutated, mutate before = .ok mutated →
    Mutated before mutated) ∧ transitionTransaction w c d eventKind now mutate s = .ok (after, s')

section Readers

variable (w : CanonicalPlatform)

theorem readOnly_validateClaims (cycle : ObservationCycleV1) : ReadOnly (validateClaims w cycle) := by
  refine Moves.bind ?_ fun _ => Moves.bind ?_ fun _ => ?_
  · exact (Moves.read _).bind fun _ => .check _
  · exact (Moves.read _).bind fun _ => .check _
  · exact (Moves.read _).bind fun _ => .check _

theorem readOnly_validateAll (cycles : List ObservationCycleV1) : ReadOnly (validateAll w cycles) := by
  refine (Moves.check _).bind fun _ => ?_
  exact (Moves.forEach fun cycle _ => readOnly_validateClaims w cycle).bind fun _ => .pure _

theorem readOnly_listCycles : ReadOnly (listCycles w) :=
  (Moves.read _).bind fun _ => readOnly_validateAll w _

theorem readOnly_findCyclesByObservationId (observationId : String) :
    ReadOnly (findCyclesByObservationId w observationId) :=
  (Moves.read _).bind fun _ => readOnly_validateAll w _

theorem readOnly_latestQualifiedObservationInFamily (family : ObservationFamilyKeyV1) :
    ReadOnly (latestQualifiedObservationInFamily w family) :=
  (readOnly_listCycles w).bind fun _ => .pure _

theorem readOnly_getCycle (cycleId : String) : ReadOnly (getCycle w cycleId) := by
  refine (Moves.read _).bind fun _ => (Moves.check _).bind fun _ => (Moves.check _).bind fun _ => ?_
  exact (readOnly_validateClaims w _).bind fun _ => .pure _

theorem readOnly_externalObservationForComposition (observationId : String) :
    ReadOnly (externalObservationForComposition w observationId) := by
  refine (Moves.check _).bind fun _ => (Moves.read _).bind fun row => ?_
  cases row with
  | none => exact .pure _
  | some row =>
    exact (Moves.check _).bind fun _ => (Moves.check _).bind fun _ =>
      (Moves.check _).bind fun _ => .pure _

theorem readOnly_validateExternalCompositionSource (composition : ComposedExternalEvidenceV1) :
    ReadOnly (validateExternalCompositionSource w composition) := by
  refine (Moves.check _).bind fun _ => ?_
  refine (readOnly_externalObservationForComposition w _).bind fun _ => ?_
  exact (Moves.check _).bind fun _ => (Moves.check _).bind fun _ => .check _

end Readers

section Claims

variable {w : CanonicalPlatform}

theorem initial_initialCycle {uuid : String} {slot : RecurrenceSlotV1} {timing : SlotTimingV1}
    {status : CycleStatusV1} {now : Instant} {reason : Option String}
    (hstatus : status = .observing ∨ status = .missed)
    (hvalid : (initialCycle w uuid slot timing status now reason).validate w = .ok ()) :
    Initial w (initialCycle w uuid slot timing status now reason) where
  valid := hvalid
  version := rfl
  prior := rfl
  status := hstatus
  observation := rfl
  attention := rfl
  temporalPosture := rfl
  preparedAgRequest := rfl
  authoring := rfl
  custody := rfl
  ag := rfl

theorem moves_claim {cycle : ObservationCycleV1} {eventKind : String} (hinitial : Initial w cycle) :
    Moves (Promise w) (Call.commit (claimTransaction cycle eventKind)) := by
  refine .commit ?_
  intro s u s' h
  exact .inr (.claimed cycle eventKind hinitial
    (claimTransaction_spec hinitial.version hinitial.prior h))

theorem moves_claimSlot (uuid : String) (processNonce : Nat) (slot : RecurrenceSlotV1)
    (clock : String) (now : Instant) :
    Moves (Promise w) (claimSlot w uuid processNonce slot clock now) := by
  refine (Moves.check _).bind fun _ => (Moves.check _).bind fun _ => .check_bind ?_
  intro _ hvalid
  exact (moves_claim (initial_initialCycle (.inl rfl) hvalid)).bind fun _ => .pure _

theorem moves_recordMissed (uuid : String) (slot : RecurrenceSlotV1) (clock : String)
    (now : Instant) (reason : String) :
    Moves (Promise w) (recordMissed w uuid slot clock now reason) := by
  refine (Moves.check _).bind fun _ => (Moves.check _).bind fun _ =>
    (Moves.check _).bind fun _ => .check_bind ?_
  intro _ hvalid
  exact (moves_claim (initial_initialCycle (.inr rfl) hvalid)).bind fun _ => .pure _

/-- A handoff that collides with nothing is inserted; one that collides changes nothing. -/
theorem promise_externalTransaction {handoff : ExternalObservationHandoffV1}
    {custody out : ExternalObservationCustodyProvenanceV1} {s s' : Store}
    (h : externalTransaction w handoff custody s = .ok (out, s')) : Promise w s s' := by
  unfold externalTransaction at h
  split at h
  · obtain ⟨_, -, h⟩ := bind_eq_ok.mp h
    obtain ⟨_, -, h⟩ := bind_eq_ok.mp h
    split at h
    · cases h
      exact .inl rfl
    · exact absurd h throw_ne_ok
  · rename_i hfind
    obtain ⟨_, -, h⟩ := bind_eq_ok.mp h
    cases h
    refine .inr (.external ⟨handoff.observation, custody⟩ ?_)
    intro other hother heq
    have := List.find?_eq_none.mp hfind other hother
    simp [heq] at this

theorem promise_steadyTransaction {handoff : SteadyStateObservationHandoffV1}
    {custody out : SteadyStateObservationCustodyV1} {s s' : Store}
    (h : steadyTransaction w handoff custody s = .ok (out, s')) : Promise w s s' := by
  unfold steadyTransaction at h
  split at h
  · obtain ⟨_, -, h⟩ := bind_eq_ok.mp h
    obtain ⟨_, -, h⟩ := bind_eq_ok.mp h
    split at h
    · cases h
      exact .inl rfl
    · exact absurd h throw_ne_ok
  · rename_i hfind
    obtain ⟨_, -, h⟩ := bind_eq_ok.mp h
    cases h
    refine .inr (.steady ⟨handoff.observation, custody⟩ ?_)
    intro other hother heq
    have := List.find?_eq_none.mp hfind other hother
    simp [heq] at this

end Claims

section Transitions

variable {w : CanonicalPlatform}

theorem moves_transition {c d eventKind : String} {lease : Option LiveCycleLeaseV1}
    {now : Instant} {mutate : ObservationCycleV1 → Except CanonicalStoreError ObservationCycleV1}
    (hmutate : ∀ before mutated, mutate before = .ok mutated → Mutated before mutated) :
    Moves (Transits w c d) (transition w c lease d eventKind now mutate) := by
  refine (Moves.check _).bind fun _ => .commit ?_
  intro s after s' h
  exact ⟨eventKind, now, mutate, after, hmutate, h⟩

theorem atomic_transition {c d eventKind : String} {lease : Option LiveCycleLeaseV1}
    {now : Instant} {mutate : ObservationCycleV1 → Except CanonicalStoreError ObservationCycleV1} :
    Atomic (transition w c lease d eventKind now mutate) :=
  .bind (.check _) fun _ => .commit _

/-- The parts of `record_observation` before its transition. -/
theorem readOnly_compositionSources (compositions : List ComposedExternalEvidenceV1) :
    ReadOnly (Call.forEach compositions (validateExternalCompositionSource w)) :=
  .forEach fun composition _ => readOnly_validateExternalCompositionSource w composition

/-- A transition committed from a well-formed store, with the closure's own result. -/
theorem transitionTransaction_spec {c d eventKind : String} {now : Instant}
    {mutate : ObservationCycleV1 → Except CanonicalStoreError ObservationCycleV1}
    {after : ObservationCycleV1} {s s' : Store} (hwf : Wf w s)
    (hmutate : ∀ row mutated, s.cycles[c]? = some row → row.snapshot.stateDigest = d →
      mutate row.snapshot = .ok mutated → Mutated row.snapshot mutated)
    (h : transitionTransaction w c d eventKind now mutate s = .ok (after, s')) :
    ∃ row mutated version, s.cycles[c]? = some row ∧ row.snapshot.stateDigest = d ∧
      mutate row.snapshot = .ok mutated ∧
      after = succeed w mutated row.snapshot.stateDigest version now ∧ after.cycleId = c ∧
      Follows w row.snapshot after ∧ after.validate w = .ok () ∧
      AdvanceSpec s s' c eventKind row.snapshot after := by
  simp only [transitionTransaction, bind_eq_ok, okOr_eq_ok] at h
  obtain ⟨before, hbefore, mutated, hmutated, version, hversion, _, hvalid, s₁, hwrite, h⟩ := h
  cases h
  obtain ⟨hdigest, row, hrow, rfl⟩ := predecessor_spec hbefore
  have hmoved := hmutate row mutated hrow hdigest hmutated
  have hversion' : version = row.snapshot.version + 1 := by
    rw [hmoved.version_eq] at hversion
    simp only [checkedAdd] at hversion
    split at hversion
    · cases hversion
      rfl
    · cases hversion
  have hfollows : Follows w row.snapshot
      (succeed w mutated row.snapshot.stateDigest version now) :=
    ⟨mutated, now, hmoved, by rw [hversion']⟩
  exact ⟨row, mutated, version, hrow, hdigest, hmutated, rfl,
    hfollows.cycleId_eq.trans (hwf.backed c row hrow).key, hfollows, hvalid,
    writeSuccessor_spec hwf ⟨row, hrow, rfl⟩ hfollows hwrite⟩

theorem commit_of_transitionTransaction {c d eventKind : String} {now : Instant}
    {mutate : ObservationCycleV1 → Except CanonicalStoreError ObservationCycleV1}
    {after : ObservationCycleV1} {s s' : Store} (hwf : Wf w s)
    (hmutate : ∀ row mutated, s.cycles[c]? = some row → row.snapshot.stateDigest = d →
      mutate row.snapshot = .ok mutated → Mutated row.snapshot mutated)
    (h : transitionTransaction w c d eventKind now mutate s = .ok (after, s')) :
    ∃ before, before.stateDigest = d ∧ Follows w before after ∧ after.validate w = .ok () ∧
      AdvanceSpec s s' c eventKind before after := by
  obtain ⟨row, mutated, version, -, hdigest, -, -, -, hfollows, hvalid, hspec⟩ :=
    transitionTransaction_spec hwf hmutate h
  exact ⟨row.snapshot, hdigest, hfollows, hvalid, hspec⟩

theorem Transits.commit {c d : String} {s s' : Store} (h : Transits w c d s s') (hwf : Wf w s) :
    ∃ eventKind before after, before.stateDigest = d ∧ Follows w before after ∧
      after.validate w = .ok () ∧ AdvanceSpec s s' c eventKind before after := by
  obtain ⟨eventKind, now, mutate, after, hmutate, h⟩ := h
  obtain ⟨before, hadvance⟩ :=
    commit_of_transitionTransaction hwf (fun row mutated _ _ => hmutate row.snapshot mutated) h
  exact ⟨eventKind, before, after, hadvance⟩

theorem Transits.promise {c d : String} {s s' : Store} (h : Transits w c d s s') (hwf : Wf w s) :
    Promise w s s' := by
  obtain ⟨eventKind, before, after, -, hfollows, hvalid, hspec⟩ := h.commit hwf
  exact .inr (.advanced c eventKind before after hfollows hvalid hspec)

end Transitions

/-! ## What each call may do -/

section Calls

variable {w : CanonicalPlatform}

/-- A transition moves the store at its target only. -/
theorem Operation.moves_of_target {operation : Operation} {c d : String}
    (h : operation.target = some (c, d)) : Moves (Transits w c d) (operation.call w) := by
  cases operation <;> simp only [Operation.target, Option.some.injEq, Prod.mk.injEq,
    reduceCtorEq] at h <;> obtain ⟨rfl, rfl⟩ := h
  case recordObservation lease digest observation attention temporalPosture now =>
    refine Moves.ignore ((Moves.check _).bind fun _ => ?_)
    refine (readOnly_compositionSources _).moves.bind fun _ => ?_
    exact (Moves.check _).bind fun _ => moves_transition fun _ _ => recordObservation_mutated
  case prepareAgOccurrence lease digest intent request authoring now =>
    refine Moves.ignore ((Moves.check _).bind fun _ => (Moves.check _).bind fun _ => ?_)
    exact (Moves.check _).bind fun _ => moves_transition fun _ _ => prepareAgOccurrence_mutated
  case attachAgOccurrence lease digest ag now =>
    exact Moves.ignore ((Moves.check _).bind fun _ =>
      moves_transition fun _ _ => attachAgOccurrence_mutated)
  case recordAgStatus cycleId digest ag now =>
    refine Moves.ignore ((Moves.check _).bind fun _ => ?_)
    refine (readOnly_getCycle w cycleId).moves.bind fun current => (Moves.check _).bind fun _ => ?_
    split
    · exact .pure _
    · exact moves_transition fun _ _ => recordAgStatus_mutated
  case recordAgRefusal cycleId digest refusal now =>
    exact Moves.ignore ((Moves.check _).bind fun _ =>
      moves_transition fun _ _ => recordAgRefusal_mutated)
  case recoverAgOccurrence cycleId digest ag now =>
    exact Moves.ignore ((Moves.check _).bind fun _ =>
      moves_transition fun _ _ => recoverAgOccurrence_mutated)
  case markRecoveryRequired cycleId digest reason now =>
    exact Moves.ignore ((Moves.check _).bind fun _ =>
      moves_transition fun _ _ => markRecoveryRequired_mutated)
  case closeWithoutProposal lease digest now =>
    exact Moves.ignore (moves_transition fun _ _ => closeWithoutProposal_mutated)

/-- An operation that is no transition and no sweep inserts or does nothing. -/
theorem Operation.moves_of_no_target {operation : Operation} (h : operation.target = none)
    (hsweep : operation.sweeps = false) : Moves (Promise w) (operation.call w) := by
  cases operation <;> simp only [Operation.target, Operation.sweeps, reduceCtorEq] at h hsweep
  case claimSlot uuid processNonce slot clock now =>
    exact (moves_claimSlot uuid processNonce slot clock now).ignore
  case recordMissed uuid slot clock now reason =>
    exact (moves_recordMissed uuid slot clock now reason).ignore
  case recordExternalObservation handoff receivedAt =>
    exact Moves.ignore ((Moves.check _).bind fun _ => (Moves.check _).bind fun _ =>
      .commit fun _ _ _ => promise_externalTransaction)
  case recordSteadyStateObservation handoff receivedAt =>
    exact Moves.ignore ((Moves.check _).bind fun _ => (Moves.check _).bind fun _ =>
      .commit fun _ _ _ => promise_steadyTransaction)

/-- Every call but the sweep has one transaction at its end, or none. -/
theorem Operation.atomic {operation : Operation} (hsweep : operation.sweeps = false) :
    Atomic (operation.call w) := by
  cases operation with
  | claimSlot uuid processNonce slot clock now =>
    refine Atomic.ignore (.bind (.check _) fun _ => .bind (.check _) fun _ =>
      .bind (.check _) fun _ => ?_)
    exact .bind_pure (.commit _)
  | recordMissed uuid slot clock now reason =>
    refine Atomic.ignore (.bind (.check _) fun _ => .bind (.check _) fun _ =>
      .bind (.check _) fun _ => .bind (.check _) fun _ => ?_)
    exact .bind_pure (.commit _)
  | recordObservation lease digest observation attention temporalPosture now =>
    refine Atomic.ignore (.bind (.check _) fun _ => ?_)
    exact .bind (readOnly_compositionSources _) fun _ => .bind (.check _) fun _ =>
      atomic_transition
  | prepareAgOccurrence =>
    exact .ignore (.bind (.check _) fun _ => .bind (.check _) fun _ => .bind (.check _) fun _ =>
      atomic_transition)
  | attachAgOccurrence => exact .ignore (.bind (.check _) fun _ => atomic_transition)
  | recordAgStatus cycleId digest ag now =>
    refine Atomic.ignore (.bind (.check _) fun _ => .bind (readOnly_getCycle w cycleId) fun _ =>
      .bind (.check _) fun _ => ?_)
    split
    · exact .readOnly (.pure _)
    · exact atomic_transition
  | recordAgRefusal => exact .ignore (.bind (.check _) fun _ => atomic_transition)
  | recoverAgOccurrence => exact .ignore (.bind (.check _) fun _ => atomic_transition)
  | markRecoveryRequired => exact .ignore (.bind (.check _) fun _ => atomic_transition)
  | closeWithoutProposal => exact .ignore atomic_transition
  | recoverAfterRestart => cases hsweep
  | recordExternalObservation =>
    exact .ignore (.bind (.check _) fun _ => .bind (.check _) fun _ => .commit _)
  | recordSteadyStateObservation =>
    exact .ignore (.bind (.check _) fun _ => .bind (.check _) fun _ => .commit _)

end Calls

/-! ## The restart sweep -/

section Sweep

variable {w : CanonicalPlatform} {p : Nat}

/-- What every process promises; the store has only one kind of client. -/
def Clients (w : CanonicalPlatform) : Nat → Store → Store → Prop := fun _ => Promise w

/-- The snapshot is in the log of its cycle. -/
def Recorded (s : Store) (cycle : ObservationCycleV1) : Prop :=
  ∃ event ∈ s.eventsOf cycle.cycleId, event.snapshot = cycle

/-- A store with all of these snapshots in its logs. -/
def Holding (w : CanonicalPlatform) (cycles : List ObservationCycleV1) (s : Store) : Prop :=
  Wf w s ∧ ∀ cycle ∈ cycles, Recorded s cycle

theorem Holding.promise {cycles : List ObservationCycleV1} {s s' : Store}
    (h : Holding w cycles s) (hpromise : Promise w s s') : Holding w cycles s' := by
  refine ⟨h.1.promise hpromise, ?_⟩
  intro cycle hcycle
  obtain ⟨event, hevent, hsnapshot⟩ := h.2 cycle hcycle
  exact ⟨event, (hpromise.eventsOf_grown h.1 cycle.cycleId).subset hevent, hsnapshot⟩

theorem Holding.later {cycles : List ObservationCycleV1} {s s' : Store}
    (h : Holding w cycles s) (hlater : Later (Clients w) p s s') : Holding w cycles s' :=
  hlater.inv (fun _ _ _ hs hp => Holding.promise hs hp) h

theorem clients_refl (s : Store) : Clients w p s s := .inl rfl

/-- The snapshot that was listed is still the one the digest finds. -/
theorem obeys_restart {cycle : ObservationCycleV1} {cycles : List ObservationCycleV1} {s : Store}
    {eventKind : String} {now : Instant} (h : Holding w (cycle :: cycles) s)
    (hlive : cycle.status = .observing ∨ cycle.status = .postureRecorded) :
    Obeys (Clients w) p s
      (transition w cycle.cycleId none cycle.stateDigest eventKind now Mutate.restart)
      fun s' _ => Holding w (cycle :: cycles) s' := by
  refine Obeys.bind (Q := fun s' _ => Holding w (cycle :: cycles) s') (.check h) ?_ fun _ _ hk => hk
  intro s₁ _ h₁
  refine Obeys.commit clients_refl ?_ ?_
  · intro s' hlater after s'' hcommitted
    have h' := h₁.later hlater
    obtain ⟨event, hevent, hsnapshot⟩ := h'.2 cycle List.mem_cons_self
    obtain ⟨before, -, hfollows, hvalid, hspec⟩ := commit_of_transitionTransaction h'.1
      (by
        intro row mutated hrow hdigest hmutated
        have heq : row.snapshot = cycle := by
          rw [← hsnapshot]
          exact h'.1.snapshot_eq hrow hevent (by rw [hsnapshot, hdigest])
        rw [heq] at hmutated ⊢
        exact restart_mutated hlive hmutated) hcommitted
    have hpromise : Promise w s' s'' :=
      .inr (.advanced cycle.cycleId eventKind before after hfollows hvalid hspec)
    exact ⟨hpromise, h'.promise hpromise⟩
  · intro s' hlater _ _
    exact h₁.later hlater

theorem obeys_recoverEach {now : Instant} {cycles : List ObservationCycleV1} {s : Store}
    (h : Holding w cycles s) :
    Obeys (Clients w) p s (recoverEach w now cycles) fun _ _ => True := by
  induction cycles generalizing s with
  | nil => exact .done trivial
  | cons cycle rest ih =>
    have hrest : ∀ {s'}, Holding w (cycle :: rest) s' →
        Obeys (Clients w) p s' (recoverEach w now rest) fun _ _ => True :=
      fun hs => ih ⟨hs.1, fun c hc => hs.2 c (List.mem_cons_of_mem _ hc)⟩
    -- The statuses that are only reported go on with the rest of the list.
    have hreport : Obeys (Clients w) p s
        (do return cycle :: (← recoverEach w now rest)) fun _ _ => True :=
      (hrest h).bind (fun _ _ _ => .done trivial) fun _ _ _ => trivial
    have hrestart : cycle.status = .observing ∨ cycle.status = .postureRecorded →
        Obeys (Clients w) p s
          (do
            let recovered ← transition w cycle.cycleId none cycle.stateDigest
              "restart_local_currentness_erased" now Mutate.restart
            return recovered :: (← recoverEach w now rest)) fun _ _ => True := by
      intro hlive
      refine (obeys_restart h hlive).bind ?_ fun _ _ _ => trivial
      intro s' recovered h'
      exact (hrest h').bind (fun _ _ _ => .done trivial) fun _ _ _ => trivial
    unfold recoverEach
    cases hstatus : cycle.status with
    | observing => exact hrestart (.inl hstatus)
    | postureRecorded => exact hrestart (.inr hstatus)
    | awaitingAg => exact hreport
    | awaitingAgReconciliation => exact hreport
    | recoveryRequired =>
      by_cases hrequest : cycle.preparedAgRequest.isSome
      · simp only [hrequest, if_true]
        exact hreport
      · simp only [hrequest]
        exact hrest h
    | observationRequired => exact hrest h
    | halted => exact hrest h
    | closed => exact hrest h
    | missed => exact hrest h

/-- The rows a listing reads are in the logs of the store it reads. -/
theorem recorded_of_row {s : Store} (h : Wf w s) {c : String} {row : CycleRow}
    (hrow : s.cycles[c]? = some row) : Recorded s row.snapshot := by
  have hb := h.backed c row hrow
  obtain ⟨event, -, hmem, hsnapshot⟩ := hb.last
  exact ⟨event, by rw [hb.key]; exact hmem, hsnapshot⟩

theorem obeys_recoverAfterRestart {now : Instant} {s : Store} (h : Wf w s) :
    Obeys (Clients w) p s (recoverAfterRestart w now) fun _ _ => True := by
  have hreflC : ∀ s, Clients w p s s := clients_refl
  refine Obeys.bind (Q := fun s' result => ∀ cycles, result = .ok cycles → Holding w cycles s')
    ?_ (fun s' cycles hk => obeys_recoverEach (hk cycles rfl)) fun _ _ _ => trivial
  refine Obeys.bind (Q := fun s' result => ∀ rows : List (String × CycleRow), result = .ok rows →
    Holding w (rows.map (·.2.snapshot)) s') (.read hreflC ?_) ?_ (by simp)
  · intro s' hlater rows hrows
    cases hrows
    have hwf : Wf w s' := hlater.inv (fun _ _ _ hs hp => Wf.promise hs hp) h
    refine ⟨hwf, ?_⟩
    intro cycle hcycle
    obtain ⟨⟨c, row⟩, hmem, rfl⟩ := List.mem_map.mp hcycle
    rw [List.mem_insertionSort, Std.ExtTreeMap.mem_toList_iff_getElem?_eq_some] at hmem
    exact recorded_of_row hwf hmem
  · intro s' rows hk
    have hholding := hk rows rfl
    refine Obeys.bind (Q := fun s' _ => Holding w (rows.map (·.2.snapshot)) s') (.check hholding)
      ?_ (by simp)
    intro s₁ _ h₁
    refine Obeys.bind (Q := fun s' _ => Holding w (rows.map (·.2.snapshot)) s') ?_ ?_ (by simp)
    · exact Obeys.of_moves (Moves.forEach fun cycle _ => readOnly_validateClaims w cycle) hreflC
        (fun _ _ _ hfalse => hfalse.elim) (fun _ _ _ hs hp => Holding.promise hs hp) h₁
    · intro s₂ _ h₂
      refine .done ?_
      intro cycles hcycles
      cases hcycles
      exact h₂

end Sweep

/-- Whatever it is called with, an operation only commits. -/
theorem Operation.obeys {w : CanonicalPlatform} {p : Nat} (operation : Operation) {s : Store}
    (h : Wf w s) : Obeys (Clients w) p s (operation.call w) fun _ _ => True := by
  have hpreserve : ∀ (q : Nat) s s', Wf w s → Clients w q s s' → Wf w s' :=
    fun _ _ _ hs hp => hs.promise hp
  cases htarget : operation.target with
  | some target =>
    refine (Obeys.of_moves (operation.moves_of_target htarget) clients_refl ?_ hpreserve h).mono
      fun _ _ _ => trivial
    exact fun s s' hs htransits => htransits.promise hs
  | none =>
    cases hsweep : operation.sweeps with
    | false =>
      exact (Obeys.of_moves (operation.moves_of_no_target htarget hsweep) clients_refl
        (fun _ _ _ hp => hp) hpreserve h).mono fun _ _ _ => trivial
    | true =>
      cases operation <;> simp only [Operation.sweeps, reduceCtorEq] at hsweep
      exact (obeys_recoverAfterRestart h).bind (fun _ _ _ => .done trivial) fun _ _ _ => trivial

end Nightshift.Canonical
