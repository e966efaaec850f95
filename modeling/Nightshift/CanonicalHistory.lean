import Nightshift.CanonicalClients

/-!
# The history of the canonical store

What holds in every run of any number of clients. The log of a cycle is the
list of its committed states, and a replay of it returns that list; a digest
that has been left behind never finds the row again; and what a cycle carries at
one state of the run it carries at every later one.
-/

namespace Nightshift.Canonical

open Checked Diagnostic Interleave

/-! ## Replay -/

namespace Log

variable {w : CanonicalPlatform} {cycleId : String} {events : List CycleEvent}

theorem sequence_at {before after : List CycleEvent} {event : CycleEvent}
    (h : Log w cycleId (before ++ event :: after)) : event.sequence = before.length := by
  have hget := congrArg (·[before.length]?) h.sequence
  simpa using hget

theorem prior_at {before after : List CycleEvent} {event : CycleEvent}
    (h : Log w cycleId (before ++ event :: after)) :
    event.priorStateDigest = before.getLast?.map (·.resultingStateDigest) := by
  cases hlast : before.getLast? with
  | none =>
    rw [List.getLast?_eq_none_iff] at hlast
    subst hlast
    exact h.root event rfl
  | some last =>
    have hlinked := (List.isChain_append.mp h.linked).2.2
    exact hlinked last (by rw [hlast]; rfl) event rfl

/-- The events pass the replay from any point of the log on. -/
theorem replay_from (before after : List CycleEvent) (h : Log w cycleId (before ++ after)) :
    after.foldlM (replayStep w)
      (before.map (·.snapshot), before.getLast?.map (·.resultingStateDigest)) =
      .ok ((before ++ after).map (·.snapshot),
        (before ++ after).getLast?.map (·.resultingStateDigest)) := by
  induction after generalizing before with
  | nil => simp [pure, Except.pure]
  | cons event rest ih =>
    have hbound := h.bound event (by simp)
    have hstep : replayStep w
        (before.map (·.snapshot), before.getLast?.map (·.resultingStateDigest)) event =
        .ok (before.map (·.snapshot) ++ [event.snapshot], some event.resultingStateDigest) := by
      simp [replayStep, refuseIf, h.sequence_at, h.prior_at, hbound.valid, hbound.resulting,
        ← hbound.prior]
    have hrest := ih (before ++ [event]) (by simpa using h)
    simp only [List.foldlM_cons, hstep, ok_bind]
    simpa using hrest

theorem sorted (h : Log w cycleId events) :
    events.Pairwise fun a b => a.sequence ≤ b.sequence := by
  have hrange : (events.map (·.sequence)).Pairwise (· ≤ ·) := by
    rw [h.sequence]
    exact List.pairwise_lt_range.imp Nat.le_of_lt
  exact List.pairwise_map.mp hrange

end Log

section Reads

variable {w : CanonicalPlatform} {s : Store} {c : String} {row : CycleRow}

theorem run_validateClaims (h : Wf w s) (hrow : s.cycles[c]? = some row) :
    (validateClaims w row.snapshot).run s = (.ok (), s) := by
  have hb := h.backed c row hrow
  have hvalid := Valid.of_validate hb.valid
  have hclaim : (validateAgOccurrenceClaim row.snapshot).run s = (.ok (), s) := by
    have := hb.claim
    rw [← hb.key] at this
    simp [validateAgOccurrenceClaim, Call.run_bind, refuseIf, this]
  have hauthoring : (validateAuthoringContextClaim w row.snapshot).run s = (.ok (), s) := by
    have hdurable := hb.authoring
    rw [← hb.key] at hdurable
    cases hprovenance : row.snapshot.authoringContextProvenance with
    | none =>
      rw [hprovenance] at hdurable
      simp [validateAuthoringContextClaim, Call.run_bind, hdurable, hprovenance]
    | some provenance =>
      rw [hprovenance] at hdurable
      simp [validateAuthoringContextClaim, Call.run_bind, hdurable, hprovenance, invalid, mapErr,
        hvalid.authoring_valid hprovenance]
  have hcustody : (validateAuthoringCustodyClaim w row.snapshot).run s = (.ok (), s) := by
    have hdurable := hb.custody
    rw [← hb.key] at hdurable
    cases hcustody : row.snapshot.authoringContextCustody with
    | none =>
      rw [hcustody] at hdurable
      simp [validateAuthoringCustodyClaim, Call.run_bind, hdurable, hcustody]
    | some custody =>
      rw [hcustody] at hdurable
      simp [validateAuthoringCustodyClaim, Call.run_bind, hdurable, hcustody, invalid, mapErr,
        hvalid.custody_valid hcustody]
  simp [validateClaims, Call.run_bind, hclaim, hauthoring, hcustody]

theorem run_getCycle (h : Wf w s) (hrow : s.cycles[c]? = some row) :
    (getCycle w c).run s = (.ok row.snapshot, s) := by
  have hvalid := (h.backed c row hrow).valid
  simp [getCycle, Call.run_bind, hrow, okOr, hvalid, run_validateClaims h hrow]

theorem run_replay (h : Wf w s) (hrow : s.cycles[c]? = some row) :
    (replay w c).run s = (.ok ((s.eventsOf c).map (·.snapshot)), s) := by
  have hb := h.backed c row hrow
  have hsorted : (s.eventsOf c).insertionSort (fun a b => a.sequence ≤ b.sequence) =
      s.eventsOf c := hb.log.sorted.insertionSort_eq
  have hreplayed := Log.replay_from [] (s.eventsOf c) hb.log
  simp only [List.map_nil, List.getLast?_nil, Option.map_none, List.nil_append] at hreplayed
  have htail : ((s.eventsOf c).map (·.snapshot)).getLast? = some row.snapshot := by
    rw [List.getLast?_map]
    exact hb.tail
  simp [replay, Call.run_bind, hsorted, hreplayed, run_getCycle h hrow, refuseIf, htail]

end Reads

/-! ## Runs -/

/-- The runs of any number of clients of one new database. -/
def ClientRun (w : CanonicalPlatform) (entries : List (Entry Store))
    (pool : Pool Store CanonicalStoreError Unit) : Prop :=
  Reached (fun _ call => ∃ operation : Operation, call = operation.call w) Store.empty entries pool

/-- The stores of a run are well formed, and each comes from the one before it by a promise. -/
structure Sound (w : CanonicalPlatform) (history : List Store) : Prop where
  wf : ∀ s ∈ history, Wf w s
  chain : history.IsChain (Promise w)

theorem ClientRun.sound {w : CanonicalPlatform} {entries : List (Entry Store)}
    {pool : Pool Store CanonicalStoreError Unit} (h : ClientRun w entries pool) :
    Sound w (states Store.empty entries) := by
  obtain ⟨-, -, hwf, hchain, -⟩ := Reached.sound (G := Clients w) (Wf.empty w)
    (fun _ _ _ hs hp => Wf.promise hs hp)
    (by
      rintro p call s ⟨operation, rfl⟩ hs
      exact operation.obeys hs) h
  exact ⟨hwf, hchain.imp fun _ _ ⟨_, hp⟩ => hp⟩

section History

variable {w : CanonicalPlatform} {history : List Store} {c : String}

/-- The committed state of a cycle. -/
def snapshotOf (c : String) (s : Store) : Option ObservationCycleV1 := (s.cycles[c]?).map (·.snapshot)

/-- One step of the run notes the new state of a cycle exactly when it appends to its log. -/
theorem noteChange_step {s s' : Store} (hs : Wf w s) (hs' : Wf w s') (hstep : Promise w s s') :
    noteChange (snapshotOf c) ((s.eventsOf c).map (·.snapshot)) s' =
      (s'.eventsOf c).map (·.snapshot) := by
  have hsame : s'.eventsOf c = s.eventsOf c → noteChange (snapshotOf c)
      ((s.eventsOf c).map (·.snapshot)) s' = (s'.eventsOf c).map (·.snapshot) := by
    intro hevents
    unfold noteChange snapshotOf
    cases hrow : s'.cycles[c]? with
    | none => simp [hevents]
    | some row =>
      have htail := (hs'.backed c row hrow).tail
      simp only [Option.map_some, List.getLast?_map, ← hevents, htail, if_true]
  rcases hstep with rfl | hcommit
  · exact hsame rfl
  · rcases hcommit.on_cycle hs c with ⟨hevents, -⟩ | ⟨cycle, eventKind, rfl, hwritten, hnext⟩
    · exact hsame hevents
    · have hview : snapshotOf cycle.cycleId s' = some cycle := by
        simp [snapshotOf, hwritten.cycles_get, Store.cycleRow]
      have hnew : ((s.eventsOf cycle.cycleId).map (·.snapshot)).getLast? ≠ some cycle := by
        rcases hnext with ⟨-, -, hnone⟩ | ⟨row, hrow, hfollows⟩
        · simp [hnone]
        · rw [List.getLast?_map, (hs.backed _ row hrow).tail]
          intro heq
          have hversion := hfollows.version_eq
          rw [Option.some.inj heq] at hversion
          omega
      rw [noteChange, hview]
      simp only [if_neg hnew, hwritten.eventsOf_self, List.map_append, List.map_singleton]
      rfl

/-- The log of a cycle is the list of its committed states. -/
theorem changes_eq_log (h : Sound w history) (hhead : history.head? = some Store.empty) {s : Store}
    (hlast : history.getLast? = some s) :
    changes (snapshotOf c) history = (s.eventsOf c).map (·.snapshot) := by
  induction history using List.reverseRecOn generalizing s with
  | nil => cases hlast
  | append_singleton earlier last ih =>
    rw [List.getLast?_concat] at hlast
    cases hlast
    rw [changes_append]
    cases hearlier : earlier.getLast? with
    | none =>
      rw [List.getLast?_eq_none_iff] at hearlier
      subst hearlier
      cases hhead
      rfl
    | some before =>
      obtain ⟨hchain, -, hlink⟩ := List.isChain_append.mp h.chain
      have hstep := hlink before (by rw [hearlier]; rfl) last (by simp)
      have hne : earlier ≠ [] := by
        rintro rfl
        cases hearlier
      have hhead' : earlier.head? = some Store.empty := by
        rwa [List.head?_append_of_ne_nil _ hne] at hhead
      rw [ih ⟨fun t ht => h.wf t (List.mem_append_left _ ht), hchain⟩ hhead' hearlier]
      exact noteChange_step
        (h.wf before (List.mem_append_left _ (List.mem_of_getLast? hearlier)))
        (h.wf last (by simp)) hstep

/-! ### Later states -/

theorem Wf.steps {s s' : Store} (hs : Wf w s) (hsteps : Relation.ReflTransGen (Promise w) s s') :
    Wf w s' := by
  induction hsteps with
  | refl => exact hs
  | tail _ hstep ih => exact ih.promise hstep

theorem eventsOf_grown_of_steps {s s' : Store} (hs : Wf w s)
    (hsteps : Relation.ReflTransGen (Promise w) s s') : s.eventsOf c <+: s'.eventsOf c := by
  induction hsteps with
  | refl => exact List.prefix_rfl
  | tail hsteps hstep ih => exact ih.trans (hstep.eventsOf_grown (hs.steps hsteps) c)

/-- One step keeps the row, or replaces it by a successor. -/
theorem Promise.row {s s' : Store} (hstep : Promise w s s') (hs : Wf w s) {row : CycleRow}
    (hrow : s.cycles[c]? = some row) :
    (s'.cycles[c]? = some row ∧ s'.eventsOf c = s.eventsOf c) ∨
      ∃ after, s'.cycles[c]? = some (Store.cycleRow after) ∧ Follows w row.snapshot after := by
  rcases hstep with rfl | hcommit
  · exact .inl ⟨hrow, rfl⟩
  · rcases hcommit.on_cycle hs c with ⟨hevents, hcycles⟩ | ⟨cycle, kind, rfl, hwritten, hnext⟩
    · exact .inl ⟨hcycles.trans hrow, hevents⟩
    · rcases hnext with ⟨-, hnone, -⟩ | ⟨row', hrow', hfollows⟩
      · rw [hrow] at hnone
        cases hnone
      · rw [hrow] at hrow'
        cases hrow'
        exact .inr ⟨cycle, by rw [hwritten.cycles_get, if_pos rfl], hfollows⟩

/-- What a row carries it carries for good, and a finished cycle gets no further event. -/
theorem row_of_steps {s s' : Store} (hs : Wf w s)
    (hsteps : Relation.ReflTransGen (Promise w) s s') {row : CycleRow}
    (hrow : s.cycles[c]? = some row) :
    ∃ row', s'.cycles[c]? = some row' ∧ Retains row.snapshot row'.snapshot ∧
      (row.snapshot.status = .missed ∨ row.snapshot.status = .closed →
        row' = row ∧ s'.eventsOf c = s.eventsOf c) := by
  induction hsteps with
  | refl => exact ⟨row, hrow, .refl _, fun _ => ⟨rfl, rfl⟩⟩
  | tail hsteps hstep ih =>
    obtain ⟨row', hrow', hretains, hfinal⟩ := ih
    have hs' := hs.steps hsteps
    rcases hstep.row hs' hrow' with ⟨hsame, hevents⟩ | ⟨after, hafter, hfollows⟩
    · exact ⟨row', hsame, hretains, fun hstatus =>
        ⟨(hfinal hstatus).1, hevents.trans (hfinal hstatus).2⟩⟩
    · have hb := hs'.backed c row' hrow'
      refine ⟨Store.cycleRow after, hafter,
        hretains.trans (hfollows.retains (.of_validate hb.valid) hb.lawful), ?_⟩
      intro hstatus
      rw [(hfinal hstatus).1] at hfollows
      rcases hstatus with hmissed | hclosed
      · exact absurd hmissed hfollows.not_terminal.1
      · exact absurd hclosed hfollows.not_terminal.2

end History

/-! ## Races -/

/-- The action commits a transition of cycle `c` from digest `d`, whatever it does to it. -/
def CommittedAt (w : CanonicalPlatform) (c d : String) (s s' : Store) : Prop :=
  ∃ eventKind now mutate after, transitionTransaction w c d eventKind now mutate s = .ok (after, s')

section Races

variable {w : CanonicalPlatform} {c d : String}

theorem events_writeSuccessor {s s' : Store} {eventKind : String}
    {before after : ObservationCycleV1}
    (h : writeSuccessor s c eventKind before after = .ok s') :
    ∃ event, s'.events = s.events ++ [event] ∧ event.cycleId = c := by
  simp only [writeSuccessor, bind_eq_ok] at h
  obtain ⟨s₁, hclaim, s₂, hauthoring, s₃, hcustody, ⟨changed, s₄⟩, hcycle, _, -, _, -, h⟩ := h
  obtain ⟨-, rfl⟩ := claimOccurrence_spec hclaim
  rw [claimAuthoring_spec hauthoring] at hcustody
  rw [claimCustody_spec hcustody] at hcycle
  have hevents : s₄.events = s.events := by
    simp only [Store.updateCycle, bind_eq_ok] at hcycle
    obtain ⟨_, -, hcycle⟩ := hcycle
    split at hcycle
    · split at hcycle <;> (cases hcycle; rfl)
    · cases hcycle
      rfl
  have hslot : (s₄.updateSlot before.stateDigest after).2.events = s₄.events := by
    unfold Store.updateSlot
    split
    · split <;> rfl
    · rfl
  obtain ⟨-, rfl⟩ := insertEvent_spec h
  exact ⟨_, congrArg (· ++ [_]) (hslot.trans hevents), rfl⟩

/-- A committed transition finds the row at the digest and appends to the log. -/
theorem CommittedAt.appends {s s' : Store} (h : CommittedAt w c d s s') :
    (∃ row, s.cycles[c]? = some row ∧ row.snapshot.stateDigest = d) ∧
      ∃ event, s'.eventsOf c = s.eventsOf c ++ [event] := by
  obtain ⟨eventKind, now, mutate, after, h⟩ := h
  simp only [transitionTransaction, bind_eq_ok] at h
  obtain ⟨before, hbefore, mutated, -, version, -, _, -, s₁, hwrite, h⟩ := h
  cases h
  obtain ⟨hdigest, row, hrow, rfl⟩ := predecessor_spec hbefore
  obtain ⟨event, hevents, hid⟩ := events_writeSuccessor hwrite
  exact ⟨⟨row, hrow, hdigest⟩, event, by simp [Store.eventsOf, hevents, hid]⟩

/-- A digest that was left behind finds the row no more. -/
theorem CommittedAt.once {s₁ s₁' s₂ s₂' : Store} (hs : Wf w s₁) (hs' : Wf w s₁')
    (hsteps : Relation.ReflTransGen (Promise w) s₁' s₂) (h : CommittedAt w c d s₁ s₁') :
    ¬ CommittedAt w c d s₂ s₂' := by
  intro hagain
  obtain ⟨⟨row, hrow, hdigest⟩, event, hevents⟩ := h.appends
  obtain ⟨⟨row₂, hrow₂, hdigest₂⟩, -⟩ := hagain.appends
  have hs₂ := hs'.steps hsteps
  have hb := hs.backed c row hrow
  have hb₂ := hs₂.backed c row₂ hrow₂
  obtain ⟨left, -, hleft, hsnapshot⟩ := hb.last
  obtain ⟨last, hlast, hmem, hsnapshot₂⟩ := hb₂.last
  have hgrown : s₁.eventsOf c ++ [event] <+: s₂.eventsOf c := by
    rw [← hevents]
    exact eventsOf_grown_of_steps hs' hsteps
  have hleft₂ : left ∈ s₂.eventsOf c := hgrown.subset (List.mem_append_left _ hleft)
  have hsame : left = last := by
    refine hb₂.log.eq_of_resulting hleft₂ hmem ?_
    rw [(hb₂.log.bound left hleft₂).resulting, (hb₂.log.bound last hmem).resulting, hsnapshot,
      hsnapshot₂, hdigest, hdigest₂]
  -- The event left behind stands before the one the transition appended.
  have hlt := hb.log.sequence_lt hleft
  have hend := hb₂.log.last_sequence hlast
  have hlen := hgrown.length_le
  rw [List.length_append, List.length_singleton] at hlen
  rw [hsame] at hlt
  omega

theorem Transits.committedAt {s s' : Store} (h : Transits w c d s s') : CommittedAt w c d s s' := by
  obtain ⟨eventKind, now, mutate, after, -, h⟩ := h
  exact ⟨eventKind, now, mutate, after, h⟩

theorem commits_transition {eventKind : String} {lease : Option LiveCycleLeaseV1} {now : Instant}
    {mutate : ObservationCycleV1 → Except CanonicalStoreError ObservationCycleV1} :
    Commits (CommittedAt w c d) (transition w c lease d eventKind now mutate) :=
  .bind fun _ => .commit fun _ after _ h => ⟨eventKind, now, mutate, after, h⟩

/-- A transition that succeeds has committed, or found its AG status recorded already. -/
theorem Operation.commits {operation : Operation} (h : operation.target = some (c, d)) :
    Commits (CommittedAt w c d) (operation.call w) ∨
      ∃ ag now, operation = .recordAgStatus c d ag now := by
  cases operation <;> simp only [Operation.target, Option.some.injEq, Prod.mk.injEq,
    reduceCtorEq] at h <;> obtain ⟨rfl, rfl⟩ := h
  case recordAgStatus cycleId digest ag now => exact .inr ⟨ag, now, rfl⟩
  case recordObservation =>
    exact .inl (.ignore (.bind fun _ => .bind fun _ => .bind fun _ => commits_transition))
  case prepareAgOccurrence =>
    exact .inl (.ignore (.bind fun _ => .bind fun _ => .bind fun _ => commits_transition))
  case closeWithoutProposal => exact .inl (.ignore commits_transition)
  all_goals exact .inl (.ignore (.bind fun _ => commits_transition))

/-- The transition a restart commits for one cycle. -/
def RestartedAt (w : CanonicalPlatform) (now : Instant) (s s' : Store) : Prop :=
  ∃ c d after, transitionTransaction w c d "restart_local_currentness_erased" now Mutate.restart s =
    .ok (after, s')

theorem moves_recoverEach (now : Instant) (cycles : List ObservationCycleV1) :
    Moves (RestartedAt w now) (recoverEach w now cycles) := by
  induction cycles with
  | nil => exact .pure _
  | cons cycle rest ih =>
    have hreport : Moves (RestartedAt w now)
        (do return cycle :: (← recoverEach w now rest)) := ih.bind fun _ => .pure _
    have hrestart : Moves (RestartedAt w now) (do
        let recovered ← transition w cycle.cycleId none cycle.stateDigest
          "restart_local_currentness_erased" now Mutate.restart
        return recovered :: (← recoverEach w now rest)) := by
      refine Moves.bind ((Moves.check _).bind fun _ => .commit ?_) fun _ =>
        ih.bind fun _ => .pure _
      intro s after s' h
      exact ⟨cycle.cycleId, cycle.stateDigest, after, h⟩
    unfold recoverEach
    cases cycle.status with
    | observing => exact hrestart
    | postureRecorded => exact hrestart
    | awaitingAg => exact hreport
    | awaitingAgReconciliation => exact hreport
    | recoveryRequired =>
      by_cases hrequest : cycle.preparedAgRequest.isSome
      · simp only [hrequest, if_true]
        exact hreport
      · simp only [hrequest]
        exact ih
    | observationRequired => exact ih
    | halted => exact ih
    | closed => exact ih
    | missed => exact ih

theorem moves_recoverAfterRestart (now : Instant) :
    Moves (RestartedAt w now) (recoverAfterRestart w now) := by
  have hlist : ReadOnly (listCycles w) := by
    refine (Moves.read _).bind fun _ => (Moves.check _).bind fun _ => ?_
    exact (Moves.forEach fun cycle _ => readOnly_validateClaims w cycle).bind fun _ => .pure _
  exact hlist.moves.bind fun cycles => moves_recoverEach now cycles

end Races

/-! ## One linear history -/

/-- What the tables of a store say of each of its cycles, and how it got there. -/
structure Linear (w : CanonicalPlatform) (history : List Store) (s : Store) : Prop where
  oneCycle : ∀ (c c' : String) (row row' : CycleRow), s.cycles[c]? = some row →
    s.cycles[c']? = some row' → row.slotId = row'.slotId → c = c'
  sequences : ∀ (c : String) (row : CycleRow), s.cycles[c]? = some row →
    (s.eventsOf c).map (·.sequence) = List.range (row.version + 1)
  linked : ∀ (c : String) (row : CycleRow), s.cycles[c]? = some row →
    (s.eventsOf c).IsChain fun a b => b.priorStateDigest = some a.resultingStateDigest
  agreed : ∀ (c : String) (row : CycleRow), s.cycles[c]? = some row →
    ∃ slotRow event, s.slots[row.slotId]? = some slotRow ∧ slotRow.cycleId = c ∧
      (s.eventsOf c).getLast? = some event ∧
      slotRow.status = row.status ∧ event.snapshot.status = row.status ∧
      slotRow.stateDigest = row.stateDigest ∧ event.resultingStateDigest = row.stateDigest
  replayed : ∀ (c : String) (row : CycleRow), s.cycles[c]? = some row →
    (replay w c).run s = (.ok (changes (snapshotOf c) history), s) ∧
      (getCycle w c).run s = (.ok row.snapshot, s) ∧
      (changes (snapshotOf c) history).getLast? = some row.snapshot

theorem Sound.linear {w : CanonicalPlatform} {history : List Store} {s : Store}
    (h : Sound w history) (hhead : history.head? = some Store.empty)
    (hlast : history.getLast? = some s) : Linear w history s := by
  have hwf := h.wf s (List.mem_of_getLast? hlast)
  constructor
  case oneCycle => exact fun c c' row row' hrow hrow' hslot => hwf.slot_unique hrow hrow' hslot
  case sequences =>
    intro c row hrow
    have hb := hwf.backed c row hrow
    obtain ⟨event, htail, hmem, hsnapshot⟩ := hb.last
    have hversion : row.version = event.sequence := by
      rw [hb.columns, ← (hb.log.bound event hmem).sequence, hsnapshot]
      rfl
    rw [hb.log.sequence, hversion, hb.log.last_sequence htail]
  case linked => exact fun c row hrow => (hwf.backed c row hrow).log.linked
  case agreed =>
    intro c row hrow
    have hb := hwf.backed c row hrow
    obtain ⟨event, htail, hmem, hsnapshot⟩ := hb.last
    have hcolumns := hb.columns
    refine ⟨_, event, hb.slot, hb.key, htail, ?_, ?_, ?_, ?_⟩
    · rw [hcolumns]
      rfl
    · rw [hsnapshot, hcolumns]
      rfl
    · rw [hcolumns]
      rfl
    · rw [(hb.log.bound event hmem).resulting, hsnapshot, hcolumns]
      rfl
  case replayed =>
    intro c row hrow
    rw [changes_eq_log h hhead hlast]
    refine ⟨run_replay hwf hrow, run_getCycle hwf hrow, ?_⟩
    rw [List.getLast?_map]
    exact (hwf.backed c row hrow).tail

section Clients

variable {w : CanonicalPlatform} {entries : List (Entry Store)}
  {pool : Pool Store CanonicalStoreError Unit}

theorem ClientRun.linear (h : ClientRun w entries pool) :
    Linear w (states Store.empty entries) pool.store :=
  h.sound.linear rfl h.getLast_states

/-- Of two transitions from one digest the later one does not commit. -/
theorem ClientRun.committed_once (h : ClientRun w entries pool) {i j : Nat} {e e' : Entry Store}
    {c d : String} (hij : i < j) (hi : entries[i]? = some e) (hj : entries[j]? = some e')
    (hcommitted : CommittedAt w c d e.before e.after) :
    ¬ CommittedAt w c d e'.before e'.after := by
  have hsound := h.sound
  obtain ⟨hbefore, hafter⟩ := h.states_get hi
  have hlater := (h.states_get hj).1
  have hsteps := chain_between hsound.chain hij hafter hlater
  exact hcommitted.once (hsound.wf _ (List.mem_of_getElem? hbefore))
    (hsound.wf _ (List.mem_of_getElem? hafter)) hsteps

/-- The actions of a call that has ended. -/
theorem ClientRun.runs_of_done (h : ClientRun w entries pool) {p : Nat} {operation : Operation}
    {result : Except CanonicalStoreError Unit}
    (hstarted : pool.started[p]? = some (operation.call w))
    (hdone : pool.calls[p]? = some (.done result)) :
    Runs (operation.call w) (stepsOf p entries) result :=
  Reached.runs h hstarted hdone

/-- The life of a cycle between any two states of any run: nothing is appended behind its end, no
fact it carries changes or disappears, its AG reference stays on the prepared request and its
program counter never goes back, and once it was interrupted before a request was prepared it
carries no intent, no request and no AG reference. -/
theorem cycle_lifecycle (h : ClientRun w entries pool) {i j : Nat} (hij : i ≤ j) {s s' : Store}
    (hs : (states Store.empty entries)[i]? = some s)
    (hs' : (states Store.empty entries)[j]? = some s') {c : String} {row : CycleRow}
    (hrow : s.cycles[c]? = some row) :
    ∃ row', s'.cycles[c]? = some row' ∧
      (row.status = .missed ∨ row.status = .closed → s'.eventsOf c = s.eventsOf c) ∧
      (Stays row.snapshot.observation row'.snapshot.observation ∧
        Stays row.snapshot.attention row'.snapshot.attention ∧
        Stays row.snapshot.temporalPosture row'.snapshot.temporalPosture ∧
        Stays row.snapshot.intent row'.snapshot.intent ∧
        Stays row.snapshot.preparedAgRequest row'.snapshot.preparedAgRequest ∧
        Stays row.snapshot.authoringContextProvenance row'.snapshot.authoringContextProvenance ∧
        Stays row.snapshot.authoringContextCustody row'.snapshot.authoringContextCustody) ∧
      (∀ ag, row.snapshot.ag = some ag →
        ∃ ag' request, row'.snapshot.ag = some ag' ∧
          row'.snapshot.preparedAgRequest = some request ∧
          ag'.campaignId = request.campaignId ∧ ag'.occurrenceId = request.occurrenceId ∧
          ag.programCounter.rank ≤ ag'.programCounter.rank) ∧
      (row.status = .recoveryRequired → row.snapshot.preparedAgRequest = none →
        row'.snapshot.intent = none ∧ row'.snapshot.preparedAgRequest = none ∧
          row'.snapshot.ag = none) := by
  have hsound := h.sound
  have hwf := hsound.wf s (List.mem_of_getElem? hs)
  have hsteps := chain_between hsound.chain hij hs hs'
  obtain ⟨row', hrow', hretains, hfinal⟩ := row_of_steps hwf hsteps hrow
  have hb' := (hwf.steps hsteps).backed c row' hrow'
  have hstatus : row.status = row.snapshot.status := by
    rw [(hwf.backed c row hrow).columns]
    rfl
  refine ⟨row', hrow', ?_, ⟨hretains.observation, hretains.attention, hretains.temporalPosture,
    hretains.intent, hretains.preparedAgRequest, hretains.authoring, hretains.custody⟩, ?_, ?_⟩
  · intro hend
    rw [hstatus] at hend
    exact (hfinal hend).2
  · intro ag hag
    obtain ⟨ag', hag', hle⟩ := hretains.ag ag hag
    obtain ⟨request, hrequest, hcampaign, hoccurrence⟩ := hb'.lawful.named ag' hag'
    exact ⟨ag', request, hag', hrequest, hcampaign.symm, hoccurrence.symm, hle⟩
  · intro hrecovery hrequest
    rw [hstatus] at hrecovery
    obtain ⟨hstays, hnone⟩ := hretains.interrupted hrecovery hrequest
    have := (Valid.of_validate hb'.valid).of_recoveryRequired hstays hnone
    exact ⟨this.1, hnone, this.2⟩

end Clients

end Nightshift.Canonical
