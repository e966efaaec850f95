import Nightshift.LockMoves
import Nightshift.Lib.LockTable

/-!
# Lock custody

The claim table, the claims the restart validator expects and the claims of the
replay are three records of the same locks. Every turn leaves the locks alone,
takes all locks of one attempt or gives all of them back, in each of the three.
-/

namespace Nightshift

open Checked

/-- The locks the profile gives an item. -/
def Contracts.locksOf (c : Contracts) (holder : String × String) : List String :=
  ((c.profile.workItems[holder.1]?).map (·.resourceLockKeys)).getD []

/-- The holders of a claim map. -/
def lockTable (claims : BTreeMap String (String × String)) :
    LockTable.Table String (String × String) := fun lock => claims[lock]?

/-- The holders the replay shows. -/
def Scheduler.Replay.lockTable (replay : Scheduler.Replay) :
    LockTable.Table String (String × String) :=
  fun lock => (replay.claims[lock]?).map fun claim => (claim.workItemId, claim.attemptId)

/-- The attempts of items without a receipt that are not parked. -/
def Live (scan : Scan) (replay : Scheduler.Replay) : Set (String × String) :=
  {holder | replay.attemptOf holder.1 = some holder.2 ∧ replay.Unreceipted holder.1 ∧
    holder.2 ∉ scan.released}

section Claims

variable {claims : BTreeMap String (String × String)} {locks : List String}
  {holder : String × String}

theorem lockTable_insertAll :
    lockTable (BTreeMap.insertAll claims locks fun _ => holder) =
      LockTable.take (lockTable claims) locks holder := by
  funext lock
  simp only [lockTable, LockTable.take, BTreeMap.getElem?_insertAll]

theorem lockTable_filter {keep : String × String → Bool} :
    lockTable (claims.filter fun _ other => keep other) =
      fun lock => (lockTable claims lock).filter keep := by
  funext lock
  simp only [lockTable, Std.ExtTreeMap.getElem?_filter']

/-- A filter that keeps every holder but one drops that holder. -/
theorem lockTable_filter_ne {keep : String × String → Bool}
    (hkeep : ∀ other, keep other = false ↔ other = holder) :
    lockTable (claims.filter fun _ other => keep other) =
      LockTable.drop (lockTable claims) holder := by
  rw [lockTable_filter]
  funext lock
  cases hlock : lockTable claims lock with
  | none => simp [LockTable.drop, hlock]
  | some other =>
    by_cases heq : other = holder
    · subst heq
      simp [LockTable.drop, hlock, (hkeep other).mpr rfl]
    · have hkept : keep other = true := by simpa [heq] using hkeep other
      simp [LockTable.drop, hlock, heq, hkept]

end Claims

theorem Scheduler.Replay.lockTable_filter {replay : Scheduler.Replay}
    {claims : BTreeMap String ResourceClaimV1} {keep : ResourceClaimV1 → Bool}
    (keep' : String × String → Bool) (h : replay.claims = claims.filter fun _ claim => keep claim)
    (hkeep : ∀ claim : ResourceClaimV1, keep claim = keep' (claim.workItemId, claim.attemptId))
    {before : Scheduler.Replay} (hbefore : before.claims = claims) :
    replay.lockTable = fun lock => (before.lockTable lock).filter keep' := by
  funext lock
  simp only [lockTable, h, hbefore, Std.ExtTreeMap.getElem?_filter', hkeep]
  cases claims[lock]? with
  | none => rfl
  | some claim =>
    rw [Option.map_some, Option.filter_some, Option.filter_some]
    split <;> rfl

theorem Scheduler.Replay.lockTable_claimAll {replay before : Scheduler.Replay}
    {id attempt : String} {locks : List String}
    (h : replay.claims = claimAll before.claims id (some attempt) locks) :
    replay.lockTable = LockTable.take before.lockTable locks (id, attempt) := by
  funext lock
  simp only [lockTable, h, claimAll, BTreeMap.getElem?_insertAll, LockTable.take]
  split <;> rfl

/-! ## What one moving row does to the scan -/

section Released

variable {transitions : List ResourceTransitionRecord} {record : ResourceTransitionRecord}
  {attempt : String}

theorem mem_releasedAttempts_released (h : record.transition = .released) :
    attempt ∈ releasedAttempts (transitions ++ [record]) ↔
      attempt = record.workAttemptId ∨ attempt ∈ releasedAttempts transitions := by
  simp only [releasedAttempts, List.foldl_append, List.foldl_cons, List.foldl_nil, h,
    Std.ExtTreeSet.mem_insert, Std.LawfulEqOrd.compare_eq_iff_eq]
  rw [eq_comm]

theorem mem_releasedAttempts_reacquired (h : record.transition = .reacquired) :
    attempt ∈ releasedAttempts (transitions ++ [record]) ↔
      attempt ≠ record.workAttemptId ∧ attempt ∈ releasedAttempts transitions := by
  simp only [releasedAttempts, List.foldl_append, List.foldl_cons, List.foldl_nil, h,
    Std.ExtTreeSet.mem_erase, ne_eq, Std.LawfulEqOrd.compare_eq_iff_eq]
  rw [eq_comm]

end Released

namespace Scan

variable {w : Platform} {t : RunTables} {c : Contracts} {scan scan' : Scan} {row : EventRow}
  {e : InternalEvent} {id attempt : String} {locks : List String}

theorem onPayload_created {request : WorkerStartRequestV2}
    (h : scan.onPayload w t c row e = .ok scan')
    (hpayload : e.payload = .attemptCreated locks request) (hid : e.workItemId = some id)
    (hattempt : e.attemptId = some attempt) :
    lockTable scan'.expectedClaims =
        LockTable.take (lockTable scan.expectedClaims) locks (id, attempt) ∧
      scan'.released = scan.released := by
  simp only [onPayload, hpayload] at h
  obtain ⟨⟨id', attempt'⟩, h⟩ := onAttemptCreated_ok h
  obtain rfl := Option.some.inj (h.workItemId.symm.trans hid)
  obtain rfl := Option.some.inj (h.attemptId.symm.trans hattempt)
  rw [h.after]
  exact ⟨lockTable_insertAll, rfl⟩

theorem onPayload_ended (h : scan.onPayload w t c row e = .ok scan')
    (hpayload : e.payload = .resourcesReleased) (hid : e.workItemId = some id)
    (hattempt : e.attemptId = some attempt) :
    lockTable scan'.expectedClaims = LockTable.drop (lockTable scan.expectedClaims) (id, attempt) ∧
      scan'.released = scan.released := by
  simp only [onPayload, hpayload, onResourcesReleased, hid, hattempt, Except.ok.injEq] at h
  subst h
  have hkeep : ∀ other : String × String,
      (other.1 != id || other.2 != attempt) = false ↔ other = (id, attempt) := by
    intro other
    simp [Prod.ext_iff]
  exact ⟨lockTable_filter_ne hkeep, rfl⟩

theorem onPayload_parked {dispositionDigest dispatchDigest policyDigest : String}
    {live : Set (String × String)} (h : scan.onPayload w t c row e = .ok scan')
    (hpayload : e.payload =
      .providerResourcesReleased dispositionDigest dispatchDigest policyDigest locks)
    (hid : e.workItemId = some id) (hattempt : e.attemptId = some attempt)
    (hwhole : LockTable.Whole c.locksOf live (lockTable scan.expectedClaims)) :
    lockTable scan'.expectedClaims = LockTable.drop (lockTable scan.expectedClaims) (id, attempt) ∧
      ∀ other, other ∈ scan'.released ↔ other = attempt ∨ other ∈ scan.released := by
  simp only [onPayload, hpayload] at h
  obtain ⟨history, disposition, ⟨id', attempt'⟩, claims, h⟩ := onProviderReleased_ok h
  obtain rfl := Option.some.inj (h.workItemId.symm.trans hid)
  obtain rfl := Option.some.inj (h.attemptId.symm.trans hattempt)
  have hlocks : c.locksOf (id', attempt') = locks := by
    rw [Contracts.locksOf, h.profile, Option.getD_some]
  constructor
  · rw [← hwhole.free_eq_drop (by rw [hlocks]; exact h.unclaims.before), hlocks, h.after]
    funext lock
    exact h.unclaims.after lock
  · intro other
    rw [h.after]
    simp only [released, h.required, Option.map_some, Option.getD_some]
    exact mem_releasedAttempts_released rfl

theorem onPayload_reacquired
    {wakeOccurrenceId deferredDispatchDigest nextDispatchDigest policyDigest : String}
    (h : scan.onPayload w t c row e = .ok scan')
    (hpayload : e.payload = .providerResourcesReacquired wakeOccurrenceId deferredDispatchDigest
      nextDispatchDigest policyDigest locks)
    (hid : e.workItemId = some id) (hattempt : e.attemptId = some attempt) :
    lockTable scan'.expectedClaims =
        LockTable.take (lockTable scan.expectedClaims) (c.locksOf (id, attempt)) (id, attempt) ∧
      ∀ other, other ∈ scan'.released ↔ other ≠ attempt ∧ other ∈ scan.released := by
  simp only [onPayload, hpayload] at h
  obtain ⟨history, deferred, ⟨id', attempt'⟩, h⟩ := onProviderReacquired_ok h
  obtain rfl := Option.some.inj (h.workItemId.symm.trans hid)
  obtain rfl := Option.some.inj (h.attemptId.symm.trans hattempt)
  constructor
  · rw [h.after, Contracts.locksOf, h.profile, Option.getD_some]
    exact lockTable_insertAll
  · intro other
    rw [h.after]
    simp only [released, h.required, Option.map_some, Option.getD_some]
    exact mem_releasedAttempts_reacquired rfl

end Scan

/-- One move of the locks, the same in all three records. -/
structure LockStep (c : Contracts) (t t' : RunTables) (scan scan' : Scan)
    (replay replay' : Scheduler.Replay) (m : LockTable.Move (String × String)) : Prop where
  free : m.Free c.locksOf (lockTable t.resourceClaims)
  table : lockTable t'.resourceClaims = m.table c.locksOf (lockTable t.resourceClaims)
  expected : lockTable scan'.expectedClaims = m.table c.locksOf (lockTable scan.expectedClaims)
  replayed : replay'.lockTable = m.table c.locksOf replay.lockTable
  live : Live scan' replay' = m.live (Live scan replay)
  released : ∀ attempt ∈ scan'.released,
    attempt ∈ scan.released ∨ ∃ id, replay.attemptOf id = some attempt

/-- The three records of the locks agree: every attempt of an item without a receipt holds
all locks of its item, unless it is parked, and nothing else is held. -/
structure Custody (c : Contracts) (t : RunTables) (scan : Scan) (replay : Scheduler.Replay) :
    Prop where
  whole : LockTable.Whole c.locksOf (Live scan replay) (lockTable t.resourceClaims)
  expected : lockTable scan.expectedClaims = lockTable t.resourceClaims
  replayed : replay.lockTable = lockTable t.resourceClaims
  distinct : ∀ id id' attempt, replay.attemptOf id = some attempt →
    replay.attemptOf id' = some attempt → id = id'
  released : ∀ attempt ∈ scan.released, ∃ id, replay.attemptOf id = some attempt

section Steps

variable {w : Platform} {runId : String} {c : Contracts} {scan scan' : Scan}
  {replay : Scheduler.Replay} {tx tx' : Tx} {rows : List EventRow} {events : List ReplayEvent}
  {id attempt : String}

/-- The replay events of still rows move no claim. -/
theorem Turn.still (h : Turn w runId c scan replay tx tx' rows events)
    (hrows : ∀ row ∈ rows, row.Still) : ∀ event ∈ events, event.kind.movesLocks = false := by
  intro event hevent
  obtain ⟨row, hrow, hreplay⟩ := mem_of_mapM_eq_ok h.replays hevent
  by_cases hadapter : ∃ value, event.kind = .adapter value
  · obtain ⟨value, hvalue⟩ := hadapter
    rw [hvalue]
    rfl
  · obtain ⟨payload, hpayload, hkind⟩ := EventRow.payload_of_replayEvent hreplay
      fun value hvalue => hadapter ⟨value, hvalue⟩
    rw [hkind, InternalPayload.replayKind_movesLocks]
    exact hrows row hrow payload hpayload

/-- A turn of still rows that takes no receipt of an attempt leaves the locks alone. -/
theorem Turn.lockStep_stay (h : Turn w runId c scan replay tx tx' rows events)
    (hs : Settled tx.tables replay)
    (hscan : rows.foldlM (Scan.step w tx'.tables c) scan = .ok scan')
    (hrows : ∀ row ∈ rows, row.Still)
    (hclaims : tx'.tables.resourceClaims = tx.tables.resourceClaims)
    (hreceipts : ∀ id attempt, replay.attemptOf id = some attempt →
      tx'.tables.terminalReceipts[id]? = tx.tables.terminalReceipts[id]?) :
    LockStep c tx.tables tx'.tables scan scan' replay (replay.run events) .stay := by
  have hkinds := h.still hrows
  have hsame := Scan.foldlM_sameLocks hscan hrows
  have hattempts := h.attemptOf_uncreated fun event hevent locks hkind => by
    have hstill := hkinds event hevent
    rw [hkind] at hstill
    cases hstill
  refine ⟨trivial, by rw [hclaims]; rfl, by rw [hsame.claims]; rfl, ?_, ?_, fun attempt hmem =>
    .inl (hsame.released ▸ hmem)⟩
  · funext lock
    rw [Scheduler.Replay.lockTable, Scheduler.Replay.run_claims_still hkinds]
    rfl
  · ext ⟨a, b⟩
    simp only [Live, LockTable.Move.live, Set.mem_ofPred_eq, hattempts, hsame.released]
    constructor
    · rintro ⟨ha, hopen, hkept⟩
      exact ⟨ha, (h.unreceipted_iff hs (hreceipts a b ha)).mp hopen, hkept⟩
    · rintro ⟨ha, hopen, hkept⟩
      exact ⟨ha, (h.unreceipted_iff hs (hreceipts a b ha)).mpr hopen, hkept⟩

/-- A live attempt is the only one of its item. -/
theorem Live.keep_iff (hattempt : replay.attemptOf id = some attempt) :
    ∀ other ∈ Live scan replay, (other.1 != id) = false ↔ other = (id, attempt) := by
  rintro ⟨a, b⟩ ⟨ha, -⟩
  constructor
  · intro hkeep
    obtain rfl : a = id := by simpa using hkeep
    obtain rfl := Option.some.inj (ha.symm.trans hattempt)
    rfl
  · intro heq
    obtain ⟨rfl, -⟩ := Prod.mk.inj heq
    simp

theorem lockTable_deleteClaims :
    lockTable (tx.deleteClaims id attempt).tables.resourceClaims =
      LockTable.drop (lockTable tx.tables.resourceClaims) (id, attempt) := by
  have hkeep : ∀ other : String × String,
      (!(other.1 == id && other.2 == attempt)) = false ↔ other = (id, attempt) := by
    intro other
    simp [Prod.ext_iff]
  exact lockTable_filter_ne hkeep

/-- An attempt that ends gives back its locks. -/
theorem Ended.lockStep {ofRun : String} {receipt : ReceiptRow} {payload : InternalPayload}
    {journaled : List InternalEvent}
    (h : Ended w ofRun tx tx' id attempt receipt payload journaled)
    (hturn : Turn w runId c scan replay tx tx' (rowsOf w tx.sequence journaled)
      (replayEventsOf w tx.sequence journaled))
    (hactive : ∃ item, Active replay id attempt item) (hpayload : payload.movesLocks = false)
    (hs : Settled tx.tables replay) (hc : Custody c tx.tables scan replay)
    (hscan : (rowsOf w tx.sequence journaled).foldlM (Scan.step w tx'.tables c) scan = .ok scan') :
    LockStep c tx.tables tx'.tables scan scan' replay
      (replay.run (replayEventsOf w tx.sequence journaled)) (.drop (id, attempt)) := by
  obtain ⟨hattempt, -⟩ := active_iff.mp hactive
  obtain ⟨item, hitem, -⟩ := hactive
  obtain ⟨eventId, releaseId, recordedAt, hjournaled⟩ := h.journaled
  have hothers : ∀ e ∈ [journalEvent ofRun eventId (some id) (some attempt) recordedAt payload] ++
      ([] : List InternalEvent), e.payload.movesLocks = false := by
    intro e he
    obtain rfl := List.mem_singleton.mp he
    exact hpayload
  have hattempts : ∀ other, (replay.run (replayEventsOf w tx.sequence journaled)).attemptOf other =
      replay.attemptOf other := by
    refine hturn.attemptOf_uncreated (uncreated_replayEventsOf fun e he locks request hcreates => ?_)
    rw [hjournaled] at he
    rcases List.mem_cons.mp he with rfl | he
    · rw [show payload = _ from hcreates] at hpayload
      cases hpayload
    · obtain rfl := List.mem_singleton.mp he
      cases hcreates
  have hunreceipted : ∀ other,
      (replay.run (replayEventsOf w tx.sequence journaled)).Unreceipted other ↔
        replay.Unreceipted other ∧ other ≠ id := by
    intro other
    by_cases heq : other = id
    · subst heq
      have hgone : ¬ (replay.run (replayEventsOf w tx.sequence journaled)).Unreceipted other := by
        rw [(hturn.settled hs).unreceipted_iff, h.receipts]
        simp
      simp [hgone]
    · have hsame : tx'.tables.terminalReceipts[other]? = tx.tables.terminalReceipts[other]? := by
        rw [h.receipts, BTreeMap.getElem?_insert_eq, if_neg (Ne.symm heq)]
      rw [hturn.unreceipted_iff hs hsame]
      simp [heq]
  rw [hjournaled] at hscan
  obtain ⟨scan₁, scan₂, row, hbefore, hrow, hafter⟩ :=
    Scan.foldlM_around [_] [] hscan hothers
  obtain ⟨hclaims, hreleased⟩ := Scan.onPayload_ended hrow rfl rfl rfl
  have hsame : scan'.released = scan.released := by
    rw [hafter.released, hreleased, hbefore.released]
  refine ⟨trivial, by rw [h.claims]; exact lockTable_deleteClaims, ?_, ?_, ?_, fun other hmem =>
    .inl (hsame ▸ hmem)⟩
  · rw [hafter.claims, hclaims, hbefore.claims]
    rfl
  · obtain ⟨n, hreplay⟩ := Scheduler.Replay.run_claims_around w tx.sequence [_] [] hitem hothers
      (e := journalEvent ofRun releaseId (some id) (some attempt) recordedAt .resourcesReleased) rfl
    have hfilter : (replay.run (replayEventsOf w tx.sequence journaled)).claims =
        replay.claims.filter fun _ claim => claim.workItemId != id := by
      rw [hjournaled]
      exact hreplay
    rw [Scheduler.Replay.lockTable_filter (fun holder => holder.1 != id) hfilter
      (fun claim => rfl) rfl, hc.replayed]
    exact LockTable.drop_eq_filter hc.whole (Live.keep_iff hattempt)
  · ext ⟨a, b⟩
    simp only [Live, LockTable.Move.live, Set.mem_ofPred_eq, Set.mem_sdiff, Set.mem_singleton_iff,
      hattempts, hunreceipted, hsame, Prod.mk.injEq]
    constructor
    · rintro ⟨ha, ⟨hopen, hne⟩, hkept⟩
      exact ⟨⟨ha, hopen, hkept⟩, fun heq => hne heq.1⟩
    · rintro ⟨⟨ha, hopen, hkept⟩, hne⟩
      refine ⟨ha, ⟨hopen, ?_⟩, hkept⟩
      rintro rfl
      exact hne ⟨rfl, Option.some.inj (ha.symm.trans hattempt)⟩

/-- A parked attempt gives back its locks until it is woken. -/
theorem Disposed.lockStep {history : History} {accepted : AcceptedDisposition}
    {predecessor : Option String} {journaled : List InternalEvent}
    (h : Disposed w runId c scan replay tx tx' id attempt history accepted predecessor journaled)
    (hturn : Turn w runId c scan replay tx tx' (rowsOf w tx.sequence journaled)
      (replayEventsOf w tx.sequence journaled))
    (hparks : Tx.parks history.policy accepted.disposition = true)
    (hs : Settled tx.tables replay) (hc : Custody c tx.tables scan replay)
    (hscan : (rowsOf w tx.sequence journaled).foldlM (Scan.step w tx'.tables c) scan = .ok scan') :
    LockStep c tx.tables tx'.tables scan scan' replay
      (replay.run (replayEventsOf w tx.sequence journaled)) (.drop (id, attempt)) := by
  obtain ⟨item, hitem, -⟩ := h.active
  obtain ⟨hattempt, -⟩ := active_iff.mp h.active
  obtain ⟨locks, -, hjournaled⟩ := h.locks
  rw [if_pos hparks] at hjournaled
  have hothers : ∀ e ∈ [dispositionEvent runId id attempt accepted predecessor] ++
      ([] : List InternalEvent), e.payload.movesLocks = false := by
    intro e he
    obtain rfl := List.mem_singleton.mp he
    rfl
  have hattempts : ∀ other, (replay.run (replayEventsOf w tx.sequence journaled)).attemptOf other =
      replay.attemptOf other := by
    refine hturn.attemptOf_uncreated (uncreated_replayEventsOf fun e he locks request hcreates => ?_)
    rw [hjournaled] at he
    rcases List.mem_cons.mp he with rfl | he
    · cases hcreates
    · obtain rfl := List.mem_singleton.mp he
      cases hcreates
  have hunreceipted : ∀ other,
      (replay.run (replayEventsOf w tx.sequence journaled)).Unreceipted other ↔
        replay.Unreceipted other :=
    fun other => hturn.unreceipted_iff hs (by rw [h.same.receipts])
  rw [hjournaled] at hscan
  obtain ⟨scan₁, scan₂, row, hbefore, hrow, hafter⟩ :=
    Scan.foldlM_around [_] [] hscan hothers
  have hwhole : LockTable.Whole c.locksOf (Live scan replay) (lockTable scan₁.expectedClaims) := by
    rw [hbefore.claims, hc.expected]
    exact hc.whole
  obtain ⟨hclaims, hreleased⟩ := Scan.onPayload_parked hrow rfl rfl rfl hwhole
  have hsame : ∀ other, other ∈ scan'.released ↔ other = attempt ∨ other ∈ scan.released := by
    intro other
    rw [hafter.released, hreleased, hbefore.released]
  refine ⟨trivial, ?_, ?_, ?_, ?_, fun other hmem => ?_⟩
  · rw [h.claims, if_pos hparks]
    exact lockTable_deleteClaims
  · rw [hafter.claims, hclaims, hbefore.claims]
    rfl
  · obtain ⟨n, hreplay⟩ := Scheduler.Replay.run_claims_around w tx.sequence [_] [] hitem hothers
      (e := parkEvent runId id attempt history.policy accepted.disposition locks) rfl
    have hfilter : (replay.run (replayEventsOf w tx.sequence journaled)).claims =
        replay.claims.filter fun _ claim =>
          claim.workItemId != id || some attempt != some claim.attemptId := by
      rw [hjournaled]
      exact hreplay
    rw [Scheduler.Replay.lockTable_filter
      (fun holder => holder.1 != id || some attempt != some holder.2) hfilter (fun claim => rfl) rfl, hc.replayed]
    refine LockTable.drop_eq_filter hc.whole fun other _ => ?_
    simp only [Bool.or_eq_false_iff, bne_eq_false_iff_eq, Option.some.injEq, Prod.ext_iff]
    exact and_congr_right fun _ => eq_comm
  · ext ⟨a, b⟩
    simp only [Live, LockTable.Move.live, Set.mem_ofPred_eq, Set.mem_sdiff, Set.mem_singleton_iff,
      hattempts, hunreceipted, hsame, Prod.mk.injEq, not_or]
    constructor
    · rintro ⟨ha, hopen, hne, hkept⟩
      exact ⟨⟨ha, hopen, hkept⟩, fun heq => hne heq.2⟩
    · rintro ⟨⟨ha, hopen, hkept⟩, hne⟩
      refine ⟨ha, hopen, ?_, hkept⟩
      rintro rfl
      exact hne ⟨hc.distinct a id _ ha hattempt, rfl⟩
  · rcases (hsame other).mp hmem with rfl | hmem
    · exact .inr ⟨id, hattempt⟩
    · exact .inl hmem

/-- A woken attempt takes its locks again. -/
theorem Woken.lockStep {wakeOccurrenceId : String} {history : History}
    {preparation : DispatchPreparation} {openedAt : Instant}
    {deferred : DeferredProviderDispatchV1} {opened : OpenedDispatch}
    {journaled : List InternalEvent} {locks : List String}
    (h : Woken w runId c scan replay tx tx' id attempt wakeOccurrenceId history preparation openedAt
      deferred opened journaled)
    (hturn : Turn w runId c scan replay tx tx' (rowsOf w tx.sequence journaled)
      (replayEventsOf w tx.sequence journaled))
    (hlocks : (c.profile.workItems[id]?).map (·.resourceLockKeys) = some locks)
    (hregained : Tx.Regained tx.tables.resourceClaims tx'.tables.resourceClaims locks id attempt)
    (hjournaled : journaled = reacquireEvent runId id attempt wakeOccurrenceId history.policy
      deferred opened openedAt locks :: [wakeEvent runId id attempt wakeOccurrenceId deferred opened
        openedAt, dispatchEvent w runId id attempt opened])
    (hs : Settled tx.tables replay) (hc : Custody c tx.tables scan replay)
    (hscan : (rowsOf w tx.sequence journaled).foldlM (Scan.step w tx'.tables c) scan = .ok scan') :
    LockStep c tx.tables tx'.tables scan scan' replay
      (replay.run (replayEventsOf w tx.sequence journaled)) (.take (id, attempt)) := by
  obtain ⟨item, hitem, -⟩ := h.active
  obtain ⟨hattempt, hopen⟩ := active_iff.mp h.active
  have hholder : c.locksOf (id, attempt) = locks := by
    rw [Contracts.locksOf, hlocks, Option.getD_some]
  have hothers : ∀ e ∈ ([] : List InternalEvent) ++ [wakeEvent runId id attempt wakeOccurrenceId
      deferred opened openedAt, dispatchEvent w runId id attempt opened],
      e.payload.movesLocks = false := by
    intro e he
    simp only [List.nil_append, List.mem_cons, List.not_mem_nil, or_false] at he
    rcases he with rfl | rfl <;> rfl
  have hattempts : ∀ other, (replay.run (replayEventsOf w tx.sequence journaled)).attemptOf other =
      replay.attemptOf other := by
    refine hturn.attemptOf_uncreated (uncreated_replayEventsOf fun e he locks request hcreates => ?_)
    rw [hjournaled] at he
    simp only [List.mem_cons, List.not_mem_nil, or_false] at he
    rcases he with rfl | rfl | rfl <;> cases hcreates
  have hunreceipted : ∀ other,
      (replay.run (replayEventsOf w tx.sequence journaled)).Unreceipted other ↔
        replay.Unreceipted other :=
    fun other => hturn.unreceipted_iff hs (by rw [h.same.receipts])
  rw [hjournaled] at hscan
  obtain ⟨scan₁, scan₂, row, hbefore, hrow, hafter⟩ :=
    Scan.foldlM_around [] [_, _] hscan hothers
  obtain ⟨hclaims, hreleased⟩ := Scan.onPayload_reacquired hrow rfl rfl rfl
  have hsame : ∀ other, other ∈ scan'.released ↔ other ≠ attempt ∧ other ∈ scan.released := by
    intro other
    rw [hafter.released, hreleased, hbefore.released]
  refine ⟨?_, ?_, ?_, ?_, ?_, fun other hmem => .inl ((hsame other).mp hmem).2⟩
  · rw [LockTable.Move.Free, hholder]
    exact hregained.before
  · funext lock
    rw [LockTable.Move.table, hholder]
    exact hregained.after lock
  · rw [hafter.claims, hclaims, hbefore.claims]
    rfl
  · obtain ⟨n, hreplay⟩ := Scheduler.Replay.run_claims_around w tx.sequence [] [_, _] hitem hothers
      (e := reacquireEvent runId id attempt wakeOccurrenceId history.policy deferred opened openedAt
        locks) rfl
    rw [LockTable.Move.table, hholder]
    refine Scheduler.Replay.lockTable_claimAll ?_
    rw [hjournaled]
    exact hreplay
  · ext ⟨a, b⟩
    simp only [Live, LockTable.Move.live, Set.mem_ofPred_eq, Set.mem_insert_iff, hattempts,
      hunreceipted, hsame, Prod.mk.injEq, not_and]
    constructor
    · rintro ⟨ha, hopen', hkept⟩
      by_cases heq : b = attempt
      · subst heq
        exact .inl ⟨hc.distinct a id _ ha hattempt, rfl⟩
      · exact .inr ⟨ha, hopen', fun hmem => hkept heq hmem⟩
    · rintro (⟨rfl, rfl⟩ | ⟨ha, hopen', hkept⟩)
      · exact ⟨hattempt, hopen, fun hne => (hne rfl).elim⟩
      · exact ⟨ha, hopen', fun _ => hkept⟩

/-- A prepared attempt takes its locks. -/
theorem Prepared.lockStep {recordedAt : Instant} {preparation : Option DispatchPreparation}
    {opened : Option OpenedDispatch} {journaled : List InternalEvent}
    (h : Prepared w runId c scan replay tx tx' id attempt recordedAt preparation opened journaled)
    (hturn : Turn w runId c scan replay tx tx' (rowsOf w tx.sequence journaled)
      (replayEventsOf w tx.sequence journaled))
    (hfresh : ∀ other, replay.attemptOf other ≠ some attempt)
    (hs : Settled tx.tables replay) (hc : Custody c tx.tables scan replay)
    (hscan : (rowsOf w tx.sequence journaled).foldlM (Scan.step w tx'.tables c) scan = .ok scan') :
    LockStep c tx.tables tx'.tables scan scan' replay
      (replay.run (replayEventsOf w tx.sequence journaled)) (.take (id, attempt)) := by
  obtain ⟨item, hitem, hidle, hopen, -⟩ := h.item
  obtain ⟨execution, request, capacityEvents, dispatchEvents, eventId, hexecution, -, hcapacity,
    hfree, hclaims', hjournaled, rfl⟩ := h.execution
  have hholder : c.locksOf (id, attempt) = execution.resourceLockKeys := by
    rw [Contracts.locksOf, hexecution, Option.map_some, Option.getD_some]
  have hothers : ∀ e ∈ capacityEvents ++ (opened.map (dispatchEvent w runId id attempt)).toList,
      e.payload.movesLocks = false := by
    intro e he
    rcases List.mem_append.mp he with he | he
    · cases hcapacity with
      | none => cases he
      | some requirement capacity eventId =>
        obtain rfl := List.mem_singleton.mp he
        rfl
    · obtain ⟨dispatch, -, rfl⟩ := Option.mem_map.mp (Option.mem_toList.mp he)
      rfl
  have hunreceipted : ∀ other,
      (replay.run (replayEventsOf w tx.sequence journaled)).Unreceipted other ↔
        replay.Unreceipted other :=
    fun other => hturn.unreceipted_iff hs (by rw [h.same.receipts])
  rw [hjournaled] at hscan
  obtain ⟨scan₁, scan₂, row, hbefore, hrow, hafter⟩ :=
    Scan.foldlM_around _ _ hscan hothers
  obtain ⟨hclaims, hreleased⟩ := Scan.onPayload_created hrow rfl rfl rfl
  have hsame : scan'.released = scan.released := by
    rw [hafter.released, hreleased, hbefore.released]
  refine ⟨?_, ?_, ?_, ?_, ?_, fun other hmem => .inl (hsame ▸ hmem)⟩
  · rw [LockTable.Move.Free, hholder]
    exact fun lock hlock => .inl (hfree lock hlock)
  · rw [hclaims', LockTable.Move.table, hholder]
    exact lockTable_insertAll
  · rw [hafter.claims, hclaims, hbefore.claims, LockTable.Move.table, hholder]
  · obtain ⟨n, hreplay⟩ := Scheduler.Replay.run_claims_around w tx.sequence _ _ hitem
      hothers (e := journalEvent runId eventId (some id) (some attempt) recordedAt
        (.attemptCreated execution.resourceLockKeys request)) rfl
    rw [LockTable.Move.table, hholder]
    refine Scheduler.Replay.lockTable_claimAll ?_
    rw [hjournaled]
    exact hreplay
  · ext ⟨a, b⟩
    simp only [Live, LockTable.Move.live, Set.mem_ofPred_eq, Set.mem_insert_iff, h.attemptOf,
      hunreceipted, hsame, Prod.mk.injEq]
    constructor
    · rintro ⟨ha, hopen', hkept⟩
      by_cases heq : a = id
      · rw [if_pos heq] at ha
        exact .inl ⟨heq, (Option.some.inj ha).symm⟩
      · rw [if_neg heq] at ha
        exact .inr ⟨ha, hopen', hkept⟩
    · rintro (⟨rfl, rfl⟩ | ⟨ha, hopen', hkept⟩)
      · refine ⟨if_pos rfl, ⟨item, hitem, hopen⟩, fun hmem => ?_⟩
        obtain ⟨other, hother⟩ := hc.released _ hmem
        exact hfresh other hother
      · have hne : a ≠ id := by
          rintro rfl
          rw [Scheduler.Replay.attemptOf, hitem] at ha
          rw [show item.activeAttemptId = some b from ha] at hidle
          cases hidle
        exact ⟨by rw [if_neg hne]; exact ha, hopen', hkept⟩

/-- The prepared attempt is new to the run. -/
theorem Standing.fresh (h : Standing w runId c scan replay tx) (other : String) :
    replay.attemptOf other ≠ some ("attempt-" ++ w.uuid tx.draws) := by
  intro hother
  unfold Scheduler.Replay.attemptOf at hother
  obtain ⟨item, hitem, hactive⟩ := Option.bind_eq_some_iff.mp hother
  obtain ⟨row, hrow, -, hnames⟩ := h.reads.active_named hitem hactive
  exact h.named.fresh row hrow hnames

/-- Every turn is one move of the locks; where it takes the locks of an attempt, a worker slot
was free. -/
theorem Turn.lockStep (h : Turn w runId c scan replay tx tx' rows events)
    (hstanding : Standing w runId c scan replay tx) (hs : Settled tx.tables replay)
    (hc : Custody c tx.tables scan replay)
    (hscan : rows.foldlM (Scan.step w tx'.tables c) scan = .ok scan') :
    ∃ m, LockStep c tx.tables tx'.tables scan scan' replay (replay.run events) m ∧
      ∀ holder, m = .take holder →
        activeWorkers scan.released (replay.projection c runId) < c.maximum := by
  have hturn := h
  have hstay : ∀ {m : LockTable.Move (String × String)}, m = .stay → ∀ holder, m = .take holder →
      activeWorkers scan.released (replay.projection c runId) < c.maximum := by
    rintro m rfl holder htake
    cases htake
  have hdrop : ∀ {m : LockTable.Move (String × String)} {holder}, m = .drop holder →
      ∀ holder, m = .take holder →
        activeWorkers scan.released (replay.projection c runId) < c.maximum := by
    rintro m _ rfl holder htake
    cases htake
  cases h with
  | kept h =>
    exact ⟨.stay, hturn.lockStep_stay hs hscan (by simp) (by rw [h]) (fun _ _ _ => by rw [h]),
      hstay rfl⟩
  | drove h =>
    exact ⟨.stay, hturn.lockStep_stay hs hscan (by simp) (by rw [h.tables])
      (fun _ _ _ => by rw [h.tables]), hstay rfl⟩
  | prepared h =>
    refine ⟨_, h.lockStep hturn (fun other => ?_) hs hc hscan, fun _ _ => h.slot⟩
    rw [h.attempt]
    exact hstanding.fresh other
  | @disposed _ _ history accepted _ _ h =>
    obtain ⟨locks, -, rfl⟩ := h.locks
    by_cases hparks : Tx.parks history.policy accepted.disposition = true
    · exact ⟨_, h.lockStep hturn hparks hs hc hscan, hdrop rfl⟩
    · refine ⟨.stay, hturn.lockStep_stay hs hscan (still_rowsOf fun e he => ?_)
        (by rw [h.claims, if_neg hparks]) (fun _ _ _ => by rw [h.same.receipts]), hstay rfl⟩
      rw [if_neg hparks] at he
      obtain rfl := List.mem_singleton.mp he
      rfl
  | woken h =>
    obtain ⟨lockEvents, hlocks, hjournaled⟩ := h.locks
    cases hlocks with
    | reacquired locks hpolicy hprofile hregained =>
      exact ⟨_, h.lockStep hturn hprofile hregained hjournaled hs hc hscan,
        fun _ _ => h.slot hpolicy⟩
    | kept hpolicy hclaims =>
      refine ⟨.stay, hturn.lockStep_stay hs hscan (still_rowsOf fun e he => ?_) hclaims
        (fun _ _ _ => by rw [h.same.receipts]), hstay rfl⟩
      rw [hjournaled] at he
      simp only [List.nil_append, List.mem_cons, List.not_mem_nil, or_false] at he
      rcases he with rfl | rfl <;> rfl
  | resumed h =>
    refine ⟨.stay, hturn.lockStep_stay hs hscan (still_rowsOf fun e he => ?_) h.claims
      (fun _ _ _ => by rw [h.same.receipts]), hstay rfl⟩
    obtain rfl := List.mem_singleton.mp (h.journaled ▸ he)
    rfl
  | transitioned hpayload h =>
    obtain ⟨eventId, recordedAt, rfl⟩ := h.journaled
    refine ⟨.stay, hturn.lockStep_stay hs hscan (still_rowsOf fun e he => ?_) h.claims
      (fun _ _ _ => by rw [h.same.receipts]), hstay rfl⟩
    obtain rfl := List.mem_singleton.mp he
    cases hpayload <;> rfl
  | observed h =>
    refine ⟨.stay, hturn.lockStep_stay hs hscan (fun row hrow payload hpayload => ?_) h.claims
      (fun _ _ _ => by rw [h.same.receipts]), hstay rfl⟩
    obtain rfl := List.mem_singleton.mp hrow
    cases hpayload
  | terminated _ h =>
    exact ⟨_, h.ended.lockStep hturn h.active rfl hs hc hscan, hdrop rfl⟩
  | prelaunched _ h =>
    exact ⟨_, h.ended.lockStep hturn h.active rfl hs hc hscan, hdrop rfl⟩
  | declined _ h =>
    obtain ⟨eventId, rfl⟩ := h.journaled
    refine ⟨.stay, hturn.lockStep_stay hs hscan (still_rowsOf fun e he => ?_) h.claims
      (fun id attempt hattempt => ?_), hstay rfl⟩
    · obtain rfl := List.mem_singleton.mp he
      rfl
    · -- a declined item has no attempt
      obtain ⟨item, hitem, hidle, -⟩ := h.item
      rw [h.receipts, BTreeMap.getElem?_insert_eq, if_neg]
      rintro rfl
      rw [Scheduler.Replay.attemptOf, hitem, Option.bind_some, hidle] at hattempt
      cases hattempt
  | closedOut h =>
    obtain ⟨eventId, recordedAt, digest, rfl⟩ := h.journaled
    refine ⟨.stay, hturn.lockStep_stay hs hscan (still_rowsOf fun e he => ?_) h.claims
      (fun _ _ _ => by rw [h.receipts]), hstay rfl⟩
    obtain rfl := List.mem_singleton.mp he
    rfl

/-- An attempt stays the attempt of one item only. -/
theorem Turn.distinct (h : Turn w runId c scan replay tx tx' rows events)
    (hstanding : Standing w runId c scan replay tx)
    (hdistinct : ∀ id id' attempt, replay.attemptOf id = some attempt →
      replay.attemptOf id' = some attempt → id = id') {id id' attempt : String}
    (hid : (replay.run events).attemptOf id = some attempt)
    (hid' : (replay.run events).attemptOf id' = some attempt) : id = id' := by
  rcases h.uncreated_or_prepared with ⟨-, hkinds⟩ | ⟨named, _, _, _, _, journaled, hprepared, -, rfl⟩
  · rw [h.attemptOf_uncreated hkinds] at hid hid'
    exact hdistinct id id' attempt hid hid'
  · have hfresh := hstanding.fresh
    rw [← hprepared.attempt] at hfresh
    rw [hprepared.attemptOf] at hid hid'
    by_cases heq : id = named <;> by_cases heq' : id' = named
    · rw [heq, heq']
    · rw [if_pos heq] at hid
      rw [if_neg heq', ← hid] at hid'
      exact absurd hid' (hfresh id')
    · rw [if_pos heq'] at hid'
      rw [if_neg heq, ← hid'] at hid
      exact absurd hid (hfresh id)
    · rw [if_neg heq] at hid
      rw [if_neg heq'] at hid'
      exact hdistinct id id' attempt hid hid'

/-- The attempt of an item stays its attempt. -/
theorem Turn.attemptOf_mono (h : Turn w runId c scan replay tx tx' rows events)
    {id attempt : String} (hattempt : replay.attemptOf id = some attempt) :
    (replay.run events).attemptOf id = some attempt := by
  unfold Scheduler.Replay.attemptOf at hattempt
  obtain ⟨item, hitem, hactive⟩ := Option.bind_eq_some_iff.mp hattempt
  obtain ⟨item', hitem', hactive'⟩ := h.keeps_attempt hitem hactive
  rw [Scheduler.Replay.attemptOf, hitem']
  exact hactive'

/-- A turn that moves the locks keeps their custody. -/
theorem LockStep.custody {m : LockTable.Move (String × String)}
    (hstep : LockStep c tx.tables tx'.tables scan scan' replay (replay.run events) m)
    (h : Turn w runId c scan replay tx tx' rows events)
    (hstanding : Standing w runId c scan replay tx) (hc : Custody c tx.tables scan replay) :
    Custody c tx'.tables scan' (replay.run events) := by
  refine ⟨?_, ?_, ?_, fun id id' attempt => h.distinct hstanding hc.distinct,
    fun attempt hmem => ?_⟩
  · rw [hstep.live, hstep.table]
    exact hc.whole.move m hstep.free
  · rw [hstep.expected, hstep.table, hc.expected]
  · rw [hstep.replayed, hstep.table, hc.replayed]
  · rcases hstep.released attempt hmem with hold | ⟨id, hid⟩
    · obtain ⟨id, hid⟩ := hc.released attempt hold
      exact ⟨id, h.attemptOf_mono hid⟩
    · exact ⟨id, h.attemptOf_mono hid⟩

end Steps

/-! ## Worker slots -/

theorem Reads.mem_live {w : Platform} {runId : String} {t : RunTables} {c : Contracts} {scan : Scan}
    {replay : Scheduler.Replay} (h : Reads w runId t c scan replay) {id attempt : String} :
    (id, attempt) ∈ Live scan replay ↔ ∃ item ∈ (replay.projection c runId).workItems,
      item.workItemId = id ∧ item.activeAttemptId = some attempt ∧
      item.schedulerState.isExplicitTerminal = false ∧ attempt ∉ scan.released := by
  constructor
  · rintro ⟨hattempt, ⟨raw, hraw, hopen⟩, hkept⟩
    have hid : raw.workItemId = id := (h.charts hraw).workItemId
    rw [Scheduler.Replay.attemptOf, hraw] at hattempt
    exact ⟨_, h.mem_workItems.mpr ⟨raw, hid.symm ▸ hraw, rfl⟩, by simpa using hid,
      by simpa using hattempt, by simpa using hopen, hkept⟩
  · rintro ⟨item, hitem, rfl, hattempt, hopen, hkept⟩
    obtain ⟨raw, hraw, rfl⟩ := h.mem_workItems.mp hitem
    rw [LiveWorkItemV1.evaluateReadiness_workItemId]
    refine ⟨?_, ⟨raw, hraw, by simpa using hopen⟩, hkept⟩
    rw [Scheduler.Replay.attemptOf, hraw]
    simpa using hattempt

/-- No two items of a projection have one id. -/
theorem Reads.nodup_workItems {w : Platform} {runId : String} {t : RunTables} {c : Contracts}
    {scan : Scan} {replay : Scheduler.Replay} (h : Reads w runId t c scan replay) :
    (replay.workItems.map (·.workItemId)).Nodup := by
  have hkeys : replay.workItems.map (·.workItemId) = replay.items.toList.map Prod.fst := by
    rw [Scheduler.Replay.workItems, BTreeMap.valuesOf, List.map_map, List.map_map]
    refine List.map_congr_left fun entry hentry => ?_
    have hitem : replay.items[entry.1]? = some entry.2 :=
      Std.ExtTreeMap.mem_toList_iff_getElem?_eq_some.mp hentry
    simpa using (h.charts hitem).workItemId
  rw [hkeys]
  exact BTreeMap.nodup_keys_toList

/-- The occupied slots are the live attempts. -/
theorem Reads.activeWorkers_eq {w : Platform} {runId : String} {t : RunTables} {c : Contracts}
    {scan : Scan} {replay : Scheduler.Replay} (h : Reads w runId t c scan replay) :
    activeWorkers scan.released (replay.projection c runId) = (Live scan replay).ncard ∧
      (Live scan replay).Finite := by
  let occupied := (replay.projection c runId).workItems.filter (occupiesSlot scan.released)
  let holders := occupied.map fun item => (item.workItemId, item.activeAttemptId.getD "")
  have hoccupied : ∀ item, item ∈ occupied ↔ item ∈ (replay.projection c runId).workItems ∧
      ∃ attempt, item.activeAttemptId = some attempt ∧
        item.schedulerState.isExplicitTerminal = false ∧ attempt ∉ scan.released := by
    intro item
    simp [occupied, occupiesSlot, Option.any_eq_true, BTreeSet.contains_eq_false]
  have hmem : Live scan replay = {holder | holder ∈ holders} := by
    ext ⟨id, attempt⟩
    simp only [h.mem_live, Set.mem_ofPred_eq, holders, List.mem_map, hoccupied, Prod.mk.injEq]
    constructor
    · rintro ⟨item, hitem, hid, hattempt, hopen, hkept⟩
      exact ⟨item, ⟨hitem, attempt, hattempt, hopen, hkept⟩, hid, by rw [hattempt]; rfl⟩
    · rintro ⟨item, ⟨hitem, found, hattempt, hopen, hkept⟩, hid, hget⟩
      rw [hattempt] at hget
      obtain rfl : found = attempt := hget
      exact ⟨item, hitem, hid, hattempt, hopen, hkept⟩
  have hnodup : holders.Nodup := by
    have hids : (holders.map Prod.fst).Nodup := by
      rw [List.map_map]
      exact (List.filter_sublist.map _).nodup h.nodup_workItems
    exact List.Nodup.of_map _ hids
  have hset : {holder | holder ∈ holders} = (holders.toFinset : Set (String × String)) := by
    ext holder
    simp
  rw [hmem, hset, Set.ncard_coe_finset, List.toFinset_card_of_nodup hnodup, List.length_map]
  exact ⟨rfl, Finset.finite_toSet _⟩

/-- A move that takes no locks frees slots or leaves them, and one that does takes one. -/
theorem LockStep.activeWorkers_le {w : Platform} {runId : String} {c : Contracts} {t t' : RunTables}
    {scan scan' : Scan} {replay replay' : Scheduler.Replay} {m : LockTable.Move (String × String)}
    (h : LockStep c t t' scan scan' replay replay' m) (hr : Reads w runId t c scan replay)
    (hr' : Reads w runId t' c scan' replay') {bound : Nat}
    (hbound : activeWorkers scan.released (replay.projection c runId) ≤ bound)
    (hslot : ∀ holder, m = .take holder →
      activeWorkers scan.released (replay.projection c runId) < bound) :
    activeWorkers scan'.released (replay'.projection c runId) ≤ bound := by
  obtain ⟨hcount, hfinite⟩ := hr.activeWorkers_eq
  rw [hr'.activeWorkers_eq.1, h.live]
  cases m with
  | stay => exact hcount ▸ hbound
  | take holder =>
    have hlt := hslot holder rfl
    have hinsert := Set.ncard_insert_le holder (Live scan replay)
    rw [hcount] at hlt
    exact hinsert.trans hlt
  | drop holder =>
    have hsub : Live scan replay \ {holder} ⊆ Live scan replay := Set.sdiff_subset
    exact (Set.ncard_le_ncard hsub hfinite).trans (hcount ▸ hbound)

/-- The rows of an admission move no locks. -/
theorem Admitted.still {w : Platform} {runId : String} {c : Contracts} {tx : Tx}
    (h : Admitted w runId c tx) : ∀ row ∈ tx.tables.events, row.Still := by
  obtain ⟨evaluatedAt, mechanisms, events, n, -, ⟨⟨runEvent, capacityEvent, availabilityEvent,
    rfl⟩⟩, hrows⟩ := h.journal
  rw [hrows]
  refine still_rowsOf fun e he => ?_
  rcases List.mem_cons.mp he with rfl | he
  · rfl
  · rcases List.mem_append.mp he with he | he <;>
      (obtain ⟨value, -, rfl⟩ := Option.mem_map.mp (Option.mem_toList.mp he)
       rfl)

/-- An admitted run holds nothing. -/
theorem Admitted.custody {w : Platform} {runId : String} {c : Contracts} {tx : Tx} {scan : Scan}
    {replay : Scheduler.Replay} (h : Admitted w runId c tx)
    (hstanding : Standing w runId c scan replay tx) (hopened : Admitted.Opened c replay) :
    Custody c tx.tables scan replay ∧ Live scan replay = ∅ := by
  have hidle : ∀ id attempt, replay.attemptOf id ≠ some attempt := by
    intro id attempt hattempt
    unfold Scheduler.Replay.attemptOf at hattempt
    obtain ⟨item, hitem, hactive⟩ := Option.bind_eq_some_iff.mp hattempt
    obtain ⟨work, -, -, hfirst⟩ := (Scheduler.initialItems_spec hopened.items).1 id item hitem
    rw [(Scheduler.initialItem_eq_some hfirst).2.2.2.1] at hactive
    cases hactive
  have hsame := Scan.foldlM_sameLocks hstanding.reads.journal h.still
  have hempty : Live scan replay = ∅ := by
    ext ⟨id, attempt⟩
    constructor
    · rintro ⟨hattempt, -⟩
      exact (hidle id attempt hattempt).elim
    · intro hmem
      cases hmem
  refine ⟨⟨?_, ?_, ?_, fun id id' attempt hid => (hidle id attempt hid).elim, ?_⟩, hempty⟩
  · rw [hempty, h.claims]
    refine ⟨fun lock holder hlock => ?_, fun holder hholder => ?_⟩
    · simp [lockTable] at hlock
    · cases hholder
  · rw [hsame.claims, h.claims]
    rfl
  · funext lock
    rw [Scheduler.Replay.lockTable, hopened.claims, h.claims]
    simp [lockTable]
  · intro attempt hmem
    rw [hsame.released] at hmem
    exact absurd hmem (by simp [Scan.released, Scan.start, releasedAttempts])

/-- What a reachable run keeps of its locks and slots. -/
theorem Store.Traced.custody {w : Platform} {runId : String} {t : RunTables} {c : Contracts}
    {scan : Scan} {replay : Scheduler.Replay} (h : Store.Traced w runId t c scan replay) :
    Settled t replay ∧ Custody c t scan replay ∧ Reads w runId t c scan replay ∧
      activeWorkers scan.released (replay.projection c runId) ≤ c.maximum := by
  refine h.invariant (P := fun t scan replay => Settled t replay ∧ Custody c t scan replay ∧
    Reads w runId t c scan replay ∧
      activeWorkers scan.released (replay.projection c runId) ≤ c.maximum)
    (fun tx scan replay hadmitted hstanding hopened => ?_)
    fun tx tx' scan scan' replay rows events hstanding hturn hnext hscan hP => ?_
  · obtain ⟨hcustody, hempty⟩ := hadmitted.custody hstanding hopened
    refine ⟨hadmitted.settled hopened, hcustody, hstanding.reads, ?_⟩
    rw [hstanding.reads.activeWorkers_eq.1, hempty, Set.ncard_empty]
    exact Nat.zero_le _
  · obtain ⟨hs, hc, hr, hbound⟩ := hP
    obtain ⟨m, hstep, hslot⟩ := hturn.lockStep hstanding hs hc hscan
    exact ⟨hturn.settled hs, hstep.custody hturn hstanding hc, hnext.reads,
      hstep.activeWorkers_le hr hnext.reads hbound hslot⟩

/-- In every reachable run a lock is held by an attempt exactly when that is the attempt of an
item without a receipt, it is not parked with its locks given back, and the profile gives the
lock to the item. -/
theorem Store.run_lock_custody (w : Platform) (calls : List Call) (runId : String) (t : RunTables)
    (ht : ((Store.empty : Store).run w calls).runs[runId]? = some t) :
    ∃ c projection history, loadContracts w t runId = .ok c ∧
      loadProjection w t runId = .ok projection ∧
      loadExecutionAvailabilityHistory w t c = .ok history ∧
      ∀ lock id attempt, t.resourceClaims[lock]? = some (id, attempt) ↔
        ∃ item ∈ projection.workItems, item.workItemId = id ∧
          item.activeAttemptId = some attempt ∧ item.schedulerState.isExplicitTerminal = false ∧
          attempt ∉ releasedAttempts ((history.map (·.resourceTransitions)).getD []) ∧
          lock ∈ item.resourceLockKeys := by
  obtain ⟨c, scan, replay, htraced⟩ := (Store.run_traced w calls).2 runId t ht
  obtain ⟨-, hc, hr, -⟩ := htraced.custody
  refine ⟨c, _, scan.history, hr.contracts, hr.loads, hr.loads_history, fun lock id attempt => ?_⟩
  have hlocks : ∀ item ∈ (replay.projection c runId).workItems, item.workItemId = id →
      c.locksOf (id, attempt) = item.resourceLockKeys := by
    rintro item hitem rfl
    obtain ⟨raw, hraw, rfl⟩ := hr.mem_workItems.mp hitem
    rw [Contracts.locksOf, LiveWorkItemV1.evaluateReadiness_workItemId, (hr.charts hraw).locks,
      Option.getD_some, LiveWorkItemV1.evaluateReadiness_resourceLockKeys]
  constructor
  · intro hlock
    obtain ⟨hlive, hmem⟩ := hc.whole.held lock (id, attempt) hlock
    obtain ⟨item, hitem, hid, hattempt, hopen, hkept⟩ := hr.mem_live.mp hlive
    exact ⟨item, hitem, hid, hattempt, hopen, hkept, hlocks item hitem hid ▸ hmem⟩
  · rintro ⟨item, hitem, hid, hattempt, hopen, hkept, hmem⟩
    exact hc.whole.whole (id, attempt) (hr.mem_live.mpr ⟨item, hitem, hid, hattempt, hopen, hkept⟩)
      lock ((hlocks item hitem hid).symm ▸ hmem)

/-- The locks of the open attempt of the bench. -/
theorem Store.run_lock_custody_open_attempt : ∃ t projection,
    ((Store.empty : Store).run benchPlatform Bench.openAttempt).runs["run-1"]? = some t ∧
      loadProjection benchPlatform t "run-1" = .ok projection ∧
      ∀ lock id attempt, t.resourceClaims[lock]? = some (id, attempt) →
        ∃ item ∈ projection.workItems, item.workItemId = id ∧
          item.activeAttemptId = some attempt ∧ lock ∈ item.resourceLockKeys := by
  obtain ⟨t, ht⟩ := Store.open_attempt_reached
  obtain ⟨c, projection, history, -, hloads, -, hiff⟩ :=
    Store.run_lock_custody benchPlatform Bench.openAttempt "run-1" t ht
  refine ⟨t, projection, ht, hloads, fun lock id attempt hlock => ?_⟩
  obtain ⟨item, hitem, hid, hattempt, -, -, hmem⟩ := (hiff lock id attempt).mp hlock
  exact ⟨item, hitem, hid, hattempt, hmem⟩

/-- In every reachable run the attempts of items without a receipt, those parked with their
locks given back apart, are at most as many as the run may have workers. -/
theorem Store.run_worker_slots (w : Platform) (calls : List Call) (runId : String) (t : RunTables)
    (ht : ((Store.empty : Store).run w calls).runs[runId]? = some t) :
    ∃ c projection history, loadContracts w t runId = .ok c ∧
      loadProjection w t runId = .ok projection ∧
      loadExecutionAvailabilityHistory w t c = .ok history ∧
      activeWorkers (releasedAttempts ((history.map (·.resourceTransitions)).getD [])) projection ≤
        projection.maximumConcurrentWorkers := by
  obtain ⟨c, scan, replay, htraced⟩ := (Store.run_traced w calls).2 runId t ht
  obtain ⟨-, -, hr, hbound⟩ := htraced.custody
  exact ⟨c, _, scan.history, hr.contracts, hr.loads, hr.loads_history, hbound⟩

/-- The bench run keeps within its slots. -/
theorem Store.run_worker_slots_open_attempt : ∃ t c projection history,
    ((Store.empty : Store).run benchPlatform Bench.openAttempt).runs["run-1"]? = some t ∧
      loadProjection benchPlatform t "run-1" = .ok projection ∧
      loadExecutionAvailabilityHistory benchPlatform t c = .ok history ∧
      activeWorkers (releasedAttempts ((history.map (·.resourceTransitions)).getD [])) projection ≤
        projection.maximumConcurrentWorkers := by
  obtain ⟨t, ht⟩ := Store.open_attempt_reached
  obtain ⟨c, projection, history, -, hloads, hhistory, hbound⟩ :=
    Store.run_worker_slots benchPlatform Bench.openAttempt "run-1" t ht
  exact ⟨t, c, projection, history, ht, hloads, hhistory, hbound⟩

/-! ## The three records -/

/-- Every claim of a replay stands under its own lock. -/
def Scheduler.Replay.Keyed (replay : Scheduler.Replay) : Prop :=
  ∀ (lock : String) (claim : ResourceClaimV1), replay.claims[lock]? = some claim →
    claim.resourceLockKey = lock

theorem Scheduler.Replay.Keyed.step {replay : Scheduler.Replay} (h : replay.Keyed)
    (event : ReplayEvent) : (replay.step event).Keyed := by
  have hclaims : ∀ (id lock : String) (claim : ResourceClaimV1),
      (claimsAfter replay.claims id event)[lock]? = some claim → claim.resourceLockKey = lock := by
    intro id lock claim hclaim
    have hall : ∀ attempt keys, (claimAll replay.claims id attempt keys)[lock]? = some claim →
        claim.resourceLockKey = lock := by
      intro attempt keys hclaim
      cases attempt with
      | none => exact h lock claim hclaim
      | some attempt =>
        rw [claimAll, BTreeMap.getElem?_insertAll] at hclaim
        split at hclaim
        · rw [← Option.some.inj hclaim]
        · exact h lock claim hclaim
    unfold claimsAfter at hclaim
    split at hclaim
    · exact hall _ _ hclaim
    · exact hall _ _ hclaim
    · rw [Std.ExtTreeMap.getElem?_filter'] at hclaim
      exact h lock claim (Option.filter_eq_some_iff.mp hclaim).1
    · rw [Std.ExtTreeMap.getElem?_filter'] at hclaim
      exact h lock claim (Option.filter_eq_some_iff.mp hclaim).1
    · exact h lock claim hclaim
  unfold Scheduler.Replay.step
  split
  · exact h
  · split
    · exact h
    · exact hclaims _

theorem Scheduler.Replay.Keyed.run {replay : Scheduler.Replay} (h : replay.Keyed)
    (events : List ReplayEvent) : (replay.run events).Keyed := by
  induction events generalizing replay with
  | nil => exact h
  | cons event events ih => exact ih (h.step event)

/-- A keyed claim map is its table of holders, key by key. -/
theorem Scheduler.Replay.Keyed.claims_eq {replay : Scheduler.Replay} (h : replay.Keyed)
    {claims : BTreeMap String (String × String)} (htable : replay.lockTable = Nightshift.lockTable claims) :
    replay.claims = claims.map fun lock holder => ⟨lock, holder.1, holder.2⟩ := by
  refine Std.ExtTreeMap.ext_getElem? fun lock => ?_
  have hlock := congrFun htable lock
  rw [Scheduler.Replay.lockTable, Nightshift.lockTable] at hlock
  rw [Std.ExtTreeMap.getElem?_map, ← hlock, Option.map_map]
  cases hclaim : replay.claims[lock]? with
  | none => rfl
  | some claim =>
    rw [Option.map_some, Function.comp_apply, ← h lock claim hclaim]

/-- In every reachable run, whether it has an availability requirement or not, the claim table
is the map the restart validator expects and, lock by lock, the claims of the projection. -/
theorem Store.run_claims_agree (w : Platform) (calls : List Call) (runId : String) (t : RunTables)
    (ht : ((Store.empty : Store).run w calls).runs[runId]? = some t) :
    ∃ c scan projection, loadContracts w t runId = .ok c ∧ Scan.ofJournal w t c = .ok scan ∧
      loadProjection w t runId = .ok projection ∧ t.resourceClaims = scan.expectedClaims ∧
      projection.resourceClaims =
        t.resourceClaims.toList.map fun entry => ⟨entry.1, entry.2.1, entry.2.2⟩ := by
  obtain ⟨c, scan, replay, htraced⟩ := (Store.run_traced w calls).2 runId t ht
  obtain ⟨-, hc, hr, -⟩ := htraced.custody
  have hkeyed : replay.Keyed := by
    obtain ⟨events, items, -, -, rfl⟩ := hr.replayed
    refine Scheduler.Replay.Keyed.run (fun lock claim hclaim => ?_) events
    simp at hclaim
  refine ⟨c, scan, _, hr.contracts, hr.journal, hr.loads, ?_, ?_⟩
  · exact Std.ExtTreeMap.ext_getElem? fun lock => (congrFun hc.expected lock).symm
  · show BTreeMap.valuesOf replay.claims = _
    rw [hkeyed.claims_eq hc.replayed, BTreeMap.valuesOf, Std.ExtTreeMap.toList_map, List.map_map]
    rfl

/-- The claims of the open attempt of the bench agree. -/
theorem Store.run_claims_agree_open_attempt : ∃ t c scan,
    ((Store.empty : Store).run benchPlatform Bench.openAttempt).runs["run-1"]? = some t ∧
      Scan.ofJournal benchPlatform t c = .ok scan ∧ t.resourceClaims = scan.expectedClaims := by
  obtain ⟨t, ht⟩ := Store.open_attempt_reached
  obtain ⟨c, scan, projection, -, hscan, -, hsame, -⟩ :=
    Store.run_claims_agree benchPlatform Bench.openAttempt "run-1" t ht
  exact ⟨t, c, scan, ht, hscan, hsame⟩

end Nightshift
