import Nightshift.Continuation

/-!
# What the strict scan does at one row

One inversion lemma for each handler of the restart validator. It says which
checks a passing row had passed and what became of the accumulators.
-/

namespace Nightshift

open Checked

namespace Scan

variable {w : Platform} {t : RunTables} {c : Contracts} {scan scan' : Scan} {row : EventRow}
  {event : InternalEvent}

theorem claimAll_ok {message : String} {holder : String × String} {locks : List String}
    {claims claims' : BTreeMap String (String × String)}
    (h : claimAll message claims holder locks = .ok claims') :
    (∀ lock ∈ locks, claims[lock]? = none) ∧
      claims' = BTreeMap.insertAll claims locks fun _ => holder := by
  induction locks generalizing claims with
  | nil =>
    obtain rfl : claims = claims' := by simpa [claimAll] using h
    exact ⟨by simp, rfl⟩
  | cons lock locks ih =>
    simp only [claimAll, foldlM_cons_eq_ok, bind_eq_ok, refuseIf_eq_ok, Except.ok.injEq] at h
    obtain ⟨_, ⟨_, hfree, rfl⟩, hrest⟩ := h
    obtain ⟨hnone, rfl⟩ := ih hrest
    refine ⟨fun k hk => ?_, rfl⟩
    rcases List.mem_cons.mp hk with rfl | hk
    · exact Std.ExtTreeMap.getElem?_eq_none_of_contains_eq_false hfree
    · have hk' := hnone k hk
      rw [BTreeMap.getElem?_insert_eq] at hk'
      split at hk'
      · cases hk'
      · exact hk'

/-- Released locks were the holder's and have no holder afterwards. -/
structure Unclaims (claims claims' : BTreeMap String (String × String)) (holder : String × String)
    (locks : List String) : Prop where
  before : ∀ lock ∈ locks, claims[lock]? = some holder
  after : ∀ lock : String, claims'[lock]? = if lock ∈ locks then none else claims[lock]?

theorem releaseAll_ok {holder : String × String} {locks : List String}
    {claims claims' : BTreeMap String (String × String)}
    (h : releaseAll claims holder locks = .ok claims') : Unclaims claims claims' holder locks := by
  induction locks generalizing claims with
  | nil =>
    obtain rfl : claims = claims' := by simpa [releaseAll] using h
    exact ⟨by simp, by simp⟩
  | cons lock locks ih =>
    simp only [releaseAll, foldlM_cons_eq_ok, bind_eq_ok, refuseIf_eq_ok, bne_eq_false_iff_eq,
      Except.ok.injEq] at h
    obtain ⟨_, ⟨_, hheld, rfl⟩, hrest⟩ := h
    have hrest := ih hrest
    refine ⟨fun k hk => ?_, fun k => ?_⟩
    · rcases List.mem_cons.mp hk with rfl | hk
      · exact hheld
      · have hk' := hrest.before k hk
        rw [BTreeMap.getElem?_erase_eq] at hk'
        split at hk'
        · cases hk'
        · exact hk'
    · rw [hrest.after k, BTreeMap.getElem?_erase_eq]
      by_cases hk : lock = k
      · subst hk; simp
      · simp [hk, Ne.symm hk]

/-- What a passing attempt row established. -/
structure Created (scan scan' : Scan) (row : EventRow) (event : InternalEvent)
    (locks : List String) (request : WorkerStartRequestV2) (key : String × String) : Prop where
  workItemId : event.workItemId = some key.1
  attemptId : event.attemptId = some key.2
  fresh : key ∉ scan.attempts
  free : ∀ lock ∈ locks, scan.expectedClaims[lock]? = none
  after : scan' = { scan with
    attempts := scan.attempts.insert key (request, row.sequence, event.recordedAt)
    expectedClaims := BTreeMap.insertAll scan.expectedClaims locks fun _ => key }

theorem onAttemptCreated_ok {locks : List String} {request : WorkerStartRequestV2}
    (h : scan.onAttemptCreated row event locks request = .ok scan') :
    ∃ key, Created scan scan' row event locks request key := by
  simp only [onAttemptCreated, bind_eq_ok, okOr_eq_ok, refuseIf_eq_ok, Except.ok.injEq] at h
  obtain ⟨workItemId, hitem, attemptId, hattempt, _, hfresh, claims, hclaims, rfl⟩ := h
  obtain ⟨hfree, rfl⟩ := claimAll_ok hclaims
  refine ⟨(workItemId, attemptId), hitem, hattempt, fun hmem => ?_, hfree, rfl⟩
  rw [Std.ExtTreeMap.contains_iff_mem.mpr hmem] at hfresh
  cases hfresh

theorem onConfigured_ok {requirement : ForemanExecutionAvailabilityRequirementV1}
    {policy : ExecutionAvailabilityPolicyV1} {requirementBytes policyBytes : Bytes}
    (h : scan.onConfigured w t c row event requirement requirementBytes policy policyBytes =
      .ok scan') :
    scan.history = none ∧ ∃ configuration, configuration.requirement = requirement ∧
      configuration.policy = policy ∧
      scan' = { scan with history := some (History.configured configuration) } := by
  simp only [onConfigured, bind_eq_ok, okOr_eq_ok, refuseIf_eq_ok, Except.ok.injEq,
    Bool.or_eq_false_iff, bne_eq_false_iff_eq] at h
  obtain ⟨_, hsingular, admitted, -, _, -, configuration, -, _, hsame, _, -, rfl⟩ := h
  exact ⟨by simpa using hsingular.1.1, configuration, hsame.1, hsame.2, rfl⟩

/-- What a passing dispatch row established. -/
structure Dispatched (w : Platform) (c : Contracts) (scan scan' : Scan) (row : EventRow)
    (event : InternalEvent) (startRequest : WorkerStartRequestV3)
    (dispatch : ProviderDispatchOccurrenceV1) (history : History) : Prop where
  required : scan.history = some history
  graph : startRequest.validateDispatchGraph w c.profile history.requirement dispatch = .ok ()
  workItemId : event.workItemId = some dispatch.workItemId
  attemptId : event.attemptId = some dispatch.workAttemptId
  openedAt : event.recordedAt = dispatch.openedAt
  freshId : dispatch.dispatchOccurrenceId ∉ scan.dispatchIds
  freshDigest : dispatch.dispatchDigest ∉ scan.dispatchDigests
  created : (dispatch.workItemId, dispatch.workAttemptId) ∈ scan.attempts
  ordinal : dispatch.dispatchOrdinal = (history.lane dispatch.workAttemptId).length + 1
  follows : dispatchFollows (scan.laneLast[(dispatch.workItemId, dispatch.workAttemptId)]?) row
    event dispatch = true
  freshProcess : dispatch.adapterProcessOccurrenceId ∉ scan.adapterProcessIds
  freshSession : dispatch.appServerSessionIdentity ∉ scan.appServerSessionIds
  after : scan' = { scan with
    dispatchIds := scan.dispatchIds.insert dispatch.dispatchOccurrenceId
    dispatchDigests := scan.dispatchDigests.insert dispatch.dispatchDigest
    adapterProcessIds := scan.adapterProcessIds.insert dispatch.adapterProcessOccurrenceId
    appServerSessionIds := scan.appServerSessionIds.insert dispatch.appServerSessionIdentity
    laneLast := scan.laneLast.insert (dispatch.workItemId, dispatch.workAttemptId)
      (.dispatch dispatch.dispatchDigest)
    history := some { history with
      workerStartRequests := history.workerStartRequests ++ [startRequest]
      dispatches := history.dispatches ++ [dispatch] } }

theorem onDispatch_ok {startRequest : WorkerStartRequestV3} {startRequestBytes : Bytes}
    {dispatch : ProviderDispatchOccurrenceV1} {dispatchBytes : Bytes}
    (h : scan.onDispatch w c row event startRequest startRequestBytes dispatch dispatchBytes =
      .ok scan') :
    ∃ history, Dispatched w c scan scan' row event startRequest dispatch history := by
  simp only [onDispatch, bind_eq_ok, okOr_eq_ok, refuseIf_eq_ok, mapErr_eq_ok, Except.ok.injEq,
    Bool.or_eq_false_iff, bne_eq_false_iff_eq, Bool.not_eq_false'] at h
  obtain ⟨history, hhistory, _, -, _, -, _, -, _, hgraph, _, hevent, attempt, hattempt,
    predecessor, -, _, hpredecessor, _, hfollows, _, hprocess, _, hsession, rfl⟩ := h
  refine ⟨history, hhistory, hgraph, hevent.1.1.1.1.1, hevent.1.1.1.1.2, hevent.1.1.1.2, ?_, ?_, ?_,
    hpredecessor.2, hfollows, ?_, ?_, rfl⟩
  · exact BTreeSet.contains_eq_false.mp hevent.1.2
  · exact BTreeSet.contains_eq_false.mp hevent.2
  · exact Std.ExtTreeMap.isSome_getElem?_iff_mem.mp (by rw [hattempt]; rfl)
  · exact BTreeSet.contains_eq_false.mp hprocess
  · exact BTreeSet.contains_eq_false.mp hsession

/-- What a passing prelaunch row established. -/
structure Prelaunched (scan scan' : Scan) (event : InternalEvent) (closure : PrelaunchClosureV1)
    (history : History) : Prop where
  required : scan.history = some history
  last : scan.laneLast[(closure.binding.workItemId, closure.binding.workAttemptId)]? =
    some (.dispatch closure.binding.dispatchDigest)
  undisposed : ∀ value ∈ history.dispositions, value.workAttemptId ≠ closure.binding.workAttemptId
  workItemId : event.workItemId = some closure.binding.workItemId
  attemptId : event.attemptId = some closure.binding.workAttemptId
  after : scan' = { scan with
    laneLast := scan.laneLast.insert (closure.binding.workItemId, closure.binding.workAttemptId)
      .prelaunchClosed }

theorem onPrelaunch_ok {closure : PrelaunchClosureV1} {receipt : NotStartedReceiptV1}
    (h : scan.onPrelaunch w t c event closure receipt = .ok scan') :
    ∃ history, Prelaunched scan scan' event closure history := by
  simp only [onPrelaunch, bind_eq_ok, okOr_eq_ok, refuseIf_eq_ok, mapErr_eq_ok, Except.ok.injEq,
    Bool.or_eq_false_iff, bne_eq_false_iff_eq] at h
  obtain ⟨history, hhistory, _, hclosure, index, -, brief, -, request, -, dispatch, -, _, -,
    expected, -, _, -, retained, -, _, -, rfl⟩ := h
  exact ⟨history, hhistory, hclosure.1.1.1.1.1, by simpa using hclosure.1.1.1.1.2,
    hclosure.1.1.1.2, hclosure.1.1.2, rfl⟩

/-- What a passing disposition row established. -/
structure Dispositioned (w : Platform) (scan scan' : Scan) (row : EventRow)
    (event : InternalEvent) (observation : ExecutionAvailabilityObservationV1)
    (disposition : ProviderAdmissionDispositionV1) (deferred : Option DeferredProviderDispatchV1)
    (reconciles : Option String) (history : History) (dispatch : ProviderDispatchOccurrenceV1)
    (prior : List ProviderDeferralHistoryEntryV1) : Prop where
  required : scan.history = some history
  opened : dispatch ∈ history.dispatches
  digest : dispatch.dispatchDigest = disposition.dispatchDigest
  workItemId : event.workItemId = some disposition.workItemId
  attemptId : event.attemptId = some disposition.workAttemptId
  receivedAt : event.recordedAt = disposition.receivedAt
  follows : dispositionFollows scan history (disposition.workItemId, disposition.workAttemptId)
    disposition reconciles = .ok ()
  deferrals : history.providerDeferralHistory disposition.workAttemptId dispatch.dispatchOrdinal =
    .ok prior
  graph : AvailabilityGraph.validate w history.requirement history.policy dispatch observation
    disposition prior deferred = .ok ()
  after : scan' = { scan with
    laneLast := scan.laneLast.insert (disposition.workItemId, disposition.workAttemptId)
      (.disposition disposition.dispositionDigest)
    dispositionRows :=
      scan.dispositionRows.insert disposition.dispositionDigest (row.sequence, event.recordedAt)
    history := some { history with
      observations := history.observations ++ [observation]
      dispositions := history.dispositions ++ [disposition]
      deferred := history.deferred ++ deferred.toList } }

theorem onDisposition_ok {observation : ExecutionAvailabilityObservationV1}
    {observationBytes : Bytes} {disposition : ProviderAdmissionDispositionV1}
    {dispositionBytes : Bytes} {deferred : Option DeferredProviderDispatchV1}
    {deferredBytes : Option Bytes} {reconciles : Option String}
    (h : scan.onDisposition w row event observation observationBytes disposition dispositionBytes
      deferred deferredBytes reconciles = .ok scan') :
    ∃ history dispatch prior, Dispositioned w scan scan' row event observation disposition deferred
      reconciles history dispatch prior := by
  simp only [onDisposition, bind_eq_ok, okOr_eq_ok, refuseIf_eq_ok, mapErr_eq_ok, Except.ok.injEq,
    Bool.or_eq_false_iff, bne_eq_false_iff_eq] at h
  obtain ⟨history, hhistory, accepted, -, _, -, dispatch, hdispatch, _, hevent, _, hfollows, prior,
    hprior, _, hgraph, rfl⟩ := h
  exact ⟨history, dispatch, prior, hhistory, List.mem_of_find?_eq_some hdispatch,
    by simpa using List.find?_some hdispatch, hevent.1.1.1, hevent.1.1.2, hevent.1.2, hfollows,
    hprior, hgraph, rfl⟩

/-- What a passing wake row established. -/
structure WakeOpened (scan scan' : Scan) (row : EventRow) (event : InternalEvent)
    (wakeOccurrenceId nextDispatchDigest : String) (history : History)
    (deferred : DeferredProviderDispatchV1) (key : String × String) : Prop where
  required : scan.history = some history
  workItemId : event.workItemId = some key.1
  attemptId : event.attemptId = some key.2
  retained : deferred ∈ history.deferred
  lane : deferred.workAttemptId = key.2
  due : deferred.wakeAt ≤ event.recordedAt
  fresh : wakeOccurrenceId ∉ scan.wakeIds
  follows : wakeFollows history.policy.parkedResourceLockPolicy (scan.laneLast[key]?) row event
    wakeOccurrenceId nextDispatchDigest deferred = .ok ()
  after : scan' = { scan with
    wakeIds := scan.wakeIds.insert wakeOccurrenceId
    laneLast := scan.laneLast.insert key (.wake nextDispatchDigest row.sequence event.recordedAt)
    history := some { history with
      wakeOccurrenceIds := history.wakeOccurrenceIds ++ [wakeOccurrenceId]
      wakeWorkAttemptIds := history.wakeWorkAttemptIds ++ [key.2]
      wakeNextDispatchDigests := history.wakeNextDispatchDigests ++ [nextDispatchDigest] } }

theorem onWake_ok {wakeOccurrenceId deferredDispatchDigest nextDispatchDigest : String}
    (h : scan.onWake row event wakeOccurrenceId deferredDispatchDigest nextDispatchDigest =
      .ok scan') :
    ∃ history deferred key, WakeOpened scan scan' row event wakeOccurrenceId nextDispatchDigest
      history deferred key := by
  simp only [onWake, bind_eq_ok, okOr_eq_ok, refuseIf_eq_ok, Except.ok.injEq,
    Bool.or_eq_false_iff, bne_eq_false_iff_eq, decide_eq_false_iff_not, not_lt] at h
  obtain ⟨history, hhistory, _, -, workItemId, hitem, attemptId, hattempt, deferred, hdeferred, _,
    htime, _, hfollows, rfl⟩ := h
  have hmatch := List.find?_some hdeferred
  simp only [Bool.and_eq_true, beq_iff_eq] at hmatch
  exact ⟨history, deferred, (workItemId, attemptId), hhistory, hitem, hattempt,
    List.mem_of_find?_eq_some hdeferred, hmatch.2, htime.1.1,
    BTreeSet.contains_eq_false.mp htime.1.2, hfollows, rfl⟩

/-- What a passing resume row established. -/
structure ResumeRequested (scan scan' : Scan) (event : InternalEvent)
    (resumeOccurrenceId dispositionDigest adapterProcessOccurrenceId : String)
    (executionIdentity : ProviderExecutionIdentityV1) (history : History)
    (disposition : ProviderAdmissionDispositionV1) (key : String × String) : Prop where
  required : scan.history = some history
  workItemId : event.workItemId = some key.1
  attemptId : event.attemptId = some key.2
  last : history.dispositions.reverse.find? (fun value => value.workAttemptId == key.2) =
    some disposition
  digest : disposition.dispositionDigest = dispositionDigest
  interrupted : disposition.mechanismState = .postAdmissionInterrupted
  execution : disposition.providerExecution = some executionIdentity
  received : disposition.receivedAt ≤ event.recordedAt
  fresh : resumeOccurrenceId ∉ scan.resumeIds
  freshProcess : adapterProcessOccurrenceId ∉ scan.adapterProcessIds
  unresumed : dispositionDigest ∉ history.resumeDispositionDigests
  after : scan' = { scan with
    resumeIds := scan.resumeIds.insert resumeOccurrenceId
    adapterProcessIds := scan.adapterProcessIds.insert adapterProcessOccurrenceId
    laneLast := scan.laneLast.insert key .resume
    history := some { history with
      resumeOccurrenceIds := history.resumeOccurrenceIds ++ [resumeOccurrenceId]
      resumeWorkItemIds := history.resumeWorkItemIds ++ [key.1]
      resumeWorkAttemptIds := history.resumeWorkAttemptIds ++ [key.2]
      resumeAdapterProcessOccurrenceIds :=
        history.resumeAdapterProcessOccurrenceIds ++ [adapterProcessOccurrenceId]
      resumeExecutionIdentities := history.resumeExecutionIdentities ++ [executionIdentity]
      resumeDispositionDigests := history.resumeDispositionDigests ++ [dispositionDigest]
      resumeRecordedAt := history.resumeRecordedAt ++ [event.recordedAt] } }

theorem onResume_ok {resumeOccurrenceId dispositionDigest adapterProcessOccurrenceId : String}
    {executionIdentity : ProviderExecutionIdentityV1}
    (h : scan.onResume event resumeOccurrenceId dispositionDigest adapterProcessOccurrenceId
      executionIdentity = .ok scan') :
    ∃ history disposition key, ResumeRequested scan scan' event resumeOccurrenceId
      dispositionDigest adapterProcessOccurrenceId executionIdentity history disposition key := by
  simp only [onResume, bind_eq_ok, okOr_eq_ok, refuseIf_eq_ok, mapErr_eq_ok, Except.ok.injEq,
    Bool.or_eq_false_iff, bne_eq_false_iff_eq, decide_eq_false_iff_not, not_lt] at h
  obtain ⟨history, hhistory, _, -, _, -, _, -, workItemId, hitem, attemptId, hattempt, disposition,
    hlast, _, hbound, rfl⟩ := h
  exact ⟨history, disposition, (workItemId, attemptId), hhistory, hitem, hattempt, hlast,
    hbound.1.1.1.1.1.1.1, hbound.1.1.1.1.1.1.2, hbound.1.1.1.1.1.2, hbound.1.1.1.1.2,
    BTreeSet.contains_eq_false.mp hbound.1.1.2, BTreeSet.contains_eq_false.mp hbound.1.2,
    by simpa using hbound.2, rfl⟩

/-- What a passing release of a parked attempt established. -/
structure ParkReleased (c : Contracts) (scan scan' : Scan) (event : InternalEvent)
    (dispositionDigest dispatchDigest policyDigest : String) (locks : List String)
    (history : History) (disposition : ProviderAdmissionDispositionV1) (key : String × String)
    (claims : BTreeMap String (String × String)) : Prop where
  required : scan.history = some history
  workItemId : event.workItemId = some key.1
  attemptId : event.attemptId = some key.2
  recorded : disposition ∈ history.dispositions
  digest : disposition.dispositionDigest = dispositionDigest
  policy : history.policy.parkedResourceLockPolicy = .releaseAndReacquire
  parked : disposition.mechanismState = .parkedNotAdmitted
  lane : disposition.workAttemptId = key.2
  profile : (c.profile.workItems[key.1]?).map (·.resourceLockKeys) = some locks
  fresh : dispositionDigest ∉ scan.releasedDispositionDigests
  unclaims : Unclaims scan.expectedClaims claims key locks
  after : scan' = { scan with
    releasedDispositionDigests := scan.releasedDispositionDigests.insert dispositionDigest
    expectedClaims := claims
    history := some { history with
      resourceTransitions := history.resourceTransitions ++
        [⟨.released, key.1, key.2, dispatchDigest, some dispositionDigest, none, policyDigest, none,
          locks, event.recordedAt⟩] } }

theorem onProviderReleased_ok {dispositionDigest dispatchDigest policyDigest : String}
    {locks : List String}
    (h : scan.onProviderReleased c row event dispositionDigest dispatchDigest policyDigest locks =
      .ok scan') :
    ∃ history disposition key claims, ParkReleased c scan scan' event dispositionDigest
      dispatchDigest policyDigest locks history disposition key claims := by
  simp only [onProviderReleased, bind_eq_ok, okOr_eq_ok, refuseIf_eq_ok, Except.ok.injEq,
    Bool.or_eq_false_iff, bne_eq_false_iff_eq] at h
  obtain ⟨history, hhistory, workItemId, hitem, attemptId, hattempt, disposition, hdisposition,
    parked, -, _, hbound, _, hfresh, claims, hclaims, rfl⟩ := h
  exact ⟨history, disposition, (workItemId, attemptId), claims, hhistory, hitem, hattempt,
    List.mem_of_find?_eq_some hdisposition, by simpa using List.find?_some hdisposition,
    hbound.1.1.1.1.1.1.1.1, hbound.1.1.1.1.1.1.1.2, hbound.1.1.1.2, hbound.1.1.1.1.2,
    BTreeSet.contains_eq_false.mp hfresh, releaseAll_ok hclaims, rfl⟩

/-- What a passing reacquisition established. -/
structure ParkReacquired (c : Contracts) (scan scan' : Scan) (row : EventRow)
    (event : InternalEvent) (wakeOccurrenceId deferredDispatchDigest nextDispatchDigest : String)
    (policyDigest : String) (locks : List String) (history : History)
    (deferred : DeferredProviderDispatchV1) (key : String × String) : Prop where
  required : scan.history = some history
  workItemId : event.workItemId = some key.1
  attemptId : event.attemptId = some key.2
  retained : deferred ∈ history.deferred
  policy : history.policy.parkedResourceLockPolicy = .releaseAndReacquire
  lane : deferred.workAttemptId = key.2
  profile : (c.profile.workItems[key.1]?).map (·.resourceLockKeys) = some locks
  due : deferred.wakeAt ≤ event.recordedAt
  last : scan.laneLast[key]? = some (.disposition deferred.dispositionDigest)
  free : ∀ lock ∈ locks, scan.expectedClaims[lock]? = none
  after : scan' = { scan with
    expectedClaims := BTreeMap.insertAll scan.expectedClaims locks fun _ => key
    laneLast := scan.laneLast.insert key
      (.reacquired wakeOccurrenceId nextDispatchDigest row.sequence event.recordedAt)
    history := some { history with
      resourceTransitions := history.resourceTransitions ++
        [⟨.reacquired, key.1, key.2, nextDispatchDigest, none, some deferredDispatchDigest,
          policyDigest, some wakeOccurrenceId, locks, event.recordedAt⟩] } }

theorem onProviderReacquired_ok
    {wakeOccurrenceId deferredDispatchDigest nextDispatchDigest policyDigest : String}
    {locks : List String}
    (h : scan.onProviderReacquired c row event wakeOccurrenceId deferredDispatchDigest
      nextDispatchDigest policyDigest locks = .ok scan') :
    ∃ history deferred key, ParkReacquired c scan scan' row event wakeOccurrenceId
      deferredDispatchDigest nextDispatchDigest policyDigest locks history deferred key := by
  simp only [onProviderReacquired, bind_eq_ok, okOr_eq_ok, refuseIf_eq_ok, Except.ok.injEq,
    Bool.or_eq_false_iff, bne_eq_false_iff_eq, decide_eq_false_iff_not, not_lt] at h
  obtain ⟨history, hhistory, workItemId, hitem, attemptId, hattempt, deferred, hdeferred, _, hbound,
    claims, hclaims, rfl⟩ := h
  obtain ⟨hfree, rfl⟩ := claimAll_ok hclaims
  exact ⟨history, deferred, (workItemId, attemptId), hhistory, hitem, hattempt,
    List.mem_of_find?_eq_some hdeferred, hbound.1.1.1.1.1.1, hbound.1.1.1.1.2, hbound.1.1.1.2,
    hbound.1.2, hbound.2, hfree, rfl⟩

/-- Everything one journal row can do to the scan. -/
inductive Move (w : Platform) (t : RunTables) (c : Contracts) (scan scan' : Scan)
    (row : EventRow) : Prop
  | adapter (hkind : row.kind = .adapterEvent) (h : scan' = scan)
  | admitted (event : InternalEvent) (hspells : Spells c row event)
      (hpayload : event.payload = .runAdmitted) (hfirst : scan.runAdmitted = none)
      (h : scan' = { scan with runAdmitted := some (row.sequence, event.recordedAt) })
  | created (event : InternalEvent) (hspells : Spells c row event) (locks : List String)
      (request : WorkerStartRequestV2) (hpayload : event.payload = .attemptCreated locks request)
      (key : String × String) (h : Created scan scan' row event locks request key)
  | configured (event : InternalEvent) (hspells : Spells c row event)
      (hpayload : event.payload.rowKind = .executionAvailabilityRequirement)
      (configuration : Configuration) (hnone : scan.history = none)
      (h : scan' = { scan with history := some (History.configured configuration) })
  | dispatched (event : InternalEvent) (hspells : Spells c row event)
      (startRequest : WorkerStartRequestV3) (startRequestBytes : Bytes)
      (dispatch : ProviderDispatchOccurrenceV1) (dispatchBytes : Bytes)
      (hpayload : event.payload =
        .providerDispatchOpened startRequest startRequestBytes dispatch dispatchBytes)
      (history : History)
      (h : Dispatched w c scan scan' row event startRequest dispatch history)
  | prelaunched (event : InternalEvent) (hspells : Spells c row event)
      (closure : PrelaunchClosureV1) (receipt : NotStartedReceiptV1)
      (hpayload : event.payload = .prelaunchClosureAccepted closure receipt) (history : History)
      (h : Prelaunched scan scan' event closure history)
  | dispositioned (event : InternalEvent) (hspells : Spells c row event)
      (observation : ExecutionAvailabilityObservationV1) (observationBytes : Bytes)
      (disposition : ProviderAdmissionDispositionV1) (dispositionBytes : Bytes)
      (deferred : Option DeferredProviderDispatchV1) (deferredBytes : Option Bytes)
      (reconciles : Option String)
      (hpayload : event.payload = .providerDispositionRecorded observation observationBytes
        disposition dispositionBytes deferred deferredBytes reconciles)
      (history : History) (dispatch : ProviderDispatchOccurrenceV1)
      (prior : List ProviderDeferralHistoryEntryV1)
      (h : Dispositioned w scan scan' row event observation disposition deferred reconciles history
        dispatch prior)
  | woken (event : InternalEvent) (hspells : Spells c row event)
      (wakeOccurrenceId deferredDispatchDigest nextDispatchDigest : String)
      (hpayload : event.payload =
        .providerWakeOpened wakeOccurrenceId deferredDispatchDigest nextDispatchDigest)
      (history : History) (deferred : DeferredProviderDispatchV1) (key : String × String)
      (h : WakeOpened scan scan' row event wakeOccurrenceId nextDispatchDigest history deferred key)
  | resumed (event : InternalEvent) (hspells : Spells c row event)
      (resumeOccurrenceId dispositionDigest adapterProcessOccurrenceId : String)
      (executionIdentity : ProviderExecutionIdentityV1)
      (hpayload : event.payload = .providerExecutionResumeRequested resumeOccurrenceId
        dispositionDigest adapterProcessOccurrenceId executionIdentity)
      (history : History) (disposition : ProviderAdmissionDispositionV1) (key : String × String)
      (h : ResumeRequested scan scan' event resumeOccurrenceId dispositionDigest
        adapterProcessOccurrenceId executionIdentity history disposition key)
  | parkReleased (event : InternalEvent) (hspells : Spells c row event)
      (dispositionDigest dispatchDigest policyDigest : String) (locks : List String)
      (hpayload : event.payload =
        .providerResourcesReleased dispositionDigest dispatchDigest policyDigest locks)
      (history : History) (disposition : ProviderAdmissionDispositionV1) (key : String × String)
      (claims : BTreeMap String (String × String))
      (h : ParkReleased c scan scan' event dispositionDigest dispatchDigest policyDigest locks
        history disposition key claims)
  | parkReacquired (event : InternalEvent) (hspells : Spells c row event)
      (wakeOccurrenceId deferredDispatchDigest nextDispatchDigest policyDigest : String)
      (locks : List String)
      (hpayload : event.payload = .providerResourcesReacquired wakeOccurrenceId
        deferredDispatchDigest nextDispatchDigest policyDigest locks)
      (history : History) (deferred : DeferredProviderDispatchV1) (key : String × String)
      (h : ParkReacquired c scan scan' row event wakeOccurrenceId deferredDispatchDigest
        nextDispatchDigest policyDigest locks history deferred key)
  | released (event : InternalEvent) (hspells : Spells c row event)
      (hpayload : event.payload = .resourcesReleased) (h : scan' = scan.onResourcesReleased event)
  | ignored (event : InternalEvent) (hspells : Spells c row event)
      (hpayload : ignores event.payload = true) (h : scan' = scan)

/-- A row whose event is known makes the step of its payload. -/
theorem onPayload_of_step (h : scan.step w t c row = .ok scan') (hkind : row.kind ≠ .adapterEvent)
    (hread : row.internalEvent = .ok event) : scan.onPayload w t c row event = .ok scan' := by
  simp only [step, bind_eq_ok] at h
  obtain ⟨_, -, h⟩ := h
  rw [if_neg (by simpa using hkind), hread, ok_bind] at h
  exact h

theorem step_moves (h : scan.step w t c row = .ok scan') : Move w t c scan scan' row := by
  simp only [step, bind_eq_ok] at h
  obtain ⟨_, hvalid, h⟩ := h
  split at h
  case isTrue hkind => exact .adapter (by simpa using hkind) (Except.ok.inj h).symm
  case isFalse hkind =>
    obtain ⟨event, hspells⟩ := validateReadOnlyEventRow_spells hvalid (by simpa using hkind)
    rw [hspells.read, ok_bind] at h
    cases hpayload : event.payload <;> simp only [onPayload, hpayload] at h
    case runAdmitted =>
      simp only [bind_eq_ok, refuseIf_eq_ok, Except.ok.injEq] at h
      obtain ⟨_, hfirst, rfl⟩ := h
      exact .admitted event hspells hpayload (by simpa using hfirst) rfl
    case attemptCreated locks request =>
      obtain ⟨key, h⟩ := onAttemptCreated_ok h
      exact .created event hspells locks request hpayload key h
    case executionAvailabilityConfigured =>
      obtain ⟨hnone, configuration, -, -, h⟩ := onConfigured_ok h
      exact .configured event hspells (by rw [hpayload]; rfl) configuration hnone h
    case providerDispatchOpened =>
      obtain ⟨history, h⟩ := onDispatch_ok h
      exact .dispatched event hspells _ _ _ _ hpayload history h
    case prelaunchClosureAccepted =>
      obtain ⟨history, h⟩ := onPrelaunch_ok h
      exact .prelaunched event hspells _ _ hpayload history h
    case providerDispositionRecorded =>
      obtain ⟨history, dispatch, prior, h⟩ := onDisposition_ok h
      exact .dispositioned event hspells _ _ _ _ _ _ _ hpayload history dispatch prior h
    case providerWakeOpened =>
      obtain ⟨history, deferred, key, h⟩ := onWake_ok h
      exact .woken event hspells _ _ _ hpayload history deferred key h
    case providerExecutionResumeRequested =>
      obtain ⟨history, disposition, key, h⟩ := onResume_ok h
      exact .resumed event hspells _ _ _ _ hpayload history disposition key h
    case providerResourcesReleased =>
      obtain ⟨history, disposition, key, claims, h⟩ := onProviderReleased_ok h
      exact .parkReleased event hspells _ _ _ _ hpayload history disposition key claims h
    case providerResourcesReacquired =>
      obtain ⟨history, deferred, key, h⟩ := onProviderReacquired_ok h
      exact .parkReacquired event hspells _ _ _ _ _ hpayload history deferred key h
    case resourcesReleased =>
      exact .released event hspells hpayload (Except.ok.inj h).symm
    all_goals
      exact .ignored event hspells (by rw [hpayload]; rfl) (Except.ok.inj h).symm

theorem onResourcesReleased_eq (scan : Scan) (event : InternalEvent) :
    scan.onResourcesReleased event = { scan with
      expectedClaims := (scan.onResourcesReleased event).expectedClaims } := by
  unfold onResourcesReleased
  split <;> rfl

namespace Move

/-- Every row keeps the attempts that were created before it. -/
theorem attempts (h : Move w t c scan scan' row) {key : String × String}
    (hkey : key ∈ scan.attempts) : key ∈ scan'.attempts := by
  cases h with
  | adapter _ h | admitted _ _ _ _ h | configured _ _ _ _ _ h | ignored _ _ _ h =>
    subst h
    exact hkey
  | created _ _ _ _ _ _ h =>
    rw [h.after]
    exact Std.ExtTreeMap.mem_insert.mpr (.inr hkey)
  | released _ _ _ h =>
    rw [h, onResourcesReleased_eq]
    exact hkey
  | dispatched _ _ _ _ _ _ _ _ h | prelaunched _ _ _ _ _ _ h
  | dispositioned _ _ _ _ _ _ _ _ _ _ _ _ _ h | woken _ _ _ _ _ _ _ _ _ h
  | resumed _ _ _ _ _ _ _ _ _ _ h | parkReleased _ _ _ _ _ _ _ _ _ _ _ h
  | parkReacquired _ _ _ _ _ _ _ _ _ _ _ h =>
    rw [h.after]
    exact hkey

end Move

end Scan

end Nightshift
