import Nightshift.Bench

/-!
# The derived deferral

`derive_provider_deferral` builds the park record of a refused dispatch from the
owner policy and reopens the whole graph with it. The graph admits one record at
most; the derivation finds it wherever the policy's backoff table reaches.
-/

namespace Nightshift

open Checked

namespace DeferredProviderDispatchV1

/-- `seal` -/
def sealed (w : Platform) (d : DeferredProviderDispatchV1) :
    Except ContractError DeferredProviderDispatchV1 := do
  let d := { d with deferredDispatchDigest := d.computedDigest w }
  d.validate w
  .ok d

end DeferredProviderDispatchV1

/-- `(later - earlier).num_seconds()`, truncated toward zero. -/
def numSeconds (later earlier : Instant) : Int := (later - earlier).tdiv 1000000000

namespace ProviderDeferral

/-- The wake time of a refusal: its retry-after, or the policy backoff behind it. -/
def wakeAt (disposition : ProviderAdmissionDispositionV1) (seconds : Nat) :
    Except ContractError Instant :=
  match disposition.providerRetryAfter with
  | some value => .ok value
  | none => okOr (checkedAddSeconds disposition.receivedAt seconds)
      (.invalidField "wake timestamp overflow")

/-- The park record before it is sealed. -/
def record (requirement : ForemanExecutionAvailabilityRequirementV1)
    (policy : ExecutionAvailabilityPolicyV1) (dispatch : ProviderDispatchOccurrenceV1)
    (disposition : ProviderAdmissionDispositionV1) (selections : List ProviderModelSelectionV1)
    (wake : Instant) : DeferredProviderDispatchV1 where
  schema := deferredProviderDispatchSchemaV1
  deferredDispatchDigest := placeholderDigest
  requirementDigest := requirement.requirementDigest
  policyDigest := policy.policyDigest
  dispositionDigest := disposition.dispositionDigest
  packetDigest := requirement.packetDigest
  runId := requirement.runId
  workItemId := dispatch.workItemId
  workAttemptId := dispatch.workAttemptId
  lastDispatchOccurrenceId := dispatch.dispatchOccurrenceId
  providerId := dispatch.selection.providerId
  modelId := dispatch.selection.modelId
  selectedModelOrdinal := dispatch.selectedModelOrdinal
  remainingModelOrdinals :=
    AvailabilityGraph.expectedRemaining policy selections.length dispatch.selectedModelOrdinal
  refusalReceivedAt := disposition.receivedAt
  wakeBasis := if disposition.providerRetryAfter.isSome then .providerRetryAfter else .policyBackoff
  backoffOrdinal := dispatch.dispatchOrdinal - 1
  backoffSeconds := (numSeconds wake disposition.receivedAt).toNat
  providerRetryAfter := disposition.providerRetryAfter
  wakeAt := wake
  parkedResourceLockPolicy := policy.parkedResourceLockPolicy
  providerCapacityReleased := true
  semanticRetry := false
  authorityEffect := localSchedulingOnly

def park (w : Platform) (requirement : ForemanExecutionAvailabilityRequirementV1)
    (policy : ExecutionAvailabilityPolicyV1) (dispatch : ProviderDispatchOccurrenceV1)
    (disposition : ProviderAdmissionDispositionV1) :
    Except ContractError DeferredProviderDispatchV1 := do
  refuseIf (dispatch.dispatchOrdinal == 0) (.invalidField "dispatch ordinal")
  let seconds ← okOr (policy.backoffSeconds[dispatch.dispatchOrdinal - 1]?)
    (.invalidField "policy backoff ordinal")
  let wake ← wakeAt disposition seconds
  refuseIf (numSeconds wake disposition.receivedAt < 0) (.invalidField "negative provider backoff")
  let selections ← okOr (requirement.workItemModelSelections[dispatch.workItemId]?)
    (.invalidField "work item model selections")
  (record requirement policy dispatch disposition selections wake).sealed w

end ProviderDeferral

/-- `derive_provider_deferral` -/
def deriveProviderDeferral (w : Platform)
    (requirement : ForemanExecutionAvailabilityRequirementV1)
    (policy : ExecutionAvailabilityPolicyV1) (dispatch : ProviderDispatchOccurrenceV1)
    (observation : ExecutionAvailabilityObservationV1)
    (disposition : ProviderAdmissionDispositionV1)
    (history : List ProviderDeferralHistoryEntryV1) :
    Except ContractError (Option DeferredProviderDispatchV1) := do
  requirement.validate w
  policy.validate w
  dispatch.validate w
  disposition.validate w
  let deferred ←
    if disposition.permitsAutomaticPark then
      some <$> ProviderDeferral.park w requirement policy dispatch disposition
    else .ok none
  AvailabilityGraph.validate w requirement policy dispatch observation disposition history deferred
  .ok deferred

variable {w : Platform} {requirement : ForemanExecutionAvailabilityRequirementV1}
  {policy : ExecutionAvailabilityPolicyV1} {dispatch : ProviderDispatchOccurrenceV1}
  {observation : ExecutionAvailabilityObservationV1}
  {disposition : ProviderAdmissionDispositionV1} {history : List ProviderDeferralHistoryEntryV1}
  {deferred : Option DeferredProviderDispatchV1}

/-- What an accepted graph says of its deferral. -/
structure AvailabilityGraph.Accepted (w : Platform)
    (requirement : ForemanExecutionAvailabilityRequirementV1)
    (policy : ExecutionAvailabilityPolicyV1) (dispatch : ProviderDispatchOccurrenceV1)
    (disposition : ProviderAdmissionDispositionV1)
    (deferred : Option DeferredProviderDispatchV1) : Prop where
  requirementValid : requirement.validate w = .ok ()
  policyValid : policy.validate w = .ok ()
  dispatchValid : dispatch.validate w = .ok ()
  dispositionValid : disposition.validate w = .ok ()
  parked : disposition.permitsAutomaticPark = true → ∃ selections cumulative parked,
    requirement.workItemModelSelections[dispatch.workItemId]? = some selections ∧
    deferred = some parked ∧
    validateParked w requirement policy dispatch disposition selections cumulative parked = .ok ()
  running : disposition.permitsAutomaticPark = false → deferred = none

theorem AvailabilityGraph.accepted
    (h : AvailabilityGraph.validate w requirement policy dispatch observation disposition history
      deferred = .ok ()) :
    AvailabilityGraph.Accepted w requirement policy dispatch disposition deferred := by
  have hsnapshot (rest : Except ContractError Unit) :
      (if disposition.mapperSnapshotSchema == switchyardSnapshotSchema then do
          let raw ← disposition.mapperSnapshot.validate w
          w.switchyard.graph requirement.ownerPins raw
          rest
        else do
          Except.ok ()
          rest) = .ok () → rest = .ok () := by
    intro hrest
    split at hrest
    · simp only [bind_eq_ok] at hrest
      obtain ⟨_, -, _, -, hrest⟩ := hrest
      exact hrest
    · exact hrest
  simp only [validate, bind_eq_ok] at h
  obtain ⟨_, hrequirement, _, hpolicy, _, hdispatch, _, -, _, hdisposition, h⟩ := h
  have htail := hsnapshot _ h
  simp only [bind_eq_ok, okOr_eq_ok] at htail
  obtain ⟨_, -, selections, hselections, _, -, _, -, _, -, _, -, _, -, prior, -, _, -, htail⟩ := htail
  refine ⟨hrequirement, hpolicy, hdispatch, hdisposition, ?_, ?_⟩
  · intro hpark
    rw [if_pos hpark] at htail
    simp only [bind_eq_ok, okOr_eq_ok] at htail
    obtain ⟨parked, hparked, _, hvalid, -⟩ := htail
    exact ⟨selections, prior.cumulativeSeconds, parked, hselections, hparked, hvalid⟩
  · intro hpark
    rw [if_neg (by simp [hpark])] at htail
    simp only [bind_eq_ok, refuseIf_eq_ok] at htail
    obtain ⟨_, hnone, -⟩ := htail
    exact Option.isNone_iff_eq_none.mp (by simpa using hnone)

/-! ## The one record -/

theorem numSeconds_add (received : Instant) (seconds : Nat) :
    (numSeconds (received + (seconds : Int) * 1000000000) received).toNat = seconds := by
  unfold numSeconds
  rw [add_sub_cancel_left, Int.mul_tdiv_cancel _ (by decide), Int.toNat_natCast]

theorem numSeconds_milliseconds {wake received : Instant}
    (h : 0 < numMilliseconds wake received) :
    (numSeconds wake received).toNat = (numMilliseconds wake received).toNat / 1000 := by
  unfold numMilliseconds at h
  unfold numSeconds numMilliseconds
  generalize wake - received = elapsed at h ⊢
  have hpos : (0 : Int) ≤ elapsed := by
    by_contra hneg
    have hopposite := Int.tdiv_nonneg (a := -elapsed) (b := 1000000) (by omega) (by decide)
    rw [Int.neg_tdiv] at hopposite
    omega
  rw [Int.tdiv_eq_ediv_of_nonneg hpos, Int.tdiv_eq_ediv_of_nonneg hpos]
  omega

namespace ProviderDeferral

/-- The wake time a disposition and a policy give a dispatch ordinal. -/
def Wakes (policy : ExecutionAvailabilityPolicyV1) (dispatch : ProviderDispatchOccurrenceV1)
    (disposition : ProviderAdmissionDispositionV1) (wake : Instant) : Prop :=
  match disposition.providerRetryAfter with
  | some value => wake = value
  | none => ∃ seconds, policy.backoffSeconds[dispatch.dispatchOrdinal - 1]? = some seconds ∧
      checkedAddSeconds disposition.receivedAt seconds = some wake

theorem Wakes.unique {wake other : Instant} (h : Wakes policy dispatch disposition wake)
    (hother : Wakes policy dispatch disposition other) : wake = other := by
  unfold Wakes at h hother
  cases hretry : disposition.providerRetryAfter with
  | some value =>
    simp only [hretry] at h hother
    rw [h, hother]
  | none =>
    simp only [hretry] at h hother
    obtain ⟨seconds, hseconds, hwake⟩ := h
    obtain ⟨seconds', hseconds', hother⟩ := hother
    rw [hseconds] at hseconds'
    cases hseconds'
    rw [hwake] at hother
    exact Option.some.inj hother

/-- The exact seconds fix the wake time, its basis and the length of the deferral. -/
theorem exactDeferralSeconds_ok {parked : DeferredProviderDispatchV1} {seconds : Nat}
    (h : AvailabilityGraph.exactDeferralSeconds policy disposition parked = .ok seconds)
    (hordinal : parked.backoffOrdinal = dispatch.dispatchOrdinal - 1) :
    Wakes policy dispatch disposition parked.wakeAt ∧
      parked.wakeBasis =
        (if disposition.providerRetryAfter.isSome then .providerRetryAfter else .policyBackoff) ∧
      parked.providerRetryAfter = disposition.providerRetryAfter ∧
      parked.backoffSeconds = (numSeconds parked.wakeAt disposition.receivedAt).toNat := by
  simp only [AvailabilityGraph.exactDeferralSeconds, bind_eq_ok, refuseIf_eq_ok,
    Bool.or_eq_false_iff, bne_eq_false_iff_eq, Except.ok.injEq] at h
  obtain ⟨⟨wake, exact_⟩, hexpected, _, ⟨⟨⟨-, hretry⟩, hwake⟩, hseconds⟩, -⟩ := h
  unfold AvailabilityGraph.expectedDeferral at hexpected
  cases hbasis : parked.wakeBasis with
  | providerRetryAfter =>
    simp only [hbasis, bind_eq_ok, okOr_eq_ok, refuseIf_eq_ok, Bool.or_eq_false_iff,
      decide_eq_false_iff_not, not_le, bne_eq_false_iff_eq, Except.ok.injEq, Prod.mk.injEq]
      at hexpected
    obtain ⟨value, hvalue, _, ⟨hpositive, -⟩, rfl, rfl⟩ := hexpected
    refine ⟨?_, by simp [hvalue], hretry, ?_⟩
    · simp only [Wakes, hvalue, hwake]
    · rw [hseconds, hwake, numSeconds_milliseconds hpositive]
  | policyBackoff =>
    simp only [hbasis, bind_eq_ok, okOr_eq_ok, refuseIf_eq_ok, Bool.or_eq_false_iff,
      Except.ok.injEq, Prod.mk.injEq] at hexpected
    obtain ⟨_, ⟨hnone, -⟩, seconds', htable, wake', hadd, rfl, rfl⟩ := hexpected
    have hwake' := checkedAddSeconds_eq_some hadd
    rw [hordinal] at htable
    have hretry_none : disposition.providerRetryAfter = none := by simpa using hnone
    refine ⟨?_, by simp [hretry_none], hretry, ?_⟩
    · simp only [Wakes, hretry_none, hwake]
      exact ⟨_, htable, hadd⟩
    · rw [hseconds, hwake, hwake', numSeconds_add]

/-- A sealed park record with its wake time. -/
def sealedRecord (w : Platform) (requirement : ForemanExecutionAvailabilityRequirementV1)
    (policy : ExecutionAvailabilityPolicyV1) (dispatch : ProviderDispatchOccurrenceV1)
    (disposition : ProviderAdmissionDispositionV1) (selections : List ProviderModelSelectionV1)
    (wake : Instant) : DeferredProviderDispatchV1 :=
  let open_ := record requirement policy dispatch disposition selections wake
  { open_ with deferredDispatchDigest := open_.computedDigest w }

/-- The graph admits no other record than the sealed one. -/
theorem validateParked_ok {selections : List ProviderModelSelectionV1} {cumulative : Nat}
    {parked : DeferredProviderDispatchV1}
    (h : AvailabilityGraph.validateParked w requirement policy dispatch disposition selections
      cumulative parked = .ok ()) :
    parked.validate w = .ok () ∧ Wakes policy dispatch disposition parked.wakeAt ∧
      dispatch.dispatchOrdinal ≠ 0 ∧
      parked = sealedRecord w requirement policy dispatch disposition selections parked.wakeAt := by
  simp only [AvailabilityGraph.validateParked, bind_eq_ok, refuseIf_eq_ok, Bool.or_eq_false_iff,
    bne_eq_false_iff_eq, Bool.not_eq_false'] at h
  obtain ⟨_, hvalid, _, hgraph, _, hremaining, seconds, hexact, -⟩ := h
  obtain ⟨⟨⟨⟨⟨⟨⟨⟨⟨⟨⟨⟨⟨⟨⟨hrequirement, hpolicy⟩, hdisposition⟩, hpacket⟩, hrun⟩, hitem⟩, hattempt⟩,
    hdispatch⟩, hprovider⟩, hmodel⟩, hselected⟩, hrefusal⟩, hordinal⟩, hlocks⟩, hreleased⟩,
    hretry⟩ := hgraph
  have hbackoff : parked.backoffOrdinal = dispatch.dispatchOrdinal - 1 := by omega
  obtain ⟨hwakes, hbasis, hafter, hseconds⟩ := exactDeferralSeconds_ok hexact hbackoff
  have hboundary := hvalid
  simp only [DeferredProviderDispatchV1.validate, Contract.schema, Availability.sealedDigest,
    bind_eq_ok, refuseIf_eq_ok, Bool.or_eq_false_iff, bne_eq_false_iff_eq] at hboundary
  obtain ⟨_, hschema, _, ⟨_, -, hdigest⟩, _, -, _, -, _, ⟨-, hauthority⟩, -⟩ := hboundary
  refine ⟨hvalid, hwakes, by omega, ?_⟩
  have hrecord : { parked with deferredDispatchDigest := placeholderDigest } =
      record requirement policy dispatch disposition selections parked.wakeAt := by
    simp only [record, hschema, hrequirement, hpolicy, hdisposition, hpacket, hrun, hitem,
      hattempt, hdispatch, hprovider, hmodel, hremaining, hselected, hbackoff, hbasis, hseconds,
      hlocks, hauthority, hafter, hrefusal, hreleased, hretry]
  calc parked = { parked with deferredDispatchDigest := parked.computedDigest w } := by rw [hdigest]
    _ = sealedRecord w requirement policy dispatch disposition selections parked.wakeAt := by
      rw [sealedRecord, ← hrecord]
      rfl

/-- The derivation returns the sealed record where the backoff table reaches the ordinal. -/
theorem park_eq_ok {selections : List ProviderModelSelectionV1} {wake : Instant}
    (hselections : requirement.workItemModelSelections[dispatch.workItemId]? = some selections)
    (hordinal : dispatch.dispatchOrdinal ≠ 0)
    (htable : dispatch.dispatchOrdinal - 1 < policy.backoffSeconds.length)
    (hwakes : Wakes policy dispatch disposition wake)
    (hlater : disposition.receivedAt ≤ wake)
    (hvalid : (sealedRecord w requirement policy dispatch disposition selections wake).validate w =
      .ok ()) :
    park w requirement policy dispatch disposition =
      .ok (sealedRecord w requirement policy dispatch disposition selections wake) := by
  have hwake : wakeAt disposition policy.backoffSeconds[dispatch.dispatchOrdinal - 1] =
      .ok wake := by
    unfold Wakes at hwakes
    unfold wakeAt
    cases hretry : disposition.providerRetryAfter with
    | some value =>
      simp only [hretry] at hwakes
      rw [hwakes]
    | none =>
      simp only [hretry, List.getElem?_eq_getElem htable, Option.some.injEq] at hwakes
      obtain ⟨_, rfl, hadd⟩ := hwakes
      simp [hadd]
  have hseconds : ¬ numSeconds wake disposition.receivedAt < 0 := by
    have hnonneg := Int.tdiv_nonneg (b := 1000000000) (sub_nonneg.mpr hlater) (by decide)
    exact not_lt.mpr hnonneg
  simp only [park, List.getElem?_eq_getElem htable, hselections, bind_eq_ok, refuseIf_eq_ok,
    okOr_eq_ok, beq_eq_false_iff_ne, decide_eq_false_iff_not, Option.some.injEq]
  refine ⟨(), hordinal, _, rfl, wake, hwake, (), hseconds, selections, rfl, ?_⟩
  simp only [DeferredProviderDispatchV1.sealed, bind_eq_ok]
  exact ⟨(), hvalid, rfl⟩

/-- The derivation reads the backoff table at the ordinal, whatever the wake basis. -/
theorem park_reaches {parked : DeferredProviderDispatchV1}
    (h : park w requirement policy dispatch disposition = .ok parked) :
    dispatch.dispatchOrdinal - 1 < policy.backoffSeconds.length := by
  simp only [park, bind_eq_ok, okOr_eq_ok] at h
  obtain ⟨_, -, seconds, hseconds, -⟩ := h
  exact (List.getElem?_eq_some_iff.mp hseconds).1

end ProviderDeferral

/-! ## Uniqueness and completeness -/

namespace ProviderDeferral

/-- The graph admits the deferral. -/
def Admits (w : Platform) (requirement : ForemanExecutionAvailabilityRequirementV1)
    (policy : ExecutionAvailabilityPolicyV1) (dispatch : ProviderDispatchOccurrenceV1)
    (observation : ExecutionAvailabilityObservationV1)
    (disposition : ProviderAdmissionDispositionV1) (history : List ProviderDeferralHistoryEntryV1)
    (deferred : Option DeferredProviderDispatchV1) : Prop :=
  AvailabilityGraph.validate w requirement policy dispatch observation disposition history
    deferred = .ok ()

/-- An admitted deferral is absent, or the one sealed record of a parked disposition. -/
theorem Admits.cases
    (h : Admits w requirement policy dispatch observation disposition history deferred) :
    (disposition.permitsAutomaticPark = false ∧ deferred = none) ∨
      (disposition.permitsAutomaticPark = true ∧ ∃ selections wake,
        requirement.workItemModelSelections[dispatch.workItemId]? = some selections ∧
        dispatch.dispatchOrdinal ≠ 0 ∧ Wakes policy dispatch disposition wake ∧
        disposition.receivedAt ≤ wake ∧
        (sealedRecord w requirement policy dispatch disposition selections wake).validate w =
          .ok () ∧
        deferred = some (sealedRecord w requirement policy dispatch disposition selections wake)) := by
  have haccepted := AvailabilityGraph.accepted h
  cases hpark : disposition.permitsAutomaticPark with
  | false => exact .inl ⟨rfl, haccepted.running hpark⟩
  | true =>
    obtain ⟨selections, cumulative, parked, hselections, rfl, hparked⟩ := haccepted.parked hpark
    obtain ⟨hvalid, hwakes, hordinal, hrecord⟩ := validateParked_ok hparked
    have hlater : disposition.receivedAt ≤ parked.wakeAt := by
      have hboundary := hvalid
      simp only [DeferredProviderDispatchV1.validate, bind_eq_ok, refuseIf_eq_ok,
        Bool.or_eq_false_iff, decide_eq_false_iff_not, not_le] at hboundary
      obtain ⟨_, -, _, -, _, -, _, -, _, -, _, -, -, hlater⟩ := hboundary
      have hrefusal : parked.refusalReceivedAt = disposition.receivedAt := by
        rw [hrecord]
        rfl
      exact (hrefusal ▸ hlater).le
    exact .inr ⟨rfl, selections, parked.wakeAt, hselections, hordinal, hwakes, hlater,
      hrecord ▸ hvalid, congrArg some hrecord⟩

/-- The graph admits one deferral at most. -/
theorem Admits.unique {other : Option DeferredProviderDispatchV1}
    (h : Admits w requirement policy dispatch observation disposition history deferred)
    (hother : Admits w requirement policy dispatch observation disposition history other) :
    deferred = other := by
  rcases h.cases with ⟨hpark, rfl⟩ | ⟨hpark, selections, wake, hselections, -, hwakes, -, -, rfl⟩
  · rcases hother.cases with ⟨-, rfl⟩ | ⟨hpark', -⟩
    · rfl
    · rw [hpark] at hpark'
      cases hpark'
  · rcases hother.cases with ⟨hpark', -⟩ | ⟨-, selections', wake', hselections', -, hwakes', -, -, rfl⟩
    · rw [hpark] at hpark'
      cases hpark'
    · rw [hselections] at hselections'
      cases hselections'
      rw [hwakes.unique hwakes']

/-- The derivation returns nothing that the graph does not admit. -/
theorem admits_of_derive
    (h : deriveProviderDeferral w requirement policy dispatch observation disposition history =
      .ok deferred) :
    Admits w requirement policy dispatch observation disposition history deferred := by
  simp only [deriveProviderDeferral, bind_eq_ok] at h
  obtain ⟨_, -, _, -, _, -, _, -, h⟩ := h
  split at h <;> simp only [bind_eq_ok, Except.ok.injEq] at h
  · obtain ⟨_, -, _, hgraph, rfl⟩ := h
    exact hgraph
  · obtain ⟨_, -, _, hgraph, rfl⟩ := h
    exact hgraph

/-- An admitted deferral is found wherever the backoff table reaches the ordinal. -/
theorem Admits.derive
    (h : Admits w requirement policy dispatch observation disposition history deferred)
    (htable : disposition.permitsAutomaticPark = true → disposition.providerRetryAfter.isSome →
      dispatch.dispatchOrdinal ≤ policy.backoffSeconds.length) :
    deriveProviderDeferral w requirement policy dispatch observation disposition history =
      .ok deferred := by
  have haccepted := AvailabilityGraph.accepted h
  have hgraph : AvailabilityGraph.validate w requirement policy dispatch observation disposition
      history deferred = .ok () := h
  simp only [deriveProviderDeferral, haccepted.requirementValid, haccepted.policyValid,
    haccepted.dispatchValid, haccepted.dispositionValid, ok_bind]
  rcases h.cases with ⟨hpark, rfl⟩ |
    ⟨hpark, selections, wake, hselections, hordinal, hwakes, hlater, hvalid, rfl⟩
  · simp [hpark, hgraph]
  · have hreach : dispatch.dispatchOrdinal - 1 < policy.backoffSeconds.length := by
      cases hretry : disposition.providerRetryAfter with
      | some value =>
        have hle := htable hpark (by simp [hretry])
        omega
      | none =>
        simp only [Wakes, hretry] at hwakes
        obtain ⟨seconds, hseconds, -⟩ := hwakes
        exact (List.getElem?_eq_some_iff.mp hseconds).1
    have hderived := park_eq_ok hselections hordinal hreach hwakes hlater hvalid
    simp [hpark, hderived, hgraph]

end ProviderDeferral

/-- The derivation returns the one admitted deferral, and an error when there is none. -/
structure DerivesExactly (w : Platform) (requirement : ForemanExecutionAvailabilityRequirementV1)
    (policy : ExecutionAvailabilityPolicyV1) (dispatch : ProviderDispatchOccurrenceV1)
    (observation : ExecutionAvailabilityObservationV1)
    (disposition : ProviderAdmissionDispositionV1) (history : List ProviderDeferralHistoryEntryV1) :
    Prop where
  unique : ∀ deferred other,
    ProviderDeferral.Admits w requirement policy dispatch observation disposition history deferred →
    ProviderDeferral.Admits w requirement policy dispatch observation disposition history other →
    deferred = other
  complete : ∀ deferred,
    ProviderDeferral.Admits w requirement policy dispatch observation disposition history deferred →
    deriveProviderDeferral w requirement policy dispatch observation disposition history =
      .ok deferred
  refused : (∀ deferred, ¬ ProviderDeferral.Admits w requirement policy dispatch observation
      disposition history deferred) →
    ∃ error, deriveProviderDeferral w requirement policy dispatch observation disposition history =
      .error error

/-- The derivation fails the graph on one kind of input: a retry-after past the end of
the backoff table. -/
theorem deriveProviderDeferral_exact_iff (w : Platform)
    (requirement : ForemanExecutionAvailabilityRequirementV1)
    (policy : ExecutionAvailabilityPolicyV1) (dispatch : ProviderDispatchOccurrenceV1)
    (observation : ExecutionAvailabilityObservationV1)
    (disposition : ProviderAdmissionDispositionV1)
    (history : List ProviderDeferralHistoryEntryV1) :
    DerivesExactly w requirement policy dispatch observation disposition history ↔
      ¬ (disposition.permitsAutomaticPark = true ∧ disposition.providerRetryAfter.isSome ∧
        policy.backoffSeconds.length < dispatch.dispatchOrdinal ∧
        ∃ deferred, ProviderDeferral.Admits w requirement policy dispatch observation disposition
          history deferred) := by
  constructor
  · rintro hexact ⟨hpark, -, hshort, deferred, hadmits⟩
    have hderived := hexact.complete deferred hadmits
    simp only [deriveProviderDeferral, bind_eq_ok, hpark, if_true, map_eq_ok] at hderived
    obtain ⟨_, -, _, -, _, -, _, -, _, ⟨parked, hparked, -⟩, -⟩ := hderived
    have hreach := ProviderDeferral.park_reaches hparked
    omega
  · intro hreaches
    refine ⟨fun _ _ h hother => h.unique hother, ?_, ?_⟩
    · intro deferred hadmits
      refine hadmits.derive fun hpark hretry => ?_
      by_contra hshort
      exact hreaches ⟨hpark, hretry, not_le.mp hshort, deferred, hadmits⟩
    · intro hnone
      cases hderived : deriveProviderDeferral w requirement policy dispatch observation disposition
        history with
      | error error => exact ⟨error, rfl⟩
      | ok deferred => exact absurd (ProviderDeferral.admits_of_derive hderived) (hnone deferred)

/-! ## A retry-after past the backoff table -/

namespace Bench

/-- The evidence bytes every bench source names. -/
def evidence : ExactAvailabilityEvidenceV1 :=
  ⟨"EXACT_PROVIDER_AVAILABILITY_SOURCE_BYTES", 1, digest 13, "hex", [13]⟩

/-- The bench with a source that names its evidence. -/
def evidencePlatform : Platform :=
  { benchPlatform with
    switchyard := { switchyard with
      source := fun d _ => .ok ⟨some evidence, d.receivedAt, "bench", "v1"⟩ } }

/-- The dispatch of one ordinal, opened at its own second. -/
def dispatchOf (ordinal : Nat) : ProviderDispatchOccurrenceV1 where
  schema := providerDispatchOccurrenceSchemaV1
  dispatchDigest := digest (32 + UInt8.ofNat ordinal)
  requirementDigest := digest 5
  policyDigest := digest 6
  packetDigest := digest 1
  runId := "run-1"
  workItemId := "a"
  workAttemptId := "attempt-uu"
  dispatchOccurrenceId := uuid ordinal
  dispatchOrdinal := ordinal
  selectedModelOrdinal := ordinal - 1
  selection := selections.getD (ordinal - 1) ⟨"", "", ""⟩
  adapterId := "adapter"
  adapterVersion := "v1"
  adapterProtocol := switchyardAppServerProtocol
  adapterProcessOccurrenceId := "process"
  appServerSessionIdentity := "session"
  workerStartRequestSchema := workerStartRequestSchemaV3
  workerStartRequestDigest := digest 7
  workerBriefDigest := digest 13
  openedAt := ordinal * 1000000000
  internalProviderRetryCount := 0
  providerExecutionId := none
  authorityEffect := localSchedulingOnly

/-- The capacity refusal of a dispatch, received when it opened, with the retry-after
of the refusing provider. -/
def refusal (ordinal : Nat) (retryAfter : Option Instant) : ProviderAdmissionDispositionV1 where
  schema := providerAdmissionDispositionSchemaV1
  dispositionDigest := digest 64
  dispatchDigest := (dispatchOf ordinal).dispatchDigest
  requirementDigest := digest 5
  policyDigest := digest 6
  packetDigest := digest 1
  runId := "run-1"
  workItemId := "a"
  workAttemptId := "attempt-uu"
  dispatchOccurrenceId := uuid ordinal
  providerId := (dispatchOf ordinal).selection.providerId
  modelId := (dispatchOf ordinal).selection.modelId
  providerRequestOccurrenceId := "request"
  adapterProcessOccurrenceId := "process"
  appServerSessionIdentity := "session"
  threadId := "thread"
  turnId := "turn"
  disposition := .notAdmittedModelAtCapacity
  mechanismState := .parkedNotAdmitted
  receivedAt := ordinal * 1000000000
  responseCreated := false
  willRetry := false
  acquisitionComplete := true
  providerRetryAfter := retryAfter
  providerExecution := none
  mapperSnapshotSchema := switchyardSnapshotSchema
  mapperSnapshotDigest := digest 13
  mapperSnapshot := ⟨"RFC8785_SWITCHYARD_MAPPER_SNAPSHOT", 1, digest 13, "hex", [13]⟩
  approvalResponseSent := false
  protectedEffectAbsent := true
  authorityEffect := mechanismEvidenceOnly

/-- The observation of a refusal. -/
def capacityRefused (ordinal : Nat) (retryAfter : Option Instant) :
    ExecutionAvailabilityObservationV1 where
  schema := executionAvailabilityObservationSchemaV1
  observationDigest := digest 8
  providerId := (dispatchOf ordinal).selection.providerId
  modelId := (dispatchOf ordinal).selection.modelId
  modelClass := (dispatchOf ordinal).selection.modelClass
  observedAt := ordinal * 1000000000
  receivedAt := ordinal * 1000000000
  expiresAt := ordinal * 1000000000 + 1
  state := .modelAtCapacity
  sourceIdentity := "bench"
  sourceVersion := "v1"
  providerRetryAfter := retryAfter
  exactEvidence := some evidence
  authorityEffect := mechanismEvidenceOnly

/-- The sealed park record of a refusal. -/
def parked (ordinal : Nat) (retryAfter : Option Instant) (wake : Instant) :
    DeferredProviderDispatchV1 :=
  ProviderDeferral.sealedRecord evidencePlatform Bench.requirement Bench.policy
    (dispatchOf ordinal) (refusal ordinal retryAfter) selections wake

/-- The first dispatch waited out the policy backoff. -/
def firstDeferral : ProviderDeferralHistoryEntryV1 :=
  ⟨dispatchOf 1, refusal 1 none, parked 1 none 2000000000⟩

end Bench

/-- The policy allows a second dispatch, its table holds the backoff of the first only,
and the second is refused with a retry-after one second away: the graph admits a park
record and the derivation fails. -/
theorem deriveProviderDeferral_retry_after_past_table :
    ¬ DerivesExactly Bench.evidencePlatform Bench.requirement Bench.policy (Bench.dispatchOf 2)
      (Bench.capacityRefused 2 (some 3000000000)) (Bench.refusal 2 (some 3000000000))
      [Bench.firstDeferral] := by
  intro hexact
  have hadmits : ProviderDeferral.Admits Bench.evidencePlatform Bench.requirement Bench.policy
      (Bench.dispatchOf 2) (Bench.capacityRefused 2 (some 3000000000))
      (Bench.refusal 2 (some 3000000000)) [Bench.firstDeferral]
      (some (Bench.parked 2 (some 3000000000) 3000000000)) := by
    unfold ProviderDeferral.Admits
    decide +kernel
  have hderived := hexact.complete _ hadmits
  have hfails : deriveProviderDeferral Bench.evidencePlatform Bench.requirement Bench.policy
      (Bench.dispatchOf 2) (Bench.capacityRefused 2 (some 3000000000))
      (Bench.refusal 2 (some 3000000000)) [Bench.firstDeferral] =
        .error (.invalidField "policy backoff ordinal") := by
    decide +kernel
  rw [hfails] at hderived
  cases hderived

end Nightshift
