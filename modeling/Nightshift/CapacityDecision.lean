import Nightshift.Bench

/-!
# The capacity decision

When the decision that `decide_capacity` returns passes its own validator, and
when the state it reports is bounded by every window the policy requires.
-/

namespace Nightshift

open Checked ProviderCapacity

/-- A digest of the platform is an exact SHA-256 token. -/
def Platform.HashesToTokens (w : Platform) : Prop :=
  ∀ domain bytes, isSha256Digest (w.sha256 domain bytes) = true

namespace ProviderCapacity

@[simp] theorem checkDigest_eq_ok {actual expected kind : String} {u : Unit} :
    checkDigest actual expected kind = .ok u ↔ actual = expected := by
  cases u
  simp [checkDigest]

@[simp] theorem nonempty_eq_ok {field value : String} {u : Unit} :
    nonempty field value = .ok u ↔ isBlank value = false := by
  cases u
  simp [nonempty]

theorem token_injective : Function.Injective WindowType.token := by
  intro a b h
  cases a <;> cases b <;> first | rfl | exact absurd h (by decide)

/-- The types of a canonical list are pairwise distinct. -/
theorem nodup_of_unorderedTypes {types : List WindowType} (h : unorderedTypes types = false) :
    types.Nodup := by
  have hsorted : types.Pairwise (fun a b => a.rank < b.rank) := by
    rw [← List.isChain_iff_pairwise]
    induction types with
    | nil => exact .nil
    | cons a rest ih =>
      cases rest with
      | nil => exact .singleton a
      | cons b rest =>
        simp only [unorderedTypes, Bool.or_eq_false_iff, decide_eq_false_iff_not, not_le] at h
        exact .cons_cons h.1 (ih h.2)
  exact hsorted.imp fun hlt heq => absurd (heq ▸ hlt) (lt_irrefl _)

end ProviderCapacity

/-! ## What the validators establish -/

/-- What a decision rests on in a valid observation. -/
structure CapacityObservationV1.Sound (w : Platform) (o : CapacityObservationV1) : Prop where
  provider : isBlank o.providerId = false
  usable : o.disposition = .usable → o.unknownReasons = []
  unknown : o.disposition = .unknown → o.unknownReasons ≠ []
  windows : ∀ window ∈ o.windows, window.validate = .ok ()
  digest : o.observationDigest = o.computeDigest w

theorem CapacityObservationV1.sound {w : Platform} {o : CapacityObservationV1}
    (h : o.validate w = .ok ()) : o.Sound w := by
  cases hdisposition : o.disposition with
  | usable =>
    simp only [validate, hdisposition, bind_eq_ok, refuseIf_eq_ok, nonempty_eq_ok,
      Bool.or_eq_false_iff, Bool.not_eq_false'] at h
    obtain ⟨_, -, _, hprovider, _, -, _, -, _, ⟨-, hreasons⟩, _, -, _, -, _, -, _, -, h⟩ := h
    cases hversion : o.evidence.protocolVersion <;>
    · simp only [hversion, bind_eq_ok, refuseIf_eq_ok, checkDigest_eq_ok, forEach_eq_ok] at h
      obtain ⟨_, -, _, -, _, -, _, hwindows, hdigest⟩ := h
      exact ⟨hprovider, fun _ => List.isEmpty_iff.mp hreasons,
        fun hunknown => absurd (hdisposition.symm.trans hunknown) (by simp), hwindows, hdigest⟩
  | unknown =>
    simp only [validate, hdisposition, bind_eq_ok, refuseIf_eq_ok, nonempty_eq_ok] at h
    obtain ⟨_, -, _, hprovider, _, -, _, -, _, hreasons, _, -, _, -, _, -, _, -, h⟩ := h
    cases hversion : o.evidence.protocolVersion <;>
    · simp only [hversion, bind_eq_ok, refuseIf_eq_ok, checkDigest_eq_ok, forEach_eq_ok] at h
      obtain ⟨_, -, _, -, _, -, _, hwindows, hdigest⟩ := h
      exact ⟨hprovider, fun husable => absurd (hdisposition.symm.trans husable) (by simp),
        fun _ hempty => by simp [hempty] at hreasons, hwindows, hdigest⟩

/-- What a decision rests on in a valid policy. -/
structure CapacityPolicyV1.Sound (w : Platform) (p : CapacityPolicyV1) : Prop where
  conserve : 0 ≤ p.conserveMinRemaining
  normal : p.conserveMinRemaining < p.normalMinRemaining
  abundant : p.normalMinRemaining < p.abundantMinRemaining
  types : p.requiredWindowTypes.Nodup
  digest : p.policyDigest = p.computeDigest w

theorem CapacityPolicyV1.sound {w : Platform} {p : CapacityPolicyV1}
    (h : p.validate w = .ok ()) : p.Sound w := by
  simp only [validate, bind_eq_ok, refuseIf_eq_ok, nonempty_eq_ok, checkDigest_eq_ok,
    Bool.or_eq_false_iff, Bool.not_eq_false', decide_eq_false_iff_not, not_le, isFraction,
    Bool.and_eq_true, decide_eq_true_eq] at h
  obtain ⟨_, -, _, -, _, ⟨⟨⟨-, hconserve, -⟩, habundant⟩, hnormal⟩, _, -, _, htypes, hdigest⟩ := h
  exact ⟨hconserve, hnormal, habundant, nodup_of_unorderedTypes htypes, hdigest⟩

/-- The measure of a window lies in one of its two fields. -/
theorem CapacityWindow.measured {window : CapacityWindow} (h : window.validate = .ok ())
    (hnone : window.remainingFraction = none) : ∃ units, window.remainingUnits = some units := by
  cases hunits : window.remainingUnits with
  | some units => exact ⟨units, rfl⟩
  | none => simp [validate, hnone, hunits] at h

/-! ## The branches of a decision -/

/-- The decision comes to compare what remains: the observation is usable and current,
no window has reset since, its source suffices and no required window is missing. -/
structure Comparable (o : CapacityObservationV1) (p : CapacityPolicyV1) (decisionAt : Instant) :
    Prop where
  usable : o.disposition = .usable
  observed : o.observedAt ≤ decisionAt
  expires : decisionAt < o.expiresAt
  resets : ∀ window ∈ o.windows, ∀ reset, window.resetsAt = some reset → decisionAt < reset
  source : o.sourceClass ≠ .unknown
  confidence : p.minimumConfidence.rank ≤ o.confidence.rank
  present : ∀ type ∈ p.requiredWindowTypes, ∃ window ∈ o.windows, window.windowType = type

namespace ProviderCapacity

theorem missingWindowReasons_eq_nil {o : CapacityObservationV1} {p : CapacityPolicyV1} :
    missingWindowReasons o p = [] ↔
      ∀ type ∈ p.requiredWindowTypes, ∃ window ∈ o.windows, window.windowType = type := by
  simp [missingWindowReasons, List.filter_eq_nil_iff]

/-- The state of a smallest fraction. -/
def level (p : CapacityPolicyV1) (value : Rat) : CapacityState :=
  if value ≥ p.abundantMinRemaining then .abundant
  else if value ≥ p.normalMinRemaining then .normal
  else if value ≥ p.conserveMinRemaining then .conserve
  else .critical

/-- What `decideState` returns, branch by branch. -/
inductive Decided (o : CapacityObservationV1) (p : CapacityPolicyV1) (decisionAt : Instant) :
    List String × CapacityState → Prop where
  | unknown (h : o.disposition = .unknown) :
    Decided o p decisionAt (o.unknownReasons ++ missingWindowReasons o p, .unknown)
  | refused (h : o.disposition = .usable) (reason : String) (htoken : isReasonToken reason = true)
      (hnone : Comparable o p decisionAt → minimumRemaining o = none) :
    Decided o p decisionAt ([reason], .unknown)
  | missing (h : o.disposition = .usable) (hmissing : missingWindowReasons o p ≠ []) :
    Decided o p decisionAt (missingWindowReasons o p, .unknown)
  | measured (h : Comparable o p decisionAt) (value : Rat)
      (hvalue : minimumRemaining o = some value) : Decided o p decisionAt ([], level p value)

theorem decided (o : CapacityObservationV1) (p : CapacityPolicyV1) (decisionAt : Instant) :
    Decided o p decisionAt (decideState o p decisionAt) := by
  cases hdisposition : o.disposition with
  | unknown =>
    simp only [decideState, hdisposition, beq_self_eq_true, if_true]
    exact .unknown hdisposition
  | usable =>
    rw [decideState, if_neg (by simp [hdisposition])]
    by_cases hobserved : decisionAt < o.observedAt
    · rw [if_pos hobserved]
      exact .refused hdisposition _ (by decide +kernel)
        fun h => absurd hobserved (not_lt.mpr h.observed)
    rw [if_neg hobserved]
    by_cases hexpires : decisionAt ≥ o.expiresAt
    · rw [if_pos hexpires]
      exact .refused hdisposition _ (by decide +kernel)
        fun h => absurd h.expires (not_lt.mpr hexpires)
    rw [if_neg hexpires]
    split
    case isTrue hreset =>
      refine .refused hdisposition _ (by decide +kernel) fun h => ?_
      simp only [List.any_eq_true, Option.any_eq_true, decide_eq_true_eq] at hreset
      obtain ⟨window, hwindow, reset, hat, hle⟩ := hreset
      exact absurd (h.resets window hwindow reset hat) (not_lt.mpr hle)
    case isFalse hresets =>
    split
    case isTrue hsource =>
      refine .refused hdisposition _ (by decide +kernel) fun h => ?_
      simp only [Bool.or_eq_true, beq_iff_eq, decide_eq_true_eq] at hsource
      rcases hsource with hsource | hconfidence
      · exact absurd hsource h.source
      · exact absurd hconfidence (not_lt.mpr h.confidence)
    case isFalse hsource =>
    split
    case isTrue hmissing => exact .missing hdisposition (by simpa using hmissing)
    case isFalse hmissing =>
    cases hvalue : minimumRemaining o with
    | none => exact .refused hdisposition _ (by decide +kernel) fun _ => hvalue
    | some value =>
      have hcomparable : Comparable o p decisionAt := by
        simp only [List.any_eq_true, Option.any_eq_true, decide_eq_true_eq, not_exists,
          not_and, not_le, ge_iff_le] at hresets
        simp only [Bool.or_eq_true, beq_iff_eq, decide_eq_true_eq, not_or, not_lt] at hsource
        refine ⟨hdisposition, not_lt.mp hobserved, not_le.mp hexpires, ?_, hsource.1, hsource.2,
          missingWindowReasons_eq_nil.mp (by simpa using hmissing)⟩
        exact fun window hwindow reset hreset => hresets window hwindow reset hreset
      have hlevel : (if value ≥ p.abundantMinRemaining then ([], .abundant)
          else if value ≥ p.normalMinRemaining then ([], .normal)
          else if value ≥ p.conserveMinRemaining then ([], .conserve)
          else ([], .critical) : List String × CapacityState) = ([], level p value) := by
        unfold level
        split_ifs <;> rfl
      dsimp only
      rw [hlevel]
      exact .measured hcomparable value hvalue

end ProviderCapacity

/-- A measured minimum is what a comparison decides on. -/
theorem Comparable.decideState {o : CapacityObservationV1} {p : CapacityPolicyV1}
    {decisionAt : Instant} {minimum : Rat} (h : Comparable o p decisionAt)
    (hminimum : minimumRemaining o = some minimum) :
    (ProviderCapacity.decideState o p decisionAt).2 = level p minimum := by
  have hdecided := decided o p decisionAt
  generalize ProviderCapacity.decideState o p decisionAt = branch at hdecided ⊢
  cases hdecided with
  | unknown hunknown => rw [h.usable] at hunknown; cases hunknown
  | refused _ _ _ hnone => rw [hnone h] at hminimum; cases hminimum
  | missing _ hmissing => exact absurd (missingWindowReasons_eq_nil.mpr h.present) hmissing
  | measured _ value hvalue =>
    rw [hvalue] at hminimum
    cases hminimum
    rfl

/-- The reason codes of a decision. -/
def ProviderCapacity.decisionReasons (o : CapacityObservationV1) (p : CapacityPolicyV1)
    (decisionAt : Instant) : List String :=
  if (decideState o p decisionAt).1.isEmpty then
    ["MINIMUM_REMAINING_WINDOW_" ++ (decideState o p decisionAt).2.token]
  else (decideState o p decisionAt).1

/-- The decision that an observation and a policy determine at an instant, field by field. -/
structure CapacityDecisionV1.Of (w : Platform) (o : CapacityObservationV1) (p : CapacityPolicyV1)
    (decisionAt : Instant) (d : CapacityDecisionV1) : Prop where
  observation : o.Sound w
  policy : p.Sound w
  schema : d.schema = capacityDecisionSchemaV1
  provider : d.providerId = o.providerId
  state : d.state = (decideState o p decisionAt).2
  admission : (d.admission, d.allowNewExpensiveWork, d.allowNewSpeculativeWork) =
    decideAdmission p d.state
  custody : d.allowActiveWorkToReachCustody = true
  reasons : d.reasonCodes = decisionReasons o p decisionAt
  observationDigest : d.observationDigest = o.computeDigest w
  policyDigest : d.policyDigest = p.computeDigest w
  digest : d.decisionDigest = d.computeDigest w

theorem decideCapacity_eq_ok {w : Platform} {o : CapacityObservationV1} {p : CapacityPolicyV1}
    {decisionAt : Instant} {d : CapacityDecisionV1} (h : decideCapacity w o p decisionAt = .ok d) :
    d.Of w o p decisionAt := by
  simp only [decideCapacity, bind_eq_ok, Except.ok.injEq] at h
  obtain ⟨_, ho, _, hp, rfl⟩ := h
  have hobservation := CapacityObservationV1.sound ho
  have hpolicy := CapacityPolicyV1.sound hp
  exact ⟨hobservation, hpolicy, rfl, rfl, rfl, rfl, rfl, rfl, hobservation.digest, hpolicy.digest,
    rfl⟩

theorem exists_decideCapacity {w : Platform} {o : CapacityObservationV1} {p : CapacityPolicyV1}
    (ho : o.validate w = .ok ()) (hp : p.validate w = .ok ()) (decisionAt : Instant) :
    ∃ d, decideCapacity w o p decisionAt = .ok d := by
  simp only [decideCapacity, ho, hp, ok_bind]
  exact ⟨_, rfl⟩

/-! ## Closed reasons -/

/-- The reasons of an observation are tokens, no two of them the same, and none is
a reason that the decision adds itself. -/
structure CapacityObservationV1.ClosedReasons (o : CapacityObservationV1)
    (p : CapacityPolicyV1) : Prop where
  tokens : ∀ reason ∈ o.unknownReasons, isReasonToken reason = true
  distinct : o.unknownReasons.Nodup
  apart : ∀ reason ∈ o.unknownReasons, reason ∉ missingWindowReasons o p

namespace ProviderCapacity

/-- A list of reasons that the decision validator accepts. -/
def Closed (reasons : List String) : Prop :=
  reasons ≠ [] ∧ (∀ reason ∈ reasons, isReasonToken reason = true) ∧ reasons.Nodup

theorem closed_singleton {reason : String} (h : isReasonToken reason = true) : Closed [reason] :=
  ⟨nofun, by simpa using h, List.nodup_singleton reason⟩

theorem length_dedup_eq_iff {reasons : List String} :
    reasons.dedup.length = reasons.length ↔ reasons.Nodup := by
  constructor
  · intro h
    exact List.dedup_eq_self.mp ((List.dedup_sublist reasons).eq_of_length h)
  · intro h
    rw [h.dedup]

theorem isReasonToken_missing (type : WindowType) :
    isReasonToken ("REQUIRED_WINDOW_MISSING_" ++ type.token) = true := by
  cases type <;> decide +kernel

theorem isReasonToken_minimum (state : CapacityState) :
    isReasonToken ("MINIMUM_REMAINING_WINDOW_" ++ state.token) = true := by
  cases state <;> decide +kernel

theorem tokens_missing (o : CapacityObservationV1) (p : CapacityPolicyV1) :
    ∀ reason ∈ missingWindowReasons o p, isReasonToken reason = true := by
  intro reason hreason
  obtain ⟨type, -, rfl⟩ := List.mem_map.mp hreason
  exact isReasonToken_missing type

theorem nodup_missing {o : CapacityObservationV1} {p : CapacityPolicyV1}
    (h : p.requiredWindowTypes.Nodup) : (missingWindowReasons o p).Nodup := by
  refine (h.filter _).map ?_
  intro a b hab
  exact token_injective (by simpa using hab)

/-- Outside an unknown observation the decision gives one reason of its own, or
the missing windows. -/
theorem closed_decisionReasons {o : CapacityObservationV1} {p : CapacityPolicyV1}
    (hp : p.requiredWindowTypes.Nodup) (h : o.disposition = .usable) (decisionAt : Instant) :
    Closed (decisionReasons o p decisionAt) := by
  have hdecided := decided o p decisionAt
  unfold decisionReasons
  generalize decideState o p decisionAt = branch at hdecided ⊢
  cases hdecided with
  | unknown hunknown => rw [h] at hunknown; cases hunknown
  | refused _ reason htoken => exact closed_singleton htoken
  | missing _ hmissing =>
    rw [if_neg (by simpa using hmissing)]
    exact ⟨hmissing, tokens_missing o p, nodup_missing hp⟩
  | measured _ value => exact closed_singleton (isReasonToken_minimum _)

theorem decisionReasons_of_unknown {o : CapacityObservationV1} {p : CapacityPolicyV1}
    (hreasons : o.unknownReasons ≠ []) (h : o.disposition = .unknown) (decisionAt : Instant) :
    decisionReasons o p decisionAt = o.unknownReasons ++ missingWindowReasons o p := by
  simp [decisionReasons, decideState, h, hreasons]

/-- The codes of a decision are closed exactly when the reasons of its observation are. -/
theorem closed_decisionReasons_iff {w : Platform} {o : CapacityObservationV1} {p : CapacityPolicyV1}
    (ho : o.Sound w) (hp : p.requiredWindowTypes.Nodup) (decisionAt : Instant) :
    Closed (decisionReasons o p decisionAt) ↔ o.ClosedReasons p := by
  cases hdisposition : o.disposition with
  | usable =>
    have hnone := ho.usable hdisposition
    refine iff_of_true (closed_decisionReasons hp hdisposition decisionAt) ?_
    exact ⟨by simp [hnone], by simp [hnone], by simp [hnone]⟩
  | unknown =>
    have hsome := ho.unknown hdisposition
    rw [decisionReasons_of_unknown hsome hdisposition]
    constructor
    · rintro ⟨-, htokens, hnodup⟩
      obtain ⟨hdistinct, -, hapart⟩ := List.nodup_append.mp hnodup
      exact ⟨fun reason h => htokens reason (List.mem_append_left _ h), hdistinct,
        fun reason h hmissing => hapart reason h reason hmissing rfl⟩
    · rintro ⟨htokens, hdistinct, hapart⟩
      refine ⟨by simp [hsome], ?_, ?_⟩
      · intro reason h
        rcases List.mem_append.mp h with h | h
        · exact htokens reason h
        · exact tokens_missing o p reason h
      · refine List.nodup_append.mpr ⟨hdistinct, nodup_missing hp, ?_⟩
        rintro reason h _ hmissing rfl
        exact hapart reason h hmissing

end ProviderCapacity

/-- The fields of a state are the ones its admission gives. -/
theorem CapacityDecisionV1.fieldsMatchState_of {d : CapacityDecisionV1} {p : CapacityPolicyV1}
    (h : (d.admission, d.allowNewExpensiveWork, d.allowNewSpeculativeWork) =
      decideAdmission p d.state) : d.fieldsMatchState = true := by
  cases hstate : d.state with
  | unknown =>
    simp only [hstate, decideAdmission] at h
    split at h <;> simp_all [fieldsMatchState]
  | _ => simp_all [decideAdmission, fieldsMatchState]

/-- The decision validator turns on the reasons alone: `decide_capacity` fills every
other field as it demands. -/
theorem CapacityDecisionV1.Of.validate_iff {w : Platform} (hw : w.HashesToTokens)
    {o : CapacityObservationV1} {p : CapacityPolicyV1} {decisionAt : Instant}
    {d : CapacityDecisionV1} (h : d.Of w o p decisionAt) :
    d.validate w = .ok () ↔ Closed (decisionReasons o p decisionAt) := by
  have hobservation : isSha256Digest d.observationDigest = true := by
    rw [h.observationDigest]
    exact hw _ _
  have hpolicy : isSha256Digest d.policyDigest = true := by
    rw [h.policyDigest]
    exact hw _ _
  have hprovider : isBlank d.providerId = false := by
    rw [h.provider]
    exact h.observation.provider
  rw [← h.reasons]
  simp [CapacityDecisionV1.validate, Closed, h.schema, hprovider, hobservation, hpolicy,
    h.custody, fieldsMatchState_of h.admission, ← h.digest, length_dedup_eq_iff, and_assoc]

/-- A valid observation whose reasons are no tokens decides what the decision
validator refuses, and so does one that repeats a reason. -/
theorem decideCapacity_closed_iff {w : Platform} (hw : w.HashesToTokens)
    {o : CapacityObservationV1} {p : CapacityPolicyV1} (ho : o.validate w = .ok ())
    (hp : p.validate w = .ok ()) (decisionAt : Instant) :
    (∃ d, decideCapacity w o p decisionAt = .ok d ∧ d.validate w = .ok ()) ↔
      o.ClosedReasons p := by
  have hclosed := closed_decisionReasons_iff (CapacityObservationV1.sound ho)
    (CapacityPolicyV1.sound hp).types decisionAt
  rw [← hclosed]
  constructor
  · rintro ⟨d, hd, hvalid⟩
    exact ((decideCapacity_eq_ok hd).validate_iff hw).mp hvalid
  · intro hreasons
    obtain ⟨d, hd⟩ := exists_decideCapacity ho hp decisionAt
    exact ⟨d, hd, ((decideCapacity_eq_ok hd).validate_iff hw).mpr hreasons⟩

namespace Bench

theorem isSha256Digest_digest (byte : UInt8) : isSha256Digest (digest byte) = true := by
  have htail : ∀ value : Fin 256,
      (utf8 (String.ofList [hexDigit (value.val / 16), hexDigit (value.val % 16)])).length = 2 ∧
        (utf8 (String.ofList [hexDigit (value.val / 16), hexDigit (value.val % 16)])).all
          isLowerHexdigit = true := by decide +kernel
  have hlength : (utf8 (String.ofList [hexDigit (byte.toNat / 16),
      hexDigit (byte.toNat % 16)])).length = 2 := (htail byte.toFin).1
  have hhex := (htail byte.toFin).2
  have hzeros : utf8 (String.ofList (List.replicate 62 '0')) = List.replicate 62 0x30 := by
    decide +kernel
  have hbytes : utf8 (digest byte) = utf8 "sha256:" ++ (List.replicate 62 0x30 ++
      utf8 (String.ofList [hexDigit (byte.toNat / 16), hexDigit (byte.toNat % 16)])) := by
    rw [← hzeros, digest, String.ofList_append]
    simp [utf8, String.toByteArray_append]
  have hcount : byteLength (digest byte) = (utf8 (digest byte)).length := rfl
  have htag : (utf8 "sha256:").length = 7 := by decide +kernel
  have hstrip : stripPrefix "sha256:" (digest byte) = some (List.replicate 62 0x30 ++
      utf8 (String.ofList [hexDigit (byte.toNat / 16), hexDigit (byte.toNat % 16)])) := by
    rw [stripPrefix, hbytes, if_pos (List.isPrefixOf_iff_prefix.mpr (List.prefix_append _ _)),
      List.drop_left]
  have hzero : isLowerHexdigit 0x30 = true := by decide
  rw [isSha256Digest, hcount, hstrip, hbytes]
  simp only [List.length_append, htag, List.length_replicate, Option.any_some, List.all_append,
    List.all_replicate, hzero, Bool.and_eq_true, beq_iff_eq]
  exact ⟨by rw [hlength], by simp, hhex⟩

theorem hashesToTokens : benchPlatform.HashesToTokens := fun _ _ => isSha256Digest_digest _

/-- A probe that gave up, with its reason in prose. -/
def silentObservation : CapacityObservationV1 :=
  { capacityObservation with
    disposition := .unknown
    unknownReasons := ["probe timed out"]
    windows := [] }

end Bench

/-- The decision on the bench records is closed. -/
theorem decideCapacity_closed_iff_bench :
    (∃ d, decideCapacity benchPlatform Bench.capacityObservation Bench.capacityPolicy 2 = .ok d ∧
      d.validate benchPlatform = .ok ()) ↔
      Bench.capacityObservation.ClosedReasons Bench.capacityPolicy :=
  decideCapacity_closed_iff Bench.hashesToTokens (by decide +kernel) (by decide +kernel) 2

/-- A valid observation with a reason in prose, and a decision the validator refuses. -/
theorem decideCapacity_prose_reason :
    Bench.silentObservation.validate benchPlatform = .ok () ∧
      Bench.capacityPolicy.validate benchPlatform = .ok () ∧
      ¬ ∃ d, decideCapacity benchPlatform Bench.silentObservation Bench.capacityPolicy 2 = .ok d ∧
        d.validate benchPlatform = .ok () := by
  refine ⟨by decide +kernel, by decide +kernel, ?_⟩
  rintro ⟨d, hd, hvalid⟩
  have hrefused : ((decideCapacity benchPlatform Bench.silentObservation Bench.capacityPolicy
      2).toOption.any fun d => d.validate benchPlatform == .ok ()) = false := by decide +kernel
  simp [hd, Except.toOption, hvalid] at hrefused

/-! ## Bounded by every required window -/

/-- What a window reports to remain: its fraction, or else its units over their maximum. -/
def CapacityWindow.remaining (window : CapacityWindow) : Option Rat :=
  match window.remainingFraction with
  | some value => some value
  | none => window.remainingUnits.map fun units => (units.remaining : Rat) / units.maximum

namespace CapacityPolicyV1

def thresholds (p : CapacityPolicyV1) : List Rat :=
  [p.abundantMinRemaining, p.normalMinRemaining, p.conserveMinRemaining]

/-- The threshold behind a state that admits new work. -/
def threshold (p : CapacityPolicyV1) : CapacityState → Option Rat
  | .abundant => some p.abundantMinRemaining
  | .normal => some p.normalMinRemaining
  | .conserve => some p.conserveMinRemaining
  | .critical | .unknown => none

end CapacityPolicyV1

/-- The observation is current and sufficient at the instant, and every window of a
required type, of which there is one at least, has the threshold left. -/
structure CapacityObservationV1.Backs (o : CapacityObservationV1) (p : CapacityPolicyV1)
    (decisionAt : Instant) (threshold : Rat) : Prop where
  observed : o.observedAt ≤ decisionAt
  expires : decisionAt < o.expiresAt
  resets : ∀ window ∈ o.windows, ∀ reset, window.resetsAt = some reset → decisionAt < reset
  source : o.sourceClass ≠ .unknown
  confidence : p.minimumConfidence.rank ≤ o.confidence.rank
  present : ∀ type ∈ p.requiredWindowTypes, ∃ window ∈ o.windows, window.windowType = type
  left : ∀ window ∈ o.windows, window.windowType ∈ p.requiredWindowTypes →
    ∃ value, window.remaining = some value ∧ threshold ≤ value

/-- Each admitting state is backed down to its threshold, and ordinary work is admitted
on no exhausted window. -/
structure CapacityDecisionV1.Bounded (d : CapacityDecisionV1) (o : CapacityObservationV1)
    (p : CapacityPolicyV1) (decisionAt : Instant) : Prop where
  backed : ∀ threshold, p.threshold d.state = some threshold → o.Backs p decisionAt threshold
  ordinary : d.admission = .ordinaryBounded → ∀ window ∈ o.windows,
    window.windowType ∈ p.requiredWindowTypes → window.remaining ≠ some 0

/-- A threshold that all reported fractions reach is reached as well by the required
windows that report units only. -/
def CapacityObservationV1.UnitsReach (o : CapacityObservationV1) (p : CapacityPolicyV1) : Prop :=
  ∀ threshold ∈ p.thresholds,
    (∃ window ∈ o.windows, window.remainingFraction.isSome) →
    (∀ window ∈ o.windows, ∀ value, window.remainingFraction = some value → threshold ≤ value) →
    ∀ window ∈ o.windows, window.windowType ∈ p.requiredWindowTypes →
      window.remainingFraction = none →
      ∀ units, window.remainingUnits = some units →
        threshold ≤ (units.remaining : Rat) / units.maximum

namespace ProviderCapacity

theorem minimumRemaining_eq_some {o : CapacityObservationV1} {minimum : Rat} :
    minimumRemaining o = some minimum ↔
      (∃ window ∈ o.windows, window.remainingFraction = some minimum) ∧
        ∀ window ∈ o.windows, ∀ value, window.remainingFraction = some value → minimum ≤ value := by
  rw [minimumRemaining, List.min?_eq_some_iff]
  simp only [List.mem_filterMap]
  constructor
  · rintro ⟨hmem, hle⟩
    exact ⟨hmem, fun window hwindow value hvalue => hle value ⟨window, hwindow, hvalue⟩⟩
  · rintro ⟨hmem, hle⟩
    refine ⟨hmem, ?_⟩
    rintro value ⟨window, hwindow, hvalue⟩
    exact hle window hwindow value hvalue

theorem exists_minimumRemaining {o : CapacityObservationV1}
    (h : ∃ window ∈ o.windows, window.remainingFraction.isSome) :
    ∃ minimum, minimumRemaining o = some minimum := by
  obtain ⟨window, hwindow, hsome⟩ := h
  obtain ⟨value, hvalue⟩ := Option.isSome_iff_exists.mp hsome
  have hmem : value ∈ o.windows.filterMap (·.remainingFraction) :=
    List.mem_filterMap.mpr ⟨window, hwindow, hvalue⟩
  exact Option.isSome_iff_exists.mp (List.isSome_min?_of_mem hmem)

/-- The threshold of a smallest fraction is the highest one it reaches. -/
theorem threshold_level {w : Platform} {p : CapacityPolicyV1} (hp : p.Sound w)
    {minimum threshold : Rat} (h : p.threshold (level p minimum) = some threshold) :
    threshold ∈ p.thresholds ∧ threshold ≤ minimum ∧
      ∀ other ∈ p.thresholds, other ≤ minimum → other ≤ threshold := by
  have hnormal := hp.normal
  have habundant := hp.abundant
  unfold level at h
  by_cases h₁ : minimum ≥ p.abundantMinRemaining
  · rw [if_pos h₁] at h
    cases h
    refine ⟨by simp [CapacityPolicyV1.thresholds], h₁, ?_⟩
    simp only [CapacityPolicyV1.thresholds, List.mem_cons, List.not_mem_nil, or_false]
    rintro other (rfl | rfl | rfl) - <;> linarith
  rw [if_neg h₁] at h
  by_cases h₂ : minimum ≥ p.normalMinRemaining
  · rw [if_pos h₂] at h
    cases h
    refine ⟨by simp [CapacityPolicyV1.thresholds], h₂, ?_⟩
    simp only [CapacityPolicyV1.thresholds, List.mem_cons, List.not_mem_nil, or_false]
    rintro other (rfl | rfl | rfl) hle
    · exact absurd hle h₁
    · exact le_rfl
    · exact hnormal.le
  rw [if_neg h₂] at h
  by_cases h₃ : minimum ≥ p.conserveMinRemaining
  · rw [if_pos h₃] at h
    cases h
    refine ⟨by simp [CapacityPolicyV1.thresholds], h₃, ?_⟩
    simp only [CapacityPolicyV1.thresholds, List.mem_cons, List.not_mem_nil, or_false]
    rintro other (rfl | rfl | rfl) hle
    · exact absurd hle h₁
    · exact absurd hle h₂
    · exact le_rfl
  · rw [if_neg h₃] at h
    cases h

/-- A smallest fraction that reaches some threshold is given a state with a threshold. -/
theorem exists_threshold_level {w : Platform} {p : CapacityPolicyV1} (hp : p.Sound w)
    {minimum threshold : Rat} (hmem : threshold ∈ p.thresholds) (hle : threshold ≤ minimum) :
    ∃ reached, p.threshold (level p minimum) = some reached := by
  have hnormal := hp.normal
  have habundant := hp.abundant
  have hconserve : minimum ≥ p.conserveMinRemaining := by
    simp only [CapacityPolicyV1.thresholds, List.mem_cons, List.not_mem_nil, or_false] at hmem
    rcases hmem with rfl | rfl | rfl <;> linarith
  unfold level
  split_ifs <;> exact ⟨_, rfl⟩

end ProviderCapacity

theorem CapacityWindow.remaining_units {window : CapacityWindow} {units : RemainingUnits}
    (hnone : window.remainingFraction = none) (hunits : window.remainingUnits = some units) :
    window.remaining = some ((units.remaining : Rat) / units.maximum) := by
  simp [remaining, hnone, hunits]

/-- An ordinary admission rests on a threshold above zero. -/
theorem CapacityDecisionV1.Of.ordinary {w : Platform} {o : CapacityObservationV1}
    {p : CapacityPolicyV1} {decisionAt : Instant} {d : CapacityDecisionV1}
    (h : d.Of w o p decisionAt) (hordinary : d.admission = .ordinaryBounded) :
    ∃ threshold, p.threshold d.state = some threshold ∧ 0 < threshold := by
  have hconserve := h.policy.conserve
  have hnormal := h.policy.normal
  have habundant := h.policy.abundant
  have hadmission : d.admission = (decideAdmission p d.state).1 := by simp [← h.admission]
  rw [hordinary] at hadmission
  cases hstate : d.state with
  | abundant => exact ⟨_, rfl, by linarith⟩
  | normal => exact ⟨_, rfl, by linarith⟩
  | conserve => simp [hstate, decideAdmission] at hadmission
  | critical => simp [hstate, decideAdmission] at hadmission
  | unknown =>
    simp only [hstate, decideAdmission] at hadmission
    split at hadmission <;> cases hadmission

/-- Backed states bound the decision as a whole. -/
theorem CapacityDecisionV1.Of.bounded {w : Platform} {o : CapacityObservationV1}
    {p : CapacityPolicyV1} {decisionAt : Instant} {d : CapacityDecisionV1}
    (h : d.Of w o p decisionAt)
    (hbacked : ∀ threshold, p.threshold d.state = some threshold →
      o.Backs p decisionAt threshold) : d.Bounded o p decisionAt := by
  refine ⟨hbacked, ?_⟩
  intro hordinary window hwindow hrequired hzero
  obtain ⟨threshold, hthreshold, hpositive⟩ := h.ordinary hordinary
  obtain ⟨value, hvalue, hle⟩ := (hbacked threshold hthreshold).left window hwindow hrequired
  rw [hzero] at hvalue
  cases hvalue
  exact absurd hpositive (not_lt.mpr hle)

/-- The required windows reach every threshold the fractions reach. -/
theorem Comparable.backs {w : Platform} {o : CapacityObservationV1} {p : CapacityPolicyV1}
    {decisionAt : Instant} {minimum threshold : Rat} (ho : o.Sound w)
    (h : Comparable o p decisionAt) (hunits : o.UnitsReach p)
    (hminimum : minimumRemaining o = some minimum) (hmem : threshold ∈ p.thresholds)
    (hle : threshold ≤ minimum) : o.Backs p decisionAt threshold := by
  refine ⟨h.observed, h.expires, h.resets, h.source, h.confidence, h.present, ?_⟩
  obtain ⟨⟨least, hleast, hvalue⟩, hfractions⟩ := minimumRemaining_eq_some.mp hminimum
  intro window hwindow hrequired
  cases hfraction : window.remainingFraction with
  | some value =>
    exact ⟨value, by simp [CapacityWindow.remaining, hfraction],
      hle.trans (hfractions window hwindow value hfraction)⟩
  | none =>
    obtain ⟨units, hmeasured⟩ := CapacityWindow.measured (ho.windows window hwindow) hfraction
    refine ⟨_, CapacityWindow.remaining_units hfraction hmeasured, ?_⟩
    refine hunits threshold hmem ⟨least, hleast, by simp [hvalue]⟩ ?_ window hwindow hrequired
      hfraction units hmeasured
    exact fun other hother value hother_value =>
      hle.trans (hfractions other hother value hother_value)

/-- A decision that compares fractions is bounded by the required windows exactly when
those that report units only keep up with the fractions. -/
theorem decideCapacity_bounded_iff {w : Platform} {o : CapacityObservationV1}
    {p : CapacityPolicyV1} (ho : o.validate w = .ok ()) (hp : p.validate w = .ok ())
    (decisionAt : Instant) :
    (∀ d, decideCapacity w o p decisionAt = .ok d → d.Bounded o p decisionAt) ↔
      (Comparable o p decisionAt → o.UnitsReach p) := by
  have hpolicy := CapacityPolicyV1.sound hp
  constructor
  · intro hbounded hcomparable threshold hmem hfraction hreached window hwindow hrequired hnone
      units hunits
    obtain ⟨minimum, hminimum⟩ := exists_minimumRemaining hfraction
    obtain ⟨⟨least, hleast, hvalue⟩, -⟩ := minimumRemaining_eq_some.mp hminimum
    have hle : threshold ≤ minimum := hreached least hleast minimum hvalue
    obtain ⟨d, hd⟩ := exists_decideCapacity ho hp decisionAt
    have hof := decideCapacity_eq_ok hd
    have hstate : d.state = level p minimum := by
      rw [hof.state, hcomparable.decideState hminimum]
    obtain ⟨highest, hhighest⟩ := exists_threshold_level hpolicy hmem hle
    obtain ⟨-, -, htop⟩ := threshold_level hpolicy hhighest
    rw [← hstate] at hhighest
    obtain ⟨value, hremaining, hleft⟩ :=
      ((hbounded d hd).backed highest hhighest).left window hwindow hrequired
    rw [CapacityWindow.remaining_units hnone hunits] at hremaining
    cases hremaining
    exact (htop threshold hmem hle).trans hleft
  · intro hunits d hd
    have hof := decideCapacity_eq_ok hd
    refine hof.bounded ?_
    intro threshold hthreshold
    have hstate := hof.state
    have hdecided := decided o p decisionAt
    generalize decideState o p decisionAt = branch at hdecided hstate
    cases hdecided with
    | unknown => simp [hstate, CapacityPolicyV1.threshold] at hthreshold
    | refused => simp [hstate, CapacityPolicyV1.threshold] at hthreshold
    | missing => simp [hstate, CapacityPolicyV1.threshold] at hthreshold
    | measured hcomparable minimum hminimum =>
      rw [hstate] at hthreshold
      obtain ⟨hmem, hle, -⟩ := threshold_level hpolicy hthreshold
      exact hcomparable.backs hof.observation (hunits hcomparable) hminimum hmem hle

namespace Bench

/-- Three quarters of the week are left, and none of the five hours. -/
def exhaustedObservation : CapacityObservationV1 :=
  { capacityObservation with
    windows := [⟨"week", .weekly, some (3 / 4), none, none⟩,
      ⟨"hours", .fiveHour, none, some ⟨0, 100, "requests"⟩, none⟩] }

/-- Both windows are required. -/
def bothWindowsPolicy : CapacityPolicyV1 :=
  { capacityPolicy with requiredWindowTypes := [.fiveHour, .weekly] }

end Bench

/-- The decision on the bench records is bounded. -/
theorem decideCapacity_bounded_iff_bench :
    (∀ d, decideCapacity benchPlatform Bench.capacityObservation Bench.capacityPolicy 2 = .ok d →
      d.Bounded Bench.capacityObservation Bench.capacityPolicy 2) ↔
      (Comparable Bench.capacityObservation Bench.capacityPolicy 2 →
        Bench.capacityObservation.UnitsReach Bench.capacityPolicy) :=
  decideCapacity_bounded_iff (w := benchPlatform) (by decide +kernel) (by decide +kernel) 2

/-- Ordinary work is admitted on a required window with no unit left. -/
theorem decideCapacity_exhausted_units :
    Bench.exhaustedObservation.validate benchPlatform = .ok () ∧
      Bench.bothWindowsPolicy.validate benchPlatform = .ok () ∧
      ¬ ∀ d, decideCapacity benchPlatform Bench.exhaustedObservation Bench.bothWindowsPolicy 2 =
        .ok d → d.Bounded Bench.exhaustedObservation Bench.bothWindowsPolicy 2 := by
  refine ⟨by decide +kernel, by decide +kernel, ?_⟩
  intro hbounded
  have hrun : (decideCapacity benchPlatform Bench.exhaustedObservation Bench.bothWindowsPolicy
      2).toOption.any (fun d => d.admission == .ordinaryBounded) = true := by decide +kernel
  simp only [Option.any_eq_true, toOption_eq_some, beq_iff_eq] at hrun
  obtain ⟨d, hd, hordinary⟩ := hrun
  refine (hbounded d hd).ordinary hordinary _ (List.mem_cons_of_mem _ List.mem_cons_self) ?_ ?_
  · simp [Bench.bothWindowsPolicy]
  · simp [CapacityWindow.remaining]

end Nightshift
