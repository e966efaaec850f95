import Mathlib.Algebra.Order.Ring.Rat
import Nightshift.Platform

/-!
# Provider capacity

The capacity owner's records and its deterministic decision. An observation
states what remains of a provider's windows, a policy states what may be
admitted on how much, and a decision is a function of the two and of one
instant.
-/

namespace Nightshift

open Checked

def capacityObservationSchemaV1 : String := "nightshift.provider-capacity-observation/v1"
def capacityPolicySchemaV1 : String := "nightshift.provider-capacity-policy/v1"
def capacityDecisionSchemaV1 : String := "nightshift.provider-capacity-decision/v1"

/-- `CapacityError::Invalid`; serialising a record to canonical bytes does not fail. -/
structure CapacityError where
  message : String
  deriving DecidableEq, Repr

namespace CapacityError

/-- The `Display` text. -/
def display (error : CapacityError) : String := "invalid capacity record: " ++ error.message

end CapacityError

def Confidence.rank : Confidence → Nat
  | unknown => 0
  | low => 1
  | medium => 2
  | high => 3

namespace WindowType

def rank : WindowType → Nat
  | fiveHour => 0
  | weekly => 1
  | providerDefined => 2

/-- `window_type_token` -/
def token : WindowType → String
  | fiveHour => "FIVE_HOUR"
  | weekly => "WEEKLY"
  | providerDefined => "PROVIDER_DEFINED"

end WindowType

/-- The upper-case name of a capacity state. -/
def CapacityState.token : CapacityState → String
  | abundant => "ABUNDANT"
  | normal => "NORMAL"
  | conserve => "CONSERVE"
  | critical => "CRITICAL"
  | unknown => "UNKNOWN"

namespace ProviderCapacity

def nonempty (field value : String) : Except CapacityError Unit :=
  refuseIf (isBlank value) ⟨field ++ " must not be empty"⟩

def checkDigest (actual expected kind : String) : Except CapacityError Unit :=
  refuseIf (actual != expected) ⟨kind ++ " digest mismatch: expected " ++ expected⟩

def isReasonToken (value : String) : Bool :=
  match utf8 value with
  | [] => false
  | first :: rest => isAsciiUppercase first &&
      rest.all fun byte => isAsciiUppercase byte || isAsciiDigit byte || isOneOf "_" byte

def isSha256Digest (value : String) : Bool :=
  byteLength value == 71 && (stripPrefix "sha256:" value).any fun hex => hex.all isLowerHexdigit

/-- `(0.0..=1.0).contains` -/
def isFraction (value : Rat) : Bool := 0 ≤ value && value ≤ 1

/-- `windows(2).any(|pair| pair[0] >= pair[1])` on the order of the types. -/
def unorderedTypes : List WindowType → Bool
  | a :: b :: rest => b.rank ≤ a.rank || unorderedTypes (b :: rest)
  | _ => false

end ProviderCapacity

open ProviderCapacity

namespace CapacityWindow

def validate (window : CapacityWindow) : Except CapacityError Unit := do
  nonempty "window_id" window.windowId
  refuseIf (window.remainingFraction.any fun value => !isFraction value)
    ⟨"remaining_fraction must be finite and within zero and one"⟩
  match window.remainingUnits with
  | some units => do
    refuseIf (units.maximum == 0 || units.remaining > units.maximum)
      ⟨"remaining units exceed a nonzero maximum"⟩
    nonempty "unit" units.unit
  | none => .ok ()
  refuseIf (window.remainingFraction.isNone && window.remainingUnits.isNone)
    ⟨"window has no bounded remaining measure"⟩

end CapacityWindow

namespace CapacityObservationV1

def computeDigest (w : Platform) (o : CapacityObservationV1) : String :=
  w.digestWithout "nightshift.provider-capacity-observation.digest/v1\x00" "observation_digest"
    (.capacityObservation { o with observationDigest := "" })

def validate (w : Platform) (o : CapacityObservationV1) : Except CapacityError Unit := do
  refuseIf (o.schema != capacityObservationSchemaV1) ⟨"unknown observation schema"⟩
  nonempty "provider_id" o.providerId
  nonempty "account_profile_locator" o.accountProfileLocator
  refuseIf (o.expiresAt ≤ o.observedAt) ⟨"expires_at must follow observed_at"⟩
  match o.disposition with
  | .usable =>
    refuseIf (o.windows.isEmpty || !o.unknownReasons.isEmpty)
      ⟨"usable observation needs windows and no unknown reasons"⟩
  | .unknown => refuseIf o.unknownReasons.isEmpty ⟨"unknown observation needs a reason"⟩
  nonempty "probe_id" o.evidence.probeId
  nonempty "protocol_method" o.evidence.protocolMethod
  refuseIf (!isSha256Digest o.evidence.rawSourceDigest)
    ⟨"raw source digest must be an exact SHA-256 digest"⟩
  refuseIf (o.disposition == .usable && (o.evidence.protocolVersion.isNone ||
      o.evidence.executablePath.isNone || o.evidence.executableDigest.isNone))
    ⟨"usable observation requires verified executable and protocol identity"⟩
  match o.evidence.protocolVersion with
  | some version => nonempty "protocol_version" version
  | none => .ok ()
  refuseIf (o.evidence.executablePath.any fun path => !(utf8 "/").isPrefixOf (utf8 path))
    ⟨"executable_path must be absolute"⟩
  refuseIf (o.evidence.executableDigest.any fun digest => !isSha256Digest digest)
    ⟨"executable_digest must be an exact SHA-256 digest"⟩
  forEach o.windows CapacityWindow.validate
  checkDigest o.observationDigest (o.computeDigest w) "observation"

end CapacityObservationV1

namespace CapacityPolicyV1

def computeDigest (w : Platform) (p : CapacityPolicyV1) : String :=
  w.digestWithout "nightshift.provider-capacity-policy.digest/v1\x00" "policy_digest"
    (.capacityPolicy { p with policyDigest := "" })

def validate (w : Platform) (p : CapacityPolicyV1) : Except CapacityError Unit := do
  refuseIf (p.schema != capacityPolicySchemaV1) ⟨"unknown policy schema"⟩
  nonempty "policy_id" p.policyId
  refuseIf (!isFraction p.abundantMinRemaining || !isFraction p.conserveMinRemaining ||
      p.abundantMinRemaining ≤ p.normalMinRemaining ||
      p.normalMinRemaining ≤ p.conserveMinRemaining)
    ⟨"policy thresholds must descend within zero and one"⟩
  refuseIf p.requiredWindowTypes.isEmpty
    ⟨"policy must declare at least one required window type"⟩
  refuseIf (unorderedTypes p.requiredWindowTypes)
    ⟨"required window types must be unique and in canonical order"⟩
  checkDigest p.policyDigest (p.computeDigest w) "policy"

end CapacityPolicyV1

namespace CapacityDecisionV1

def computeDigest (w : Platform) (d : CapacityDecisionV1) : String :=
  w.digestWithout "nightshift.provider-capacity-decision.digest/v1\x00" "decision_digest"
    (.capacityDecision { d with decisionDigest := "" })

/-- `fields_match_state` -/
def fieldsMatchState (d : CapacityDecisionV1) : Bool :=
  match d.state with
  | .abundant => d.admission == .ordinaryBounded && d.allowNewExpensiveWork &&
      d.allowNewSpeculativeWork
  | .normal => d.admission == .ordinaryBounded && d.allowNewExpensiveWork &&
      !d.allowNewSpeculativeWork
  | .conserve => d.admission == .cheapBoundedOnly && !d.allowNewExpensiveWork &&
      !d.allowNewSpeculativeWork
  | .critical => d.admission == .noNewWork && !d.allowNewExpensiveWork &&
      !d.allowNewSpeculativeWork
  | .unknown => (d.admission == .cheapBoundedOnly || d.admission == .noNewWork) &&
      !d.allowNewExpensiveWork && !d.allowNewSpeculativeWork

def validate (w : Platform) (d : CapacityDecisionV1) : Except CapacityError Unit := do
  refuseIf (d.schema != capacityDecisionSchemaV1) ⟨"unknown decision schema"⟩
  nonempty "provider_id" d.providerId
  refuseIf (d.reasonCodes.isEmpty || d.reasonCodes.any fun reason => !isReasonToken reason)
    ⟨"decision reason codes must be nonempty closed tokens"⟩
  refuseIf (d.reasonCodes.dedup.length != d.reasonCodes.length)
    ⟨"decision reason codes must be unique"⟩
  refuseIf (!isSha256Digest d.observationDigest || !isSha256Digest d.policyDigest)
    ⟨"decision must bind exact SHA-256 observation and policy digests"⟩
  refuseIf (!d.allowActiveWorkToReachCustody) ⟨"active work must remain able to reach custody"⟩
  refuseIf (!d.fieldsMatchState) ⟨"decision admission fields contradict capacity state"⟩
  checkDigest d.decisionDigest (d.computeDigest w) "decision"

end CapacityDecisionV1

namespace ProviderCapacity

/-- The required window types that the observation does not measure. -/
def missingWindowReasons (observation : CapacityObservationV1) (policy : CapacityPolicyV1) :
    List String :=
  (policy.requiredWindowTypes.filter fun required =>
    !observation.windows.any fun window => window.windowType == required).map fun windowType =>
      "REQUIRED_WINDOW_MISSING_" ++ windowType.token

/-- `reduce(f64::min)` over the measured fractions. -/
def minimumRemaining (observation : CapacityObservationV1) : Option Rat :=
  (observation.windows.filterMap (·.remainingFraction)).min?

/-- The state of a decision with the reasons collected on the way to it. -/
def decideState (observation : CapacityObservationV1) (policy : CapacityPolicyV1)
    (decisionAt : Instant) : List String × CapacityState :=
  let missing := missingWindowReasons observation policy
  if observation.disposition == .unknown then (observation.unknownReasons ++ missing, .unknown)
  else if decisionAt < observation.observedAt then (["DECISION_PRECEDES_OBSERVATION"], .unknown)
  else if decisionAt ≥ observation.expiresAt then (["OBSERVATION_STALE"], .unknown)
  else if observation.windows.any fun window => window.resetsAt.any fun reset => decisionAt ≥ reset
    then (["RESET_ROLLOVER_REQUIRES_NEW_OBSERVATION"], .unknown)
  else if observation.sourceClass == .unknown ||
      observation.confidence.rank < policy.minimumConfidence.rank
    then (["SOURCE_OR_CONFIDENCE_INSUFFICIENT"], .unknown)
  else if !missing.isEmpty then (missing, .unknown)
  else
    match minimumRemaining observation with
    | none => (["NO_FRACTIONAL_CAPACITY_MEASURE"], .unknown)
    | some value =>
      if value ≥ policy.abundantMinRemaining then ([], .abundant)
      else if value ≥ policy.normalMinRemaining then ([], .normal)
      else if value ≥ policy.conserveMinRemaining then ([], .conserve)
      else ([], .critical)

/-- What a state admits: the disposition, new expensive work, new speculative work. -/
def decideAdmission (policy : CapacityPolicyV1) :
    CapacityState → CapacityAdmissionDisposition × Bool × Bool
  | .abundant => (.ordinaryBounded, true, true)
  | .normal => (.ordinaryBounded, true, false)
  | .conserve => (.cheapBoundedOnly, false, false)
  | .critical => (.noNewWork, false, false)
  | .unknown =>
    if policy.unknownAllowsNewCheapWork then (.cheapBoundedOnly, false, false)
    else (.noNewWork, false, false)

end ProviderCapacity

/-- `decide_capacity` -/
def decideCapacity (w : Platform) (observation : CapacityObservationV1)
    (policy : CapacityPolicyV1) (decisionAt : Instant) :
    Except CapacityError CapacityDecisionV1 := do
  observation.validate w
  policy.validate w
  let (reasons, state) := decideState observation policy decisionAt
  let (admission, expensive, speculative) := decideAdmission policy state
  let decision : CapacityDecisionV1 :=
    { schema := capacityDecisionSchemaV1
      providerId := observation.providerId
      decisionAt := decisionAt
      state := state
      admission := admission
      allowNewExpensiveWork := expensive
      allowNewSpeculativeWork := speculative
      allowActiveWorkToReachCustody := true
      reasonCodes :=
        if reasons.isEmpty then ["MINIMUM_REMAINING_WINDOW_" ++ state.token] else reasons
      observationDigest := observation.observationDigest
      policyDigest := policy.policyDigest
      decisionDigest := "" }
  .ok { decision with decisionDigest := decision.computeDigest w }

end Nightshift
