import Nightshift.OperationalLineageRecords
import Nightshift.Lib.Checked

/-!
# Operational lineage contracts

The closed readers of a signed Monitor record and of an NQ qualification, and
the validator of the lineage record. Every check keeps the place it has in the
source, so the first refusal is the source's. A JSON reader, a serialiser, the
RFC 3339 texts, SHA-256 and Ed25519 are parameters; of them only two facts are
used, that a digest text is well formed and that an instant survives its text.
-/

namespace Nightshift

open Checked

namespace OperationalLineage

def operationalLineageSchemaV1 : String := "nightshift.operational-observation-lineage/v1"
def monitorOperationalSchemaV1 : String := "monitor.operational-acquisition/v1"
def nqOperationalQualificationSchemaV1 : String := "nq.operational-observation-qualification/v1"
def fieldClockMonitorResultHead : String := "b2d52fe34f146774cbf5601819982c267c7fb082"
def fieldClockNqResultHead : String := "39b9f84f2f70955dd12e5cbfe798c740f9e52854"
def monitorSignatureDomainV1 : String := "monitor.operational-observation.v1"
def monitorContentDigestDomainV1 : String := "operational.content.v1"
def maxCollection : Nat := 64
def monitorMaxCollection : Nat := 32
def monitorMaxTextBytes : Nat := 512
def maxRawBytes : Nat := 1024 * 1024

def nonclaims : List String :=
  ["lineage is temporal custody, not claim qualification",
    "currentness is not standing, authorization, or permission to act",
    "producer class does not establish evidentiary precedence",
    "re-observation may acquire testimony but cannot remediate a target"]

def nqNonclaims : List String :=
  ["NQ qualification grants no authorization or remediation",
    "NQ qualification does not establish Nightshift temporal currentness",
    "producer class alone grants no evidentiary precedence"]

def nqReopenedRefusalCodes : List String :=
  ["receiver_custody_inversion", "evaluation_time_inversion", "subject_identity_mismatch",
    "producer_identity_mismatch", "payload_custody_missing"]

def nqUnopenedRefusalCodes : List String :=
  ["record_oversized", "record_malformed", "field_malformed", "closed_schema_violation",
    "field_missing", "field_type", "object_expected", "body_malformed", "schema_unknown",
    "authority_present", "invalid_token", "invalid_text", "subject_kind_unknown",
    "unsupported_subject_basis_contract", "subject_basis_kind_mismatch", "invalid_collection",
    "noncanonical_collection", "locator_kind_unknown", "timestamp_invalid",
    "timestamp_noncanonical", "digest_invalid", "timestamp_inversion",
    "acquisition_outcome_unknown", "lineage_invalid", "coverage_invalid", "coverage_incomplete",
    "content_length_invalid", "observation_time_missing", "observation_time_inversion",
    "failure_as_world_claim", "key_algorithm_unknown", "public_key_malformed",
    "producer_key_mismatch", "signer_identity_mismatch", "signature_domain_mismatch",
    "signature_malformed", "signature_invalid", "payload_digest_law_unknown", "payload_missing",
    "payload_malformed", "payload_substitution"]

def isDigest (value : String) : Bool :=
  (stripPrefix "sha256:" value).any fun hex => hex.length == 64 && hex.all isLowerHexdigit

def digest (name value : String) : Except String Unit :=
  match stripPrefix "sha256:" value with
  | none => .error (name ++ " is not SHA-256")
  | some hex =>
    refuseIf (hex.length != 64 || !hex.all isLowerHexdigit)
      (name ++ " is not exact lowercase SHA-256")

/-- Not empty, within the bound, ASCII and without control characters. -/
def isPrintableWithin (bound : Nat) (value : String) : Bool :=
  !value.isEmpty && byteLength value ≤ bound && (utf8 value).all (· < 0x80) &&
    !value.toList.any isControl

def hasWhitespace (value : String) : Bool := value.toList.any isWhiteSpace

def text (name value : String) : Except String Unit :=
  refuseIf (!isPrintableWithin 1024 value)
    (name ++ " is empty, oversized, non-ASCII, or contains controls")

def token (name value : String) : Except String Unit := do
  text name value
  refuseIf (hasWhitespace value) (name ++ " contains whitespace")

def monitorText (name value : String) : Except String Unit :=
  refuseIf (!isPrintableWithin monitorMaxTextBytes value)
    (name ++ " is empty, exceeds 512 bytes, is non-ASCII, or contains controls")

def monitorToken (name value : String) : Except String Unit := do
  monitorText name value
  refuseIf (hasWhitespace value) (name ++ " contains whitespace")

/-- `windows(2).any(|pair| pair[0] >= pair[1])` -/
def unordered : List String → Bool
  | a :: b :: rest => compare a b != .lt || unordered (b :: rest)
  | _ => false

def monitorOrdered (name : String) (values : List String) (allowEmpty : Bool) :
    Except String Unit := do
  refuseIf ((!allowEmpty && values.isEmpty) || values.length > monitorMaxCollection ||
    unordered values) (name ++ " is empty, exceeds 32 items, unsorted, or duplicated")
  forEach values (monitorToken name)

/-- The value of two lowercase hexadecimal digits. -/
def hexPair (high low : UInt8) : UInt8 :=
  let nibble (b : UInt8) := if isAsciiDigit b then b - 0x30 else b - 0x57
  nibble high * 16 + nibble low

/-- `hex::decode` of an even number of lowercase digits. -/
def hexDecode : Bytes → Bytes
  | high :: low :: rest => hexPair high low :: hexDecode rest
  | _ => []

def lowerHex (value : String) (bytes : Nat) (name : String) : Except String Bytes := do
  refuseIf (byteLength value != bytes * 2 || !(utf8 value).all isLowerHexdigit)
    (name ++ " is not exact lowercase hex")
  .ok (hexDecode (utf8 value))

/-- `to_be_bytes` of a `width`-byte integer. -/
def bigEndian : Nat → Nat → Bytes
  | 0, _ => []
  | width + 1, n => bigEndian width (n / 256) ++ [UInt8.ofNat n]

end OperationalLineage

open OperationalLineage

/-- What the module calls and does not define. -/
structure LineagePlatform where
  /-- `format!("sha256:{:x}", Sha256::digest(bytes))` -/
  sha256 : Bytes → String
  sha256_isDigest : ∀ bytes, isDigest (sha256 bytes) = true
  /-- `serde_json::from_slice` of the two artifacts. -/
  parseMonitor : Bytes → Except String SignedMonitorV1
  parseNq : Bytes → Except String NqArtifactV1
  /-- `serde_json::from_slice` of one quoted member name. -/
  parseName : Bytes → Except String String
  /-- The next value of `into_iter::<IgnoredAny>()`, as the offset behind it. -/
  nextValue : Bytes → Option (Except String Nat)
  /-- `serde_json::to_vec` -/
  subjectJson : OperationalSubjectV1 → Bytes
  producerJson : ProducerPrincipalV1 → Bytes
  /-- `serde_jcs::to_vec` -/
  nqCanonical : NqArtifactV1 → Bytes
  /-- `serde_jcs::to_vec` after the member `lineage_id` was removed. -/
  lineageCanonical : OperationalObservationLineageV1 → Bytes
  /-- `str::parse::<DateTime<Utc>>` -/
  parseTime : String → Option Instant
  /-- `to_rfc3339_opts(SecondsFormat::AutoSi, true)` -/
  canonicalTime : Instant → String
  canonicalTime_utc : ∀ at_, (utf8 (canonicalTime at_)).getLast? = some 0x5a
  parse_canonicalTime : ∀ at_, parseTime (canonicalTime at_) = some at_
  /-- `VerifyingKey::from_bytes` succeeds. -/
  isVerifyingKey : Bytes → Bool
  /-- `verify_strict` of a key, a transcript and a signature. -/
  verifyStrict : Bytes → Bytes → Bytes → Bool

namespace OperationalLineage

variable (w : LineagePlatform)

def monitorDigest (domain : String) (parts : List Bytes) : String :=
  w.sha256 (utf8 "monitor-skunkworks.digest.v1\x00" ++ bigEndian 8 (byteLength domain) ++
    utf8 domain ++ parts.flatMap fun part => bigEndian 8 part.length ++ part)

def monitorSubjectDigest (subject : OperationalSubjectV1) : String :=
  monitorDigest w "operational.subject.v1" [w.subjectJson subject]

def monitorProducerDigest (producer : ProducerPrincipalV1) : String :=
  monitorDigest w "operational.producer-principal.v1" [w.producerJson producer]

def monitorObservationDigest (bodyBytes : Bytes) : String :=
  monitorDigest w "operational.acquisition-record.v1" [bodyBytes]

def signatureTranscript (body : Bytes) : Bytes :=
  bigEndian 2 (byteLength monitorSignatureDomainV1) ++ utf8 monitorSignatureDomainV1 ++
    bigEndian 8 body.length ++ body

def time (name value : String) : Except String Instant := do
  refuseIf ((utf8 value).getLast? != some 0x5a) (name ++ " is not canonical UTC RFC3339")
  okOr (w.parseTime value) (name ++ " is not RFC3339")

theorem time_canonicalTime (name : String) (at_ : Instant) :
    time w name (w.canonicalTime at_) = .ok at_ := by
  simp [time, refuseIf, okOr, w.canonicalTime_utc, w.parse_canonicalTime]

theorem digest_sha256 (name : String) (bytes : Bytes) : digest name (w.sha256 bytes) = .ok () := by
  have h := w.sha256_isDigest bytes
  unfold isDigest at h
  unfold digest
  cases hhex : stripPrefix "sha256:" (w.sha256 bytes) with
  | none => simp [hhex] at h
  | some hex =>
    simp only [hhex, Option.any_some, Bool.and_eq_true, beq_iff_eq] at h
    simp [h.1, h.2]

end OperationalLineage

namespace SubjectBasisV1

def validate (basis : SubjectBasisV1) (kind : SubjectKindV1) : Except String Unit := do
  let values ← (match kind, basis with
    | .host, .host x => .ok [x]
    | .serviceInstance, .serviceInstance x y => .ok [x, y]
    | .deploymentRelease, .deploymentRelease x y => .ok [x, y]
    | .repositoryRevision, .repositoryRevision x y => .ok [x, y]
    | .schedulerJob, .schedulerJob x y => .ok [x, y]
    | .ecadDesignRevision, .ecadDesignRevision x y => .ok [x, y]
    | .toolchain, .toolchain x => .ok [x]
    | .pdk, .pdk x => .ok [x]
    | .licenseEntitlement, .licenseEntitlement x => .ok [x]
    | .worker, .worker x => .ok [x]
    | .artifactSet, .artifactSet x => .ok [x]
    | .stageOccurrence, .stageOccurrence x y => .ok [x, y]
    | _, _ => .error "subject kind and stable-basis family differ" : Except String (List String))
  forEach values (digest "stable_basis")

end SubjectBasisV1

def SubjectKindV1.basisContract : SubjectKindV1 → String
  | host => "monitor.subject-basis.host-machine/v1"
  | serviceInstance => "monitor.subject-basis.service-instance-registry/v1"
  | deploymentRelease => "monitor.subject-basis.deployment-release-content/v1"
  | repositoryRevision => "monitor.subject-basis.repository-revision-content/v1"
  | schedulerJob => "monitor.subject-basis.scheduler-job-occurrence/v1"
  | ecadDesignRevision => "monitor.subject-basis.ecad-design-revision-content/v1"
  | toolchain => "monitor.subject-basis.toolchain-content/v1"
  | pdk => "monitor.subject-basis.pdk-content/v1"
  | licenseEntitlement => "monitor.subject-basis.license-entitlement-registry/v1"
  | worker => "monitor.subject-basis.worker-registry/v1"
  | artifactSet => "monitor.subject-basis.artifact-set-content/v1"
  | stageOccurrence => "monitor.subject-basis.stage-occurrence/v1"

namespace OperationalSubjectV1

def validate (subject : OperationalSubjectV1) : Except String Unit := do
  monitorToken "subject.namespace" subject.namespace_
  refuseIf (subject.basisContract != subject.kind.basisContract)
    "unsupported subject basis contract"
  subject.stableBasis.validate subject.kind

end OperationalSubjectV1

namespace OperationalLineage

variable (w : LineagePlatform)

def producer (value : ProducerPrincipalV1) : Except String Unit := do
  monitorToken "principal_id" value.principalId
  monitorToken "collector_id" value.collectorId
  monitorToken "producer_class" value.producerClass
  refuseIf (value.keyAlgorithm != "ed25519") "unsupported producer key algorithm"
  let key ← lowerHex value.publicKeyHex 32 "public key"
  refuseIf (value.publicKeyDigest != monitorDigest w "operational.ed25519.public-key.v1" [key])
    "producer key digest mismatch"

def sameMembers (xs ys : List String) : Bool := xs.all ys.contains && ys.all xs.contains

def coverage (value : CoverageV1) : Except String Unit := do
  monitorOrdered "expected" value.expectedDimensions false
  monitorOrdered "observed" value.observedDimensions true
  monitorOrdered "omitted" value.omittedDimensions true
  refuseIf (value.observedDimensions.any value.omittedDimensions.contains ||
    !sameMembers value.expectedDimensions (value.observedDimensions ++ value.omittedDimensions))
    "coverage is not an exact disjoint partition"

def content (value : ContentV1) : Except String Unit := do
  monitorToken "media_type" value.mediaType
  refuseIf (value.digestDomain != monitorContentDigestDomainV1 || value.byteLength == 0)
    "content domain or length invalid"
  digest "content.digest" value.digest

def custody (value : ExactArtifactCustodyV1) : Except String Unit := do
  digest "raw_bytes_sha256" value.rawBytesSha256
  digest "semantic_digest" value.semanticDigest
  refuseIf (value.rawBytesLength == 0 || value.rawBytesLength > maxRawBytes)
    "custody length invalid"

/-- Sequence zero stands alone, every later one names a predecessor. -/
def lineageShape (name refusal : String) (sequence : Nat) (predecessor : Option String) :
    Except String Unit :=
  match sequence, predecessor with
  | 0, none => .ok ()
  | 0, some _ | _ + 1, none => .error refusal
  | _ + 1, some value => digest name value

def present (check : String → Except String Unit) : Option String → Except String Unit
  | none => .ok ()
  | some value => check value

def validateMonitor (value : SignedMonitorV1) (bodyBytes : Bytes) : Except String Unit := do
  let body := value.body
  refuseIf (body.schema != monitorOperationalSchemaV1 ||
    value.signatureDomain != monitorSignatureDomainV1 || body.grantsAuthority)
    "Monitor schema, signature domain, or authority boundary is invalid"
  body.subject.validate
  producer w body.producer
  refuseIf (value.signerKeyIdentityDigest != monitorProducerDigest w body.producer)
    "Monitor signer identity mismatch"
  monitorToken "attempt_id" body.acquisition.attemptId
  monitorToken "diagnostic_code" body.acquisition.diagnosticCode
  present (digest "raw_basis_digest") body.acquisition.rawBasisDigest
  let start ← time w "started_at" body.acquisition.startedAt
  let finish ← time w "ended_at" body.acquisition.endedAt
  refuseIf (start > finish) "Monitor acquisition time inversion"
  monitorToken "epoch" body.lineage.epoch
  lineageShape "predecessor" "Monitor lineage shape is invalid" body.lineage.sequence
    body.lineage.predecessorObservationDigest
  coverage body.coverage
  match body.acquisition.outcome with
  | .observationProduced => do
    let producerTime ← okOr body.producerObservedAt "produced record lacks observation time"
    let observed ← time w "producer_observed_at" producerTime
    refuseIf (observed < start || observed > finish) "producer time outside acquisition"
    let payloadSchema ← okOr body.payloadSchema "produced record lacks payload schema"
    monitorToken "payload_schema" payloadSchema
    let payload ← okOr body.payload "produced record lacks payload custody"
    content payload
  | _ =>
    refuseIf (body.producerObservedAt.isSome || body.payloadSchema.isSome ||
      body.payload.isSome || !body.coverage.observedDimensions.isEmpty)
      "failed acquisition carries world testimony"
  refuseIf (body.attachments.length > monitorMaxCollection ||
    body.locators.length > monitorMaxCollection) "Monitor locators or attachments exceed 32"
  forEach body.attachments content
  forEach body.locators fun item => do
    monitorText "locator.value" item.value
    let _ ← time w "locator.observed_at" item.observedAt
    .ok ()
  let key ← lowerHex body.producer.publicKeyHex 32 "public key"
  let signature ← lowerHex value.signatureHex 64 "signature"
  refuseIf (!w.isVerifyingKey key) "public key encoding"
  refuseIf (!w.verifyStrict key (signatureTranscript bodyBytes) signature)
    "strict Monitor Ed25519 verification failed"

end OperationalLineage

end Nightshift
