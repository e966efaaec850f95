import Nightshift.OperationalLineage

/-!
The NQ qualification artifact: the findings of one input, the closed grammar of
refusal details, and the contradiction graph derived from the supported claims.
-/

namespace Nightshift

open Checked

namespace OperationalLineage

variable (w : LineagePlatform)

/-- `str::split_once` on characters. -/
def splitOnceAt (separator : List Char) : List Char → Option (List Char × List Char)
  | [] => if separator.isEmpty then some ([], []) else none
  | c :: rest =>
    if separator.isPrefixOf (c :: rest) then some ([], (c :: rest).drop separator.length)
    else (splitOnceAt separator rest).map fun parts => (c :: parts.1, parts.2)

def splitOnce (separator value : String) : Option (String × String) :=
  (splitOnceAt separator.toList value.toList).map fun parts =>
    (String.ofList parts.1, String.ofList parts.2)

/-- `str::rsplit_once`: the first match of the reversed text. -/
def rsplitOnce (separator value : String) : Option (String × String) :=
  (splitOnceAt separator.toList.reverse value.toList.reverse).map fun parts =>
    (String.ofList parts.2.reverse, String.ofList parts.1.reverse)

/-- The canonical decimal text of a `usize` within the bounds. -/
def coordinate (value : String) (allowZero : Bool) (maximum : Option Nat) : Bool :=
  value.toNat?.any fun number =>
    number < 2 ^ 64 && (allowZero || number > 0) && maximum.all (number ≤ ·) &&
      value == toString number

def nqSerdeJsonMessages : List String :=
  ["EOF while parsing a list", "EOF while parsing an object", "EOF while parsing a string",
    "EOF while parsing a value",
    "control character (\\u0000-\\u001F) found while parsing a string",
    "expected `,` or `]`", "expected `,` or `\x7d`", "expected `:`", "expected `\"`",
    "expected ident", "expected value", "invalid escape", "invalid number",
    "number out of range", "invalid unicode code point", "key must be a string",
    "lone leading surrogate in hex escape", "recursion limit exceeded", "trailing comma",
    "trailing characters", "unexpected end of hex escape"]

def nqSerdeJsonErrorDetail (detail : String) (maximumLine maximumColumn : Option Nat) : Bool :=
  (rsplitOnce " at line " detail).any fun head =>
    (splitOnce " column " head.2).any fun position =>
      coordinate position.1 false maximumLine && coordinate position.2 true maximumColumn &&
        nqSerdeJsonMessages.contains head.1

def fieldForm (detail : String) (fields suffixes : List String) : Bool :=
  fields.any fun field => suffixes.any fun suffix => detail == field ++ suffix

def timestampFields : List String :=
  ["locator observation time", "acquisition start", "acquisition end",
    "producer observation time"]

def nqTimestampErrorDetail (detail : String) : Bool :=
  fieldForm detail timestampFields
    [": input contains invalid characters", ": input is out of range",
      ": premature end of input", ": trailing input"]

/-- The arm of the refusal-detail law for one unopened code. -/
def nqUnopenedRefusalDetail (code detail : String) : Bool :=
  let exact (values : List String) := values.contains detail
  match code with
  | "record_oversized" => exact ["signed Monitor record exceeds one MiB"]
  | "record_malformed" | "body_malformed" =>
    nqSerdeJsonErrorDetail detail (some (maxRawBytes + 1)) (some maxRawBytes)
  | "payload_malformed" => nqSerdeJsonErrorDetail detail none none
  | "field_missing" =>
    ["body", "producer", "subject"].any fun field => detail == "missing exact field " ++ field
  | "field_malformed" =>
    ["body", "producer", "subject"].any fun field =>
      detail == "field " ++ field ++ " object is unterminated"
  | "closed_schema_violation" => exact ["JSON object keys differ from closed contract"]
  | "field_type" =>
    fieldForm detail
      ["producer", "subject", "acquisition", "lineage", "coverage", "stable_basis", "payload"]
      [" is not an object"] ||
    fieldForm detail
      ["schema", "kind", "value", "observed_at", "namespace", "basis_contract", "basis_type",
        "machine_identity", "service_identity", "instance_identity", "deployment_identity",
        "release_identity", "repository_identity", "revision_identity", "scheduler_identity",
        "job_identity", "design_identity", "toolchain_identity", "pdk_identity",
        "entitlement_identity", "worker_identity", "artifact_set_identity", "run_identity",
        "stage_occurrence_identity", "attempt_id", "started_at", "ended_at", "outcome",
        "diagnostic_code", "epoch", "payload_schema", "media_type", "digest_domain", "digest",
        "principal_id", "collector_id", "key_algorithm", "public_key_hex", "public_key_digest",
        "producer_class", "signer_key_identity_digest", "signature_domain", "signature_hex"]
      [" is not a string"] ||
    fieldForm detail
      ["locators", "attachments", "expected_dimensions", "observed_dimensions",
        "omitted_dimensions"] [" is not an array"] ||
    fieldForm detail ["expected_dimensions", "observed_dimensions", "omitted_dimensions"]
      [" contains a non-string"] ||
    exact ["raw basis digest is not a string"] ||
    ["body", "producer", "subject"].any fun field =>
      detail == "field " ++ field ++ " is not an object"
  | "object_expected" => exact ["JSON value is not an object"]
  | "schema_unknown" => exact ["Monitor operational schema is unsupported"]
  | "authority_present" => exact ["Monitor testimony cannot grant authority"]
  | "invalid_text" =>
    fieldForm detail
      (["subject namespace", "locator value", "acquisition attempt", "acquisition diagnostic",
        "observation epoch", "payload schema", "content media type", "producer principal",
        "collector identity", "producer class", "expected coverage", "observed coverage",
        "omitted coverage"] ++ timestampFields) [" is invalid"]
  | "invalid_token" =>
    fieldForm detail
      ["subject namespace", "acquisition attempt", "acquisition diagnostic", "observation epoch",
        "payload schema", "content media type", "producer principal", "collector identity",
        "producer class", "expected coverage", "observed coverage", "omitted coverage"]
      [" contains whitespace"]
  | "subject_kind_unknown" => exact ["Monitor subject kind is outside the closed contract"]
  | "unsupported_subject_basis_contract" =>
    exact ["subject stable-basis contract is not the family-owned v1 contract"]
  | "subject_basis_kind_mismatch" => exact ["subject kind and stable-basis contract differ"]
  | "invalid_collection" =>
    exact ["locators is oversized", "attachments is oversized",
      "expected coverage is empty or oversized", "observed coverage is empty or oversized",
      "omitted coverage is empty or oversized"]
  | "noncanonical_collection" =>
    exact ["expected coverage must be sorted and unique",
      "observed coverage must be sorted and unique",
      "omitted coverage must be sorted and unique"]
  | "locator_kind_unknown" => exact ["locator kind is unsupported"]
  | "timestamp_noncanonical" =>
    fieldForm detail timestampFields [" is not canonical UTC RFC3339"]
  | "timestamp_invalid" => nqTimestampErrorDetail detail
  | "digest_invalid" =>
    fieldForm detail
      ["raw acquisition basis", "predecessor observation", "stable subject basis",
        "content digest"]
      [" lacks sha256 prefix", " is not a canonical nonzero sha256 digest"]
  | "timestamp_inversion" => exact ["acquisition end precedes start"]
  | "acquisition_outcome_unknown" =>
    exact ["Monitor acquisition outcome is outside the closed contract"]
  | "lineage_invalid" =>
    exact ["observation sequence is not unsigned",
      "sequence and predecessor observation are inconsistent"]
  | "coverage_invalid" => exact ["coverage is inconsistent with its exact denominator"]
  | "coverage_incomplete" =>
    exact ["every expected dimension must be observed or explicitly omitted"]
  | "content_length_invalid" => exact ["content byte length is absent or zero"]
  | "observation_time_missing" => exact ["produced observation lacks producer time"]
  | "observation_time_inversion" =>
    exact ["producer observation time falls outside acquisition"]
  | "failure_as_world_claim" =>
    exact ["failed acquisition carries world testimony or observed coverage",
      "failed acquisition carries payload testimony"]
  | "key_algorithm_unknown" => exact ["producer key algorithm is unsupported"]
  | "public_key_malformed" =>
    exact ["producer public key is not exact lowercase hex", "public key length is invalid",
      "Cannot decompress Edwards point"]
  | "producer_key_mismatch" => exact ["producer public key identity is invalid"]
  | "signer_identity_mismatch" => exact ["signature does not bind exact producer principal"]
  | "signature_domain_mismatch" => exact ["signature domain is unsupported"]
  | "signature_malformed" =>
    exact ["signature is not exact lowercase hex", "signature length is invalid"]
  | "signature_invalid" => exact ["strict Ed25519 verification failed"]
  | "payload_digest_law_unknown" =>
    exact ["content digest domain is unsupported", "payload digest domain is unsupported"]
  | "payload_missing" =>
    exact ["produced observation lacks payload custody", "exact payload bytes were not supplied"]
  | "payload_substitution" => exact ["payload bytes do not match exact Monitor custody"]
  | _ => false

def validateNqUnopenedRefusalDetail (code detail : String) : Except String Unit :=
  refuseIf (!nqUnopenedRefusalDetail code detail)
    "NQ unopened refusal detail differs from pinned reopen law"

/-- The exact detail of a refusal made after the record was reopened. -/
def reopenedRefusalDetail : String → Option String
  | "receiver_custody_inversion" =>
    some "receiver custody precedes completion of the signed acquisition"
  | "evaluation_time_inversion" => some "NQ evaluation precedes receiver custody"
  | "subject_identity_mismatch" => some "subject is outside the exact qualification profile"
  | "producer_identity_mismatch" => some "producer is outside the exact qualification profile"
  | "payload_custody_missing" => some "produced observation lacks reopened payload bytes"
  | _ => none

/-- The members of the reopened Monitor identity tuple that are present. -/
def reopened (input : NqInputV1) : List Bool :=
  [input.monitorRecordDigest.isSome, input.subjectIdentityDigest.isSome,
    input.producerIdentityDigest.isSome, input.producerPrincipalId.isSome,
    input.producerClass.isSome, input.acquisitionOutcome.isSome]

def nqInputIsReopened (input : NqInputV1) : Bool := (reopened input).all id

def fieldOutcomes : List String :=
  ["observation_produced", "no_response", "command_failed", "producer_unavailable",
    "receiver_unavailable", "malformed_input", "refused"]

def validateOutcome (input : NqInputV1) : Except String Unit :=
  match input.acquisitionOutcome with
  | some value => do
    refuseIf (!fieldOutcomes.contains value) "NQ acquisition outcome is outside FIELD"
    if value == "observation_produced" then
      refuseIf (input.producerObservedAt.isNone || input.payloadSchema.isNone)
        "NQ produced input lacks producer time or payload schema"
    else
      refuseIf (input.producerObservedAt.isSome || input.payloadSchema.isSome)
        "NQ failed input carries produced testimony metadata"
  | none =>
    refuseIf (input.producerObservedAt.isSome || input.payloadSchema.isSome)
      "NQ unopened input carries Monitor testimony metadata"

def checkSupport (input : NqInputV1) (seen : List String) (claim : ClaimSupportV1) :
    Except String (List String) := do
  token "claim_id" claim.claimId
  text "proposition" claim.proposition
  digest "value_digest" claim.valueDigest
  let expectedMonitor ←
    okOr input.monitorRecordDigest "claim support lacks a Monitor record identity"
  refuseIf (claim.monitorRecordDigest != expectedMonitor || seen.contains claim.claimId)
    "NQ claim support binding or identity is invalid"
  .ok (claim.claimId :: seen)

def checkCannotTestify (supportIds seen : List String) (finding : CannotTestifyV1) :
    Except String (List String) := do
  token "cannot_testify.claim_id" finding.claimId
  text "cannot_testify.reason" finding.reason
  refuseIf (supportIds.contains finding.claimId || seen.contains finding.claimId)
    "NQ cannot-testify overlaps or duplicates claim support"
  .ok (finding.claimId :: seen)

def checkRefusal (input : NqInputV1) (refusal : RefusalV1) : Except String Unit := do
  token "refusal.code" refusal.code
  text "refusal.detail" refusal.detail
  digest "refusal.exact_basis_digest" refusal.exactBasisDigest
  refuseIf (refusal.exactBasisDigest != input.rawRecordDigest)
    "NQ refusal does not bind exact input bytes"

def checkRefusalBranch (isReopened : Bool) (refusal : RefusalV1) : Except String Unit := do
  let admitted := if isReopened then nqReopenedRefusalCodes else nqUnopenedRefusalCodes
  refuseIf (!admitted.contains refusal.code)
    "NQ refusal code does not match its reopened/unopened branch"
  refuseIf ((reopenedRefusalDetail refusal.code).any (refusal.detail != ·))
    "NQ reopened refusal detail differs from qualify_one"
  if isReopened then .ok () else validateNqUnopenedRefusalDetail refusal.code refusal.detail

/-- The findings an input may carry, by whether it was reopened and refused. -/
def checkFindingShape (input : NqInputV1) : Except String Unit :=
  match nqInputIsReopened input, input.refusals.isEmpty with
  | false, false =>
    refuseIf (!input.claimSupport.isEmpty || !input.cannotTestify.isEmpty)
      "NQ unopened refusal carries qualification findings"
  | false, true => .error "NQ unopened input lacks its exact refusal"
  | true, false =>
    refuseIf (!input.claimSupport.isEmpty || !input.cannotTestify.isEmpty)
      "NQ refusal is mixed with support or cannot-testify"
  | true, true => do
    refuseIf (input.claimSupport.isEmpty && input.cannotTestify.isEmpty)
      "NQ non-refused input has no qualification finding"
    refuseIf (input.acquisitionOutcome != some "observation_produced" &&
      (!input.claimSupport.isEmpty || input.cannotTestify.isEmpty))
      "NQ failed acquisition has an impossible finding shape"
    match input.acquisitionOutcome.filter (· != "observation_produced") with
    | none => .ok ()
    | some outcome =>
      refuseIf (input.cannotTestify.any fun finding =>
          finding.reason != "Monitor acquisition outcome " ++ outcome ++
            " produced no world testimony")
        "NQ failed-acquisition cannot-testify reason differs from qualify_one"

def validateNqFindings (input : NqInputV1) (evaluatedAt : Instant) : Except String Unit := do
  refuseIf (input.claimSupport.length > maxCollection ||
    input.cannotTestify.length > maxCollection || input.refusals.length > 1)
    "NQ input finding collection or refusal count is invalid"
  present (digest "monitor_record_digest") input.monitorRecordDigest
  present (digest "subject_identity_digest") input.subjectIdentityDigest
  present (digest "producer_identity_digest") input.producerIdentityDigest
  present (token "producer_principal_id") input.producerPrincipalId
  present (token "producer_class") input.producerClass
  present (token "payload_schema") input.payloadSchema
  refuseIf ((reopened input).any id && !(reopened input).all id)
    "NQ reopened Monitor identity tuple is partial"
  validateOutcome input
  let supportIds ← input.claimSupport.foldlM (checkSupport input) []
  let _ ← input.cannotTestify.foldlM (checkCannotTestify supportIds) []
  forEach input.refusals (checkRefusal input)
  match input.refusals.head? with
  | none => .ok ()
  | some refusal => checkRefusalBranch (nqInputIsReopened input) refusal
  refuseIf (nqInputIsReopened input && (decide (evaluatedAt < input.receiverCustodyAt) !=
      input.refusals.head?.any (·.code == "evaluation_time_inversion")))
    "NQ evaluation/receiver time ordering does not match qualify_one refusal"
  checkFindingShape input

def claimDomain (input : NqInputV1) : List String :=
  input.claimSupport.map (·.claimId) ++ input.cannotTestify.map (·.claimId)

/-- Every reopened and not refused input speaks of one and the same claim domain. -/
def checkClaimDomain (domain : Option (List String)) (input : NqInputV1) :
    Except String (Option (List String)) :=
  if nqInputIsReopened input && input.refusals.isEmpty then
    match domain with
    | some expected => do
      refuseIf (!sameMembers expected (claimDomain input))
        "NQ non-refused inputs differ from the complete ordered claim domain"
      .ok domain
    | none => .ok (some (claimDomain input))
  else .ok domain

def claimValueIs (input : NqInputV1) (claimId valueDigest : String) : Bool :=
  input.claimSupport.any fun claim => claim.claimId == claimId && claim.valueDigest == valueDigest

abbrev SeenClaims := List ((String × String) × (String × String))

/-- One supported claim against the first value seen for its subject and id. -/
def contradictionStep (input : NqInputV1) (subject : String)
    (acc : SeenClaims × List ContradictionV1) (claim : ClaimSupportV1) :
    SeenClaims × List ContradictionV1 :=
  match acc.1.lookup (subject, claim.claimId) with
  | some (priorInput, priorValue) =>
    if priorValue != claim.valueDigest then
      (acc.1, acc.2 ++ [{
        subjectIdentityDigest := subject
        claimId := claim.claimId
        firstInputId := priorInput
        firstValueDigest := priorValue
        secondInputId := input.inputId
        secondValueDigest := claim.valueDigest }])
    else acc
  | none => (((subject, claim.claimId), (input.inputId, claim.valueDigest)) :: acc.1, acc.2)

def expectedNqContradictions (inputs : List NqInputV1) : List ContradictionV1 :=
  (inputs.foldl (fun acc input =>
    match input.subjectIdentityDigest with
    | none => acc
    | some subject => input.claimSupport.foldl (contradictionStep input subject) acc)
    (([], []) : SeenClaims × List ContradictionV1)).2

abbrev ContradictionId := String × String × String × String

def checkContradiction (inputs : List NqInputV1) (seen : List ContradictionId)
    (item : ContradictionV1) : Except String (List ContradictionId) := do
  token "contradiction.claim_id" item.claimId
  digest "contradiction.subject" item.subjectIdentityDigest
  digest "contradiction.first_value" item.firstValueDigest
  digest "contradiction.second_value" item.secondValueDigest
  let key := (item.subjectIdentityDigest, item.claimId, item.firstInputId, item.secondInputId)
  refuseIf (item.firstInputId == item.secondInputId ||
    item.firstValueDigest == item.secondValueDigest || seen.contains key)
    "NQ contradiction identity or values are invalid"
  let first ← okOr (inputs.find? (·.inputId == item.firstInputId))
    "contradiction first input is unknown"
  let second ← okOr (inputs.find? (·.inputId == item.secondInputId))
    "contradiction second input is unknown"
  refuseIf (first.subjectIdentityDigest != some item.subjectIdentityDigest ||
    second.subjectIdentityDigest != some item.subjectIdentityDigest ||
    !claimValueIs first item.claimId item.firstValueDigest ||
    !claimValueIs second item.claimId item.secondValueDigest)
    "NQ contradiction does not bind exact input claim values"
  .ok (key :: seen)

def checkInput (evaluatedAt : Instant) (seen : List String) (input : NqInputV1) :
    Except String (List String) := do
  token "input_id" input.inputId
  digest "raw_record_digest" input.rawRecordDigest
  refuseIf (seen.contains input.inputId) "duplicate NQ input"
  validateNqFindings input evaluatedAt
  .ok (input.inputId :: seen)

def validateNq (value : NqArtifactV1) : Except String Unit := do
  refuseIf (value.schema != nqOperationalQualificationSchemaV1 ||
    value.monitorContractHead != fieldClockMonitorResultHead)
    "NQ schema or Monitor result pin mismatch"
  token "profile_id" value.profileId
  refuseIf (value.inputs.isEmpty || value.inputs.length > maxCollection) "NQ input count invalid"
  let _ ← value.inputs.foldlM (checkInput value.evaluatedAt) []
  let _ ← value.inputs.foldlM checkClaimDomain none
  let _ ← value.contradictions.foldlM (checkContradiction value.inputs) []
  refuseIf (value.contradictions != expectedNqContradictions value.inputs)
    "NQ contradiction graph differs from qualify_one closure"
  refuseIf (value.nonclaims != nqNonclaims) "NQ operational nonclaims changed"

/-- The selected input speaks of exactly this Monitor record. -/
def bindInput (input : NqInputV1) (raw bodyBytes : Bytes) (monitor : SignedMonitorV1) :
    Except String Unit := do
  let body := monitor.body
  let observation := monitorObservationDigest w bodyBytes
  refuseIf (input.rawRecordDigest != w.sha256 raw ||
    input.monitorRecordDigest != some observation ||
    input.subjectIdentityDigest != some (monitorSubjectDigest w body.subject) ||
    input.producerIdentityDigest != some (monitorProducerDigest w body.producer) ||
    input.producerPrincipalId != some body.producer.principalId ||
    input.producerClass != some body.producer.producerClass ||
    input.acquisitionOutcome != some body.acquisition.outcome.text ||
    input.payloadSchema != body.payloadSchema)
    "NQ input does not bind exact Monitor semantics"
  let observed ← (match body.producerObservedAt with
    | none => .ok none
    | some value => some <$> time w "producer_observed_at" value : Except String (Option Instant))
  refuseIf (input.producerObservedAt != observed) "NQ producer time differs from Monitor"
  let acquisitionEnded ← time w "acquisition_ended_at" body.acquisition.endedAt
  refuseIf (decide (input.receiverCustodyAt < acquisitionEnded) !=
      input.refusals.head?.any (·.code == "receiver_custody_inversion"))
    "NQ receiver/acquisition time ordering does not match qualify_one refusal"
  forEach input.claimSupport fun claim => do
    token "claim_id" claim.claimId
    text "proposition" claim.proposition
    digest "value_digest" claim.valueDigest
    refuseIf (claim.monitorRecordDigest != observation)
      "claim support names another Monitor record"
  forEach input.refusals fun refusal => do
    token "refusal.code" refusal.code
    digest "refusal.basis" refusal.exactBasisDigest
    refuseIf (refusal.exactBasisDigest != input.rawRecordDigest)
      "refusal basis differs from Monitor bytes"

end OperationalLineage

end Nightshift
