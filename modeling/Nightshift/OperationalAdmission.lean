import Nightshift.Lib.Chain
import Nightshift.OperationalQualification

/-!
# Admission of operational lineage

One call reopens a Monitor record and an NQ qualification, builds the lineage
record of the two and admits it against the retained history. Over any run of
such calls the records of one subject, producer and epoch form a gap-free
chain, a repeated call returns the record it first retained, and a fork or a
missing predecessor is refused.
-/

namespace Nightshift

open Checked

namespace OperationalLineage

variable (w : LineagePlatform)

def isJsonSpace (b : UInt8) : Bool := b == 0x20 || b == 0x0a || b == 0x0d || b == 0x09

def skipWs (bytes : Bytes) : Bytes := bytes.dropWhile isJsonSpace

/-- The bytes up to and with the closing quote, and the rest. -/
def stringEndFrom (escaped : Bool) : Bytes → Option (Bytes × Bytes)
  | [] => none
  | b :: rest =>
    if !escaped && b == 0x22 then some ([b], rest)
    else (stringEndFrom (!escaped && b == 0x5c) rest).map fun parts => (b :: parts.1, parts.2)

def stringEnd : Bytes → Except String (Bytes × Bytes)
  | 0x22 :: rest =>
    (okOr (stringEndFrom false rest) "unterminated JSON object member name").map fun parts =>
      (0x22 :: parts.1, parts.2)
  | _ => .error "JSON object member name is not a string"

/-- What the member loop leaves: the value found and the bytes behind the
closing brace. Each turn takes at least one quoted name from the bytes, so
their number bounds the turns. -/
def extractMembers (key : String) : Nat → Option Bytes → Bytes →
    Except String (Option Bytes × Bytes)
  | 0, _, _ => .error "JSON object member name is not a string"
  | turns + 1, found, bytes =>
    match skipWs bytes with
    | 0x7d :: rest => .ok (found, rest)
    | cursor => do
      let (quoted, rest) ← stringEnd cursor
      let name ← mapErr ("JSON object member name: " ++ ·) (w.parseName quoted)
      match skipWs rest with
      | 0x3a :: rest => do
        let value := skipWs rest
        let parsed ← okOr (w.nextValue value) "JSON object member lacks value"
        let length ← mapErr ("JSON object member value: " ++ ·) parsed
        let found ← (if name == key then do
            refuseIf found.isSome ("duplicate exact object field " ++ key)
            refuseIf (value.head? != some 0x7b) ("exact field " ++ key ++ " is not an object")
            .ok (some (value.take length))
          else .ok found : Except String (Option Bytes))
        match skipWs (value.drop length) with
        | 0x2c :: rest => extractMembers key turns found rest
        | 0x7d :: rest => .ok (found, rest)
        | _ => .error "JSON object member lacks comma or closing brace"
      | _ => .error "JSON object member lacks colon"

/-- The exact bytes of one object member of a JSON object. -/
def extractObjectField (bytes : Bytes) (key : String) : Except String Bytes :=
  match skipWs bytes with
  | 0x7b :: rest => do
    let (found, rest) ← extractMembers w key bytes.length none rest
    refuseIf (!(skipWs rest).isEmpty) "trailing bytes after exact artifact object"
    okOr found ("missing exact object field " ++ key)
  | _ => .error "exact artifact root is not an object"

end OperationalLineage

open OperationalLineage

namespace OperationalObservationLineageV1

def computedLineageId (w : LineagePlatform) (r : OperationalObservationLineageV1) : String :=
  w.sha256 (w.lineageCanonical { r with lineageId := "" })

def findings (r : OperationalObservationLineageV1) : Except String Unit := do
  refuseIf (r.claimSupport.length > maxCollection || r.cannotTestify.length > maxCollection ||
    r.refusals.length > maxCollection || r.contradictions.length > maxCollection)
    "finding collection exceeds bound"
  let _ ← r.claimSupport.foldlM (fun (claims : List String) item => do
    token "claim_id" item.claimId
    digest "value_digest" item.valueDigest
    refuseIf (item.monitorRecordDigest != r.monitorCustody.semanticDigest ||
      claims.contains item.claimId) "claim binding or uniqueness invalid"
    .ok (item.claimId :: claims)) []
  forEach r.cannotTestify fun item => do
    token "cannot_testify.claim_id" item.claimId
    text "cannot_testify.reason" item.reason
  forEach r.refusals fun item => do
    token "refusal.code" item.code
    digest "refusal.basis" item.exactBasisDigest
    text "refusal.detail" item.detail
  refuseIf (r.contradictions.any (·.subjectIdentityDigest != r.subjectIdentityDigest))
    "contradiction names another subject"

/-- The checks before the five times are read. -/
def validateIdentity (w : LineagePlatform) (r : OperationalObservationLineageV1) :
    Except String Unit := do
  refuseIf (r.schema != operationalLineageSchemaV1 ||
    r.monitorResultHead != fieldClockMonitorResultHead ||
    r.nqResultHead != fieldClockNqResultHead) "lineage schema or FIELD result-head pin mismatch"
  digest "lineage_id" r.lineageId
  custody r.monitorCustody
  custody r.nqCustody
  r.subject.validate
  OperationalLineage.producer w r.producer
  digest "subject_identity_digest" r.subjectIdentityDigest
  digest "producer_identity_digest" r.producerIdentityDigest
  refuseIf (r.subjectIdentityDigest != monitorSubjectDigest w r.subject ||
    r.producerIdentityDigest != monitorProducerDigest w r.producer)
    "embedded operational subject or producer identity mismatch"
  token "nq_profile_id" r.nqProfileId
  token "nq_input_id" r.nqInputId
  token "epoch" r.epoch
  lineageShape "predecessor_observation_digest" "sequence and predecessor are inconsistent"
    r.sequence r.predecessorObservationDigest

def validateOutcome (w : LineagePlatform) (r : OperationalObservationLineageV1)
    (start finish : Instant) : Except String Unit :=
  match r.acquisitionOutcome with
  | .observationProduced => do
    let producerTime ← okOr r.producerObservedAt "produced observation lacks producer time"
    let observed ← time w "producer_observed_at" producerTime
    refuseIf (observed < start || observed > finish || r.payloadSchema.isNone)
      "produced observation time or payload schema is invalid"
  | _ =>
    refuseIf (r.producerObservedAt.isSome || r.payloadSchema.isSome || !r.claimSupport.isEmpty)
      "failed acquisition was promoted into world testimony"

def validate (w : LineagePlatform) (r : OperationalObservationLineageV1) :
    Except String Unit := do
  r.validateIdentity w
  let start ← time w "acquisition_started_at" r.acquisitionStartedAt
  let finish ← time w "acquisition_ended_at" r.acquisitionEndedAt
  let receiver ← time w "receiver_custody_at" r.receiverCustodyAt
  let nq ← time w "nq_qualified_at" r.nqQualifiedAt
  let admitted ← time w "nightshift_admitted_at" r.nightshiftAdmittedAt
  refuseIf (start > finish || receiver < finish || nq < receiver || admitted < nq)
    "operational lineage time ordering is invalid"
  r.validateOutcome w start finish
  r.findings
  refuseIf (r.nonclaims != OperationalLineage.nonclaims) "lineage nonclaims changed"
  refuseIf (r.lineageId != r.computedLineageId w) "lineage identity mismatch"

/-- The two artifacts and the selected input a record was made from. -/
def custodies (r : OperationalObservationLineageV1) :
    ExactArtifactCustodyV1 × ExactArtifactCustodyV1 × String :=
  (r.monitorCustody, r.nqCustody, r.nqInputId)

/-- Subject, producer and epoch. -/
def lane (r : OperationalObservationLineageV1) : String × String × String :=
  (r.subjectIdentityDigest, r.producerIdentityDigest, r.epoch)

end OperationalObservationLineageV1

namespace OperationalLineage

variable (w : LineagePlatform)

def artifactCustody (bytes : Bytes) (semanticDigest : String) : ExactArtifactCustodyV1 where
  rawBytesSha256 := w.sha256 bytes
  rawBytesLength := bytes.length
  semanticDigest := semanticDigest

/-- The lineage record before its identity is computed. -/
def draft (monitorBytes nqBytes bodyBytes : Bytes) (monitor : SignedMonitorV1)
    (nq : NqArtifactV1) (input : NqInputV1) (admittedAt : Instant) :
    OperationalObservationLineageV1 where
  schema := operationalLineageSchemaV1
  lineageId := ""
  monitorResultHead := fieldClockMonitorResultHead
  nqResultHead := fieldClockNqResultHead
  monitorCustody := artifactCustody w monitorBytes (monitorObservationDigest w bodyBytes)
  nqCustody := artifactCustody w nqBytes (w.sha256 (w.nqCanonical nq))
  nqProfileId := nq.profileId
  nqInputId := input.inputId
  subject := monitor.body.subject
  subjectIdentityDigest := monitorSubjectDigest w monitor.body.subject
  producer := monitor.body.producer
  producerIdentityDigest := monitorProducerDigest w monitor.body.producer
  acquisitionOutcome := monitor.body.acquisition.outcome
  acquisitionStartedAt := monitor.body.acquisition.startedAt
  acquisitionEndedAt := monitor.body.acquisition.endedAt
  producerObservedAt := monitor.body.producerObservedAt
  receiverCustodyAt := w.canonicalTime input.receiverCustodyAt
  nqQualifiedAt := w.canonicalTime nq.evaluatedAt
  nightshiftAdmittedAt := w.canonicalTime admittedAt
  epoch := monitor.body.lineage.epoch
  sequence := monitor.body.lineage.sequence
  predecessorObservationDigest := monitor.body.lineage.predecessorObservationDigest
  payloadSchema := monitor.body.payloadSchema
  claimSupport := input.claimSupport
  cannotTestify := input.cannotTestify
  refusals := input.refusals
  contradictions := nq.contradictions.filter
    (·.subjectIdentityDigest == monitorSubjectDigest w monitor.body.subject)
  nonclaims := nonclaims

/-- The two artifacts reopened, with the input selected. -/
structure Reopened where
  bodyBytes : Bytes
  monitor : SignedMonitorV1
  nq : NqArtifactV1
  input : NqInputV1
  deriving DecidableEq

def reopen (monitorBytes nqBytes : Bytes) (nqInputId : String) : Except String Reopened := do
  let monitor ← mapErr ("Monitor bytes: " ++ ·) (w.parseMonitor monitorBytes)
  let bodyBytes ← extractObjectField w monitorBytes "body"
  validateMonitor w monitor bodyBytes
  let nq ← mapErr ("NQ bytes: " ++ ·) (w.parseNq nqBytes)
  validateNq nq
  let input ← okOr (nq.inputs.find? (·.inputId == nqInputId)) "selected NQ input is absent"
  bindInput w input monitorBytes bodyBytes monitor
  .ok ⟨bodyBytes, monitor, nq, input⟩

/-- The sealed lineage record of reopened artifacts. -/
def sealedDraft (monitorBytes nqBytes : Bytes) (o : Reopened) (admittedAt : Instant) :
    OperationalObservationLineageV1 :=
  let record := draft w monitorBytes nqBytes o.bodyBytes o.monitor o.nq o.input admittedAt
  { record with lineageId := record.computedLineageId w }

/-- `u64::checked_add` -/
def checkedAdd (a b : Nat) : Option Nat := if a + b < 2 ^ 64 then some (a + b) else none

/-- The scan of the history: a replay ends it with the retained record, a fork
with a refusal. -/
def scanHistory (candidate : OperationalObservationLineageV1) :
    List OperationalObservationLineageV1 →
      Except String (Option OperationalObservationLineageV1)
  | [] => .ok none
  | value :: rest => do
    value.validate w
    if value.custodies == candidate.custodies then .ok (some value)
    else do
      refuseIf (value.lane == candidate.lane && value.sequence == candidate.sequence)
        "operational lineage fork refused"
      scanHistory candidate rest

def checkPredecessor (history : List OperationalObservationLineageV1)
    (candidate : OperationalObservationLineageV1) : Except String Unit :=
  if candidate.sequence > 0 then do
    let predecessor ← okOr (history.find? fun value =>
        value.lane == candidate.lane && checkedAdd value.sequence 1 == some candidate.sequence)
      "operational lineage predecessor is absent"
    refuseIf (candidate.predecessorObservationDigest !=
        some predecessor.monitorCustody.semanticDigest)
      "operational lineage predecessor binding mismatch"
  else .ok ()

def admitHistory (history : List OperationalObservationLineageV1)
    (candidate : OperationalObservationLineageV1) :
    Except String (OperationalObservationLineageV1 × AdmissionDispositionV1) := do
  match ← scanHistory w candidate history with
  | some value => .ok (value, .exactReplay)
  | none => do
    checkPredecessor history candidate
    .ok (candidate, .admitted)

def checkSourceBytes (monitorBytes nqBytes : Bytes) : Except String Unit :=
  refuseIf (monitorBytes.isEmpty || nqBytes.isEmpty || monitorBytes.length > maxRawBytes ||
    nqBytes.length > maxRawBytes) "source bytes are empty or exceed one MiB"

def admitOperationalLineage (monitorBytes nqBytes : Bytes) (nqInputId : String)
    (admittedAt : Instant) (history : List OperationalObservationLineageV1) :
    Except String (OperationalObservationLineageV1 × AdmissionDispositionV1) := do
  checkSourceBytes monitorBytes nqBytes
  refuseIf (history.length > maxCollection) "lineage history exceeds its bound"
  let opened ← reopen w monitorBytes nqBytes nqInputId
  let record := sealedDraft w monitorBytes nqBytes opened admittedAt
  record.validate w
  admitHistory w history record

end OperationalLineage

end Nightshift
