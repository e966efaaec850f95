import Nightshift.OperationalChain

/-!
A small instance of the lineage platform, with sixteen digests, unary times and
two signed records of one lane, for concrete runs of the lineage law.
-/

namespace Nightshift

open OperationalLineage

namespace OperationalBench

def hexDigits : List Char :=
  ['0', '1', '2', '3', '4', '5', '6', '7', '8', '9', 'a', 'b', 'c', 'd', 'e', 'f']

def digestOf (n : Fin 16) : String :=
  "sha256:" ++ String.ofList (List.replicate 64 (hexDigits.getD n.val '0'))

theorem isDigest_digestOf : ∀ n : Fin 16, isDigest (digestOf n) = true := by decide +kernel

def checksum (bytes : Bytes) : Fin 16 :=
  Fin.ofNat 16 (bytes.foldl (fun acc b => (acc * 31 + b.toNat + 1) % 65521) 7 / 7)

def sha256 (bytes : Bytes) : String := digestOf (checksum bytes)

/-- A sign, one mark for each nanosecond, and the zone. -/
def timeChars : Instant → List Char
  | .ofNat n => '+' :: List.replicate n 'i'
  | .negSucc n => '-' :: List.replicate n 'i'

def canonicalTime (at_ : Instant) : String := String.ofList (timeChars at_ ++ ['Z'])

def parseTime (value : String) : Option Instant :=
  match value.toList with
  | '+' :: rest => some (.ofNat (rest.count 'i'))
  | '-' :: rest => some (.negSucc (rest.count 'i'))
  | _ => none

theorem canonicalTime_utc (at_ : Instant) :
    (utf8 (canonicalTime at_)).getLast? = some 0x5a := by
  have hz : "Z".toByteArray.data.back? = some 0x5a := by decide +kernel
  simp [utf8, canonicalTime, hz]

theorem parse_canonicalTime (at_ : Instant) : parseTime (canonicalTime at_) = some at_ := by
  cases at_ with
  | ofNat n => simp [parseTime, canonicalTime, timeChars]
  | negSucc n => simp [parseTime, canonicalTime, timeChars]

/-- The text of a lowercase hexadecimal value of the given bytes. -/
def zeros (bytes : Nat) : String := String.ofList (List.replicate (2 * bytes) '0')

def subject : OperationalSubjectV1 where
  kind := .worker
  namespace_ := "bench"
  basisContract := "monitor.subject-basis.worker-registry/v1"
  stableBasis := .worker (digestOf 0)

def producer : ProducerPrincipalV1 where
  principalId := "principal"
  collectorId := "collector"
  keyAlgorithm := "ed25519"
  publicKeyHex := zeros 32
  publicKeyDigest := digestOf 2
  producerClass := "agent"

/-- One JSON object with the exact member `body`. -/
def monitorBytes (sequence : Nat) : Bytes :=
  utf8 ("\x7b\"body\":\x7b" ++ toString sequence ++ "\x7d\x7d")

def bodyBytes (sequence : Nat) : Bytes := utf8 ("\x7b" ++ toString sequence ++ "\x7d")

def monitor (sequence : Nat) (predecessor : Option String) : SignedMonitorV1 where
  body := {
    schema := monitorOperationalSchemaV1
    producer := producer
    subject := subject
    locators := []
    acquisition := ⟨"attempt", canonicalTime 1, canonicalTime 1, .noResponse, "code", none⟩
    lineage := ⟨"epoch", sequence, predecessor⟩
    producerObservedAt := none
    payloadSchema := none
    payload := none
    attachments := []
    coverage := ⟨["dimension"], [], ["dimension"]⟩
    grantsAuthority := false }
  signatureDomain := monitorSignatureDomainV1
  signerKeyIdentityDigest := digestOf 4
  signatureHex := zeros 64

def nqBytes (sequence : Nat) : Bytes := utf8 (toString sequence ++ "nq")

def nqInput (rawDigest observation : String) : NqInputV1 where
  inputId := "input"
  rawRecordDigest := rawDigest
  monitorRecordDigest := some observation
  subjectIdentityDigest := some (digestOf 12)
  producerIdentityDigest := some (digestOf 4)
  producerPrincipalId := some "principal"
  producerClass := some "agent"
  acquisitionOutcome := some "no_response"
  producerObservedAt := none
  receiverCustodyAt := 2
  payloadSchema := none
  claimSupport := []
  cannotTestify := [⟨"claim",
    "Monitor acquisition outcome no_response produced no world testimony"⟩]
  refusals := []

def nq (rawDigest observation : String) : NqArtifactV1 where
  schema := nqOperationalQualificationSchemaV1
  profileId := "profile"
  monitorContractHead := fieldClockMonitorResultHead
  evaluatedAt := 2
  inputs := [nqInput rawDigest observation]
  contradictions := []
  nonclaims := nqNonclaims

def sequenceTag (r : OperationalObservationLineageV1) : UInt8 := UInt8.ofNat r.sequence

def opened : Reopened :=
  ⟨bodyBytes 0, monitor 0 none, nq (digestOf 5) (digestOf 15), nqInput (digestOf 5) (digestOf 15)⟩

/-- The same record, received before its acquisition ended. -/
def invertedInput : NqInputV1 :=
  { nqInput (digestOf 5) (digestOf 15) with
    receiverCustodyAt := 0
    cannotTestify := []
    refusals := [⟨"receiver_custody_inversion", digestOf 5,
      "receiver custody precedes completion of the signed acquisition"⟩] }

def inverted : Reopened :=
  { opened with
    nq := { nq (digestOf 5) (digestOf 15) with inputs := [invertedInput] }
    input := invertedInput }

end OperationalBench

open OperationalBench in
def lineageBench : LineagePlatform where
  sha256 := sha256
  sha256_isDigest bytes := isDigest_digestOf (checksum bytes)
  parseMonitor bytes :=
    if bytes = monitorBytes 0 then .ok (monitor 0 none)
    else if bytes = monitorBytes 1 then .ok (monitor 1 (some (digestOf 15)))
    else if bytes = monitorBytes 2 then .ok (monitor 0 none)
    else .error "expected value"
  parseNq bytes :=
    if bytes = nqBytes 0 then .ok (nq (digestOf 5) (digestOf 15))
    else if bytes = nqBytes 1 then .ok (nq (digestOf 14) (digestOf 3))
    else if bytes = nqBytes 2 then .ok (nq (digestOf 7) (digestOf 7))
    else .error "expected value"
  parseName bytes := if bytes = utf8 "\"body\"" then .ok "body" else .error "expected value"
  nextValue bytes := some (.ok ((bytes.takeWhile (· != 0x7d)).length + 1))
  subjectJson _ := [2]
  producerJson _ := [3]
  nqCanonical artifact := artifact.inputs.flatMap fun input => utf8 input.rawRecordDigest
  lineageCanonical r := [sequenceTag r]
  parseTime := parseTime
  canonicalTime := canonicalTime
  canonicalTime_utc := canonicalTime_utc
  parse_canonicalTime := parse_canonicalTime
  isVerifyingKey _ := true
  verifyStrict _ _ _ := true

namespace OperationalBench

def submission (n : Nat) : Submission := ⟨monitorBytes n, nqBytes n, "input", 3⟩

/-- The record the first submission leaves. -/
def firstRecord : OperationalObservationLineageV1 :=
  (submission 0).record lineageBench
    ⟨bodyBytes 0, monitor 0 none, nq (digestOf 5) (digestOf 15),
      nqInput (digestOf 5) (digestOf 15)⟩

/-- The lineage law on two submissions of one lane: the first one is replayed
at a later time, and another record at its coordinate is refused. -/
theorem operational_lineage_chain_two :
    Submission.call lineageBench { submission 0 with admittedAt := 9 }
        (historyOf lineageBench [submission 0, submission 1]) = .ok (firstRecord, .exactReplay) ∧
      ∃ refusal, (submission 2).call lineageBench
        (historyOf lineageBench [submission 0, submission 1]) = .error refusal := by
  obtain ⟨-, -, -, hreplay, hrefused⟩ :=
    operational_lineage_chain lineageBench [submission 0, submission 1]
  constructor
  · refine hreplay (by decide +kernel) [] (submission 0) [submission 1] firstRecord rfl
      (by decide +kernel) 9 ?_
    intro artifact hartifact
    have hparse : lineageBench.parseNq (submission 0).nqBytes =
        .ok (nq (digestOf 5) (digestOf 15)) := by decide +kernel
    rw [← Except.ok.inj (hparse.symm.trans hartifact)]
    decide
  · refine hrefused (submission 2) (monitor 0 none) ?_ (by decide +kernel) (Or.inl ?_)
    · intro t ht
      rcases List.mem_cons.mp ht with rfl | ht
      · exact ⟨by decide +kernel, by decide +kernel⟩
      · rw [List.mem_singleton.mp ht]
        exact ⟨by decide +kernel, by decide +kernel⟩
    · have hother : (submission 2).monitorBytes ≠ (submission 0).monitorBytes := by
        decide +kernel
      refine ⟨submission 0, List.mem_cons_self, fun hsame => hother hsame.1,
        ⟨bodyBytes 0, monitor 0 none, nq (digestOf 5) (digestOf 15),
          nqInput (digestOf 5) (digestOf 15)⟩, ?_, ?_, ?_, rfl⟩
      · decide +kernel
      · decide +kernel
      · decide +kernel

end OperationalBench

end Nightshift
