import Nightshift.CanonicalCycle
import Nightshift.RuntimeRecords

/-!
# Requests to AG and authoring handoffs

The exact request to open one occurrence, with the prepared form of it that the
store retains, and the authenticated handoff of an authoring context. A handoff
is custody and lineage only; no check of a request reads it.
-/

namespace Nightshift.Canonical

open Checked Diagnostic PresentEvidence

def agOpenRequestSchemaV1 : String := "nightshift.ag_open_occurrence_request.v1"
def exactWorkProposalSchemaV1 : String := "ag.governed-loop.exact-work-proposal/v1"
def authoringContextInputSchemaV1 : String := "nightshift.maude_authoring_context_input.v1"
def sessionCustodySchemaV1 : String := "maude.supervised_session_custody.v1"
def handoffSchemaV1 : String := "nightshift.maude_authoring_context_handoff.v1"
def sessionAuthDomain : String := "maude-supervised-session-custody/v1\x00"
def handoffAuthDomain : String := "nightshift-authoring-context-handoff/v1\x00"

/-- `Display` of a store error. -/
def CanonicalStoreError.display (w : RuntimePlatform) : CanonicalStoreError → String
  | sql cause => "canonical store SQL error: " ++ w.sqlMessage cause
  | json message => "canonical store JSON error: " ++ message
  | invalid message => "invalid canonical record: " ++ message
  | duplicateSlot slotId => "recurrence slot already has an authoritative attempt: " ++ slotId
  | duplicateAgOccurrence campaignId occurrenceId =>
    "AG campaign/occurrence is already bound to another observation cycle: " ++ campaignId ++ "/" ++
      occurrenceId
  | notDue slotId => "recurrence slot is not due: " ++ slotId
  | missed slotId => "recurrence slot is outside its latest-admissible instant: " ++ slotId
  | cycleNotFound cycleId => "observation cycle not found: " ++ cycleId
  | stalePredecessor => "stale predecessor digest"
  | illegalTransition message => "illegal observation-cycle transition: " ++ message
  | wrongLiveLease => "live cycle lease does not bind this cycle"
  | replay message => "deterministic replay failed: " ++ message
  | externalObservationConflict message =>
    "external observation conflicts with canonical custody: " ++ message

variable (w : RuntimePlatform)

/-! ## JSON documents -/

/-- `exact_object`: the keys of an object. -/
def exactObject (value : JsonValue) (name : String) : Except String (List String) :=
  okOr (w.objectKeys value) (name ++ " must be an exact JSON object")

/-- `exact_string` -/
def exactString (object : JsonValue) (field : String) : Except String String :=
  okOr ((w.member object field).bind w.asStr) (field ++ " must be a string")

/-- The keys of an object are exactly these, which are in order. -/
def keysAre (keys expected : List String) : Bool := (BTreeSet.collect keys).toList == expected

/-- The string at a path of two members. -/
def nestedString (value : JsonValue) (outer inner : String) : Option String :=
  (w.member value outer).bind fun object => (w.member object inner).bind w.asStr

/-! ## Opening an occurrence -/

namespace AgOpenModeV1

def isContinuation : AgOpenModeV1 → Bool
  | continuation _ => true
  | genesis _ => false

/-- The proposal class of the mode. -/
def expectedClass : AgOpenModeV1 → String
  | genesis _ => "initial"
  | continuation _ => "successor"

/-- The mode binds exactly the new occurrence. -/
def check (mode : AgOpenModeV1) (campaignId occurrenceId : String) : Except String Unit :=
  match mode with
  | genesis document => do
    let _ ← exactObject w document "genesis"
    let campaign ← exactString w document "campaign"
    let message := "AG genesis does not bind the exact new occurrence"
    refuseIf (campaign != campaignId) message
    let occurrence ← exactString w document "occurrence"
    refuseIf (occurrence != occurrenceId) message
  | continuation document => do
    let keys ← exactObject w document "continuation"
    let message := "AG continuation does not bind exactly one new occurrence and work"
    refuseIf (!keysAre keys ["expected_ag_work", "occurrence"]) message
    let occurrence ← exactString w document "occurrence"
    refuseIf (occurrence != occurrenceId) message
    let work ← exactString w document "expected_ag_work"
    requireDigest "continuation.expected_ag_work" work

def expectedWork (mode : AgOpenModeV1) : Except String String :=
  match mode with
  | genesis document => do
    let _ ← exactObject w document "genesis"
    exactString w document "expected_ag_work"
  | continuation document => do
    let _ ← exactObject w document "continuation"
    exactString w document "expected_ag_work"

end AgOpenModeV1

namespace AgOpenOccurrenceRequestV1

/-- The exact proposal binds campaign, subject and scope, each compared before the next is read. -/
def checkProposal (request : AgOpenOccurrenceRequestV1) (proposal : JsonValue) :
    Except String Unit := do
  let keys ← exactObject w proposal "proposal"
  refuseIf (!keysAre keys ["campaign", "repair", "schema", "scope", "subject", "work",
    "work_schema"]) "exact AG proposal has missing or unknown fields"
  forEach
    [("schema", exactWorkProposalSchemaV1), ("campaign", request.campaignId),
      ("subject", request.subjectDigest), ("scope", request.scopeDigest)]
    fun (field, expected) => do
      let value ← exactString w proposal field
      refuseIf (value != expected) "exact AG proposal does not bind campaign/subject/scope"
  let work ← exactString w proposal "work"
  requireDigest "proposal.work" work
  let workSchema ← exactString w proposal "work_schema"
  PresentEvidence.requireToken "proposal.work_schema" workSchema
  let expected ← request.mode.expectedWork w
  refuseIf (expected != work) "AG occurrence expected work differs from the exact proposal work"

def validate (request : AgOpenOccurrenceRequestV1) : Except String Unit := do
  refuseIf (request.schema != agOpenRequestSchemaV1)
    ("unsupported AG open request schema " ++ request.schema)
  forEach
    [("request_id", request.requestId), ("campaign_id", request.campaignId),
      ("subject_digest", request.subjectDigest), ("scope_digest", request.scopeDigest)]
    fun (name, value) => requireDigest name value
  refuseIf (!w.isUuid request.occurrenceId)
    "occurrence_id must be an independently allocated UUID"
  forEach
    [("source_observation_id", request.sourceObservationId),
      ("source_support_id", request.sourceSupportId),
      ("source_posture_id", request.sourcePostureId),
      ("source_intent_id", request.sourceIntentId)]
    fun (name, value) => requireDigest name value
  request.mode.check w request.campaignId request.occurrenceId
  let keys ← exactObject w request.proposalInput "proposal_input"
  refuseIf (!keysAre keys ["class", "observation", "proposal"])
    "proposal input must contain exactly observation, proposal, and class"
  let observation ← exactString w request.proposalInput "observation"
  requireDigest "proposal_input.observation" observation
  refuseIf (observation != request.sourceObservationId)
    "AG proposal substitutes a different observation basis"
  let class_ ← exactString w request.proposalInput "class"
  refuseIf (class_ != request.mode.expectedClass)
    "Nightshift recurrence may open only initial or ordinary successor work"
  let proposal ← okOr (w.member request.proposalInput "proposal") "proposal is missing"
  request.checkProposal w proposal
  refuseIf (request.requestId != w.sha256 (w.agRequestCanonical request))
    "request_id does not match the exact AG request preimage"

def sealRequest (request : AgOpenOccurrenceRequestV1) : Except String AgOpenOccurrenceRequestV1 := do
  let open_ := { request with schema := agOpenRequestSchemaV1, requestId := "" }
  let sealed := { open_ with requestId := w.sha256 (w.agRequestCanonical open_) }
  sealed.validate w
  .ok sealed

def validateFor (request : AgOpenOccurrenceRequestV1) (observation : ObservationRecordV1)
    (intent : TypedCoarseIntentV2) : Except String Unit := do
  request.validate w
  mapErr (·.display w) (intent.validateForObservation w.toCanonicalPlatform observation)
  refuseIf (request.subjectDigest != intent.subjectDigest ||
      request.scopeDigest != observation.posture.policy.subject.scope.digest ||
      request.sourceObservationId != observation.observationId ||
      request.sourceSupportId != observation.support.supportId ||
      request.sourcePostureId != observation.posture.postureId ||
      request.sourceIntentId != intent.intentId)
    "AG request does not bind the exact Nightshift basis"
  let _ ← exactObject w request.proposalInput "proposal_input"
  let work ← okOr (nestedString w request.proposalInput "proposal" "work")
    "exact proposal work must be a digest"
  refuseIf (work != intent.expectedAgWork)
    "AG request proposal work does not bind the intent's expected AG work"

/-- The form the store retains before AG is asked. -/
def prepared (request : AgOpenOccurrenceRequestV1) :
    Except CanonicalStoreError PreparedAgRequestV1 := do
  invalid (request.validate w)
  let exactRequest := w.agRequestValue request
  .ok
    { schema := preparedAgRequestSchemaV1
      requestDigest := w.sha256 exactRequest.canonical
      campaignId := request.campaignId
      occurrenceId := request.occurrenceId
      sourceIntentId := request.sourceIntentId
      exactRequest }

end AgOpenOccurrenceRequestV1

/-! ## Authoring handoffs -/

/-- `require_hmac` -/
def requireHmac (name value : String) : Except String Unit :=
  refuseIf (!((stripPrefix "hmac-sha256:" value).any fun hex =>
    hex.length == 64 && hex.all isLowerHexdigit))
    (name ++ " must use hmac-sha256:<64 lowercase hex>")

def HmacAuthenticationV1.validate (authentication : HmacAuthenticationV1)
    (expectedKeyId : String) : Except String Unit := do
  refuseIf (authentication.schema != hmacAuthSchemaV1)
    "unsupported Maude custody authentication schema"
  PresentEvidence.requireToken "custody authentication key_id" authentication.keyId
  refuseIf (authentication.keyId != expectedKeyId)
    "custody authentication key identity mismatch"
  requireHmac "custody authentication tag" authentication.tag

def MaudeAuthoringContextInputV1.validate (input : MaudeAuthoringContextInputV1) :
    Except String Unit := do
  refuseIf (input.schema != authoringContextInputSchemaV1)
    "unsupported Maude authoring-context input schema"
  requireDigest "Maude plan_ref" input.planRef
  PresentEvidence.requireToken "Maude session_id" input.sessionId
  refuseIf (byteLength input.planText == 0 || byteLength input.planText > maxPlanBytes)
    "Maude plan_text must contain 1..=1048576 UTF-8 bytes"
  refuseIf (w.sha256 (utf8 input.planText) != input.planRef)
    "Maude plan_ref does not bind the exact plan bytes"

def MaudeSessionCustodyV1.validateUntrusted (session : MaudeSessionCustodyV1) :
    Except String Unit := do
  refuseIf (session.schema != sessionCustodySchemaV1)
    "unsupported Maude supervised-session custody schema"
  requireDigest "session_record_id" session.sessionRecordId
  forEach
    [("session_issuer_principal_id", session.sessionIssuerPrincipalId),
      ("session_issuer_key_id", session.sessionIssuerKeyId),
      ("maude_session_id", session.maudeSessionId)]
    fun (name, value) => PresentEvidence.requireToken name value
  requireDigest "maude_plan_ref" session.maudePlanRef
  refuseIf (session.sourcePlanBytes == 0 || session.sourcePlanBytes > maxPlanBytes)
    "session custody source plan length is invalid"
  session.authentication.validate session.sessionIssuerKeyId
  refuseIf (w.sha256 (w.sessionCanonical session) != session.sessionRecordId)
    "session_record_id does not bind the exact session custody facts"

def MaudeAuthoringContextHandoffV1.validateUntrusted (handoff : MaudeAuthoringContextHandoffV1) :
    Except String Unit := do
  refuseIf (handoff.schema != handoffSchemaV1)
    "unsupported Maude authoring-context handoff schema"
  requireDigest "handoff_id" handoff.handoffId
  forEach
    [("producer_principal_id", handoff.producerPrincipalId),
      ("producer_key_id", handoff.producerKeyId), ("target_runtime_id", handoff.targetRuntimeId)]
    fun (name, value) => PresentEvidence.requireToken name value
  requireDigest "target_request_id" handoff.targetRequestId
  handoff.sessionCustody.validateUntrusted w
  handoff.authoringContext.validate w
  handoff.authentication.validate handoff.producerKeyId
  refuseIf (handoff.sessionCustody.sessionIssuerKeyId == handoff.producerKeyId)
    "session issuer and handoff producer must use distinct key identities"
  refuseIf (handoff.sessionCustody.maudeSessionId != handoff.authoringContext.sessionId ||
      handoff.sessionCustody.maudePlanRef != handoff.authoringContext.planRef ||
      handoff.sessionCustody.sourcePlanBytes != byteLength handoff.authoringContext.planText)
    "handoff does not bind its exact supervised session and plan"
  refuseIf (w.sha256 (w.handoffCanonical handoff) != handoff.handoffId)
    "handoff_id does not bind the exact handoff facts"

/-- `VerifiedMaudeHandoffV1`: only `verify` returns one. -/
structure VerifiedMaudeHandoffV1 where
  handoff : MaudeAuthoringContextHandoffV1
  deriving DecidableEq, Repr

/-- `verify_authentication` on the preimage of one record. -/
def verifyAuthentication (key : Bytes) (domain : String) (preimage : Bytes)
    (authentication : HmacAuthenticationV1) : Except String Unit :=
  refuseIf (w.hmacText key (utf8 domain) preimage != authentication.tag)
    "Maude custody authentication failed"

def MaudeCustodyVerifierV1.verify (verifier : MaudeCustodyVerifierV1)
    (handoff : MaudeAuthoringContextHandoffV1) (expectedTargetRequestId : String) :
    Except String VerifiedMaudeHandoffV1 := do
  handoff.validateUntrusted w
  refuseIf (handoff.producerPrincipalId != verifier.expectedPrincipalId ||
      handoff.producerKeyId != verifier.expectedKeyId)
    "Maude handoff producer identity is not configured for this ingress"
  refuseIf (handoff.sessionCustody.sessionIssuerPrincipalId !=
        verifier.expectedSessionIssuerPrincipalId ||
      handoff.sessionCustody.sessionIssuerKeyId != verifier.expectedSessionIssuerKeyId)
    "Maude supervised-session issuer is not configured for this ingress"
  refuseIf (handoff.targetRuntimeId != verifier.expectedRuntimeId)
    "Maude handoff targets a different Nightshift runtime"
  refuseIf (handoff.targetRequestId != expectedTargetRequestId)
    "Maude handoff targets a different canonical cycle request"
  verifyAuthentication w verifier.sessionIssuerKey sessionAuthDomain
    (w.sessionPreimage handoff.sessionCustody) handoff.sessionCustody.authentication
  verifyAuthentication w verifier.producerKey handoffAuthDomain (w.handoffPreimage handoff)
    handoff.authentication
  .ok ⟨handoff⟩

/-- `AuthoringContextProvenanceV1::mint` -/
def AuthoringContextProvenanceV1.mint (input : MaudeAuthoringContextInputV1)
    (campaignId occurrenceId proposalId exactWorkId sourceIntentId : String)
    (recordedAt : Instant) : Except String AuthoringContextProvenanceV1 := do
  input.validate w
  let open_ : AuthoringContextProvenanceV1 :=
    { schema := authoringContextProvenanceSchemaV1
      provenanceId := ""
      producerComponent := authoringContextProducerV1
      maudePlanRef := w.sha256 (utf8 input.planText)
      maudeSessionId := input.sessionId
      sourcePlanBytes := byteLength input.planText
      campaignId, occurrenceId, proposalId, exactWorkId, sourceIntentId, recordedAt }
  let provenance := { open_ with provenanceId := w.sha256 (w.authoringCanonical open_) }
  provenance.validate w.toCanonicalPlatform
  .ok provenance

/-- `AuthoringContextCustodyProvenanceV1::mint` -/
def AuthoringContextCustodyProvenanceV1.mint (verified : VerifiedMaudeHandoffV1)
    (authoring : AuthoringContextProvenanceV1) (recordedAt : Instant) :
    Except String AuthoringContextCustodyProvenanceV1 := do
  let handoff := verified.handoff
  let open_ : AuthoringContextCustodyProvenanceV1 :=
    { schema := custodyProvenanceSchemaV1
      custodyId := ""
      handoffId := handoff.handoffId
      sessionRecordId := handoff.sessionCustody.sessionRecordId
      authoringContextProvenanceId := authoring.provenanceId
      campaignId := authoring.campaignId
      occurrenceId := authoring.occurrenceId
      proposalId := authoring.proposalId
      exactWorkId := authoring.exactWorkId
      producerPrincipalId := handoff.producerPrincipalId
      producerKeyId := handoff.producerKeyId
      sessionIssuerPrincipalId := handoff.sessionCustody.sessionIssuerPrincipalId
      sessionIssuerKeyId := handoff.sessionCustody.sessionIssuerKeyId
      targetRuntimeId := handoff.targetRuntimeId
      targetRequestId := handoff.targetRequestId
      maudeSessionId := handoff.authoringContext.sessionId
      maudePlanRef := handoff.authoringContext.planRef
      authenticationMethod := hmacAuthSchemaV1
      recordedAt }
  let custody := { open_ with custodyId := w.sha256 (w.authoringCustodyCanonical open_) }
  custody.validate w.toCanonicalPlatform
  .ok custody

end Nightshift.Canonical
