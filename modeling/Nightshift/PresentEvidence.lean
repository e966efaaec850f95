import Nightshift.Posture
import Nightshift.Lib.OrderedMap

/-!
# Present evidence

The exact query to a present-evidence authority, the qualified support it
returns, and the posture evaluated under such a support. Support expires on the
clock of the authority; Nightshift only compares the ticks it was given.
-/

namespace Nightshift.Diagnostic

open Checked

def supportQuerySchemaV1 : String := "nightshift.present_evidence_query.v1"
def qualifiedSupportSchemaV1 : String := "nightshift.qualified_support.v1"

namespace PresentEvidence

/-- A token is neither blank nor broken by white space. -/
def requireToken (name value : String) : Except String Unit :=
  refuseIf (isBlank value || value.toList.any isWhiteSpace) (name ++ " must be a non-empty token")

def requireDigest (name value : String) : Except String Unit :=
  refuseIf (!isSha256Id value) (name ++ " must use sha256:<64 lowercase hex>")

def strictlyOrderedUnique (field : String) : Option String → List String → Except String Unit
  | _, [] => .ok ()
  | previous, value :: rest => do
    requireToken field value
    refuseIf (previous.any fun item => compare item value != .lt)
      (field ++ " must be strictly ordered and unique")
    strictlyOrderedUnique field (some value) rest

def strictlyOrderedUniqueDigests (values : List String) (field : String) : Except String Unit := do
  strictlyOrderedUnique field none values
  forEach values (requireDigest field)

end PresentEvidence

open PresentEvidence

def SupportReceiverInstantV1.validate (instant : SupportReceiverInstantV1) (field : String) :
    Except String Unit :=
  PresentEvidence.requireToken (field ++ ".clock_id") instant.clockId

def SupportExpiryV1.isCurrentAt (expiry : SupportExpiryV1)
    (evaluatedAt : SupportReceiverInstantV1) : Except String Bool := do
  PresentEvidence.requireToken "support_expiry.clock_id" expiry.clockId
  evaluatedAt.validate "evaluated_at"
  refuseIf (expiry.clockId != evaluatedAt.clockId)
    "support expiry and evaluation use different receiver clocks"
  .ok (expiry.tick > evaluatedAt.tick)

variable (w : DiagnosticPlatform)

namespace PresentEvidenceQueryV1

def validate (query : PresentEvidenceQueryV1) : Except String Unit := do
  refuseIf (query.schema != supportQuerySchemaV1)
    ("unsupported support query schema " ++ query.schema)
  forEach
    [("query_id", query.queryId), ("observation_id", query.observationId),
      ("diagnostic_inputs_id", query.diagnosticInputsId), ("scope_id", query.scopeId)]
    fun (name, value) => requireDigest name value
  forEach
    [("observation_cycle_id", query.observationCycleId), ("request_nonce", query.requestNonce),
      ("subject_id", query.subjectId)]
    fun (name, value) => PresentEvidence.requireToken name value
  strictlyOrderedUniqueDigests query.artifactIds "artifact_ids"
  refuseIf (query.queryId != w.sha256 (w.queryCanonical query))
    "query_id does not match the canonical query preimage"

def sealQuery (query : PresentEvidenceQueryV1) : Except String PresentEvidenceQueryV1 := do
  let open_ := { query with schema := supportQuerySchemaV1, queryId := "" }
  let sealed := { open_ with queryId := w.sha256 (w.queryCanonical open_) }
  sealed.validate w
  .ok sealed

end PresentEvidenceQueryV1

namespace QualifiedSupportV1

/-- The expiry law of each standing. -/
def checkStanding (support : QualifiedSupportV1) (expiryCurrent : Option Bool) :
    Except String Unit :=
  match support.standing with
  | .current => do
    refuseIf (expiryCurrent != some true)
      "current support requires expiry strictly after evaluation"
    refuseIf (!support.contradictionRefs.isEmpty)
      "current support cannot carry unresolved contradictions"
  | .expired => refuseIf (expiryCurrent != some false)
      "expired support requires expiry at or before evaluation"
  | .contradictory => refuseIf support.contradictionRefs.isEmpty
      "contradictory support requires exact contradiction references"
  | .unknown | .unsupported | .blind => .ok ()

def checkExpiry (support : QualifiedSupportV1) : Except String Unit := do
  let expiryCurrent ← (match support.expiry with
    | none => .ok none
    | some expiry => some <$> expiry.isCurrentAt support.evaluatedAt : Except String (Option Bool))
  support.checkStanding expiryCurrent
  refuseIf (support.supportId != w.sha256 (w.supportCanonical support))
    "support_id does not match the canonical support preimage"

def validateShape (support : QualifiedSupportV1) : Except String Unit := do
  refuseIf (support.schema != qualifiedSupportSchemaV1)
    ("unsupported qualified support schema " ++ support.schema)
  forEach
    [("support_id", support.supportId), ("query_id", support.queryId),
      ("observation_id", support.observationId),
      ("diagnostic_inputs_id", support.diagnosticInputsId), ("scope_id", support.scopeId)]
    fun (name, value) => requireDigest name value
  forEach
    [("authority_id", support.authorityId),
      ("observation_cycle_id", support.observationCycleId),
      ("request_nonce", support.requestNonce), ("subject_id", support.subjectId)]
    fun (name, value) => PresentEvidence.requireToken name value
  support.evaluatedAt.validate "evaluated_at"
  strictlyOrderedUniqueDigests support.artifactIds "artifact_ids"
  strictlyOrderedUniqueDigests support.evidenceRefs "evidence_refs"
  strictlyOrderedUniqueDigests support.contradictionRefs "contradiction_refs"
  support.checkExpiry w

/-- The tests after the binding repeat those of the shape. -/
def validateFor (support : QualifiedSupportV1) (query : PresentEvidenceQueryV1) :
    Except String Unit := do
  query.validate w
  support.validateShape w
  refuseIf (support.queryId != query.queryId ||
      support.observationCycleId != query.observationCycleId ||
      support.requestNonce != query.requestNonce ||
      support.observationId != query.observationId ||
      support.diagnosticInputsId != query.diagnosticInputsId ||
      support.subjectId != query.subjectId || support.scopeId != query.scopeId ||
      support.artifactIds != query.artifactIds)
    "qualified support does not exactly bind the live query"
  support.checkExpiry w

end QualifiedSupportV1

/-- The identities of the delivered artifacts, once each and in order. -/
def deliveredArtifactIds (inputs : DiagnosticInputs) : List String :=
  (BTreeSet.collect (inputs.inputs.filterMap fun input =>
    match input.status with
    | .delivered artifact => some artifact.artifactId
    | _ => none)).toList

def evaluatePostureWithSupport (policy : PosturePolicy) (inputs : DiagnosticInputs)
    (recurrence : RecurrenceEvidence) (evaluatedAt : Instant) (support : QualifiedSupportV1) :
    Except String OperationalPosture := do
  support.validateShape w
  refuseIf (support.diagnosticInputsId != inputs.inputsId ||
      support.subjectId != policy.subject.id || support.scopeId != policy.subject.scope.digest ||
      support.artifactIds != deliveredArtifactIds inputs)
    "qualified support does not exactly bind the complete diagnostic basis"
  evaluatePostureInternal w policy inputs recurrence evaluatedAt (some support)

end Nightshift.Diagnostic
