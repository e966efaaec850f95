import Nightshift.Disposition

/-! Local pre-launch closure testimony. It is not provider admission evidence. -/

namespace Nightshift

open Checked

namespace PrelaunchClosureV1

def hexadecimal (value : Bytes) (length : Nat) : Bool :=
  value.length == length && value.all isLowerHexdigit

def isDigest (value : String) : Bool :=
  (stripPrefix "sha256:" value).any fun hex => hexadecimal hex 64

/-- A bounded identity without control characters. -/
def isBounded (value : String) : Bool :=
  !value.isEmpty && byteLength value ≤ 256 && !value.toList.any isControl

def refusal : ContractError := .invalidField "local prelaunch closure"

def computedDigest (w : Platform) (c : PrelaunchClosureV1) : String :=
  w.digestWithout "switchyard.provider-prelaunch-closure.digest/v1\x00" "closure_digest"
    (.prelaunchClosure { c with closureDigest := "" })

def attested (c : PrelaunchClosureV1) (proof : PrelaunchSupervisorAttestationV1) : Bool :=
  proof.schema == "switchyard.prelaunch-supervisor-attestation/v1" &&
    proof.binding == c.binding &&
    (proof.activeState == "inactive" || proof.activeState == "failed") &&
    proof.result == "exit-code" && proof.exitCode != 0 &&
    proof.boundary == "BEFORE_PROVIDER_CLAIM" && proof.originalProducerTerminated &&
    proof.alternateWritersExcluded &&
    proof.trustBasis == "OWNER_ATTESTATION_NOT_INDEPENDENT_PROCESS_PROOF" &&
    proof.observedAt ≤ c.closedAt && hexadecimal (utf8 proof.invocationId) 32 &&
    isDigest proof.originalRunnerSha256 && isDigest proof.unitEvidenceSha256 &&
    isDigest proof.failureEvidenceSha256 &&
    [proof.supervisorIdentity, proof.host, proof.unit].all isBounded

/-- Observed capture failures need no attestation; preclaim failures need one. -/
def evidenceModeMatches (c : PrelaunchClosureV1) : Bool :=
  match c.supervisorAttestation with
  | none => c.evidenceMode == "OBSERVED_CAPTURE_FAILURE" &&
      c.failureCode == "EXECUTABLE_CAPTURE_FAILED"
  | some proof => c.evidenceMode == "SUPERVISOR_ATTESTED_PRECLAIM_FAILURE" && c.attested proof

def validate (w : Platform) (c : PrelaunchClosureV1) : Except ContractError Unit := do
  refuseIf (c.schema != "switchyard.provider-prelaunch-closure/v1" ||
      c.state != "PRELAUNCH_CLOSED" ||
      !(c.failureCode == "EXECUTABLE_CAPTURE_FAILED" ||
        c.failureCode == "REQUEST_PREFLIGHT_FAILED") ||
      !c.providerClaimAbsent || c.backendStarted ||
      c.authorityEffect != "LOCAL_PRELAUNCH_CLOSURE_ONLY" ||
      !hexadecimal (utf8 c.observerSourceHead) 40 || !isDigest c.observerRunnerSha256 ||
      !hexadecimal (utf8 c.binding.switchyardOwnerHead) 40 || !hexadecimal (utf8 c.binding.codexOwnerHead) 40)
    refusal
  refuseIf (!([c.binding.packetDigest, c.binding.requestDigest, c.binding.requestSha256,
      c.binding.workerBriefDigest, c.binding.briefSha256, c.binding.backendSha256,
      c.binding.dispatchDigest, c.binding.dispatchSha256].all isDigest)) refusal
  refuseIf (!([c.binding.runId, c.binding.workItemId, c.binding.workAttemptId,
      c.binding.dispatchOccurrenceId, c.binding.adapterProcessOccurrenceId].all isBounded))
    refusal
  refuseIf (!c.evidenceModeMatches) refusal
  refuseIf (c.computedDigest w != c.closureDigest) (.digestMismatch "closure_digest")

/-- One trailing newline is not part of the canonical record. -/
def stripNewline (raw : Bytes) : Bytes :=
  if raw.getLast? = some 10 then raw.dropLast else raw

def fromSlice (w : Platform) (raw : Bytes) : Except ContractError PrelaunchClosureV1 := do
  refuseIf (raw.length > 32 * 1024) (.invalidField "prelaunch closure size")
  let value ← w.parsePrelaunchClosure (stripNewline raw)
  refuseIf (w.canonical (.prelaunchClosure value) != stripNewline raw)
    (.invalidField "canonical prelaunch closure")
  value.validate w
  .ok value

def validatePrepared (w : Platform) (c : PrelaunchClosureV1) (request : WorkerStartRequestV3)
    (dispatch : ProviderDispatchOccurrenceV1) (brief : Bytes) : Except ContractError Unit := do
  c.validate w
  refuseIf (c.binding.packetDigest != request.packetDigest ||
      c.binding.runId != request.runId || c.binding.workItemId != request.workItemId ||
      c.binding.workAttemptId != request.workAttemptId ||
      c.binding.dispatchOccurrenceId != request.dispatchOccurrenceId ||
      c.binding.adapterProcessOccurrenceId != dispatch.adapterProcessOccurrenceId ||
      c.binding.requestDigest != request.requestDigest ||
      c.binding.requestSha256 != w.plainSha256 (w.canonical (.startRequestV3 request)) ||
      c.binding.workerBriefDigest != request.workerBriefDigest ||
      c.binding.briefSha256 != w.plainSha256 brief ||
      c.binding.dispatchDigest != dispatch.dispatchDigest ||
      c.binding.dispatchSha256 != w.plainSha256 (w.canonical (.dispatch dispatch)) ||
      c.binding.switchyardOwnerHead != request.switchyardOwnerHead ||
      c.binding.codexOwnerHead != request.codexOwnerHead || c.closedAt < dispatch.openedAt)
    (.invalidField "prelaunch prepared dispatch binding")

end PrelaunchClosureV1

end Nightshift
