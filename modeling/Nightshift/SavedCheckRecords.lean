import Nightshift.AgRequest
import Nightshift.Lib.Json

/-!
The records of the saved-check runtime: the enrolled configuration, the schedule
policy with the due request it selects, and the durable evaluation. What the
runtime calls and does not define is added to the platform of the canonical
runtime, the launch of an enrolled role among it.
-/

namespace Nightshift.SavedCheck

open Diagnostic Canonical

structure SavedCheckRuntimeConfigV1 where
  schema : String
  monitorProgram : String
  monitorProgramSha256 : String
  monitorProject : String
  monitorTrustedRoot : String
  expectedProject : String
  expectedProducer : String
  expectedManifestDigest : String
  concernId : String
  nqProgram : String
  nqProgramSha256 : String
  nqConfig : String
  nqConfigSha256 : String
  savedCheckTarget : String
  definitionReference : String
  definitionDigest : String
  sourceIdentity : String
  definitionCurrentnessSeconds : Nat
  conditionComponent : String
  conditionKind : String
  conditionSubject : String
  commandTimeoutSeconds : Nat
  deriving DecidableEq, Repr

structure SavedCheckScheduleV1 where
  schema : String
  policyId : String
  configurationVersion : String
  definitionReference : String
  definitionDigest : String
  sourceIdentity : String
  subjectId : String
  scopeId : String
  schedulerClockId : String
  epoch : Instant
  intervalSeconds : Nat
  admissibleDelaySeconds : Nat
  deriving DecidableEq, Repr

structure SavedCheckDueRequestV1 where
  schema : String
  policyDigest : String
  slot : RecurrenceSlotV1
  evaluationId : String
  definitionReference : String
  definitionDigest : String
  sourceIdentity : String
  deriving DecidableEq, Repr

inductive SelectionV1 where
  | notDue
  | missed (slot : RecurrenceSlotV1)
  | due (request : SavedCheckDueRequestV1)
  deriving DecidableEq, Repr

structure SavedCheckEvaluationV1 where
  schema : String
  evaluationId : String
  policyDigest : String
  slotId : String
  configDigest : String
  state : String
  projectionAt : Option String
  dueRequest : SavedCheckDueRequestV1
  monitorInventory : Option Json.Value
  monitorInventoryBytesHex : Option String
  monitorInventorySha256 : Option String
  acquisitionAcquiredAtUnixMs : Option Nat
  sourceObservedAt : Option String
  nqRequestBinding : Option Json.Value
  nqResult : Option Json.Value
  nqResultBytesHex : Option String
  nqResultSha256 : Option String
  condition : Option Json.Value
  conditionBytesHex : Option String
  conditionSha256 : Option String
  assumption : String
  authority : String
  deriving DecidableEq

/-- What `run_bounded` is asked to run. -/
structure RoleInvocation where
  program : String
  programSha256 : String
  config : Option (String × String)
  arguments : List String
  timeoutSeconds : Nat
  deriving DecidableEq, Repr

/-- A role that has exited within its time, with the two files it wrote. -/
structure RoleExit where
  success : Bool
  stdout : Bytes
  stderr : Bytes
  deriving DecidableEq, Repr

end Nightshift.SavedCheck

namespace Nightshift

open SavedCheck

structure SavedCheckPlatform extends RuntimePlatform where
  /-- `serde_json` on exactly one document. -/
  parseJson : Bytes → Except String Json.Value
  /-- `serde_jcs::to_vec` -/
  scheduleCanonical : SavedCheckScheduleV1 → Bytes
  /-- `serde_jcs::to_vec` of the pair of a schema and a slot. -/
  requestIdentityCanonical : (schema slotId : String) → Bytes
  /-- How the canonical form writes a double. -/
  floatText : UInt64 → List Char
  /-- `serde_json` on exactly one record. -/
  parseRecord : Bytes → Except String SavedCheckEvaluationV1
  /-- A value inside a record, as it is read back from its canonical form: a double that is written
  without a point comes back as an integer, and nesting is bounded. -/
  reread : Json.Value → Except String Json.Value
  /-- `DateTime::to_rfc3339` -/
  toRfc3339Offset : Instant → String

end Nightshift
