import Nightshift.AgSynchronization
import Nightshift.SavedCheckRuntime
import Mathlib.Tactic.Linarith

/-!
# Retaining a saved check

What a run that nobody disturbs writes when every role answers acceptably. Such
a run is the writing of its records, one after the other, into one row, so it
comes to its end just when every one of them fits the row; and what it wrote is
accepted again just when its documents survive their canonical form.
-/

namespace Nightshift.SavedCheck

open Checked Diagnostic Canonical Interleave

/-! ## Hexadecimal -/

theorem digitValue_hexDigit : ∀ n : Nat, n < 16 → digitValue (hexDigit n) = some n := by decide

theorem hexDigit_ne_plus : ∀ n : Nat, n < 16 → hexDigit n ≠ '+' := by decide

theorem utf8Size_hexDigit : ∀ n : Nat, n < 16 → (hexDigit n).utf8Size = 1 := by decide

theorem escapeChar_hexDigit :
    ∀ n : Nat, n < 16 → Json.escapeChar (hexDigit n) = [hexDigit n] := by decide

theorem byteOf_hexPair (b : UInt8) :
    byteOf (hexDigit (b.toNat / 16)) (hexDigit (b.toNat % 16)) = some b := by
  have hbound : b.toNat < 256 := b.toNat_lt
  have hhigh : b.toNat / 16 < 16 := by omega
  have hlow : b.toNat % 16 < 16 := by omega
  have hback : 16 * (b.toNat / 16) + b.toNat % 16 = b.toNat := by omega
  have hbyte : UInt8.ofNat (16 * (b.toNat / 16) + b.toNat % 16) = b := by
    rw [hback, UInt8.ofNat_toNat]
  simp only [byteOf, digitValue_hexDigit _ hhigh, digitValue_hexDigit _ hlow, Option.bind_eq_bind,
    Option.bind_some, if_neg (hexDigit_ne_plus _ hhigh), Option.pure_def, hbyte]

theorem unhexChars_hexPair (bytes : Bytes) : unhexChars (bytes.flatMap hexPair) = .ok bytes := by
  induction bytes with
  | nil => rfl
  | cons b rest ih =>
    rw [List.flatMap_cons]
    change unhexChars (hexDigit (b.toNat / 16) :: hexDigit (b.toNat % 16) ::
      rest.flatMap hexPair) = _
    rw [unhexChars, byteOf_hexPair, ih]
    rfl

theorem mem_hexPair {b : UInt8} {c : Char} (h : c ∈ hexPair b) : ∃ n < 16, c = hexDigit n := by
  have hbound : b.toNat < 256 := b.toNat_lt
  simp only [hexPair, List.mem_cons, List.not_mem_nil, or_false] at h
  rcases h with rfl | rfl
  · exact ⟨_, by omega, rfl⟩
  · exact ⟨_, by omega, rfl⟩

theorem toList_hex (bytes : Bytes) : (hex bytes).toList = bytes.flatMap hexPair := by
  simp [hex]

theorem length_hexPairs (bytes : Bytes) : (bytes.flatMap hexPair).length = 2 * bytes.length := by
  induction bytes with
  | nil => rfl
  | cons b rest ih =>
    rw [List.flatMap_cons, List.length_append, ih, List.length_cons]
    simp only [hexPair, List.length_cons, List.length_nil]
    omega

theorem size_hex (bytes : Bytes) : Json.size (hex bytes).toList = 2 * bytes.length := by
  rw [toList_hex, Json.size_of_ascii, length_hexPairs]
  intro c hc
  obtain ⟨b, _, hpair⟩ := List.mem_flatMap.mp hc
  obtain ⟨n, hn, rfl⟩ := mem_hexPair hpair
  exact utf8Size_hexDigit n hn

theorem size_quoted_hex (bytes : Bytes) :
    Json.size (Json.quoted (hex bytes)) = 2 * bytes.length + 2 := by
  rw [Json.size_quoted_of_plain, size_hex]
  rw [toList_hex]
  intro c hc
  obtain ⟨b, _, hpair⟩ := List.mem_flatMap.mp hc
  obtain ⟨n, hn, rfl⟩ := mem_hexPair hpair
  exact escapeChar_hexDigit n hn

/-- The bytes of a string are those of its characters. -/
theorem length_utf8_ofList (cs : List Char) :
    (utf8 (String.ofList cs)).length = Json.size cs := by
  simp only [utf8, String.toByteArray_ofList]
  induction cs with
  | nil => rfl
  | cons c cs ih =>
    rw [List.utf8Encode_cons, Json.size_cons, ← ih]
    simp [List.utf8Encode]

theorem byteLength_hex (bytes : Bytes) : byteLength (hex bytes) = 2 * bytes.length := by
  have hsize := length_utf8_ofList (bytes.flatMap hexPair)
  rw [← toList_hex, size_hex, String.ofList_toList] at hsize
  exact hsize

/-- What was spelled is read again, as far as a role's output goes. -/
theorem unhex_hex {bytes : Bytes} (h : bytes.length ≤ maximumResultBytes) :
    unhex (hex bytes) = .ok bytes := by
  have hlength := byteLength_hex bytes
  have hsmall : ¬ (2 * bytes.length > 2097152) := by
    simp only [maximumResultBytes] at h
    omega
  simp only [unhex, hlength, toList_hex, unhexChars_hexPair]
  simp [refuseIf, hsmall]

/-! ## The answers of the roles -/

/-- What the roles answered one evaluation with. -/
structure Answers where
  inventory : JsonOutput
  acquired : Nat
  observed : String
  /-- NQ did not know the evaluation and was asked to evaluate it. -/
  evaluated : Bool
  result : JsonOutput
  condition : JsonOutput

namespace Answers

variable (w : SavedCheckPlatform) (c : RunContext) (request : SavedCheckDueRequestV1) (a : Answers)

def selected : SavedCheckEvaluationV1 := openRecord c.configDigest request

def started : SavedCheckEvaluationV1 := { selected c request with state := "acquisition_started" }

def bound : SavedCheckEvaluationV1 :=
  (started c request).retainInventory w c.config a.inventory a.acquired a.observed

/-- The record the result is put into. -/
def asked : SavedCheckEvaluationV1 :=
  if a.evaluated then { a.bound w c request with state := "nq_started" } else a.bound w c request

def resulted : SavedCheckEvaluationV1 := retained w c (a.asked w c request) a.result

def terminal : SavedCheckEvaluationV1 := (a.resulted w c request).retainCondition w a.condition

/-- The records behind the one that is bound to its question. -/
def later : List SavedCheckEvaluationV1 :=
  (if a.evaluated then [a.asked w c request] else []) ++
    [a.resulted w c request, a.terminal w c request]

/-- Every record of the run, in the order they are written. -/
def records : List SavedCheckEvaluationV1 :=
  selected c request :: started c request :: a.bound w c request :: a.later w c request

/-- The terminal record without its three documents and their spelling. -/
def skeleton : SavedCheckEvaluationV1 :=
  { a.terminal w c request with
    monitorInventory := none
    monitorInventoryBytesHex := none
    nqResult := none
    nqResultBytesHex := none
    condition := none
    conditionBytesHex := none }

end Answers

/-- The bytes a document takes in a record: its canonical form, and two digits for each byte it
was written with. -/
def JsonOutput.retainedSize (w : SavedCheckPlatform) (output : JsonOutput) : Nat :=
  Json.size (output.value.text w.floatText) + 2 * output.bytes.length

/-- NQ answers the evaluation, at once or behind the exact answer that it has no result. -/
def Answered (w : SavedCheckPlatform) (c : RunContext) (request : SavedCheckDueRequestV1)
    (a : Answers) : Prop :=
  let asked := nqJson w c.roles c.config
    ["saved-check", "result", "--evaluation-id", request.evaluationId]
  if a.evaluated then
    (∃ bytes, asked = .ok ⟨missingResult request.evaluationId, bytes⟩) ∧
      nqJson w c.roles c.config
        ["saved-check", "evaluate", c.config.definitionReference, "--evaluation-id",
          request.evaluationId, "--target", c.config.savedCheckTarget, "--source-observed-at",
          a.observed] = .ok a.result
  else asked = .ok a.result

/-- The slot is due, and every role answers the evaluation acceptably. A result that is still
claimed is not an answer. -/
structure Accepted (w : SavedCheckPlatform) (c : RunContext) (policy : SavedCheckScheduleV1)
    (schedulerClockId : String) (at_ : Instant) (request : SavedCheckDueRequestV1)
    (a : Answers) : Prop where
  config : c.config.validate = .ok ()
  configDigest : isSha256Id c.configDigest = true
  reference : policy.definitionReference = c.config.definitionReference
  digest : policy.definitionDigest = c.config.definitionDigest
  source : policy.sourceIdentity = c.config.sourceIdentity
  due : policy.select w schedulerClockId at_ = .ok (.due request)
  definition : verifyDefinition w c.roles c.config = .ok ()
  collected : runBounded c.roles (collectInvocation c.config) = .ok ⟨true, a.inventory.bytes⟩
  parsed : w.parseJson a.inventory.bytes = .ok a.inventory.value
  inventory : verifyInventory w c.config a.inventory.value = .ok (a.acquired, a.observed)
  answered : Answered w c request a
  outcome : stringAt ["outcome"] a.result.value ≠ some "claimed"
  result : verifyNqResult (a.bound w c request) a.result.value = .ok ()
  projected : nqJson w c.roles c.config
    ["saved-check", "condition", "--evaluation-id", request.evaluationId, "--component",
      c.config.conditionComponent, "--kind", c.config.conditionKind, "--subject",
      c.config.conditionSubject, "--at", w.toRfc3339Offset c.projectedAt] = .ok a.condition
  condition : verifyCondition c.config (a.resulted w c request)
    (w.toRfc3339Offset c.projectedAt) a.result.value a.condition.value = .ok ()

/-! ## Writing the records -/

variable (w : SavedCheckPlatform)

/-- The records go into the row of the evaluation up to the first one that does not fit. -/
def writeAll (last : SavedCheckEvaluationV1) :
    List SavedCheckEvaluationV1 → Evaluations → Except String SavedCheckEvaluationV1 × Evaluations
  | [], s => (.ok last, s)
  | record :: rest, s =>
    match refuseOversized w (record.canonical w) with
    | .ok _ => writeAll last rest (s.put record.evaluationId (rowOf w record))
    | .error e => (.error e, s)

/-- The row of the evaluation holds this record. -/
def Evaluations.Holds (s : Evaluations) (record : SavedCheckEvaluationV1) : Prop :=
  s.rows[record.evaluationId]? = some (rowOf w record)

/-- Two records of one evaluation, under one policy, slot and configuration. -/
def SameEvaluation (record next : SavedCheckEvaluationV1) : Prop :=
  next.evaluationId = record.evaluationId ∧ next.policyDigest = record.policyDigest ∧
    next.slotId = record.slotId ∧ next.configDigest = record.configDigest

variable {w}

theorem holds_put (s : Evaluations) (record : SavedCheckEvaluationV1) :
    (s.put record.evaluationId (rowOf w record)).Holds w record := by
  simp [Evaluations.Holds, Evaluations.put]

/-- A transition from the record that is held writes the next one or is refused by the table. -/
theorem run_transition {s : Evaluations} {record next : SavedCheckEvaluationV1} {β : Type}
    {k : Bool → Call Evaluations String β} (hholds : s.Holds w record)
    (hsame : SameEvaluation record next) :
    (transition w record.state next >>= k).run s =
      match refuseOversized w (next.canonical w) with
      | .ok _ => (k true).run (s.put next.evaluationId (rowOf w next))
      | .error e => (.error e, s) := by
  obtain ⟨hid, hpolicy, hslot, hdigest⟩ := hsame
  have hrow : s.rows[next.evaluationId]? = some (rowOf w record) := hid ▸ hholds
  have hupdated : { rowOf w record with state := next.state, recordJson := next.canonical w } =
      rowOf w next := by
    simp [rowOf, hpolicy, hslot, hdigest]
  have hstate : (rowOf w record).state = record.state := rfl
  cases hfits : refuseOversized w (next.canonical w) with
  | ok u =>
    refine Call.run_bind_ok (Call.run_commit_eq_ok.mpr ?_)
    simp only [transitionTransaction, hrow, hstate, if_true, hfits, hupdated]
    rfl
  | error e =>
    refine Call.run_bind_error ?_
    simp [transition, Call.commit, Call.run, transitionTransaction, hrow, hstate, hfits]

section Runs

variable {c : RunContext} {policy : SavedCheckScheduleV1} {schedulerClockId : String}
  {at_ : Instant} {request : SavedCheckDueRequestV1} {a : Answers} {s : Evaluations}

theorem run_check_ok {α β : Type} {result : Except String α} {x : α} (h : result = .ok x)
    (k : α → Call Evaluations String β) :
    (Call.check result >>= k).run s = (k x).run s := by
  rw [h]
  rfl

theorem evaluationId_asked : (a.asked w c request).evaluationId = request.evaluationId := by
  unfold Answers.asked
  split <;> rfl

theorem nqRequestBinding_asked :
    (a.asked w c request).nqRequestBinding = some (requestBinding c.config a.observed) := by
  unfold Answers.asked
  split <;> rfl

theorem same_started : SameEvaluation (Answers.selected c request) (Answers.started c request) :=
  ⟨rfl, rfl, rfl, rfl⟩

theorem same_bound : SameEvaluation (Answers.started c request) (a.bound w c request) :=
  ⟨rfl, rfl, rfl, rfl⟩

theorem same_resulted : SameEvaluation (a.asked w c request) (a.resulted w c request) :=
  ⟨rfl, rfl, rfl, rfl⟩

theorem same_terminal : SameEvaluation (a.resulted w c request) (a.terminal w c request) :=
  ⟨rfl, rfl, rfl, rfl⟩

theorem run_projectCondition (h : Accepted w c policy schedulerClockId at_ request a)
    (hholds : s.Holds w (a.resulted w c request)) :
    (projectCondition w c (a.resulted w c request) a.result.value).run s =
      writeAll w (a.terminal w c request) [a.terminal w c request] s := by
  have hid : (a.resulted w c request).evaluationId = request.evaluationId := evaluationId_asked
  have hprojection : okOr (a.resulted w c request).projectionAt "result projection time absent" =
      .ok (w.toRfc3339Offset c.projectedAt) := rfl
  rw [projectCondition, run_check_ok hprojection, hid, run_check_ok h.projected,
    run_check_ok h.condition]
  change (transition w (a.resulted w c request).state (a.terminal w c request) >>= _).run s = _
  rw [run_transition hholds same_terminal, writeAll]
  split <;> rfl

theorem run_finish (h : Accepted w c policy schedulerClockId at_ request a) (lost : Nat)
    (hholds : s.Holds w (a.asked w c request)) :
    (finish w c lost (a.asked w c request) a.result).run s =
      writeAll w (a.terminal w c request)
        [a.resulted w c request, a.terminal w c request] s := by
  have hverified : verifyNqResult (a.asked w c request) a.result.value = .ok () := by
    have hresult := h.result
    simp only [verifyNqResult, evaluationId_asked, nqRequestBinding_asked] at hresult ⊢
    exact hresult
  have hstate : (a.asked w c request).state ≠ "result_retained" := by
    unfold Answers.asked
    split <;> simp [Answers.bound, SavedCheckEvaluationV1.retainInventory]
  rw [finish, run_check_ok hverified, if_neg hstate]
  change (transition w (a.asked w c request).state (a.resulted w c request) >>= _).run s = _
  rw [run_transition hholds same_resulted, writeAll]
  cases refuseOversized w ((a.resulted w c request).canonical w) with
  | error e => rfl
  | ok u => exact run_projectCondition h (holds_put s _)

/-- The result of an evaluation that is not claimed has one of the settled outcomes. -/
theorem settled_outcome {record : SavedCheckEvaluationV1} {result : Json.Value}
    (h : verifyNqResult record result = .ok ())
    (hclaimed : stringAt ["outcome"] result ≠ some "claimed") :
    ∃ outcome, stringAt ["outcome"] result = some outcome ∧ outcome ≠ "claimed" ∧
      outcome ≠ "missing" := by
  simp only [verifyNqResult, bind_eq_ok, okOr_eq_ok, refuseIf_eq_ok] at h
  obtain ⟨_, _, outcome, houtcome, _, hknown, _⟩ := h
  refine ⟨outcome, houtcome, ?_, ?_⟩
  · rintro rfl
    exact hclaimed houtcome
  · rintro rfl
    simp at hknown

theorem run_resume (h : Accepted w c policy schedulerClockId at_ request a) (lost : Nat)
    (hholds : s.Holds w (a.bound w c request)) :
    (resume w c lost (a.bound w c request)).run s =
      writeAll w (a.terminal w c request) (a.later w c request) s := by
  have hid : (a.bound w c request).evaluationId = request.evaluationId := rfl
  have hstate : (a.bound w c request).state = "nq_bound" := rfl
  obtain ⟨outcome, houtcome, hclaimed, hmissing⟩ := settled_outcome h.result h.outcome
  have hanswered := h.answered
  simp only [Answered] at hanswered
  simp only [resume, hstate]
  rw [if_neg (by decide), if_neg (by decide), if_neg (by decide), if_neg (by decide),
    run_check_ok h.definition, hid]
  by_cases hevaluated : a.evaluated
  · rw [if_pos hevaluated] at hanswered
    obtain ⟨⟨bytes, hasked⟩, hevaluate⟩ := hanswered
    have hmiss : stringAt ["outcome"] (missingResult request.evaluationId) = some "missing" := by
      simp [stringAt, missingResult, Json.Value.pointer, Json.Value.get, List.lookup,
        Json.Value.asStr]
    have hexact : refuseIf (missingResult request.evaluationId !=
        missingResult (a.bound w c request).evaluationId)
        "NQ missing result is not the exact supported response" = .ok () := by
      simp [refuseIf, hid]
    have hstarted : a.asked w c request =
        { a.bound w c request with state := "nq_started" } := by
      rw [Answers.asked, if_pos hevaluated]
    have hlater : a.later w c request =
        a.asked w c request :: [a.resulted w c request, a.terminal w c request] := by
      rw [Answers.later, if_pos hevaluated]
      rfl
    have hobserved : okOr (a.bound w c request).sourceObservedAt "source observation absent" =
        .ok a.observed := rfl
    have hother : stringAt ["outcome"] a.result.value ≠ some "claimed" := h.outcome
    rw [run_check_ok hasked]
    simp only [answer, hmiss, okOr]
    rw [run_check_ok rfl, if_neg (by decide), if_pos rfl, run_check_ok hexact,
      if_neg (by rw [hstate]; decide), evaluate, ← hstarted, ← hstate,
      run_transition hholds (by rw [hstarted]; exact ⟨rfl, rfl, rfl, rfl⟩), hlater, writeAll]
    cases refuseOversized w ((a.asked w c request).canonical w) with
    | error e => rfl
    | ok u =>
      simp only [if_true]
      rw [run_check_ok hobserved, hid, hevaluate]
      simp only [if_neg hother]
      exact run_finish h lost (holds_put s _)
  · rw [if_neg hevaluated] at hanswered
    have hasked : a.asked w c request = a.bound w c request := by
      rw [Answers.asked, if_neg hevaluated]
    rw [run_check_ok hanswered]
    simp only [answer, houtcome, okOr]
    rw [run_check_ok rfl, if_neg hclaimed, if_neg hmissing, ← hasked,
      run_finish h lost (hasked ▸ hholds), Answers.later, if_neg hevaluated]
    rfl

theorem run_acquire (h : Accepted w c policy schedulerClockId at_ request a) (lost : Nat)
    (hholds : s.Holds w (Answers.selected c request)) :
    (acquire w c lost (Answers.selected c request)).run s =
      writeAll w (a.terminal w c request)
        (Answers.started c request :: a.bound w c request :: a.later w c request) s := by
  have hmoved : refuseIf (!true) "saved-check acquisition launch lost its CAS" = .ok () := rfl
  have hkept : refuseIf (!true) "saved-check acquisition retention lost its CAS" = .ok () := rfl
  rw [acquire]
  change (transition w (Answers.selected c request).state (Answers.started c request) >>= _).run s
    = _
  rw [run_transition hholds same_started, writeAll]
  cases refuseOversized w ((Answers.started c request).canonical w) with
  | error e => rfl
  | ok u =>
    have hstarted := holds_put (w := w) s (Answers.started c request)
    simp only []
    rw [run_check_ok hmoved, run_check_ok h.collected]
    simp only [if_true]
    rw [run_check_ok h.parsed, run_check_ok h.inventory]
    change (transition w (Answers.started c request).state (a.bound w c request) >>= _).run _ = _
    rw [run_transition hstarted same_bound, writeAll]
    cases refuseOversized w ((a.bound w c request).canonical w) with
    | error e => rfl
    | ok u =>
      simp only []
      rw [run_check_ok hkept]
      exact run_resume h lost (holds_put _ _)

/-- The run of an evaluation that is not in the table writes its records. -/
theorem run_eq_writeAll (h : Accepted w c policy schedulerClockId at_ request a) (lost : Nat)
    (hfresh : s.rows[request.evaluationId]? = none) :
    (run w c lost policy schedulerClockId at_).run s =
      writeAll w (a.terminal w c request) (a.records w c request) s := by
  have hid : (openRecord c.configDigest request).evaluationId = request.evaluationId := rfl
  have hpolicy : refuseIf (policy.definitionReference != c.config.definitionReference ||
      policy.definitionDigest != c.config.definitionDigest ||
      policy.sourceIdentity != c.config.sourceIdentity)
      "schedule policy does not match enrolled saved-check definition" = .ok () := by
    simp [refuseIf, h.reference, h.digest, h.source]
  have hdue : okOr (SelectionV1.due request).request "saved-check slot is not due" =
      .ok request := rfl
  have hinspect : (inspect w request.evaluationId).run s = (.ok none, s) := by
    rw [inspect, Call.run_bind_ok (Call.run_read _ s), hfresh]
    rfl
  rw [run, run_check_ok h.config, run_check_ok hpolicy, run_check_ok h.due, run_check_ok hdue]
  simp only [hid]
  rw [Call.run_bind_ok hinspect]
  simp only []
  rw [run_check_ok h.definition, Answers.records, writeAll]
  cases hfits : refuseOversized w ((Answers.selected c request).canonical w) with
  | error e =>
    refine Call.run_bind_error ?_
    have hrefused : openTransaction w (openRecord c.configDigest request) s = .error e := by
      simp only [openTransaction, hid, hfresh]
      rw [show openRecord c.configDigest request = Answers.selected c request from rfl, hfits]
      rfl
    simp [openEvaluation, Call.commit, Call.run, hrefused]
  | ok u =>
    have hopened : openTransaction w (openRecord c.configDigest request) s =
        .ok (true, s.put request.evaluationId (rowOf w (Answers.selected c request))) := by
      simp only [openTransaction, hid, hfresh]
      rw [show openRecord c.configDigest request = Answers.selected c request from rfl, hfits]
      rfl
    have hrun : (openEvaluation w (openRecord c.configDigest request)).run s =
        (.ok true, s.put request.evaluationId (rowOf w (Answers.selected c request))) :=
      Call.run_commit_eq_ok.mpr hopened
    rw [Call.run_bind_ok hrun]
    exact run_acquire h lost (holds_put s (Answers.selected c request))

end Runs

/-! ## What is written -/

@[simp] theorem refuseOversized_eq_ok {bytes : Bytes} {u : Unit} :
    refuseOversized w bytes = .ok u ↔ bytes.length ≤ maximumRecordBytes := by
  simp [refuseOversized]

/-- The evaluations behind the writing of these records. -/
def putAll (w : SavedCheckPlatform) (records : List SavedCheckEvaluationV1) (s : Evaluations) :
    Evaluations :=
  records.foldl (fun s record => s.put record.evaluationId (rowOf w record)) s

theorem writeAll_of_fits {last : SavedCheckEvaluationV1} {records : List SavedCheckEvaluationV1}
    {s : Evaluations}
    (h : ∀ record ∈ records, (record.canonical w).length ≤ maximumRecordBytes) :
    writeAll w last records s = (.ok last, putAll w records s) := by
  induction records generalizing s with
  | nil => rfl
  | cons record rest ih =>
    have hfits : refuseOversized w (record.canonical w) = .ok () :=
      refuseOversized_eq_ok.mpr (h record List.mem_cons_self)
    rw [writeAll, hfits]
    exact ih fun r hr => h r (List.mem_cons_of_mem _ hr)

theorem fits_of_writeAll {last x : SavedCheckEvaluationV1} {records : List SavedCheckEvaluationV1}
    {s : Evaluations} (h : (writeAll w last records s).1 = .ok x) :
    ∀ record ∈ records, (record.canonical w).length ≤ maximumRecordBytes := by
  induction records generalizing s with
  | nil => simp
  | cons record rest ih =>
    rw [writeAll] at h
    cases hfits : refuseOversized w (record.canonical w) with
    | error e =>
      rw [hfits] at h
      cases h
    | ok u =>
      rw [hfits] at h
      intro r hr
      rcases List.mem_cons.mp hr with rfl | hrest
      · exact refuseOversized_eq_ok.mp hfits
      · exact ih h r hrest

/-- What is written up to a record that does not fit. -/
theorem writeAll_of_refused (last : SavedCheckEvaluationV1) (rest : List SavedCheckEvaluationV1)
    (s : Evaluations) {front : List SavedCheckEvaluationV1} {record : SavedCheckEvaluationV1}
    (hfront : ∀ record ∈ front, (record.canonical w).length ≤ maximumRecordBytes)
    (hrecord : ¬ (record.canonical w).length ≤ maximumRecordBytes) :
    ∃ e, writeAll w last (front ++ record :: rest) s = (.error e, putAll w front s) := by
  induction front generalizing s with
  | nil =>
    cases hrefused : refuseOversized w (record.canonical w) with
    | ok u => exact absurd (refuseOversized_eq_ok.mp hrefused) hrecord
    | error e => exact ⟨e, by rw [List.nil_append, writeAll, hrefused]; rfl⟩
  | cons first front ih =>
    have hfits : refuseOversized w (first.canonical w) = .ok () :=
      refuseOversized_eq_ok.mpr (hfront first List.mem_cons_self)
    rw [List.cons_append, writeAll, hfits]
    exact ih _ fun r hr => hfront r (List.mem_cons_of_mem _ hr)

theorem written_putAll (records : List SavedCheckEvaluationV1) (s : Evaluations) :
    (putAll w records s).written = s.written ++ records.map (rowOf w) := by
  induction records generalizing s with
  | nil => simp [putAll]
  | cons record rest ih =>
    have hrest := ih (s.put record.evaluationId (rowOf w record))
    simp only [putAll, List.foldl_cons] at hrest ⊢
    rw [hrest]
    simp [Evaluations.put]

theorem putAll_concat (records : List SavedCheckEvaluationV1) (last : SavedCheckEvaluationV1)
    (s : Evaluations) : (putAll w (records ++ [last]) s).Holds w last := by
  simp only [putAll, List.foldl_append, List.foldl_cons, List.foldl_nil]
  exact holds_put _ last

/-! ## Sizes -/

theorem length_canonical (record : SavedCheckEvaluationV1) :
    (record.canonical w).length =
      Json.size ((Json.Value.object (record.fields w)).text w.floatText) :=
  length_utf8_ofList _

theorem two_le_size_quoted (s : String) : 2 ≤ Json.size (Json.quoted s) := by
  have hquote : '"'.utf8Size = 1 := by decide
  simp only [Json.quoted, Json.size_cons, Json.size_append, Json.size_nil, hquote]
  omega

/-- A string inside a document is no longer than the document. -/
theorem size_le_of_stringAt (floatText : UInt64 → List Char) {key text : String}
    {value : Json.Value} (h : stringAt [key] value = some text) :
    Json.size (Json.quoted text) ≤ Json.size (value.text floatText) := by
  obtain ⟨field, hfield, htext⟩ : ∃ field, value.get key = some field ∧ field.asStr = some text := by
    simpa [stringAt, Json.Value.pointer, Option.bind_eq_some_iff] using h
  have hstring : field = .string text := by
    cases field <;> simp [Json.Value.asStr] at htext
    rw [htext]
  cases value with
  | object fields =>
    obtain ⟨front, back, rfl, _⟩ := List.lookup_eq_some_iff.mp hfield
    have hmem : (key, field) ∈ front ++ (key, field) :: back := by simp
    have hle := Json.size_le_object floatText hmem
    rw [hstring, Json.Value.text] at hle
    rw [hstring]
    exact hle
  | _ => simp [Json.Value.get] at hfield

/-- The bytes of a document, a text or nothing in a record. -/
theorem size_documentOf (value : Option Json.Value) :
    Json.size ((documentOf value).text w.floatText) =
      match value with
      | some value => Json.size (value.text w.floatText)
      | none => 4 := by
  cases value <;> rfl

theorem size_textOf (text : Option String) :
    Json.size ((textOf text).text w.floatText) =
      match text with
      | some text => Json.size (Json.quoted text)
      | none => 4 := by
  cases text <;> rfl

/-- The bytes of a record that its keys take. -/
def nameBytes : Nat :=
  23 + (["acquisition_acquired_at_unix_ms", "assumption", "authority", "condition",
    "condition_bytes_hex", "condition_sha256", "config_digest", "due_request", "evaluation_id",
    "monitor_inventory", "monitor_inventory_bytes_hex", "monitor_inventory_sha256",
    "nq_request_binding", "nq_result", "nq_result_bytes_hex", "nq_result_sha256", "policy_digest",
    "projection_at", "schema", "slot_id", "source_observed_at", "state"].map
    fun name => Json.size (Json.quoted name) + 1).sum

/-- A record is its keys and its members. -/
theorem length_members (record : SavedCheckEvaluationV1) :
    (record.canonical w).length = nameBytes +
      ((record.fields w).map fun field => Json.size (field.2.text w.floatText)).sum := by
  rw [length_canonical, Json.size_object, nameBytes]
  simp only [SavedCheckEvaluationV1.fields, List.map_cons, List.map_nil, Json.sum_cons,
    List.sum_nil, List.length_cons, List.length_nil]
  omega

section Records

variable (record : SavedCheckEvaluationV1)

theorem length_withState (state : String) :
    (({ record with state } : SavedCheckEvaluationV1).canonical w).length +
        Json.size (Json.quoted record.state) =
      (record.canonical w).length + Json.size (Json.quoted state) := by
  rw [length_members, length_members]
  simp only [SavedCheckEvaluationV1.fields, List.map_cons, List.map_nil, Json.sum_cons,
    List.sum_nil, Json.size_string]
  omega

/-- An inventory, its spelling and its digest, the two times and the binding are put in place of
nothing. -/
theorem length_retainInventory (config : SavedCheckRuntimeConfigV1) (inventory : JsonOutput)
    (acquired : Nat) (observed : String) (hinventory : record.monitorInventory = none)
    (hhex : record.monitorInventoryBytesHex = none)
    (hdigest : record.monitorInventorySha256 = none)
    (hacquired : record.acquisitionAcquiredAtUnixMs = none)
    (hobserved : record.sourceObservedAt = none) (hbinding : record.nqRequestBinding = none) :
    ((record.retainInventory w config inventory acquired observed).canonical w).length + 24 +
        Json.size (Json.quoted record.state) =
      (record.canonical w).length + (inventory.retainedSize w + 2) +
        Json.size (Json.quoted (w.sha256 inventory.bytes)) +
        Json.size ((Json.Value.integer acquired).text w.floatText) +
        Json.size (Json.quoted observed) +
        Json.size ((requestBinding config observed).text w.floatText) +
        Json.size (Json.quoted "nq_bound") := by
  rw [length_members, length_members]
  simp only [SavedCheckEvaluationV1.fields, List.map_cons, List.map_nil, Json.sum_cons,
    List.sum_nil, SavedCheckEvaluationV1.retainInventory, Json.size_string, Json.size_null, size_documentOf,
    size_textOf, size_quoted_hex, hinventory, hhex, hdigest, hacquired, hobserved, hbinding,
    JsonOutput.retainedSize]
  omega

theorem length_retained (c : RunContext) (result : JsonOutput) (hresult : record.nqResult = none)
    (hhex : record.nqResultBytesHex = none) (hdigest : record.nqResultSha256 = none)
    (hprojection : record.projectionAt = none) :
    ((retained w c record result).canonical w).length + 16 + Json.size (Json.quoted record.state) =
      (record.canonical w).length + (result.retainedSize w + 2) +
        Json.size (Json.quoted (w.sha256 result.bytes)) +
        Json.size (Json.quoted (w.toRfc3339Offset c.projectedAt)) +
        Json.size (Json.quoted "result_retained") := by
  rw [length_members, length_members]
  simp only [SavedCheckEvaluationV1.fields, List.map_cons, List.map_nil, Json.sum_cons,
    List.sum_nil, retained, SavedCheckEvaluationV1.retainResult, Json.size_string, size_documentOf,
    size_textOf, size_quoted_hex, hresult, hhex, hdigest, hprojection, JsonOutput.retainedSize]
  omega

theorem length_retainCondition (condition : JsonOutput) (hcondition : record.condition = none)
    (hhex : record.conditionBytesHex = none) (hdigest : record.conditionSha256 = none) :
    ((record.retainCondition w condition).canonical w).length + 12 +
        Json.size (Json.quoted record.state) =
      (record.canonical w).length + (condition.retainedSize w + 2) +
        Json.size (Json.quoted (w.sha256 condition.bytes)) +
        Json.size (Json.quoted "terminal") := by
  rw [length_members, length_members]
  simp only [SavedCheckEvaluationV1.fields, List.map_cons, List.map_nil, Json.sum_cons,
    List.sum_nil, SavedCheckEvaluationV1.retainCondition, Json.size_string, size_documentOf,
    size_textOf, size_quoted_hex, hcondition, hhex, hdigest, JsonOutput.retainedSize]
  omega

end Records

section Sizes

variable {c : RunContext} {policy : SavedCheckScheduleV1} {schedulerClockId : String}
  {at_ : Instant} {request : SavedCheckDueRequestV1} {a : Answers}

theorem size_states :
    Json.size (Json.quoted "selected") = 10 ∧
      Json.size (Json.quoted "acquisition_started") = 21 ∧
      Json.size (Json.quoted "nq_bound") = 10 ∧ Json.size (Json.quoted "nq_started") = 12 ∧
      Json.size (Json.quoted "result_retained") = 17 ∧
      Json.size (Json.quoted "terminal") = 10 := by decide

variable (w c request) in
theorem length_started :
    ((Answers.selected c request).canonical w).length <
      ((Answers.started c request).canonical w).length := by
  obtain ⟨hselected, hstarted, _⟩ := size_states
  have hlength := length_withState (w := w) (Answers.selected c request)
    "acquisition_started"
  change ((Answers.started c request).canonical w).length + Json.size (Json.quoted "selected") =
    _ at hlength
  omega

theorem length_bound (h : Accepted w c policy schedulerClockId at_ request a) :
    ((Answers.started c request).canonical w).length <
      ((a.bound w c request).canonical w).length := by
  have hinventory : 42 ≤ Json.size (a.inventory.value.text w.floatText) := by
    have hverified := h.inventory
    simp only [verifyInventory, bind_eq_ok, refuseIf_eq_ok, Bool.or_eq_false_iff,
      bne_eq_false_iff_eq] at hverified
    obtain ⟨_, ⟨⟨⟨⟨hschema, _⟩, _⟩, _⟩, _⟩, _⟩ := hverified
    exact size_le_of_stringAt w.floatText hschema
  have hdigest := two_le_size_quoted (w.sha256 a.inventory.bytes)
  have hobserved := two_le_size_quoted a.observed
  obtain ⟨_, hstarted, hbound, _⟩ := size_states
  have hlength := length_retainInventory (w := w) (Answers.started c request) c.config
    a.inventory a.acquired a.observed rfl rfl rfl rfl rfl rfl
  change ((a.bound w c request).canonical w).length + 24 +
    Json.size (Json.quoted "acquisition_started") = _ at hlength
  simp only [JsonOutput.retainedSize] at hlength
  omega

variable (w c request a) in
theorem state_asked : (a.asked w c request).state = "nq_bound" ∨
    (a.asked w c request).state = "nq_started" := by
  unfold Answers.asked
  split
  · exact .inr rfl
  · exact .inl rfl

variable (w c request a) in
theorem length_asked (hevaluated : a.evaluated = true) :
    ((a.bound w c request).canonical w).length < ((a.asked w c request).canonical w).length := by
  have hasked : a.asked w c request = { a.bound w c request with state := "nq_started" } := by
    rw [Answers.asked, if_pos hevaluated]
  obtain ⟨_, _, hbound, hstarted, _⟩ := size_states
  have hlength := length_withState (w := w) (a.bound w c request) "nq_started"
  rw [← hasked] at hlength
  change _ + Json.size (Json.quoted "nq_bound") = _ at hlength
  omega

theorem length_resulted (h : Accepted w c policy schedulerClockId at_ request a) :
    ((a.asked w c request).canonical w).length <
      ((a.resulted w c request).canonical w).length := by
  have hresult : 8 ≤ Json.size (a.result.value.text w.floatText) := by
    have hverified := h.result
    simp only [verifyNqResult, bind_eq_ok, okOr_eq_ok, refuseIf_eq_ok] at hverified
    obtain ⟨_, _, outcome, houtcome, _, hknown, _⟩ := hverified
    have hle := size_le_of_stringAt w.floatText houtcome
    refine Nat.le_trans ?_ hle
    have hone := List.contains_iff_mem.mp ((Bool.not_eq_false' _).mp hknown)
    simp only [List.mem_cons, List.not_mem_nil, or_false] at hone
    rcases hone with rfl | rfl | rfl | rfl <;> decide
  have hdigest := two_le_size_quoted (w.sha256 a.result.bytes)
  have hprojection := two_le_size_quoted (w.toRfc3339Offset c.projectedAt)
  obtain ⟨_, _, hbound, hstarted, hretained, _⟩ := size_states
  have hstate : Json.size (Json.quoted (a.asked w c request).state) ≤ 12 := by
    rcases state_asked w c request a with hs | hs
    · rw [hs]
      omega
    · rw [hs]
      omega
  have hempty : (a.asked w c request).nqResult = none ∧
      (a.asked w c request).nqResultBytesHex = none ∧
      (a.asked w c request).nqResultSha256 = none ∧
      (a.asked w c request).projectionAt = none := by
    unfold Answers.asked
    split <;> exact ⟨rfl, rfl, rfl, rfl⟩
  obtain ⟨hnone, hhex, hsha, hat⟩ := hempty
  have hlength := length_retained (w := w) (a.asked w c request) c a.result hnone hhex hsha hat
  change ((a.resulted w c request).canonical w).length + 16 + _ = _ at hlength
  simp only [JsonOutput.retainedSize] at hlength
  omega

theorem length_terminal (h : Accepted w c policy schedulerClockId at_ request a) :
    ((a.resulted w c request).canonical w).length <
      ((a.terminal w c request).canonical w).length := by
  have hcondition : 29 ≤ Json.size (a.condition.value.text w.floatText) := by
    have hverified := h.condition
    simp only [verifyCondition, bind_eq_ok, refuseIf_eq_ok, Bool.or_eq_false_iff,
      bne_eq_false_iff_eq] at hverified
    obtain ⟨_, ⟨hschema, _⟩, _⟩ := hverified
    exact size_le_of_stringAt w.floatText hschema
  have hdigest := two_le_size_quoted (w.sha256 a.condition.bytes)
  have hempty : (a.asked w c request).condition = none ∧
      (a.asked w c request).conditionBytesHex = none ∧
      (a.asked w c request).conditionSha256 = none := by
    unfold Answers.asked
    split <;> exact ⟨rfl, rfl, rfl⟩
  obtain ⟨hnone, hhex, hsha⟩ := hempty
  obtain ⟨_, _, _, _, hretained, hterminal⟩ := size_states
  have hlength := length_retainCondition (w := w) (a.resulted w c request) a.condition
    hnone hhex hsha
  change ((a.terminal w c request).canonical w).length + 12 +
    Json.size (Json.quoted "result_retained") = _ at hlength
  simp only [JsonOutput.retainedSize] at hlength
  omega

theorem mem_records {record : SavedCheckEvaluationV1} (h : record ∈ a.records w c request) :
    record = Answers.selected c request ∨ record = Answers.started c request ∨
      record = a.bound w c request ∨ record = a.asked w c request ∨
      record = a.resulted w c request ∨ record = a.terminal w c request := by
  simp only [Answers.records, Answers.later, List.mem_cons, List.mem_append, List.not_mem_nil,
    or_false] at h
  rcases h with rfl | rfl | rfl | hasked | rfl | rfl
  · exact .inl rfl
  · exact .inr (.inl rfl)
  · exact .inr (.inr (.inl rfl))
  · split at hasked
    · exact .inr (.inr (.inr (.inl (List.mem_singleton.mp hasked))))
    · cases hasked
  · exact .inr (.inr (.inr (.inr (.inl rfl))))
  · exact .inr (.inr (.inr (.inr (.inr rfl))))

/-- The terminal record is the longest of the run. -/
theorem length_le_terminal (h : Accepted w c policy schedulerClockId at_ request a)
    {record : SavedCheckEvaluationV1} (hrecord : record ∈ a.records w c request) :
    (record.canonical w).length ≤ ((a.terminal w c request).canonical w).length := by
  have hstarted := length_started w c request
  have hbound := length_bound h
  have hasked : ((a.bound w c request).canonical w).length ≤
      ((a.asked w c request).canonical w).length := by
    by_cases hevaluated : a.evaluated
    · exact Nat.le_of_lt (length_asked w c request a hevaluated)
    · rw [Answers.asked, if_neg hevaluated]
  have hresulted := length_resulted h
  have hterminal := length_terminal h
  rcases mem_records hrecord with rfl | rfl | rfl | rfl | rfl | rfl <;> omega

variable (w c request a) in
/-- The terminal record is the skeleton with its documents in place of nothing: six times `null`
is four bytes, and each spelling has two quotes. -/
theorem length_skeleton :
    ((a.terminal w c request).canonical w).length + 18 =
      ((a.skeleton w c request).canonical w).length + (a.inventory.retainedSize w +
        a.result.retainedSize w + a.condition.retainedSize w) := by
  have hinventory : (a.asked w c request).monitorInventory = some a.inventory.value ∧
      (a.asked w c request).monitorInventoryBytesHex = some (hex a.inventory.bytes) := by
    unfold Answers.asked
    split <;> exact ⟨rfl, rfl⟩
  obtain ⟨hvalue, hhex⟩ := hinventory
  rw [length_members, length_members]
  simp only [SavedCheckEvaluationV1.fields, List.map_cons, List.map_nil, Json.sum_cons,
    List.sum_nil, Answers.skeleton, Answers.terminal, Answers.resulted, retained,
    SavedCheckEvaluationV1.retainCondition, SavedCheckEvaluationV1.retainResult,
    size_documentOf, size_textOf, size_quoted_hex, hvalue, hhex, JsonOutput.retainedSize]
  omega

end Sizes

/-! ## What is accepted again -/

/-- A role's output is within its bound. -/
theorem length_of_runBounded {roles : Roles} {invocation : RoleInvocation} {output : Output}
    (h : runBounded roles invocation = .ok output) : output.stdout.length ≤ maximumResultBytes := by
  simp only [runBounded, bind_eq_ok, refuseIf_eq_ok, Bool.or_eq_false_iff, decide_eq_false_iff_not,
    Except.ok.injEq] at h
  obtain ⟨exit, _, _, ⟨_, hstdout⟩, rfl⟩ := h
  exact Nat.le_of_not_lt hstdout

theorem nqJson_spec {roles : Roles} {config : SavedCheckRuntimeConfigV1} {tail : List String}
    {output : JsonOutput} (h : nqJson w roles config tail = .ok output) :
    output.bytes.length ≤ maximumResultBytes ∧ w.parseJson output.bytes = .ok output.value := by
  simp only [nqJson, bind_eq_ok, Except.ok.injEq] at h
  obtain ⟨bounded, hbounded, _, _, value, hvalue, rfl⟩ := h
  exact ⟨length_of_runBounded hbounded, hvalue⟩

/-- A document is reproduced from its spelling just when it is the one the bytes are read as. -/
theorem reproduces_iff {value document : Json.Value} {bytes : Bytes} {message : String} {u : Unit}
    (hlength : bytes.length ≤ maximumResultBytes) (hparse : w.parseJson bytes = .ok value) :
    reproduces w (some document) (some (hex bytes)) (some (w.sha256 bytes)) message = .ok u ↔
      document = value := by
  unfold reproduces
  rw [Option.getD_some, unhex_hex hlength]
  simp only [bne_self_eq_false, Bool.false_eq_true, if_false, hparse, bind_eq_ok, Except.ok.injEq,
    exists_eq_left', refuseIf_eq_ok, bne_eq_false_iff_eq, Option.some.injEq]
  exact eq_comm

section Inspection

variable {c : RunContext} {policy : SavedCheckScheduleV1} {schedulerClockId : String}
  {at_ : Instant} {request : SavedCheckDueRequestV1} {a : Answers}

theorem Accepted.inventory_read (h : Accepted w c policy schedulerClockId at_ request a) :
    a.inventory.bytes.length ≤ maximumResultBytes :=
  length_of_runBounded h.collected

theorem Accepted.result_read (h : Accepted w c policy schedulerClockId at_ request a) :
    a.result.bytes.length ≤ maximumResultBytes ∧
      w.parseJson a.result.bytes = .ok a.result.value := by
  have hanswered := h.answered
  simp only [Answered] at hanswered
  split at hanswered
  · exact nqJson_spec hanswered.2
  · exact nqJson_spec hanswered

/-- Every record of the run is a valid one as it was built. -/
theorem validate_records (h : Accepted w c policy schedulerClockId at_ request a)
    {record : SavedCheckEvaluationV1} (hrecord : record ∈ a.records w c request) :
    record.validate w = .ok () := by
  have hinventory : reproduces w (some a.inventory.value) (some (hex a.inventory.bytes))
      (some (w.sha256 a.inventory.bytes)) "retained Monitor inventory bytes do not reproduce" =
      .ok () := (reproduces_iff h.inventory_read h.parsed).mpr rfl
  have hresult : reproduces w (some a.result.value) (some (hex a.result.bytes))
      (some (w.sha256 a.result.bytes)) "retained NQ result bytes do not reproduce" = .ok () :=
    (reproduces_iff h.result_read.1 h.result_read.2).mpr rfl
  have hcondition : reproduces w (some a.condition.value) (some (hex a.condition.bytes))
      (some (w.sha256 a.condition.bytes)) "retained NQ condition bytes do not reproduce" =
      .ok () :=
    (reproduces_iff (nqJson_spec h.projected).1 (nqJson_spec h.projected).2).mpr rfl
  have hdigest : requireDigest c.configDigest = .ok () := by
    simp [requireDigest, h.configDigest]
  have hbound : ∀ state ∈ ["nq_bound", "nq_started"],
      ({ a.bound w c request with state } : SavedCheckEvaluationV1).validate w = .ok () := by
    intro state hstate
    simp only [List.mem_cons, List.not_mem_nil, or_false] at hstate
    rcases hstate with rfl | rfl <;>
      simp [SavedCheckEvaluationV1.validate, Answers.bound, Answers.started, Answers.selected,
        openRecord, states, hdigest, refuseIf, SavedCheckEvaluationV1.retainInventory,
        SavedCheckEvaluationV1.checkAcquired, hinventory]
  rcases mem_records hrecord with rfl | rfl | rfl | rfl | rfl | rfl
  · simp [SavedCheckEvaluationV1.validate, Answers.selected, openRecord, states, hdigest, refuseIf]
  · simp [SavedCheckEvaluationV1.validate, Answers.started, Answers.selected, openRecord, states,
      hdigest, refuseIf]
  · exact hbound "nq_bound" (by simp)
  · unfold Answers.asked
    split
    · exact hbound "nq_started" (by simp)
    · exact hbound "nq_bound" (by simp)
  · unfold Answers.resulted Answers.asked
    split <;>
      simp [SavedCheckEvaluationV1.validate, retained, SavedCheckEvaluationV1.retainResult,
        Answers.bound, Answers.started, Answers.selected, openRecord, states, hdigest, refuseIf,
        SavedCheckEvaluationV1.retainInventory]
  · unfold Answers.terminal Answers.resulted Answers.asked
    split <;>
      simp [SavedCheckEvaluationV1.validate, retained, SavedCheckEvaluationV1.retainResult,
        SavedCheckEvaluationV1.retainCondition, Answers.bound, Answers.started, Answers.selected,
        openRecord, states, hdigest, refuseIf, SavedCheckEvaluationV1.retainInventory,
        SavedCheckEvaluationV1.checkAcquired, SavedCheckEvaluationV1.checkTerminal, hinventory,
        hresult, hcondition]

/-- A document that survives its canonical form. -/
def JsonOutput.Survives (w : SavedCheckPlatform) (output : JsonOutput) : Prop :=
  w.reread output.value = .ok output.value

theorem readBack_records (hbinding : w.reread (requestBinding c.config a.observed) =
      .ok (requestBinding c.config a.observed))
    (hinventory : a.inventory.Survives w) (hresult : a.result.Survives w)
    (hcondition : a.condition.Survives w) {record : SavedCheckEvaluationV1}
    (hrecord : record ∈ a.records w c request) : record.readBack w = .ok record := by
  simp only [JsonOutput.Survives] at hinventory hresult hcondition
  have hread : ∀ value : Json.Value, w.reread value = .ok value →
      (some value).mapM w.reread = .ok (some value) := by
    intro value hvalue
    simp [hvalue]
  rcases mem_records hrecord with rfl | rfl | rfl | rfl | rfl | rfl
  · rfl
  · rfl
  · simp [SavedCheckEvaluationV1.readBack, Answers.bound, Answers.started, Answers.selected,
      openRecord, SavedCheckEvaluationV1.retainInventory, hread, hinventory, hbinding]
  · unfold Answers.asked
    split <;>
      simp [SavedCheckEvaluationV1.readBack, Answers.bound, Answers.started, Answers.selected,
        openRecord, SavedCheckEvaluationV1.retainInventory, hread, hinventory, hbinding]
  · unfold Answers.resulted Answers.asked
    split <;>
      simp [SavedCheckEvaluationV1.readBack, Answers.bound, Answers.started, Answers.selected,
        openRecord, SavedCheckEvaluationV1.retainInventory, retained,
        SavedCheckEvaluationV1.retainResult, hread, hinventory, hbinding, hresult]
  · unfold Answers.terminal Answers.resulted Answers.asked
    split <;>
      simp [SavedCheckEvaluationV1.readBack, Answers.bound, Answers.started, Answers.selected,
        openRecord, SavedCheckEvaluationV1.retainInventory, retained,
        SavedCheckEvaluationV1.retainResult, SavedCheckEvaluationV1.retainCondition, hread,
        hinventory, hbinding, hresult, hcondition]

theorem inspect_rowOf {record read : SavedCheckEvaluationV1} :
    (rowOf w record).inspect w = .ok read ↔
      w.parseRecord (record.canonical w) = .ok read ∧ read.validate w = .ok () := by
  simp only [EvaluationRow.inspect, rowOf, bind_eq_ok, Except.ok.injEq]
  constructor
  · rintro ⟨_, hparse, _, hvalid, rfl⟩
    exact ⟨hparse, hvalid⟩
  · rintro ⟨hparse, hvalid⟩
    exact ⟨read, hparse, _, hvalid, rfl⟩

theorem of_readBack {record read : SavedCheckEvaluationV1} (h : record.readBack w = .ok read) :
    ∃ inventory binding result condition,
      record.monitorInventory.mapM w.reread = .ok inventory ∧
        record.nqResult.mapM w.reread = .ok result ∧
        record.condition.mapM w.reread = .ok condition ∧
        read = { record with
          monitorInventory := inventory
          nqRequestBinding := binding
          nqResult := result
          condition } := by
  simp only [SavedCheckEvaluationV1.readBack, bind_eq_ok, Except.ok.injEq] at h
  obtain ⟨inventory, hinventory, binding, _, result, hresult, condition, hcondition, rfl⟩ := h
  exact ⟨inventory, binding, result, condition, hinventory, hresult, hcondition, rfl⟩

/-- What the validity of a terminal record says of its documents. -/
theorem reproduces_of_validate {record : SavedCheckEvaluationV1}
    (hstate : record.state = "terminal") (h : record.validate w = .ok ()) :
    reproduces w record.monitorInventory record.monitorInventoryBytesHex
        record.monitorInventorySha256 "retained Monitor inventory bytes do not reproduce" =
        .ok () ∧
      reproduces w record.nqResult record.nqResultBytesHex record.nqResultSha256
        "retained NQ result bytes do not reproduce" = .ok () ∧
      reproduces w record.condition record.conditionBytesHex record.conditionSha256
        "retained NQ condition bytes do not reproduce" = .ok () := by
  have hacquired : ["nq_bound", "nq_started", "terminal"].contains "terminal" = true := by decide
  simp only [SavedCheckEvaluationV1.validate, bind_eq_ok, hstate] at h
  obtain ⟨_, _, _, _, hrest⟩ := h
  rw [if_pos hacquired] at hrest
  simp only [if_true, bind_eq_ok, SavedCheckEvaluationV1.checkAcquired,
    SavedCheckEvaluationV1.checkTerminal] at hrest
  obtain ⟨_, ⟨_, _, hinventory⟩, _, _, _, _, _, hresult, hcondition⟩ := hrest
  exact ⟨hinventory, hresult, hcondition⟩

/-- A terminal record that is accepted again holds the documents it was built from. -/
theorem survives_of_inspect (h : Accepted w c policy schedulerClockId at_ request a)
    (hcodec : w.parseRecord ((a.terminal w c request).canonical w) =
      (a.terminal w c request).readBack w)
    {record : SavedCheckEvaluationV1}
    (hinspect : (rowOf w (a.terminal w c request)).inspect w = .ok record) :
    a.inventory.Survives w ∧ a.result.Survives w ∧ a.condition.Survives w := by
  have hacquired : (a.asked w c request).monitorInventory = some a.inventory.value ∧
      (a.asked w c request).monitorInventoryBytesHex = some (hex a.inventory.bytes) ∧
      (a.asked w c request).monitorInventorySha256 = some (w.sha256 a.inventory.bytes) := by
    unfold Answers.asked
    split <;> exact ⟨rfl, rfl, rfl⟩
  obtain ⟨hvalue, hhex, hsha⟩ := hacquired
  obtain ⟨hread, hvalid⟩ := inspect_rowOf.mp hinspect
  rw [hcodec] at hread
  obtain ⟨inventory, binding, result, condition, hinventory, hresult, hcondition, rfl⟩ :=
    of_readBack hread
  have hreread : ∀ {value : Json.Value} {output : Option Json.Value},
      (some value).mapM w.reread = .ok output →
        ∃ document, w.reread value = .ok document ∧ output = some document := by
    intro value output hmap
    cases hdocument : w.reread value with
    | error e => simp [hdocument] at hmap
    | ok document =>
      simp [hdocument] at hmap
      exact ⟨document, rfl, hmap.symm⟩
  obtain ⟨inventoryReproduced, resultReproduced, conditionReproduced⟩ :=
    reproduces_of_validate rfl hvalid
  refine ⟨?_, ?_, ?_⟩
  · have hsome : (some a.inventory.value).mapM w.reread = .ok inventory := hvalue ▸ hinventory
    obtain ⟨document, hdocument, rfl⟩ := hreread hsome
    change reproduces w (some document) (a.asked w c request).monitorInventoryBytesHex
      (a.asked w c request).monitorInventorySha256 _ = _ at inventoryReproduced
    rw [hhex, hsha, reproduces_iff h.inventory_read h.parsed] at inventoryReproduced
    rw [JsonOutput.Survives, hdocument, inventoryReproduced]
  · obtain ⟨document, hdocument, rfl⟩ := hreread hresult
    have hsame := (reproduces_iff h.result_read.1 h.result_read.2).mp resultReproduced
    rw [JsonOutput.Survives, hdocument, hsame]
  · obtain ⟨document, hdocument, rfl⟩ := hreread hcondition
    have hcondition := nqJson_spec h.projected
    have hsame := (reproduces_iff hcondition.1 hcondition.2).mp conditionReproduced
    rw [JsonOutput.Survives, hdocument, hsame]

end Inspection

/-! ## The run of an evaluation -/

/-- The run ended with a terminal record, the row of the evaluation is terminal, and every version
of the row that it committed is accepted again. -/
structure Retained (w : SavedCheckPlatform) (evaluationId : String) (before : Evaluations)
    (outcome : Except String SavedCheckEvaluationV1 × Evaluations) : Prop where
  ended : ∃ record, outcome.1 = .ok record ∧ record.state = "terminal"
  row : ∃ row, outcome.2.rows[evaluationId]? = some row ∧ row.state = "terminal"
  inspected : ∀ row ∈ outcome.2.written.drop before.written.length,
    ∃ record, row.inspect w = .ok record

section Retention

variable {c : RunContext} {policy : SavedCheckScheduleV1} {schedulerClockId : String}
  {at_ : Instant} {request : SavedCheckDueRequestV1} {a : Answers} {s : Evaluations}

/-- The bytes of a record that hold no document are those of the skeleton. -/
theorem fits_iff (h : Accepted w c policy schedulerClockId at_ request a) :
    (∀ record ∈ a.records w c request, (record.canonical w).length ≤ maximumRecordBytes) ↔
      ((a.skeleton w c request).canonical w).length + (a.inventory.retainedSize w +
        a.result.retainedSize w + a.condition.retainedSize w) ≤ maximumRecordBytes + 18 := by
  have hskeleton := length_skeleton w c request a
  have hlast : a.terminal w c request ∈ a.records w c request := by
    simp [Answers.records, Answers.later]
  constructor
  · intro hfits
    have := hfits _ hlast
    omega
  · intro hsize record hrecord
    have := length_le_terminal h hrecord
    omega

variable (w c request a) in
theorem records_eq_concat :
    ∃ front, a.records w c request = front ++ [a.terminal w c request] := by
  refine ⟨Answers.selected c request :: Answers.started c request :: a.bound w c request ::
    ((if a.evaluated then [a.asked w c request] else []) ++ [a.resulted w c request]), ?_⟩
  simp [Answers.records, Answers.later]

/-- An evaluation that every role answers acceptably ends terminal, with every record accepted
again, just when its three documents leave the rest of the record its room in the row and survive
their canonical form. -/
theorem run_retained_iff (h : Accepted w c policy schedulerClockId at_ request a)
    (hfresh : s.rows[request.evaluationId]? = none)
    (hcodec : ∀ record ∈ a.records w c request,
      w.parseRecord (record.canonical w) = record.readBack w)
    (hbinding : w.reread (requestBinding c.config a.observed) =
      .ok (requestBinding c.config a.observed)) (lost : Nat) :
    Retained w request.evaluationId s ((run w c lost policy schedulerClockId at_).run s) ↔
      (((a.skeleton w c request).canonical w).length + (a.inventory.retainedSize w +
          a.result.retainedSize w + a.condition.retainedSize w) ≤ maximumRecordBytes + 18 ∧
        a.inventory.Survives w ∧ a.result.Survives w ∧ a.condition.Survives w) := by
  rw [run_eq_writeAll h lost hfresh, ← fits_iff h]
  obtain ⟨front, hfront⟩ := records_eq_concat w c request a
  constructor
  · rintro ⟨⟨record, hended, _⟩, _, hinspected⟩
    have hfits := fits_of_writeAll hended
    refine ⟨hfits, ?_⟩
    rw [writeAll_of_fits hfits, written_putAll, List.drop_left, hfront] at hinspected
    have hlast : rowOf w (a.terminal w c request) ∈
        (front ++ [a.terminal w c request]).map (rowOf w) := by simp
    obtain ⟨record, hinspect⟩ := hinspected _ hlast
    exact survives_of_inspect h (hcodec _ (by rw [hfront]; simp)) hinspect
  · rintro ⟨hfits, hinventory, hresult, hcondition⟩
    rw [writeAll_of_fits hfits]
    refine ⟨⟨_, rfl, rfl⟩, ⟨rowOf w (a.terminal w c request), ?_, rfl⟩, ?_⟩
    · have hid : (a.terminal w c request).evaluationId = request.evaluationId := evaluationId_asked
      have hholds := putAll_concat (w := w) front (a.terminal w c request) s
      rw [← hfront, Evaluations.Holds, hid] at hholds
      exact hholds
    · rw [written_putAll, List.drop_left]
      intro row hrow
      obtain ⟨record, hrecord, rfl⟩ := List.mem_map.mp hrow
      refine ⟨record, inspect_rowOf.mpr ⟨?_, validate_records h hrecord⟩⟩
      rw [hcodec record hrecord]
      exact readBack_records hbinding hinventory hresult hcondition hrecord

end Retention

end Nightshift.SavedCheck

/-! ## One evaluation on a bench -/

namespace Nightshift.SavedCheckBench

open SavedCheck Checked Diagnostic Canonical CanonicalBench

def observedAt : String := "2026-01-01T00:00:00Z"

def config : SavedCheckRuntimeConfigV1 where
  schema := configSchema
  monitorProgram := "/opt/monitor"
  monitorProgramSha256 := placeholderDigest
  monitorProject := "/srv/project"
  monitorTrustedRoot := "/srv"
  expectedProject := "project-1"
  expectedProducer := "monitor-1"
  expectedManifestDigest := placeholderDigest
  concernId := "concern-1"
  nqProgram := "/opt/nq"
  nqProgramSha256 := placeholderDigest
  nqConfig := "/etc/nq.json"
  nqConfigSha256 := placeholderDigest
  savedCheckTarget := "/srv/target"
  definitionReference := "definition-1"
  definitionDigest := placeholderDigest
  sourceIdentity := "source-1"
  definitionCurrentnessSeconds := 600
  conditionComponent := "component-1"
  conditionKind := "kind-1"
  conditionSubject := "subject-1"
  commandTimeoutSeconds := 30

def policy : SavedCheckScheduleV1 where
  schema := policySchema
  policyId := "policy-1"
  configurationVersion := "1"
  definitionReference := "definition-1"
  definitionDigest := placeholderDigest
  sourceIdentity := "source-1"
  subjectId := "subject-1"
  scopeId := "scope-1"
  schedulerClockId := "clock-1"
  epoch := now
  intervalSeconds := 3600
  admissibleDelaySeconds := 60

def request : SavedCheckDueRequestV1 where
  schema := requestSchema
  policyDigest := digest [1]
  slot :=
    { schema := slotSchemaV1
      slotId := digest [0]
      policyId := "policy-1"
      configurationVersion := digest [1]
      subjectId := "subject-1"
      scopeId := "scope-1"
      schedulerClockId := "clock-1"
      nominalDueAt := now
      latestAdmissible := ⟨"clock-1", now + 60000000000⟩
      occurrence := 0
      trigger := .scheduled
      catchUpOf := none }
  evaluationId := digest [2]
  definitionReference := "definition-1"
  definitionDigest := placeholderDigest
  sourceIdentity := "source-1"

/-! The documents of the roles; the concern of the inventory has a summary of `n` letters. -/

def definition : Json.Value :=
  .object
    [("definition", .object
      [("currentness_seconds", .integer 600), ("source_identity", .string "source-1")]),
      ("definition_digest", .string placeholderDigest), ("reference", .string "definition-1")]

def inventory (n : Nat) : Json.Value :=
  .object
    [("acquisition", .object
      [("acquired_at_unix_ms", .integer 1767225600000),
        ("disposition", .string "ACQUIRED_AND_VALIDATED"),
        ("manifest_digest", .string placeholderDigest), ("producer", .string "monitor-1")]),
      ("concerns", .array
        [.object
          [("declaration", .object [("id", .string "concern-1")]),
            ("monitor_state", .string "OBSERVED"),
            ("observation", .object
              [("observation_present", .bool true), ("observed_at", .string observedAt)]),
            ("summary", .string (String.ofList (List.replicate n 'x')))]]),
      ("project", .string "project-1"),
      ("schema", .string "monitor.project-observation.inventory/v1")]

def detail : Json.Value := .object [("binding", requestBinding config observedAt)]

def result : Json.Value :=
  .object
    [("detail", detail), ("evaluation_id", .string (digest [2])), ("outcome", .string "passed")]

def projectedAt : String := "2026-01-01T00:00:00+00:00"

def condition : Json.Value :=
  .object
    [("caller_mapping", expectedMapping config projectedAt),
      ("evaluation_id", .string (digest [2])),
      ("original_result", .object [("detail", detail), ("outcome", .string "passed")]),
      ("schema", .string "nq.saved-check-condition/v1"),
      ("source_assertion", .object
        [("currentness_seconds", .integer 600), ("identity", .string "source-1"),
          ("observed_at", .string observedAt)])]

/-- No document here holds a double. -/
def floatText (_ : UInt64) : List Char := ['0']

@[irreducible] def spelled (value : Json.Value) : Bytes := utf8 (String.ofList (value.text floatText))

def output (value : Json.Value) : JsonOutput := ⟨value, spelled value⟩

/-- The enrolled programs answer in the canonical form. -/
def roles (n : Nat) : Roles := fun invocation =>
  let exit (value : Json.Value) : Except String RoleExit := .ok ⟨true, spelled value, []⟩
  if invocation.program = config.monitorProgram then exit (inventory n)
  else match invocation.arguments[4]? with
    | some "inspect" => exit definition
    | some "result" => exit (missingResult (digest [2]))
    | some "evaluate" => exit result
    | some "condition" => exit condition
    | _ => .error "unknown command"

def context (n : Nat) : RunContext where
  roles := roles n
  config
  configDigest := digest [3]
  projectedAt := now

def answers (n : Nat) : Answers where
  inventory := output (inventory n)
  acquired := 1767225600000
  observed := observedAt
  evaluated := true
  result := output result
  condition := output condition

def known : List Json.Value := [definition, missingResult (digest [2]), result, condition]

/-- What is read is the one of these that is spelled with the bytes. -/
def readAmong {α : Type} (spell : α → Bytes) (documents : List α) (bytes : Bytes) :
    Except String α :=
  okOr (documents.find? fun document => spell document == bytes)
    "expected value at line 1 column 1"

def platform (n : Nat) (parseRecord : Bytes → Except String SavedCheckEvaluationV1) :
    SavedCheckPlatform where
  toRuntimePlatform := RuntimeBench.platform
  parseJson := readAmong spelled (inventory n :: known)
  scheduleCanonical := fun _ => [1]
  requestIdentityCanonical := fun _ _ => [2]
  floatText
  parseRecord
  reread := .ok
  toRfc3339Offset := fun at_ => if at_ = now then projectedAt else ""

def canonicalOf (n : Nat) (record : SavedCheckEvaluationV1) : Bytes :=
  record.canonical (platform n fun _ => .error "")

def recordsOf (n : Nat) : List SavedCheckEvaluationV1 :=
  (answers n).records (platform n fun _ => .error "") (context n) request

/-- The platform reads the records of the evaluation. -/
def reading (n : Nat) : SavedCheckPlatform := platform n (readAmong (canonicalOf n) (recordsOf n))

theorem readAmong_self {α : Type} {spell : α → Bytes} {documents : List α} {document : α}
    (hmem : document ∈ documents)
    (hdistinct : ∀ other ∈ documents, spell other = spell document → other = document) :
    readAmong spell documents (spell document) = .ok document := by
  cases hfind : documents.find? (fun other => spell other == spell document) with
  | none =>
    have hself := List.find?_eq_none.mp hfind document hmem
    exact absurd (beq_self_eq_true _) hself
  | some other =>
    have hspelled : spell other = spell document := by
      have := List.find?_some hfind
      rwa [beq_iff_eq] at this
    have hsame := hdistinct other (List.mem_of_find?_eq_some hfind) hspelled
    simp [readAmong, hfind, hsame, okOr]

/-- Each digest here is one digit behind its tag. -/
theorem size_quoted_digests : ∀ text ∈ placeholderDigest :: digests,
    Json.size (Json.quoted text) = 73 := by
  let tag : List Char := ['s', 'h', 'a', '2', '5', '6', ':']
  let digits : List Char :=
    ['0', '1', '2', '3', '4', '5', '6', '7', '8', '9', 'a', 'b', 'c', 'd', 'e', 'f']
  have hspelled : (placeholderDigest :: digests).all (fun text => digits.any fun d =>
      text == String.ofList (tag ++ List.replicate 64 d)) = true := by decide +kernel
  have hplain : (tag ++ digits).all (fun c => Json.escapeChar c == [c] && c.utf8Size == 1) =
      true := by decide +kernel
  intro text htext
  obtain ⟨d, hd, hspelled⟩ := List.any_eq_true.mp (List.all_eq_true.mp hspelled text htext)
  obtain rfl := beq_iff_eq.mp hspelled
  have hchars : ∀ c ∈ tag ++ List.replicate 64 d, Json.escapeChar c = [c] ∧ c.utf8Size = 1 := by
    intro c hc
    have hmem : c ∈ tag ++ digits := by
      rcases List.mem_append.mp hc with hc | hc
      · exact List.mem_append_left digits hc
      · rw [List.eq_of_mem_replicate hc]
        exact List.mem_append_right tag hd
    have hone := List.all_eq_true.mp hplain c hmem
    rw [Bool.and_eq_true] at hone
    exact ⟨beq_iff_eq.mp hone.1, beq_iff_eq.mp hone.2⟩
  rw [Json.size_quoted_of_plain (fun c hc => (hchars c (by rwa [String.toList_ofList] at hc)).1),
    String.toList_ofList, Json.size_of_ascii fun c hc => (hchars c hc).2]
  simp [tag]

/-- The sizes of the documents tell them apart. -/
theorem known_sizes :
    known.map (fun value => Json.size (value.text floatText)) = [192, 132, 369, 675] := by
  decide +kernel

/-- What the documents and records here come to, in bytes. -/
theorem closed_sizes :
    Json.size ((inventory 0).text floatText) = 449 ∧
      Json.size ((slotValue (platform 0 fun _ => .error "") request.slot).text floatText) ≤ 1000 ∧
      Json.size ((requestBinding config observedAt).text floatText) ≤ 1000 ∧
      Json.size ((Json.Value.integer (1767225600000 : Nat)).text floatText) ≤ 100 ∧
      nameBytes ≤ 1000 := by
  refine ⟨?_, ?_, ?_, ?_, ?_⟩ <;> decide +kernel

theorem size_text {text : String} (h : text ∈ ["none", "terminal", projectedAt, recordSchema,
    observedAt, requestSchema, "definition-1", "source-1", "definition_digest",
    "definition_reference", "evaluation_id", "policy_digest", "schema", "slot", "source_identity",
    (openRecord (digest [3]) request).assumption]) : Json.size (Json.quoted text) ≤ 200 := by
  revert text
  decide +kernel

theorem size_summary (n : Nat) :
    Json.size (Json.quoted (String.ofList (List.replicate n 'x'))) = n + 2 := by
  have hplain : ∀ c ∈ (String.ofList (List.replicate n 'x')).toList, Json.escapeChar c = [c] := by
    intro c hc
    rw [String.toList_ofList] at hc
    rw [List.eq_of_mem_replicate hc]
    decide
  have hascii : ∀ c ∈ List.replicate n 'x', c.utf8Size = 1 := by
    intro c hc
    rw [List.eq_of_mem_replicate hc]
    decide
  rw [Json.size_quoted_of_plain hplain, String.toList_ofList, Json.size_of_ascii hascii,
    List.length_replicate]

/-- Each letter of the summary is a byte of the inventory. -/
theorem size_inventory (n : Nat) :
    Json.size ((inventory n).text floatText) = 449 + n := by
  have hempty := closed_sizes.1
  have hzero := size_summary 0
  rw [← hempty]
  simp only [inventory, Json.size_object, List.map_cons, List.map_nil, Json.sum_cons, List.sum_nil,
    List.length_cons, List.length_nil, Json.size_array, Json.size_string, size_summary]
  omega

theorem length_spelled (value : Json.Value) :
    (spelled value).length = Json.size (value.text floatText) := by
  unfold spelled
  exact length_utf8_ofList _

theorem size_known : ∀ value ∈ known, Json.size (value.text floatText) < 749 := by
  intro value hvalue
  have hmem := List.mem_map_of_mem (f := fun value => Json.size (value.text floatText)) hvalue
  rw [known_sizes] at hmem
  simp only [List.mem_cons, List.not_mem_nil, or_false] at hmem
  omega

/-- From 300 letters on, the inventory is longer than every other document. -/
theorem eq_of_spelled {n : Nat} (hn : 300 ≤ n) {value other : Json.Value}
    (hvalue : value ∈ inventory n :: known) (hother : other ∈ inventory n :: known)
    (h : spelled other = spelled value) : other = value := by
  have hnodup : (known.map fun value => Json.size (value.text floatText)).Nodup := by
    rw [known_sizes]
    decide
  have hlength := congrArg List.length h
  rw [length_spelled, length_spelled] at hlength
  rcases List.mem_cons.mp hvalue with rfl | hvalue
  · rcases List.mem_cons.mp hother with rfl | hother
    · rfl
    · have := size_known other hother
      rw [size_inventory] at hlength
      omega
  · rcases List.mem_cons.mp hother with rfl | hother
    · have := size_known value hvalue
      rw [size_inventory] at hlength
      omega
    · exact List.inj_on_of_nodup_map hnodup hother hvalue hlength

variable {n : Nat} (parseRecord : Bytes → Except String SavedCheckEvaluationV1)

theorem parseJson_spelled (hn : 300 ≤ n) {value : Json.Value}
    (hvalue : value ∈ inventory n :: known) :
    (platform n parseRecord).parseJson (spelled value) = .ok value :=
  readAmong_self hvalue fun _ hother h => eq_of_spelled hn hvalue hother h

/-- An answer of NQ that is one of the documents is read as it. -/
theorem nqJson_known (hn : 300 ≤ n) {value : Json.Value} {tail : List String} (hvalue : value ∈ known)
    (hroles : roles n (nqInvocation config tail) = .ok ⟨true, spelled value, []⟩) :
    nqJson (platform n parseRecord) (roles n) config tail = .ok (output value) := by
  have hshort := size_known value hvalue
  rw [← length_spelled] at hshort
  have hlength : ¬ (spelled value).length > maximumResultBytes := by
    simp only [maximumResultBytes]
    omega
  have hparsed := parseJson_spelled parseRecord hn
    (List.mem_cons_of_mem _ hvalue)
  simp [nqJson, runBounded, hroles, refuseIf, hlength, hparsed, output]

theorem collected (hbound : n ≤ 1000000) :
    runBounded (context n).roles (collectInvocation (context n).config) =
      .ok ⟨true, (answers n).inventory.bytes⟩ := by
  have hroles : roles n (collectInvocation config) = .ok ⟨true, spelled (inventory n), []⟩ := by
    simp [roles, collectInvocation]
  have hlength : ¬ (spelled (inventory n)).length > maximumResultBytes := by
    rw [length_spelled, size_inventory]
    simp only [maximumResultBytes]
    omega
  simp only [context, answers, output, runBounded, hroles, ok_bind]
  simp [refuseIf, hlength]

/-- The selection uses the digests and the clock of the platform, and no reader. -/
theorem select_congr {w w' : SavedCheckPlatform} {at_ : Instant}
    (hruntime : w.toRuntimePlatform = w'.toRuntimePlatform)
    (hschedule : w.scheduleCanonical = w'.scheduleCanonical)
    (hrequest : w.requestIdentityCanonical = w'.requestIdentityCanonical) :
    policy.select w "clock-1" at_ = policy.select w' "clock-1" at_ := by
  simp only [SavedCheckScheduleV1.select, SavedCheckScheduleV1.slotAt, hruntime, hschedule,
    hrequest]

/-- Of the record, the documents of NQ are compared with the evaluation and its binding. -/
theorem verifyNqResult_congr {record other : SavedCheckEvaluationV1} {result : Json.Value}
    (hid : record.evaluationId = other.evaluationId)
    (hbinding : record.nqRequestBinding = other.nqRequestBinding) :
    verifyNqResult record result = verifyNqResult other result := by
  unfold verifyNqResult
  rw [hid, hbinding]

theorem verifyCondition_congr {record other : SavedCheckEvaluationV1} {at_ : String}
    {result condition : Json.Value} (hid : record.evaluationId = other.evaluationId)
    (hbinding : record.nqRequestBinding = other.nqRequestBinding) :
    verifyCondition config record at_ result condition =
      verifyCondition config other at_ result condition := by
  unfold verifyCondition
  rw [hid, hbinding]

/-- What the documents of NQ are compared with. -/
def question : SavedCheckEvaluationV1 :=
  { openRecord (digest [3]) request with
    nqRequestBinding := some (requestBinding config observedAt) }

/-- What the checks of the run say of the documents here. -/
theorem closed_checks :
    config.validate = .ok () ∧ isSha256Id (digest [3]) = true ∧
      policy.select (platform 0 fun _ => .error "") "clock-1" now = .ok (.due request) ∧
      (stringAt ["reference"] definition != some config.definitionReference ||
        stringAt ["definition_digest"] definition != some config.definitionDigest ||
        stringAt ["definition", "source_identity"] definition != some config.sourceIdentity ||
        (definition.pointer ["definition", "currentness_seconds"]).bind (·.asU64) !=
          some config.definitionCurrentnessSeconds) = false ∧
      PostureBench.platform.parseFromRfc3339 observedAt = .ok now ∧
      stringAt ["outcome"] result ≠ some "claimed" ∧
      verifyNqResult question result = .ok () ∧
      verifyCondition config question projectedAt result condition = .ok () := by
  refine ⟨?_, ?_, ?_, ?_, ?_, ?_, ?_, ?_⟩ <;> decide +kernel

theorem verified_inventory :
    verifyInventory (platform n parseRecord) config (inventory n) =
      .ok (1767225600000, observedAt) := by
  have htime : (platform n parseRecord).parseFromRfc3339 observedAt = .ok now := by
    exact closed_checks.2.2.2.2.1
  simp [verifyInventory, stringAt, Json.Value.pointer, Json.Value.get, Json.Value.asStr,
    Json.Value.asU64, Json.Value.asArray, Json.Value.asBool, inventory, config, List.lookup,
    okOr, refuseIf, htime, mapErr]

theorem defined (hn : 300 ≤ n) : verifyDefinition (platform n parseRecord) (roles n) config = .ok () := by
  have hread : nqJson (platform n parseRecord) (roles n) config
      ["saved-check", "inspect", config.definitionReference] = .ok (output definition) :=
    nqJson_known parseRecord hn (by simp [known]) (by simp [roles, nqInvocation, config])
  simp only [verifyDefinition, hread, ok_bind, output, refuseIf_eq_ok]
  exact closed_checks.2.2.2.1

theorem due : policy.select (platform n parseRecord) "clock-1" now = .ok (.due request) := by
  rw [← closed_checks.2.2.1]
  exact select_congr rfl rfl rfl

theorem resulted :
    verifyNqResult ((answers n).bound (platform n parseRecord) (context n) request) result =
      .ok () := by
  have hclosed := closed_checks.2.2.2.2.2.2.1
  have hid : ((answers n).bound (platform n parseRecord) (context n) request).evaluationId =
      question.evaluationId := rfl
  have hbinding : ((answers n).bound (platform n parseRecord) (context n) request).nqRequestBinding =
      question.nqRequestBinding := rfl
  rw [verifyNqResult_congr hid hbinding, hclosed]

theorem conditioned :
    verifyCondition config ((answers n).resulted (platform n parseRecord) (context n) request)
      ((platform n parseRecord).toRfc3339Offset now) result condition = .ok () := by
  have hclosed := closed_checks.2.2.2.2.2.2.2
  have hat : (platform n parseRecord).toRfc3339Offset now = projectedAt := by simp [platform]
  have hid : ((answers n).resulted (platform n parseRecord) (context n) request).evaluationId =
      question.evaluationId := evaluationId_asked
  have hbinding :
      ((answers n).resulted (platform n parseRecord) (context n) request).nqRequestBinding =
        question.nqRequestBinding := nqRequestBinding_asked
  rw [hat, verifyCondition_congr hid hbinding, hclosed]

theorem accepted (hn : 300 ≤ n) (hbound : n ≤ 1000000) :
    Accepted (platform n parseRecord) (context n) policy "clock-1" now request (answers n) := by
  have hasked : nqJson (platform n parseRecord) (roles n) config
      ["saved-check", "result", "--evaluation-id", request.evaluationId] =
      .ok (output (missingResult (digest [2]))) :=
    nqJson_known parseRecord hn (by simp [known]) (by simp [roles, nqInvocation, config])
  have hevaluated : nqJson (platform n parseRecord) (roles n) config
      ["saved-check", "evaluate", config.definitionReference, "--evaluation-id",
        request.evaluationId, "--target", config.savedCheckTarget, "--source-observed-at",
        observedAt] = .ok (output result) :=
    nqJson_known parseRecord hn (by simp [known]) (by simp [roles, nqInvocation, config])
  have hprojected : nqJson (platform n parseRecord) (roles n) config
      ["saved-check", "condition", "--evaluation-id", request.evaluationId, "--component",
        config.conditionComponent, "--kind", config.conditionKind, "--subject",
        config.conditionSubject, "--at", (platform n parseRecord).toRfc3339Offset now] =
      .ok (output condition) :=
    nqJson_known parseRecord hn (by simp [known]) (by simp [roles, nqInvocation, config])
  exact
    { config := closed_checks.1
      configDigest := closed_checks.2.1
      reference := rfl
      digest := rfl
      source := rfl
      due := due parseRecord
      definition := defined parseRecord hn
      collected := collected hbound
      parsed := parseJson_spelled parseRecord hn List.mem_cons_self
      inventory := verified_inventory parseRecord
      answered := ⟨⟨_, hasked⟩, hevaluated⟩
      outcome := closed_checks.2.2.2.2.2.1
      result := resulted parseRecord
      projected := hprojected
      condition := conditioned parseRecord }

/-- The records of the evaluation grow, so that no two have the same canonical form. -/
theorem eq_of_canonical (hn : 300 ≤ n) (hbound : n ≤ 1000000)
    {record other : SavedCheckEvaluationV1}
    (hrecord : record ∈ (answers n).records (platform n parseRecord) (context n) request)
    (hother : other ∈ (answers n).records (platform n parseRecord) (context n) request)
    (h : other.canonical (platform n parseRecord) = record.canonical (platform n parseRecord)) :
    other = record := by
  have haccepted := accepted parseRecord hn hbound
  have hstarted := length_started (platform n parseRecord) (context n) request
  have hafter := length_bound haccepted
  have hasked := length_asked (platform n parseRecord) (context n) request (answers n) rfl
  have hresulted := length_resulted haccepted
  have hterminal := length_terminal haccepted
  have hlength := congrArg List.length h
  rcases mem_records hrecord with rfl | rfl | rfl | rfl | rfl | rfl <;>
    rcases mem_records hother with rfl | rfl | rfl | rfl | rfl | rfl <;>
    first
    | rfl
    | omega

/-! What is written does not depend on the reader of the records. -/

/-- No document here is changed by its canonical form. -/
theorem readBack_platform (record : SavedCheckEvaluationV1) :
    record.readBack (platform n parseRecord) = .ok record := by
  have hread : ∀ document : Option Json.Value,
      document.mapM (platform n parseRecord).reread = .ok document := by
    intro document
    cases document <;> rfl
  simp only [SavedCheckEvaluationV1.readBack, hread]
  rfl

theorem parseRecord_platform : (platform n parseRecord).parseRecord = parseRecord := rfl

theorem canonical_platform (record : SavedCheckEvaluationV1)
    (other : Bytes → Except String SavedCheckEvaluationV1) :
    record.canonical (platform n other) = record.canonical (platform n parseRecord) := by
  simp only [SavedCheckEvaluationV1.canonical, SavedCheckEvaluationV1.fields, dueRequestValue,
    slotValue, platform]

theorem records_platform (other : Bytes → Except String SavedCheckEvaluationV1) :
    (answers n).records (platform n other) (context n) request =
      (answers n).records (platform n parseRecord) (context n) request := by
  simp only [Answers.records, Answers.later, Answers.terminal, Answers.resulted, Answers.asked,
    Answers.bound, retained, SavedCheckEvaluationV1.retainInventory,
    SavedCheckEvaluationV1.retainResult, SavedCheckEvaluationV1.retainCondition, platform]

theorem readRecord_canonical (hn : 300 ≤ n) (hbound : n ≤ 1000000)
    {record : SavedCheckEvaluationV1} (hrecord : record ∈ recordsOf n) :
    readAmong (canonicalOf n) (recordsOf n) (canonicalOf n record) = .ok record := by
  refine readAmong_self hrecord ?_
  intro other hother h
  unfold recordsOf at hrecord hother
  unfold canonicalOf at h
  exact eq_of_canonical _ hn hbound hrecord hother h

theorem parseRecord_canonical (hn : 300 ≤ n) (hbound : n ≤ 1000000) :
    ∀ record ∈ (answers n).records (reading n) (context n) request,
      (reading n).parseRecord (record.canonical (reading n)) = record.readBack (reading n) := by
  intro record hrecord
  have hsame : record.readBack (reading n) = .ok record := readBack_platform _ record
  have hcanonical : record.canonical (reading n) = canonicalOf n record := by
    unfold reading canonicalOf
    exact canonical_platform _ record _
  have hmem : record ∈ recordsOf n := by
    unfold reading at hrecord
    rw [records_platform fun _ => .error ""] at hrecord
    exact hrecord
  have hparse : (reading n).parseRecord = readAmong (canonicalOf n) (recordsOf n) := by
    unfold reading
    exact parseRecord_platform _
  have hread := readRecord_canonical hn hbound hmem
  rw [hcanonical, hparse]
  exact hread.trans hsame.symm

theorem accepted_reading (hn : 300 ≤ n) (hbound : n ≤ 1000000) :
    Accepted (reading n) (context n) policy "clock-1" now request (answers n) := by
  unfold reading
  exact accepted _ hn hbound

theorem reread_reading (value : Json.Value) : (reading n).reread value = .ok value := by
  unfold reading
  rfl

theorem retainedSize_output (value : Json.Value) :
    (output value).retainedSize (reading n) = 3 * Json.size (value.text floatText) := by
  have hbytes : (output value).bytes.length = Json.size (value.text floatText) :=
    length_spelled value
  have hvalue : Json.size ((output value).value.text (reading n).floatText) =
      Json.size (value.text floatText) := by
    unfold reading
    rfl
  rw [JsonOutput.retainedSize, hbytes, hvalue]
  omega

theorem size_digest (bytes : Bytes) : Json.size (Json.quoted (digest bytes)) = 73 := by
  refine size_quoted_digests _ ?_
  unfold digest
  rw [List.getD_eq_getElem?_getD]
  cases hget : digests[(bytes.map (·.toNat)).sum]? with
  | none => exact List.mem_cons_self
  | some text => exact List.mem_cons_of_mem _ (List.mem_of_getElem? hget)

theorem floatText_reading : (reading n).floatText = floatText := by
  unfold reading
  rfl

theorem slotValue_reading (slot : RecurrenceSlotV1) :
    slotValue (reading n) slot = slotValue (platform 0 fun _ => .error "") slot := by
  simp only [slotValue, reading, platform]

theorem size_digests : Json.size (Json.quoted request.evaluationId) = 73 ∧
    Json.size (Json.quoted request.policyDigest) = 73 ∧
    Json.size (Json.quoted request.slot.slotId) = 73 :=
  ⟨size_digest _, size_digest _, size_digest _⟩

theorem size_dueRequest : Json.size ((dueRequestValue (reading n) request).text
    (reading n).floatText) ≤ 4000 := by
  have hslot : Json.size ((slotValue (reading n) request.slot).text (reading n).floatText) ≤
      1000 := by
    rw [floatText_reading, slotValue_reading]
    exact closed_sizes.2.1
  obtain ⟨hevaluation, hpolicy, _⟩ := size_digests
  have hdefinition : Json.size (Json.quoted request.definitionDigest) = 73 :=
    size_quoted_digests _ List.mem_cons_self
  have hreference : Json.size (Json.quoted request.definitionReference) ≤ 200 :=
    @size_text "definition-1" (by simp)
  have hsource : Json.size (Json.quoted request.sourceIdentity) ≤ 200 :=
    @size_text "source-1" (by simp)
  have hschema : Json.size (Json.quoted request.schema) ≤ 200 :=
    @size_text requestSchema (by simp)
  have h1 : Json.size (Json.quoted "definition_digest") ≤ 200 := size_text (by simp)
  have h2 : Json.size (Json.quoted "definition_reference") ≤ 200 := size_text (by simp)
  have h3 : Json.size (Json.quoted "evaluation_id") ≤ 200 := size_text (by simp)
  have h4 : Json.size (Json.quoted "policy_digest") ≤ 200 := size_text (by simp)
  have h5 : Json.size (Json.quoted "schema") ≤ 200 := size_text (by simp)
  have h6 : Json.size (Json.quoted "slot") ≤ 200 := size_text (by simp)
  have h7 : Json.size (Json.quoted "source_identity") ≤ 200 := size_text (by simp)
  simp only [dueRequestValue, Json.size_object, List.map_cons, List.map_nil, Json.sum_cons,
    List.sum_nil, List.length_cons, List.length_nil, Json.size_string]
  linarith

theorem size_requestBinding : Json.size ((requestBinding config observedAt).text
    (reading n).floatText) ≤ 1000 := by
  rw [floatText_reading]
  exact closed_sizes.2.2.1

theorem size_acquired : Json.size ((Json.Value.integer (1767225600000 : Nat)).text
    (reading n).floatText) ≤ 100 := by
  rw [floatText_reading]
  exact closed_sizes.2.2.2.1

theorem length_skeleton_reading :
    (((answers n).skeleton (reading n) (context n) request).canonical (reading n)).length ≤
      10000 := by
  have hsha : ∀ bytes, (reading n).sha256 bytes = digest bytes := by
    unfold reading
    exact fun _ => rfl
  have htime : (reading n).toRfc3339Offset now = projectedAt := by
    unfold reading
    simp [platform]
  have hdue := size_dueRequest (n := n)
  have hbinding := size_requestBinding (n := n)
  have hacquired := size_acquired (n := n)
  have hnames := closed_sizes.2.2.2.2
  have hnone : Json.size (Json.quoted "none") ≤ 200 := size_text (by simp)
  have hterminal : Json.size (Json.quoted "terminal") ≤ 200 := size_text (by simp)
  have hprojected : Json.size (Json.quoted projectedAt) ≤ 200 := size_text (by simp)
  have hschema : Json.size (Json.quoted recordSchema) ≤ 200 := size_text (by simp)
  have hobserved : Json.size (Json.quoted observedAt) ≤ 200 := size_text (by simp)
  have hassumption : Json.size (Json.quoted (openRecord (digest [3]) request).assumption) ≤ 200 :=
    size_text (by simp)
  obtain ⟨hevaluation, hpolicy, hslot⟩ := size_digests
  simp only [openRecord] at hassumption
  rw [length_members]
  simp only [SavedCheckEvaluationV1.fields, List.map_cons, List.map_nil, Json.sum_cons,
    List.sum_nil, Answers.skeleton, Answers.terminal, Answers.resulted, retained,
    SavedCheckEvaluationV1.retainCondition, SavedCheckEvaluationV1.retainResult, Answers.asked,
    SavedCheckEvaluationV1.retainInventory, Answers.bound,
    Answers.started, Answers.selected, openRecord, answers, context, if_true,
    size_documentOf, size_textOf, Json.size_string, hsha, size_digest, htime]
  linarith

theorem empty_fresh : Evaluations.empty.rows[request.evaluationId]? = none := by
  simp [Evaluations.empty]

/-- A summary of 300 letters is retained. -/
theorem short_inventory_is_retained :
    Retained (reading 300) request.evaluationId Evaluations.empty
      ((run (reading 300) (context 300) 0 policy "clock-1" now).run Evaluations.empty) := by
  have haccepted := accepted_reading (n := 300) (by decide) (by decide)
  have hskeleton := length_skeleton_reading (n := 300)
  have hinventory : (answers 300).inventory.retainedSize (reading 300) =
      3 * Json.size ((inventory 300).text floatText) := retainedSize_output (inventory 300)
  have hresult : (answers 300).result.retainedSize (reading 300) =
      3 * Json.size (result.text floatText) := retainedSize_output result
  have hcondition : (answers 300).condition.retainedSize (reading 300) =
      3 * Json.size (condition.text floatText) := retainedSize_output condition
  have hsmall := size_known result (by simp [known])
  have hother := size_known condition (by simp [known])
  rw [size_inventory] at hinventory
  have hsize : (((answers 300).skeleton (reading 300) (context 300) request).canonical
      (reading 300)).length + ((answers 300).inventory.retainedSize (reading 300) +
        (answers 300).result.retainedSize (reading 300) +
        (answers 300).condition.retainedSize (reading 300)) ≤ maximumRecordBytes + 18 := by
    rw [hinventory, hresult, hcondition]
    simp only [maximumRecordBytes]
    omega
  have hbinding : (reading 300).reread
      (requestBinding (context 300).config (answers 300).observed) =
      .ok (requestBinding (context 300).config (answers 300).observed) := reread_reading _
  have hiff := run_retained_iff haccepted empty_fresh
    (parseRecord_canonical (by decide) (by decide)) hbinding 0
  exact hiff.mpr ⟨hsize, reread_reading _, reread_reading _, reread_reading _⟩

theorem length_started_reading :
    ((Answers.started (context n) request).canonical (reading n)).length ≤ 10000 := by
  have hdue := size_dueRequest (n := n)
  have hnames := closed_sizes.2.2.2.2
  have hnone : Json.size (Json.quoted "none") ≤ 200 := size_text (by simp)
  have hschema : Json.size (Json.quoted recordSchema) ≤ 200 := size_text (by simp)
  have hassumption : Json.size (Json.quoted (openRecord (digest [3]) request).assumption) ≤ 200 :=
    size_text (by simp)
  have hstate := size_states.2.1
  obtain ⟨hevaluation, hpolicy, hslot⟩ := size_digests
  simp only [openRecord] at hassumption
  rw [length_members]
  simp only [SavedCheckEvaluationV1.fields, List.map_cons, List.map_nil, Json.sum_cons,
    List.sum_nil, Answers.started, Answers.selected, openRecord, context, size_documentOf,
    size_textOf, Json.size_string, Json.size_null, size_digest]
  linarith

/-- An inventory that is within the bound of its role and not within the bound of the row: the
Monitor has been read once, and the evaluation stays where the reading started. -/
theorem not_retained (hn : 350000 ≤ n) (hn' : n ≤ 1000000) :
    Accepted (reading n) (context n) policy "clock-1" now request (answers n) ∧
      Evaluations.empty.rows[request.evaluationId]? = none ∧
      ¬ Retained (reading n) request.evaluationId Evaluations.empty
        ((run (reading n) (context n) 0 policy "clock-1" now).run Evaluations.empty) ∧
      ((run (reading n) (context n) 0 policy "clock-1" now).run
        Evaluations.empty).2.Holds (reading n) (Answers.started (context n) request) := by
  have haccepted := accepted_reading (n := n) (by omega) hn'
  have hinventory : (answers n).inventory.retainedSize (reading n) =
      3 * Json.size ((inventory n).text floatText) := retainedSize_output (inventory n)
  rw [size_inventory] at hinventory
  have hstarted := length_started_reading (n := n)
  have hselected := length_started (reading n) (context n) request
  have hbound := length_retainInventory (w := reading n)
    (Answers.started (context n) request) (context n).config (answers n).inventory
    (answers n).acquired (answers n).observed rfl rfl rfl rfl rfl rfl
  have hstate := size_states.2.1
  have hrefused : ¬ (((answers n).bound (reading n) (context n) request).canonical
      (reading n)).length ≤ maximumRecordBytes := by
    change (((answers n).bound (reading n) (context n) request).canonical
      (reading n)).length + 24 + Json.size (Json.quoted "acquisition_started") = _ at hbound
    simp only [maximumRecordBytes]
    intro hfits
    rw [hinventory, hstate] at hbound
    linarith
  have hfront : ∀ record ∈ [Answers.selected (context n) request,
      Answers.started (context n) request],
      (record.canonical (reading n)).length ≤ maximumRecordBytes := by
    intro record hrecord
    simp only [List.mem_cons, List.not_mem_nil, or_false] at hrecord
    simp only [maximumRecordBytes]
    rcases hrecord with rfl | rfl <;> linarith
  obtain ⟨e, hwritten⟩ := writeAll_of_refused
    ((answers n).terminal (reading n) (context n) request)
    ((answers n).later (reading n) (context n) request) Evaluations.empty hfront hrefused
  have hrun : (run (reading n) (context n) 0 policy "clock-1" now).run
      Evaluations.empty = (.error e, putAll (reading n)
        [Answers.selected (context n) request, Answers.started (context n) request]
        Evaluations.empty) :=
    (run_eq_writeAll haccepted 0 empty_fresh).trans hwritten
  rw [hrun]
  refine ⟨haccepted, empty_fresh, ?_, ?_⟩
  · rintro ⟨⟨record, hended, _⟩, _⟩
    cases hended
  · exact putAll_concat [Answers.selected (context n) request] _ Evaluations.empty

theorem long_inventory_is_not_retained :
    Accepted (reading 400000) (context 400000) policy "clock-1" now request (answers 400000) ∧
      Evaluations.empty.rows[request.evaluationId]? = none ∧
      ¬ Retained (reading 400000) request.evaluationId Evaluations.empty
        ((run (reading 400000) (context 400000) 0 policy "clock-1" now).run Evaluations.empty) ∧
      ((run (reading 400000) (context 400000) 0 policy "clock-1" now).run
        Evaluations.empty).2.Holds (reading 400000) (Answers.started (context 400000) request) :=
  not_retained (by decide) (by decide)

end Nightshift.SavedCheckBench
