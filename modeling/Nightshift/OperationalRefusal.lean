import Nightshift.OperationalBench

/-!
# Retention of qualified refusals

The NQ artifact and the embedded lineage are validated by two layers. What the
first one requires of a refused input the second one accepts, but for the two
time inversions and for more than 64 contradictions of one subject.
-/

namespace Nightshift

open Checked OperationalLineage

namespace OperationalLineage

variable {w : LineagePlatform}

/-! ## Names of the checks do not matter -/

theorem digest_eq_ok {name value : String} : digest name value = .ok () ↔ isDigest value = true := by
  rw [digest, isDigest]
  cases stripPrefix "sha256:" value with
  | none => simp
  | some hex => simp [refuseIf_eq_ok]

theorem text_eq_ok {name value : String} :
    text name value = .ok () ↔ isPrintableWithin 1024 value = true := by
  simp [text]

theorem token_eq_ok {name value : String} :
    token name value = .ok () ↔ isPrintableWithin 1024 value = true ∧ hasWhitespace value = false := by
  simp [token, text]

/-- A Monitor token is within the wider bound of the lineage. -/
theorem token_of_monitorToken {name other value : String} (h : monitorToken name value = .ok ()) :
    token other value = .ok () := by
  simp only [monitorToken, monitorText, bind_eq_ok, refuseIf_eq_ok, Bool.not_eq_false',
    isPrintableWithin, Bool.and_eq_true, monitorMaxTextBytes] at h
  obtain ⟨_, ⟨⟨⟨hnonempty, hbound⟩, hascii⟩, hcontrol⟩, hspace⟩ := h
  rw [token_eq_ok, isPrintableWithin]
  have hwide : byteLength value ≤ 1024 := (of_decide_eq_true hbound).trans (by decide)
  simp only [Bool.and_eq_true]
  exact ⟨⟨⟨⟨hnonempty, decide_eq_true hwide⟩, hascii⟩, hcontrol⟩, hspace⟩

theorem time_eq_ok {name value : String} {at_ : Instant} :
    time w name value = .ok at_ ↔
      (utf8 value).getLast? = some 0x5a ∧ w.parseTime value = some at_ := by
  simp [time]

theorem lineageShape_ok {name other refusal refusal' : String} {sequence : Nat}
    {predecessor : Option String} (h : lineageShape name refusal sequence predecessor = .ok ()) :
    lineageShape other refusal' sequence predecessor = .ok () := by
  cases sequence with
  | zero =>
    cases predecessor with
    | none => rfl
    | some value => cases h
  | succ n =>
    cases predecessor with
    | none => cases h
    | some value => exact digest_eq_ok.mpr (digest_eq_ok.mp h)

/-! ## What each validator establishes -/

/-- A produced record was observed within its acquisition, a failed one carries
no testimony. -/
structure OutcomeFits (w : LineagePlatform) (outcome : AcquisitionOutcomeV1)
    (observedAt payloadSchema : Option String) (start finish : Instant) : Prop where
  produced : outcome = .observationProduced → payloadSchema.isSome = true ∧
    ∃ value observed, observedAt = some value ∧ time w "producer_observed_at" value = .ok observed ∧
      start ≤ observed ∧ observed ≤ finish
  failed : outcome ≠ .observationProduced → observedAt = none ∧ payloadSchema = none

structure MonitorFacts (w : LineagePlatform) (monitor : SignedMonitorV1) (start finish : Instant) :
    Prop where
  subject : monitor.body.subject.validate = .ok ()
  producer : OperationalLineage.producer w monitor.body.producer = .ok ()
  started : time w "acquisition_started_at" monitor.body.acquisition.startedAt = .ok start
  ended : time w "acquisition_ended_at" monitor.body.acquisition.endedAt = .ok finish
  ordered : start ≤ finish
  epoch : token "epoch" monitor.body.lineage.epoch = .ok ()
  shape : lineageShape "predecessor_observation_digest" "sequence and predecessor are inconsistent"
    monitor.body.lineage.sequence monitor.body.lineage.predecessorObservationDigest = .ok ()
  outcome : OutcomeFits w monitor.body.acquisition.outcome monitor.body.producerObservedAt
    monitor.body.payloadSchema start finish

theorem monitorFacts {monitor : SignedMonitorV1} {bodyBytes : Bytes}
    (h : validateMonitor w monitor bodyBytes = .ok ()) :
    ∃ start finish, MonitorFacts w monitor start finish := by
  simp only [validateMonitor, bind_eq_ok] at h
  obtain ⟨_, -, _, hsubject, _, hproducer, _, -, _, -, _, -, _, -, start, hstart, finish, hfinish, _,
    horder, _, hepoch, _, hshape, _, -, houtcome⟩ := h
  refine ⟨start, finish, hsubject, hproducer, time_eq_ok.mpr (time_eq_ok.mp hstart),
    time_eq_ok.mpr (time_eq_ok.mp hfinish), ?_, token_of_monitorToken hepoch,
    lineageShape_ok hshape, ?_⟩
  · simpa using horder
  · split at houtcome
    next hproduced =>
      simp only [bind_eq_ok, okOr_eq_ok, refuseIf_eq_ok] at houtcome
      obtain ⟨value, hvalue, observed, hobserved, _, hwithin, schema, hschema, -⟩ := houtcome
      simp only [Bool.or_eq_false_iff, decide_eq_false_iff_not, not_lt] at hwithin
      refine ⟨fun _ => ⟨by rw [hschema]; rfl, value, observed, hvalue, hobserved, hwithin⟩, ?_⟩
      exact fun hother => absurd hproduced hother
    next hother =>
      simp only [bind_eq_ok, refuseIf_eq_ok, Bool.or_eq_false_iff, Option.isSome_eq_false_iff,
        Option.isNone_iff_eq_none] at houtcome
      obtain ⟨_, ⟨⟨⟨hobserved, hschema⟩, -⟩, -⟩, -⟩ := houtcome
      exact ⟨fun hproduced => absurd hproduced hother, fun _ => ⟨hobserved, hschema⟩⟩

/-- The findings of one input that passed its validation. -/
structure FindingFacts (input : NqInputV1) (evaluatedAt : Instant) : Prop where
  supportBounded : input.claimSupport.length ≤ maxCollection
  cannotBounded : input.cannotTestify.length ≤ maxCollection
  single : input.refusals.length ≤ 1
  support : ∃ ids, input.claimSupport.foldlM (checkSupport input) [] = .ok ids
  cannot : ∀ finding ∈ input.cannotTestify,
    token "cannot_testify.claim_id" finding.claimId = .ok () ∧
      text "cannot_testify.reason" finding.reason = .ok ()
  refusals : ∀ refusal ∈ input.refusals, token "refusal.code" refusal.code = .ok () ∧
    text "refusal.detail" refusal.detail = .ok () ∧ isDigest refusal.exactBasisDigest = true
  evaluation : nqInputIsReopened input = true → (evaluatedAt < input.receiverCustodyAt ↔
    ∃ refusal ∈ input.refusals, refusal.code = "evaluation_time_inversion")
  shape : checkFindingShape input = .ok ()

/-- Of at most one refusal the first is any. -/
theorem head?_any_iff {refusals : List RefusalV1} (h : refusals.length ≤ 1) (code : String) :
    (refusals.head?.any (·.code == code)) = true ↔ ∃ refusal ∈ refusals, refusal.code = code := by
  match refusals, h with
  | [], _ => simp
  | [refusal], _ => simp

theorem iff_of_bne {p : Prop} [Decidable p] {b : Bool} (h : (decide p != b) = false) :
    p ↔ b = true := by
  have hsame : decide p = b := by simpa using h
  rw [← hsame, decide_eq_true_eq]

theorem findingFacts {input : NqInputV1} {evaluatedAt : Instant}
    (h : validateNqFindings input evaluatedAt = .ok ()) : FindingFacts input evaluatedAt := by
  simp only [validateNqFindings, bind_eq_ok] at h
  obtain ⟨_, hbounds, _, -, _, -, _, -, _, -, _, -, _, -, _, -, _, -, ids, hsupport, cannots, hcannot,
    _, hrefusals, hrest⟩ := h
  simp only [refuseIf_eq_ok, Bool.or_eq_false_iff, decide_eq_false_iff_not, not_lt] at hbounds
  obtain ⟨⟨hsupportBound, hcannotBound⟩, hsingle⟩ := hbounds
  have hlast : refuseIf (nqInputIsReopened input && (decide (evaluatedAt < input.receiverCustodyAt) !=
      input.refusals.head?.any (·.code == "evaluation_time_inversion")))
        "NQ evaluation/receiver time ordering does not match qualify_one refusal" = .ok () ∧
      checkFindingShape input = .ok () := by
    split at hrest
    · simp only [bind_eq_ok] at hrest
      obtain ⟨_, -, _, horder, hshape⟩ := hrest
      exact ⟨horder, hshape⟩
    · simp only [bind_eq_ok] at hrest
      obtain ⟨_, -, _, horder, hshape⟩ := hrest
      exact ⟨horder, hshape⟩
  refine ⟨hsupportBound, hcannotBound, hsingle, ⟨ids, hsupport⟩, fun finding hfinding => ?_,
    fun refusal hrefusal => ?_, fun hreopened => ?_, hlast.2⟩
  · obtain ⟨c, c', hstep⟩ := exists_of_mem_foldlM hfinding hcannot
    simp only [checkCannotTestify, bind_eq_ok] at hstep
    obtain ⟨_, htoken, _, htext, -⟩ := hstep
    exact ⟨htoken, htext⟩
  · have hchecked := forEach_eq_ok.mp hrefusals refusal hrefusal
    simp only [checkRefusal, bind_eq_ok] at hchecked
    obtain ⟨_, htoken, _, htext, _, hdigest, -⟩ := hchecked
    exact ⟨htoken, htext, digest_eq_ok.mp hdigest⟩
  · have horder := hlast.1
    rw [hreopened, Bool.true_and, refuseIf_eq_ok] at horder
    rw [iff_of_bne horder, head?_any_iff hsingle]

theorem findingFacts_of_mem {nq : NqArtifactV1} (h : validateNq nq = .ok ()) {input : NqInputV1}
    (hinput : input ∈ nq.inputs) :
    token "nq_profile_id" nq.profileId = .ok () ∧ token "nq_input_id" input.inputId = .ok () ∧
      FindingFacts input nq.evaluatedAt := by
  simp only [validateNq, bind_eq_ok] at h
  obtain ⟨_, -, _, hprofile, _, -, ids, hinputs, -⟩ := h
  obtain ⟨c, c', hstep⟩ := exists_of_mem_foldlM hinput hinputs
  simp only [checkInput, bind_eq_ok] at hstep
  obtain ⟨_, htoken, _, -, _, -, _, hfindings, -⟩ := hstep
  exact ⟨token_eq_ok.mpr (token_eq_ok.mp hprofile), token_eq_ok.mpr (token_eq_ok.mp htoken),
    findingFacts hfindings⟩

/-- A bound input speaks of exactly one Monitor record. -/
structure BindingFacts (w : LineagePlatform) (input : NqInputV1) (bodyBytes : Bytes)
    (monitor : SignedMonitorV1) (finish : Instant) : Prop where
  observation : input.monitorRecordDigest = some (monitorObservationDigest w bodyBytes)
  reopened : nqInputIsReopened input = true
  outcome : input.acquisitionOutcome = some monitor.body.acquisition.outcome.text
  subject : input.subjectIdentityDigest = some (monitorSubjectDigest w monitor.body.subject)
  receiver : input.receiverCustodyAt < finish ↔
    (input.refusals.head?.any (·.code == "receiver_custody_inversion")) = true

theorem bindingFacts {input : NqInputV1} {raw bodyBytes : Bytes} {monitor : SignedMonitorV1}
    {start finish : Instant} (hmonitor : MonitorFacts w monitor start finish)
    (h : bindInput w input raw bodyBytes monitor = .ok ()) :
    BindingFacts w input bodyBytes monitor finish := by
  simp only [bindInput, bind_eq_ok] at h
  obtain ⟨_, hbinds, _, -, _, -, ended, hended, _, horder, -⟩ := h
  simp only [refuseIf_eq_ok, Bool.or_eq_false_iff, bne_eq_false_iff_eq] at hbinds
  obtain ⟨⟨⟨⟨⟨⟨⟨-, hobservation⟩, hsubject⟩, hproducer⟩, hprincipal⟩, hclass⟩, houtcome⟩, -⟩ := hbinds
  obtain rfl : finish = ended := Except.ok.inj (hmonitor.ended.symm.trans hended)
  refine ⟨hobservation, ?_, houtcome, hsubject, iff_of_bne (refuseIf_eq_ok.mp horder)⟩
  simp [nqInputIsReopened, reopened, hobservation, hsubject, hproducer, hprincipal, hclass, houtcome]

/-! ## The lineage record of a qualified input -/

/-- A Monitor record and an NQ artifact that passed their validators, with an
input of the artifact that is bound to the record. -/
structure Qualified (w : LineagePlatform) (monitorBytes nqBytes : Bytes) (o : Reopened) : Prop where
  source : checkSourceBytes monitorBytes nqBytes = .ok ()
  monitorValid : validateMonitor w o.monitor o.bodyBytes = .ok ()
  nqValid : validateNq o.nq = .ok ()
  member : o.input ∈ o.nq.inputs
  bound : bindInput w o.input monitorBytes o.bodyBytes o.monitor = .ok ()

/-- The contradictions of the record's subject. -/
def Reopened.contradictions (w : LineagePlatform) (o : Reopened) : List ContradictionV1 :=
  o.nq.contradictions.filter
    (·.subjectIdentityDigest == monitorSubjectDigest w o.monitor.body.subject)

/-- The refusals are no time inversions, and the contradictions of the subject
are within the collection bound. -/
structure Retainable (w : LineagePlatform) (o : Reopened) : Prop where
  refusals : ∀ refusal ∈ o.input.refusals, refusal.code ≠ "receiver_custody_inversion" ∧
    refusal.code ≠ "evaluation_time_inversion"
  contradictions : (o.contradictions w).length ≤ maxCollection

variable {monitorBytes nqBytes : Bytes} {o : Reopened} {admittedAt : Instant}

theorem validateIdentity_sealedDraft {start finish : Instant} (h : Qualified w monitorBytes nqBytes o)
    (hmonitor : MonitorFacts w o.monitor start finish) :
    (sealedDraft w monitorBytes nqBytes o admittedAt).validateIdentity w = .ok () := by
  have hsource := h.source
  simp only [checkSourceBytes, refuseIf_eq_ok, Bool.or_eq_false_iff, decide_eq_false_iff_not,
    not_lt] at hsource
  obtain ⟨⟨⟨hmonitorBytes, hnqBytes⟩, hmonitorLength⟩, hnqLength⟩ := hsource
  have hcustody : ∀ (bytes part : Bytes), bytes.isEmpty = false → bytes.length ≤ maxRawBytes →
      custody (artifactCustody w bytes (w.sha256 part)) = .ok () := by
    intro bytes part hnonempty hlength
    have hzero : bytes.length ≠ 0 := by
      intro hzero
      rw [List.length_eq_zero_iff.mp hzero] at hnonempty
      cases hnonempty
    simp [custody, artifactCustody, digest_sha256, refuseIf, hzero, hlength]
  obtain ⟨hprofile, hid, -⟩ := findingFacts_of_mem h.nqValid h.member
  simp only [OperationalObservationLineageV1.validateIdentity, bind_eq_ok]
  refine ⟨(), by simp [sealedDraft, draft], (), digest_sha256 w _ _, (), ?_, (), ?_, (),
    hmonitor.subject, (), hmonitor.producer, (), digest_sha256 w _ _, (), digest_sha256 w _ _, (),
    by simp [sealedDraft, draft], (), hprofile, (), hid, (), hmonitor.epoch, hmonitor.shape⟩
  · exact hcustody monitorBytes _ hmonitorBytes hmonitorLength
  · exact hcustody nqBytes _ hnqBytes hnqLength

/-- A failed acquisition has no supported claim. -/
theorem support_nil_of_failed {evaluatedAt : Instant} {finish : Instant}
    (hfindings : FindingFacts o.input evaluatedAt)
    (hbinding : BindingFacts w o.input o.bodyBytes o.monitor finish)
    (hfailed : o.monitor.body.acquisition.outcome ≠ .observationProduced) :
    o.input.claimSupport = [] := by
  have hother : o.input.acquisitionOutcome ≠ some "observation_produced" := by
    rw [hbinding.outcome]
    intro hsame
    cases houtcome : o.monitor.body.acquisition.outcome <;>
      simp [houtcome, AcquisitionOutcomeV1.text] at hsame hfailed
  have hshape := hfindings.shape
  simp only [checkFindingShape, hbinding.reopened] at hshape
  cases hrefused : o.input.refusals.isEmpty with
  | false =>
    simp only [hrefused, refuseIf_eq_ok, Bool.or_eq_false_iff, Bool.not_eq_false'] at hshape
    exact List.isEmpty_iff.mp hshape.1
  | true =>
    simp only [hrefused, bind_eq_ok, refuseIf_eq_ok] at hshape
    obtain ⟨_, -, _, himpossible, -⟩ := hshape
    simp only [Bool.and_eq_false_iff, bne_eq_false_iff_eq, hother, false_or, Bool.or_eq_false_iff,
      Bool.not_eq_false'] at himpossible
    exact List.isEmpty_iff.mp himpossible.1

theorem validateOutcome_sealedDraft {start finish : Instant} (h : Qualified w monitorBytes nqBytes o)
    (hmonitor : MonitorFacts w o.monitor start finish) :
    (sealedDraft w monitorBytes nqBytes o admittedAt).validateOutcome w start finish = .ok () := by
  obtain ⟨-, -, hfindings⟩ := findingFacts_of_mem h.nqValid h.member
  have hbinding := bindingFacts hmonitor h.bound
  rw [OperationalObservationLineageV1.validateOutcome]
  split
  next hproduced =>
    obtain ⟨hschema, value, observed, hvalue, htime, hstart, hfinish⟩ :=
      hmonitor.outcome.produced hproduced
    simp only [bind_eq_ok, okOr_eq_ok, refuseIf_eq_ok]
    refine ⟨value, hvalue, observed, htime, ?_⟩
    have hsome : o.monitor.body.payloadSchema.isNone = false := Option.isNone_eq_false_iff.mpr hschema
    simp only [Bool.or_eq_false_iff, decide_eq_false_iff_not, not_lt]
    exact ⟨⟨hstart, hfinish⟩, hsome⟩
  next hfailed =>
    have hsupport := support_nil_of_failed hfindings hbinding hfailed
    obtain ⟨hobserved, hschema⟩ := hmonitor.outcome.failed hfailed
    simp [sealedDraft, draft, hsupport, hobserved, hschema]

/-- The findings are within their bounds as soon as the contradictions are. -/
theorem findings_sealedDraft {start finish : Instant} (h : Qualified w monitorBytes nqBytes o)
    (hmonitor : MonitorFacts w o.monitor start finish) :
    (sealedDraft w monitorBytes nqBytes o admittedAt).findings = .ok () ↔
      (o.contradictions w).length ≤ maxCollection := by
  obtain ⟨-, -, hfindings⟩ := findingFacts_of_mem h.nqValid h.member
  have hbinding := bindingFacts hmonitor h.bound
  have hsingle : o.input.refusals.length ≤ maxCollection := hfindings.single.trans (by decide)
  obtain ⟨ids, hsupport⟩ := hfindings.support
  simp only [OperationalObservationLineageV1.findings, bind_eq_ok, refuseIf_eq_ok,
    Bool.or_eq_false_iff, decide_eq_false_iff_not, not_lt, forEach_eq_ok]
  constructor
  · rintro ⟨_, ⟨-, hbound⟩, -⟩
    exact hbound
  · intro hbound
    refine ⟨(), ⟨⟨⟨hfindings.supportBounded, hfindings.cannotBounded⟩, hsingle⟩, hbound⟩, ids, ?_, (),
      fun item hitem => ?_, (), fun item hitem => ?_, ?_⟩
    · refine foldlM_mono (fun claims claim hclaim claims' hstep => ?_) hsupport
      simp only [checkSupport, bind_eq_ok, okOr_eq_ok, refuseIf_eq_ok] at hstep
      obtain ⟨_, htoken, _, -, _, hdigest, expected, hexpected, _, hfresh, hclaims⟩ := hstep
      rw [hbinding.observation] at hexpected
      obtain rfl := Option.some.inj hexpected
      simp only [bind_eq_ok, refuseIf_eq_ok]
      exact ⟨(), htoken, (), hdigest, (), hfresh, hclaims⟩
    · obtain ⟨htoken, htext⟩ := hfindings.cannot item hitem
      exact ⟨(), htoken, htext⟩
    · obtain ⟨htoken, htext, hdigest⟩ := hfindings.refusals item hitem
      exact ⟨(), htoken, (), digest_eq_ok.mpr hdigest, htext⟩
    · rw [List.any_eq_false]
      intro item hitem
      have hsame := (List.mem_filter.mp hitem).2
      simpa [sealedDraft, draft] using hsame

/-- The record built of a qualified input is accepted exactly when it is
retainable. -/
theorem validate_sealedDraft_iff (h : Qualified w monitorBytes nqBytes o)
    (hadmitted : o.nq.evaluatedAt ≤ admittedAt) :
    (sealedDraft w monitorBytes nqBytes o admittedAt).validate w = .ok () ↔ Retainable w o := by
  obtain ⟨start, finish, hmonitor⟩ := monitorFacts h.monitorValid
  obtain ⟨-, -, hfindings⟩ := findingFacts_of_mem h.nqValid h.member
  have hbinding := bindingFacts hmonitor h.bound
  have hreceiver : o.input.receiverCustodyAt < finish ↔
      ∃ refusal ∈ o.input.refusals, refusal.code = "receiver_custody_inversion" := by
    rw [hbinding.receiver, head?_any_iff hfindings.single]
  have hevaluation := hfindings.evaluation hbinding.reopened
  have hrefusals : (finish ≤ o.input.receiverCustodyAt ∧
      o.input.receiverCustodyAt ≤ o.nq.evaluatedAt) ↔
        ∀ refusal ∈ o.input.refusals, refusal.code ≠ "receiver_custody_inversion" ∧
          refusal.code ≠ "evaluation_time_inversion" := by
    rw [← Int.not_lt, ← Int.not_lt, hreceiver, hevaluation]
    constructor
    · rintro ⟨hno, hno'⟩ refusal hrefusal
      exact ⟨fun hcode => hno ⟨refusal, hrefusal, hcode⟩,
        fun hcode => hno' ⟨refusal, hrefusal, hcode⟩⟩
    · intro hall
      exact ⟨fun ⟨refusal, hrefusal, hcode⟩ => (hall refusal hrefusal).1 hcode,
        fun ⟨refusal, hrefusal, hcode⟩ => (hall refusal hrefusal).2 hcode⟩
  have hreceiverTime : time w "receiver_custody_at"
      (sealedDraft w monitorBytes nqBytes o admittedAt).receiverCustodyAt =
        .ok o.input.receiverCustodyAt := time_canonicalTime w _ _
  have hnqTime : time w "nq_qualified_at"
      (sealedDraft w monitorBytes nqBytes o admittedAt).nqQualifiedAt =
        .ok o.nq.evaluatedAt := time_canonicalTime w _ _
  have hadmittedTime : time w "nightshift_admitted_at"
      (sealedDraft w monitorBytes nqBytes o admittedAt).nightshiftAdmittedAt =
        .ok admittedAt := time_canonicalTime w _ _
  have hstart : time w "acquisition_started_at"
      (sealedDraft w monitorBytes nqBytes o admittedAt).acquisitionStartedAt = .ok start :=
    hmonitor.started
  have hfinish : time w "acquisition_ended_at"
      (sealedDraft w monitorBytes nqBytes o admittedAt).acquisitionEndedAt = .ok finish :=
    hmonitor.ended
  simp only [OperationalObservationLineageV1.validate, validateIdentity_sealedDraft h hmonitor,
    ok_bind, hstart, hfinish, hreceiverTime, hnqTime, hadmittedTime,
    validateOutcome_sealedDraft h hmonitor]
  simp only [bind_eq_ok, refuseIf_eq_ok, findings_sealedDraft h hmonitor, Bool.or_eq_false_iff,
    decide_eq_false_iff_not, not_lt]
  constructor
  · rintro ⟨_, ⟨⟨⟨-, hfirst⟩, hsecond⟩, -⟩, _, hbound, -⟩
    exact ⟨hrefusals.mp ⟨hfirst, hsecond⟩, hbound⟩
  · rintro ⟨hcodes, hbound⟩
    obtain ⟨hfirst, hsecond⟩ := hrefusals.mpr hcodes
    refine ⟨(), ⟨⟨⟨hmonitor.ordered, hfirst⟩, hsecond⟩, hadmitted⟩, (), hbound, (), ?_, ?_⟩
    · simp [sealedDraft, draft]
    · simp [sealedDraft, OperationalObservationLineageV1.computedLineageId]

end OperationalLineage

/-! ## A refused and an unrefused input of one record -/

namespace OperationalBench

theorem opened_qualified : Qualified lineageBench (monitorBytes 0) (nqBytes 0) opened := by
  constructor <;> decide +kernel

theorem inverted_qualified : Qualified lineageBench (monitorBytes 0) (nqBytes 0) inverted := by
  constructor <;> decide +kernel

theorem opened_is_retained :
    (sealedDraft lineageBench (monitorBytes 0) (nqBytes 0) opened 3).validate lineageBench =
      .ok () := by
  rw [validate_sealedDraft_iff opened_qualified (by decide)]
  constructor <;> decide +kernel

/-- The refusal that NQ must make is one the lineage cannot retain. -/
theorem inversion_refusal_is_lost :
    Qualified lineageBench (monitorBytes 0) (nqBytes 0) inverted ∧
      inverted.nq.evaluatedAt ≤ 3 ∧
        (sealedDraft lineageBench (monitorBytes 0) (nqBytes 0) inverted 3).validate lineageBench ≠
          .ok () := by
  refine ⟨inverted_qualified, by decide, fun hvalid => ?_⟩
  simp only [OperationalObservationLineageV1.validate, bind_eq_ok, refuseIf_eq_ok] at hvalid
  obtain ⟨_, -, start, -, finish, hfinish, receiver, hreceiver, _, -, _, -, _, horder, -⟩ := hvalid
  have hended : time lineageBench "acquisition_ended_at" (canonicalTime 1) = .ok finish := hfinish
  have hreceived : time lineageBench "receiver_custody_at" (canonicalTime 0) = .ok receiver :=
    hreceiver
  rw [time_eq_ok] at hended hreceived
  obtain rfl : (1 : Instant) = finish :=
    Option.some.inj ((parse_canonicalTime 1).symm.trans hended.2)
  obtain rfl : (0 : Instant) = receiver :=
    Option.some.inj ((parse_canonicalTime 0).symm.trans hreceived.2)
  simp at horder

end OperationalBench

end Nightshift
