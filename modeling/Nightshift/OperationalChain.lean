import Nightshift.OperationalAdmission

/-!
# The lineage law

What a run of admission calls keeps: every retained record passes its own
validator, was made by one of the calls, and extends the chain of its lane; no
two retained records come from one pair of artifacts and input.
-/

namespace Nightshift

open Checked

namespace OperationalLineage

/-- The coordinates of the lineage law. -/
def reading : Chain.Reading OperationalObservationLineageV1 (String × String × String) String where
  key := (·.lane)
  position := (·.sequence)
  predecessor := (·.predecessorObservationDigest)
  name := (·.monitorCustody.semanticDigest)

/-- The arguments of one admission call but for the history. -/
structure Submission where
  monitorBytes : Bytes
  nqBytes : Bytes
  nqInputId : String
  admittedAt : Instant
  deriving DecidableEq

variable (w : LineagePlatform)

namespace Submission

def call (s : Submission) (history : List OperationalObservationLineageV1) :
    Except String (OperationalObservationLineageV1 × AdmissionDispositionV1) :=
  admitOperationalLineage w s.monitorBytes s.nqBytes s.nqInputId s.admittedAt history

def reopen (s : Submission) : Except String Reopened :=
  OperationalLineage.reopen w s.monitorBytes s.nqBytes s.nqInputId

def record (s : Submission) (o : Reopened) : OperationalObservationLineageV1 :=
  sealedDraft w s.monitorBytes s.nqBytes o s.admittedAt

/-- The same two artifacts and the same input. -/
def SameArtifacts (s t : Submission) : Prop :=
  s.monitorBytes = t.monitorBytes ∧ s.nqBytes = t.nqBytes ∧ s.nqInputId = t.nqInputId

/-- No digest of the submitted bytes is that of other bytes of the run. -/
def NoCollision (s : Submission) (submissions : List Submission) : Prop :=
  ∀ t ∈ submissions,
    (w.sha256 s.monitorBytes = w.sha256 t.monitorBytes → s.monitorBytes = t.monitorBytes) ∧
      (w.sha256 s.nqBytes = w.sha256 t.nqBytes → s.nqBytes = t.nqBytes)

end Submission

/-- An admitted record is appended, a replay and a refusal append nothing. -/
def retain (history : List OperationalObservationLineageV1) (s : Submission) :
    List OperationalObservationLineageV1 :=
  match s.call w history with
  | .ok (record, .admitted) => history ++ [record]
  | _ => history

/-- The history a run of calls builds from nothing. -/
def historyOf (submissions : List Submission) : List OperationalObservationLineageV1 :=
  submissions.foldl (retain w) []

variable {w} {history : List OperationalObservationLineageV1}
  {candidate r : OperationalObservationLineageV1} {s : Submission}

/-! ## One call -/

theorem scanHistory_none (h : scanHistory w candidate history = .ok none) :
    ∀ value ∈ history, value.custodies ≠ candidate.custodies ∧
      ¬ Chain.SamePlace reading value candidate := by
  induction history with
  | nil => simp
  | cons value rest ih =>
    simp only [scanHistory, bind_eq_ok] at h
    obtain ⟨_, -, h⟩ := h
    split at h
    · cases h
    · rename_i hcustody
      simp only [bind_eq_ok, refuseIf_eq_ok] at h
      obtain ⟨_, hfork, h⟩ := h
      intro v hv
      rcases List.mem_cons.mp hv with rfl | hv
      · exact ⟨by simpa using hcustody, by simpa [Chain.SamePlace, reading] using hfork⟩
      · exact ih h v hv

theorem scanHistory_some (h : scanHistory w candidate history = .ok (some r)) :
    r ∈ history ∧ r.custodies = candidate.custodies := by
  induction history with
  | nil => cases h
  | cons value rest ih =>
    simp only [scanHistory, bind_eq_ok] at h
    obtain ⟨_, -, h⟩ := h
    split at h
    · rename_i hcustody
      cases h
      exact ⟨List.mem_cons_self, by simpa using hcustody⟩
    · simp only [bind_eq_ok] at h
      obtain ⟨_, -, h⟩ := h
      exact ⟨List.mem_cons_of_mem _ (ih h).1, (ih h).2⟩

/-- The scan reaches a retained record: no earlier one shares its artifacts or
its coordinate. -/
theorem scanHistory_replay (hvalid : ∀ value ∈ history, value.validate w = .ok ())
    (hchain : Chain.Chained reading history)
    (hdistinct : ∀ value ∈ history, value.custodies = r.custodies → value = r)
    (hr : r ∈ history) (hcustody : r.custodies = candidate.custodies)
    (hplace : Chain.SamePlace reading r candidate) :
    scanHistory w candidate history = .ok (some r) := by
  have hscan : ∀ part : List OperationalObservationLineageV1, (∀ v ∈ part, v ∈ history) →
      r ∈ part → scanHistory w candidate part = .ok (some r) := by
    intro part hpart hmem
    induction part with
    | nil => cases hmem
    | cons value rest ih =>
      have hvalue := hpart value List.mem_cons_self
      by_cases heq : value = r
      · subst heq
        simp [scanHistory, hvalid value hvalue, hcustody]
      · have hcustody' : value.custodies ≠ candidate.custodies :=
          fun h => heq (hdistinct value hvalue (h.trans hcustody.symm))
        have hfork : ¬ (value.lane = candidate.lane ∧ value.sequence = candidate.sequence) :=
          fun h => heq (hchain.unique hvalue hr ⟨h.1.trans hplace.1.symm, h.2.trans hplace.2.symm⟩)
        have hrest : r ∈ rest := by
          rcases List.mem_cons.mp hmem with h | h
          · exact absurd h.symm heq
          · exact h
        have hnext := ih (fun v hv => hpart v (List.mem_cons_of_mem _ hv)) hrest
        simp only [scanHistory, hvalid value hvalue, ok_bind, beq_iff_eq, hcustody', if_false]
        simpa [refuseIf, hfork] using hnext
  exact hscan history (fun _ hv => hv) hr

theorem checkPredecessor_ok (h : checkPredecessor history candidate = .ok ()) (n : Nat)
    (hn : candidate.sequence = n + 1) :
    ∃ p ∈ history, p.lane = candidate.lane ∧ p.sequence = n ∧
      candidate.predecessorObservationDigest = some p.monitorCustody.semanticDigest := by
  have hpos : candidate.sequence > 0 := by omega
  simp only [checkPredecessor, if_pos hpos, bind_eq_ok, okOr_eq_ok, refuseIf_eq_ok] at h
  obtain ⟨p, hfind, hbinding⟩ := h
  have hp := List.find?_some hfind
  simp only [Bool.and_eq_true, beq_iff_eq] at hp
  have hseq : p.sequence = n := by
    have hadd := hp.2
    unfold checkedAdd at hadd
    split at hadd
    · simp only [Option.some.injEq] at hadd
      omega
    · cases hadd
  exact ⟨p, List.mem_of_find?_eq_some hfind, hp.1, hseq, by simpa using hbinding⟩

theorem call_bytes {d : AdmissionDispositionV1} (h : s.call w history = .ok (r, d)) :
    checkSourceBytes s.monitorBytes s.nqBytes = .ok () := by
  simp only [Submission.call, admitOperationalLineage, bind_eq_ok] at h
  obtain ⟨_, hbytes, -⟩ := h
  exact hbytes

/-- A call that returns has reopened its artifacts, and either replays a
retained record of them or admits a record that extends the chain. -/
theorem call_ok {d : AdmissionDispositionV1} (h : s.call w history = .ok (r, d)) :
    ∃ o, s.reopen w = .ok o ∧ (s.record w o).validate w = .ok () ∧
      ((d = .exactReplay ∧ r ∈ history ∧ r.custodies = (s.record w o).custodies) ∨
        (d = .admitted ∧ r = s.record w o ∧
          (∀ value ∈ history, value.custodies ≠ r.custodies ∧
            ¬ Chain.SamePlace reading value r) ∧
          ∀ n, r.sequence = n + 1 → ∃ p ∈ history, p.lane = r.lane ∧ p.sequence = n ∧
            r.predecessorObservationDigest = some p.monitorCustody.semanticDigest)) := by
  simp only [Submission.call, admitOperationalLineage, bind_eq_ok] at h
  obtain ⟨_, -, _, -, o, ho, _, hvalid, hadmit⟩ := h
  refine ⟨o, ho, hvalid, ?_⟩
  simp only [admitHistory, bind_eq_ok] at hadmit
  obtain ⟨found, hscan, hadmit⟩ := hadmit
  cases found with
  | some value =>
    cases hadmit
    exact Or.inl ⟨rfl, scanHistory_some hscan⟩
  | none =>
    simp only [bind_eq_ok, Except.ok.injEq, Prod.mk.injEq] at hadmit
    obtain ⟨_, hpred, rfl, rfl⟩ := hadmit
    exact Or.inr ⟨rfl, rfl, scanHistory_none hscan, checkPredecessor_ok hpred⟩

/-! ## The record of a submission -/

theorem lineageShape_zero {name refusal : String} {predecessor : Option String}
    (h : lineageShape name refusal 0 predecessor = .ok ()) : predecessor = none := by
  cases predecessor with
  | none => rfl
  | some value => cases h

theorem root_of_validate (h : r.validate w = .ok ()) (hzero : r.sequence = 0) :
    r.predecessorObservationDigest = none := by
  simp only [OperationalObservationLineageV1.validate, bind_eq_ok,
    OperationalObservationLineageV1.validateIdentity] at h
  obtain ⟨_, ⟨_, -, _, -, _, -, _, -, _, -, _, -, _, -, _, -, _, -, _, -, _, -, _, -, hshape⟩, -⟩ :=
    h
  rw [hzero] at hshape
  exact lineageShape_zero hshape

/-- The validator reads the admission time only against the NQ evaluation. -/
theorem validate_readmitted {monitorBytes nqBytes : Bytes} {o : Reopened}
    {admittedAt later : Instant}
    (h : (sealedDraft w monitorBytes nqBytes o admittedAt).validate w = .ok ())
    (hlater : o.nq.evaluatedAt ≤ later) :
    (sealedDraft w monitorBytes nqBytes o later).validate w = .ok () := by
  simp only [OperationalObservationLineageV1.validate, bind_eq_ok, refuseIf_eq_ok] at h ⊢
  obtain ⟨_, hidentity, start, hstart, finish, hfinish, receiver, hreceiver, nq, hnq, admitted,
    hadmitted, _, horder, _, houtcome, _, hfindings, _, hnonclaims, -⟩ := h
  have hnqAt : nq = o.nq.evaluatedAt := by
    have h : time w "nq_qualified_at" (w.canonicalTime o.nq.evaluatedAt) = .ok nq := hnq
    rw [time_canonicalTime] at h
    exact (Except.ok.inj h).symm
  have horder' : (decide (start > finish) || decide (receiver < finish) ||
      decide (nq < receiver) || decide (later < nq)) = false := by
    simp only [Bool.or_eq_false_iff, decide_eq_false_iff_not, not_lt] at horder ⊢
    exact ⟨horder.1, hnqAt ▸ hlater⟩
  refine ⟨(), ?_, start, hstart, finish, hfinish, receiver, hreceiver, nq, hnq, later,
    time_canonicalTime w _ _, (), horder', (), houtcome, (), hfindings, (), hnonclaims, ?_⟩
  · simp only [OperationalObservationLineageV1.validateIdentity, bind_eq_ok] at hidentity ⊢
    obtain ⟨_, hpins, _, -, hrest⟩ := hidentity
    exact ⟨(), hpins, (), digest_sha256 w _ _, hrest⟩
  · simp [sealedDraft, OperationalObservationLineageV1.computedLineageId]

/-- What a submission's record takes from the submitted bytes. -/
theorem custodies_record (o : Reopened) : (s.record w o).custodies =
    (artifactCustody w s.monitorBytes (monitorObservationDigest w o.bodyBytes),
      artifactCustody w s.nqBytes (w.sha256 (w.nqCanonical o.nq)), o.input.inputId) := rfl

theorem reopen_ok {o : Reopened} (h : s.reopen w = .ok o) :
    w.parseMonitor s.monitorBytes = .ok o.monitor ∧ w.parseNq s.nqBytes = .ok o.nq ∧
      o.input.inputId = s.nqInputId := by
  simp only [Submission.reopen, reopen, bind_eq_ok, mapErr_eq_ok, okOr_eq_ok,
    Except.ok.injEq] at h
  obtain ⟨monitor, hmonitor, bodyBytes, -, _, -, nq, hnq, _, -, input, hinput, _, -, rfl⟩ := h
  exact ⟨hmonitor, hnq, by simpa using List.find?_some hinput⟩

/-! ## Runs of calls -/

/-- What every history of a run satisfies. -/
structure Lawful (w : LineagePlatform) (submissions : List Submission)
    (history : List OperationalObservationLineageV1) : Prop where
  valid : ∀ r ∈ history, r.validate w = .ok ()
  chained : Chain.Chained reading history
  distinct : history.Pairwise fun r value => r.custodies ≠ value.custodies
  origin : ∀ r ∈ history, ∃ s ∈ submissions, ∃ o, s.reopen w = .ok o ∧ r = s.record w o

theorem retain_admitted (h : s.call w history = .ok (r, .admitted)) :
    retain w history s = history ++ [r] := by
  simp [retain, h]

/-- A call leaves the history alone or appends the record it admits. -/
theorem retain_cases (w : LineagePlatform) (history : List OperationalObservationLineageV1)
    (s : Submission) :
    retain w history s = history ∨
      ∃ r, s.call w history = .ok (r, .admitted) ∧ retain w history s = history ++ [r] := by
  cases hcall : s.call w history with
  | error e => exact Or.inl (by simp [retain, hcall])
  | ok result =>
    obtain ⟨r, d⟩ := result
    cases d with
    | admitted => exact Or.inr ⟨r, rfl, retain_admitted hcall⟩
    | exactReplay => exact Or.inl (by simp [retain, hcall])

theorem Lawful.retain {submissions : List Submission} (h : Lawful w submissions history)
    (s : Submission) : Lawful w (submissions ++ [s]) (retain w history s) := by
  have hearlier : ∀ r ∈ history, ∃ t ∈ submissions ++ [s], ∃ o,
      t.reopen w = .ok o ∧ r = t.record w o := by
    intro r hr
    obtain ⟨t, ht, hrest⟩ := h.origin r hr
    exact ⟨t, List.mem_append_left _ ht, hrest⟩
  rcases retain_cases w history s with hsame | ⟨r, hcall, happend⟩
  · rw [hsame]
    exact ⟨h.valid, h.chained, h.distinct, hearlier⟩
  · obtain ⟨o, ho, hvalid, ⟨hd, -⟩ | ⟨-, hr, hfresh, hlinked⟩⟩ := call_ok hcall
    · cases hd
    · rw [happend]
      have hextends : Chain.Extends reading history r :=
        ⟨fun value hvalue => (hfresh value hvalue).2, root_of_validate (hr ▸ hvalid), hlinked⟩
      refine ⟨?_, h.chained.append hextends, ?_, ?_⟩
      · intro value hvalue
        rcases List.mem_append.mp hvalue with hvalue | hvalue
        · exact h.valid value hvalue
        · rw [List.mem_singleton.mp hvalue, hr]
          exact hvalid
      · rw [List.pairwise_append]
        refine ⟨h.distinct, List.pairwise_singleton _ _, ?_⟩
        intro value hvalue last hlast
        rw [List.mem_singleton.mp hlast]
        exact (hfresh value hvalue).1
      · intro value hvalue
        rcases List.mem_append.mp hvalue with hvalue | hvalue
        · exact hearlier value hvalue
        · rw [List.mem_singleton.mp hvalue]
          exact ⟨s, List.mem_append_right _ List.mem_cons_self, o, ho, hr⟩

theorem historyOf_append (earlier later : List Submission) :
    historyOf w (earlier ++ later) = later.foldl (retain w) (historyOf w earlier) := by
  simp [historyOf]

/-- Every history of a run is lawful. -/
theorem lawful_historyOf (w : LineagePlatform) (submissions : List Submission) :
    Lawful w submissions (historyOf w submissions) := by
  induction submissions using List.reverseRecOn with
  | nil => exact ⟨by simp [historyOf], Chain.chained_nil, List.Pairwise.nil, by simp [historyOf]⟩
  | append_singleton earlier s ih =>
    rw [historyOf_append]
    exact ih.retain s

/-- A retained record stays retained. -/
theorem mem_foldl_retain (hr : r ∈ history) (later : List Submission) :
    r ∈ later.foldl (retain w) history := by
  induction later generalizing history with
  | nil => exact hr
  | cons s rest ih =>
    rw [List.foldl_cons]
    apply ih
    rcases retain_cases w history s with hsame | ⟨new, -, happend⟩
    · rw [hsame]
      exact hr
    · rw [happend]
      exact List.mem_append_left _ hr

/-- A call of a run that admits its record puts that record in the history. -/
theorem mem_historyOf {earlier later : List Submission}
    (h : s.call w (historyOf w earlier) = .ok (r, .admitted)) :
    r ∈ historyOf w (earlier ++ s :: later) := by
  rw [historyOf_append, List.foldl_cons]
  apply mem_foldl_retain
  rw [retain_admitted h]
  exact List.mem_append_right _ List.mem_cons_self

theorem Lawful.custodies_unique {submissions : List Submission}
    (h : Lawful w submissions history) (hr : r ∈ history)
    (hcandidate : candidate ∈ history) (hcustody : candidate.custodies = r.custodies) :
    candidate = r := by
  have hsymm : Std.Symm fun r value : OperationalObservationLineageV1 =>
      r.custodies ≠ value.custodies := ⟨fun _ _ => Ne.symm⟩
  by_contra hne
  exact h.distinct.forall hcandidate hr hne hcustody

/-! ## The law -/

/-- A retained pair and input converge on the retained record, whatever the
admission time after the NQ evaluation. -/
theorem Lawful.replays {submissions : List Submission} {o : Reopened} {at_ : Instant}
    (h : Lawful w submissions history) (hbound : history.length ≤ maxCollection)
    (hbytes : checkSourceBytes s.monitorBytes s.nqBytes = .ok ())
    (ho : s.reopen w = .ok o) (hr : s.record w o ∈ history) (hat : o.nq.evaluatedAt ≤ at_) :
    Submission.call w { s with admittedAt := at_ } history =
      .ok (s.record w o, .exactReplay) := by
  have hvalid : (Submission.record w { s with admittedAt := at_ } o).validate w = .ok () :=
    validate_readmitted (h.valid _ hr) hat
  have hscan : scanHistory w (Submission.record w { s with admittedAt := at_ } o) history =
      .ok (some (s.record w o)) :=
    scanHistory_replay h.valid h.chained (fun value hvalue => h.custodies_unique hr hvalue) hr
      rfl ⟨rfl, rfl⟩
  have hhistory : refuseIf (decide (history.length > maxCollection))
      "lineage history exceeds its bound" = .ok () := by
    simpa using hbound
  have hopen : reopen w s.monitorBytes s.nqBytes s.nqInputId = .ok o := ho
  simp only [Submission.record] at hvalid hscan
  simp only [Submission.call, admitOperationalLineage, hbytes, hhistory, hopen, ok_bind, hvalid,
    admitHistory, hscan, Submission.record]

/-- Records made from submissions with equal custodies come from the same
artifacts, unless two byte strings share a digest. -/
theorem sameArtifacts_of_custodies {submissions : List Submission} {t : Submission}
    {o p : Reopened} (hcollision : s.NoCollision w submissions) (ht : t ∈ submissions)
    (hs : s.reopen w = .ok o) (hp : t.reopen w = .ok p)
    (hcustody : (t.record w p).custodies = (s.record w o).custodies) : s.SameArtifacts t := by
  rw [custodies_record, custodies_record, Prod.mk.injEq, Prod.mk.injEq] at hcustody
  obtain ⟨hmonitor, hnq, hinput⟩ := hcustody
  have hmonitor := congrArg ExactArtifactCustodyV1.rawBytesSha256 hmonitor
  have hnq := congrArg ExactArtifactCustodyV1.rawBytesSha256 hnq
  refine ⟨(hcollision t ht).1 hmonitor.symm, (hcollision t ht).2 hnq.symm, ?_⟩
  rw [← (reopen_ok hs).2.2, ← (reopen_ok hp).2.2, hinput]

/-- Without a digest collision a replay returns the record of the same bytes. -/
theorem Lawful.replay_same {submissions : List Submission} {o : Reopened}
    (h : Lawful w submissions history) (hcollision : s.NoCollision w submissions)
    (ho : s.reopen w = .ok o) (hr : r ∈ history)
    (hcustody : r.custodies = (s.record w o).custodies) :
    ∃ t ∈ submissions, s.SameArtifacts t ∧ r = t.record w o := by
  obtain ⟨t, ht, p, hp, rfl⟩ := h.origin r hr
  have hsame := sameArtifacts_of_custodies hcollision ht ho hp hcustody
  have hop : o = p := by
    simp only [Submission.reopen] at ho hp
    rw [hsame.1, hsame.2.1, hsame.2.2, hp] at ho
    exact (Except.ok.inj ho).symm
  exact ⟨t, ht, hsame, by rw [hop]⟩

/-- The lane a Monitor record belongs to. -/
def monitorLane (w : LineagePlatform) (monitor : SignedMonitorV1) : String × String × String :=
  (monitorSubjectDigest w monitor.body.subject, monitorProducerDigest w monitor.body.producer,
    monitor.body.lineage.epoch)

/-- A retained record is made from other artifacts at the submission's own
coordinate. -/
def Occupied (w : LineagePlatform) (submissions : List Submission) (s : Submission)
    (monitor : SignedMonitorV1) : Prop :=
  ∃ t ∈ submissions, ¬ s.SameArtifacts t ∧ ∃ o, t.reopen w = .ok o ∧
    t.record w o ∈ historyOf w submissions ∧ (t.record w o).lane = monitorLane w monitor ∧
    (t.record w o).sequence = monitor.body.lineage.sequence

/-- The retained record just before the submission's coordinate is the one its
Monitor record names. -/
def NamesPredecessor (w : LineagePlatform) (history : List OperationalObservationLineageV1)
    (monitor : SignedMonitorV1) : Prop :=
  ∃ p ∈ history, p.lane = monitorLane w monitor ∧
    p.sequence + 1 = monitor.body.lineage.sequence ∧
    monitor.body.lineage.predecessorObservationDigest = some p.monitorCustody.semanticDigest

/-- What a returning call says of its Monitor record: its coordinate is not
taken by other artifacts, and its predecessor is retained. -/
theorem Lawful.call_place {submissions : List Submission} {d : AdmissionDispositionV1}
    {monitor : SignedMonitorV1} (h : Lawful w submissions (historyOf w submissions))
    (hcollision : s.NoCollision w submissions)
    (hcall : s.call w (historyOf w submissions) = .ok (r, d))
    (hmonitor : w.parseMonitor s.monitorBytes = .ok monitor) :
    ¬ Occupied w submissions s monitor ∧ (monitor.body.lineage.sequence ≠ 0 →
      NamesPredecessor w (historyOf w submissions) monitor) := by
  obtain ⟨o, ho, -, hcases⟩ := call_ok hcall
  have hsame : monitor = o.monitor :=
    Except.ok.inj (hmonitor.symm.trans (reopen_ok ho).1)
  subst hsame
  rcases hcases with ⟨-, hr, hcustody⟩ | ⟨-, rfl, hfresh, hlinked⟩
  · -- the replayed record was made from the same bytes, so it stands at the same coordinate
    obtain ⟨t, ht, hartifacts, rfl⟩ := h.replay_same hcollision ho hr hcustody
    constructor
    · rintro ⟨u, hu, hother, p, hp, hmem, hlane, hsequence⟩
      have hsameRecord : u.record w p = t.record w o :=
        h.chained.unique hmem hr ⟨hlane, hsequence⟩
      refine hother (sameArtifacts_of_custodies hcollision hu ho hp ?_)
      rw [hsameRecord, hcustody]
    · intro hne
      obtain ⟨n, hn⟩ := Nat.exists_eq_succ_of_ne_zero hne
      obtain ⟨p, hp, hlane, hpos, hname⟩ := h.chained.linked _ hr n hn
      exact ⟨p, hp, hlane, by rw [hn, ← hpos]; rfl, hname⟩
  · constructor
    · rintro ⟨u, hu, -, p, hp, hmem, hlane, hsequence⟩
      exact (hfresh _ hmem).2 ⟨hlane, hsequence⟩
    · intro hne
      obtain ⟨n, hn⟩ := Nat.exists_eq_succ_of_ne_zero hne
      obtain ⟨p, hp, hlane, hpos, hname⟩ := hlinked n hn
      exact ⟨p, hp, hlane, by rw [hn, ← hpos], hname⟩

/-- Over any run of calls the records of one subject, producer and epoch have
the sequences `0..n-1`, each names the one before it, a repeated pair and input
returns the record first retained, and an occupied coordinate or a predecessor
that is not retained is refused. -/
theorem operational_lineage_chain (w : LineagePlatform) (submissions : List Submission) :
    (∀ lane, (Chain.positions reading lane (historyOf w submissions)).Perm
      (List.range (Chain.positions reading lane (historyOf w submissions)).length)) ∧
    (∀ r ∈ historyOf w submissions, r.sequence = 0 → r.predecessorObservationDigest = none) ∧
    (∀ r ∈ historyOf w submissions, ∀ p ∈ historyOf w submissions, p.lane = r.lane →
      r.sequence = p.sequence + 1 →
        r.predecessorObservationDigest = some p.monitorCustody.semanticDigest) ∧
    ((historyOf w submissions).length ≤ maxCollection → ∀ earlier s later r,
      submissions = earlier ++ s :: later →
      s.call w (historyOf w earlier) = .ok (r, .admitted) → ∀ at_,
      (∀ nq, w.parseNq s.nqBytes = .ok nq → nq.evaluatedAt ≤ at_) →
        Submission.call w { s with admittedAt := at_ } (historyOf w submissions) =
          .ok (r, .exactReplay)) ∧
    (∀ s monitor, s.NoCollision w submissions → w.parseMonitor s.monitorBytes = .ok monitor →
      (Occupied w submissions s monitor ∨ (monitor.body.lineage.sequence ≠ 0 ∧
        ¬ NamesPredecessor w (historyOf w submissions) monitor)) →
      ∃ refusal, s.call w (historyOf w submissions) = .error refusal) := by
  have h := lawful_historyOf w submissions
  refine ⟨h.chained.positions_perm, h.chained.root, ?_, ?_, ?_⟩
  · intro r hr p hp hlane hnext
    exact h.chained.names hr hp hlane hnext
  · rintro hbound earlier s later r rfl hcall at_ hat
    obtain ⟨o, ho, -, ⟨hd, -⟩ | ⟨-, rfl, -⟩⟩ := call_ok hcall
    · cases hd
    · exact h.replays hbound (call_bytes hcall) ho (mem_historyOf hcall)
        (hat o.nq (reopen_ok ho).2.1)
  · intro s monitor hcollision hmonitor hrefused
    cases hcall : s.call w (historyOf w submissions) with
    | error refusal => exact ⟨refusal, rfl⟩
    | ok result =>
      obtain ⟨r, d⟩ := result
      obtain ⟨hfree, hnames⟩ := h.call_place hcollision hcall hmonitor
      rcases hrefused with hoccupied | ⟨hne, hmissing⟩
      · exact absurd hoccupied hfree
      · exact absurd (hnames hne) hmissing

end OperationalLineage

end Nightshift
