import Nightshift.ReservationConflicts

/-!
# What a current reservation rests on

The row of a reservation is written under the profile of one ingest and read
under the profile of a resolution. The resolution holds its own source, subject
and window against the request; the pins of NQ, the chain of the realization
and the order of the two instants were checked at the ingest or not at all.
-/

namespace Nightshift.Qualification

open Checked Diagnostic PresentEvidence Canonical Interleave

/-- Both profiles pin the same NQ profile and the same evaluator. -/
structure ReservationApplicabilityProfileV1.SamePins (a b : ReservationApplicabilityProfileV1) :
    Prop where
  nqProfileId : a.expectedNqProfileId = b.expectedNqProfileId
  nqProfileSha256 : a.expectedNqProfileSha256 = b.expectedNqProfileSha256
  nqEvaluatorId : a.expectedNqEvaluatorId = b.expectedNqEvaluatorId
  nqEvaluatorVersion : a.expectedNqEvaluatorVersion = b.expectedNqEvaluatorVersion
  nqEvaluatorExecutable :
    a.expectedNqEvaluatorExecutableSha256 = b.expectedNqEvaluatorExecutableSha256

/-- The realization is about the attempt and the settlement of the profile. -/
def ReservationApplicabilityProfileV1.Names (profile : ReservationApplicabilityProfileV1)
    (chain : ExactRealizationChainV2) : Prop :=
  chain.docketAttempt = profile.sourceAttemptId ∧
    chain.docketSettlement = profile.sourceSettlementId

/-- The receipt is what the profile asks for, at the time of the request. -/
structure ReservationApplicabilityProfileV1.HonouredBy (profile : ReservationApplicabilityProfileV1)
    (receipt : NqRealizationReceiptV2) (nowUnixMs : Nat) : Prop where
  nqProfileId : receipt.profileId = profile.expectedNqProfileId
  nqProfileSha256 : receipt.profileSha256 = profile.expectedNqProfileSha256
  nqEvaluatorId : receipt.evaluatorId = profile.expectedNqEvaluatorId
  nqEvaluatorVersion : receipt.evaluatorVersion = profile.expectedNqEvaluatorVersion
  nqEvaluatorExecutable :
    receipt.evaluatorExecutableSha256 = profile.expectedNqEvaluatorExecutableSha256
  reservation : receipt.evidenceReservation = profile.evidenceReservation
  chain : ∃ chain, receipt.realizations = [chain] ∧
    chain.evidenceReservation = profile.evidenceReservation ∧ profile.Names chain
  evaluated : receipt.evaluatedAtUnixMs ≤ nowUnixMs
  fresh : nowUnixMs < receipt.evaluatedAtUnixMs + profile.maxAgeMs

/-- The status of an observation. -/
def ReservationApplicabilityOutcomeV1.observed :
    ReservationApplicabilityOutcomeV1 → Option AgTypedObservationStatusV1
  | observation resolution => some resolution.status
  | retainedOnly _ _ _ => none
  | absent => none

section Resolution

variable {w : QualificationPlatform} {profile : ReservationApplicabilityProfileV1}
  {request : ApplicabilityRequest}

/-- A current observation comes of a qualified receipt inside its window. -/
theorem observe_current {receipt : NqRealizationReceiptV2}
    {resolution : AgQualificationObservationResolutionV3}
    (h : profile.observe w request receipt = .ok (.observation resolution))
    (hcurrent : resolution.status = .current) :
    request.nowUnixMs < receipt.evaluatedAtUnixMs + profile.maxAgeMs := by
  simp only [ReservationApplicabilityProfileV1.observe, bind_eq_ok, okOr_eq_ok, checkedAdd,
    Option.ite_none_right_eq_some] at h
  obtain ⟨horizon, ⟨-, hhorizon⟩, h⟩ := h
  cases hhorizon
  cases h
  by_contra hlate
  simp [not_lt.mp hlate] at hcurrent

theorem judge_observation {row : Option RealizationRow}
    {resolution : AgQualificationObservationResolutionV3}
    (h : profile.judge w request row = .ok (.observation resolution)) :
    ∃ row' receipt, row = some row' ∧ w.readRealizationReceipt row'.exactReceipt = .ok receipt ∧
      row'.conflict = false ∧ receipt.status = .qualified ∧
      profile.observe w request receipt = .ok (.observation resolution) := by
  cases row with
  | none => cases h
  | some row =>
    simp only [ReservationApplicabilityProfileV1.judge, bind_eq_ok] at h
    obtain ⟨receipt, hread, h⟩ := h
    split at h
    · cases h
    · rename_i hopen
      simp only [Bool.or_eq_true, bne_iff_ne, ne_eq, not_or, Bool.not_eq_true, not_not] at hopen
      exact ⟨row, receipt, rfl, hread, hopen.1, hopen.2, h⟩

end Resolution

/-- In every run a current observation rests on the row one ingest has written, and its receipt is
what the requesting profile asks for exactly when the profile of that ingest has the same NQ pins,
the chain of the realization names the attempt and the settlement of the requesting profile, and NQ
evaluated it no later than the resolution. -/
theorem current_reservation_honours_profile {w : QualificationPlatform}
    {ingests : List RealizationIngest} {entries : List (Entry ReservationStore)}
    {pool : Pool ReservationStore String RetainedReservationRealizationV1}
    (h : RealizationRun w ingests entries pool) {profile : ReservationApplicabilityProfileV1}
    {request : ApplicabilityRequest} {resolution : AgQualificationObservationResolutionV3}
    (hresolve : ((profile.resolveApplicability w request).run pool.store).1 =
      .ok (.observation resolution)) (hcurrent : resolution.status = .current) :
    ∃ ingest ∈ ingests, ∃ x, ingest.verify w = .ok x ∧
      pool.store.realizations[profile.evidenceReservation]? = some x.row ∧
      w.readRealizationReceipt x.row.exactReceipt = .ok x.receipt ∧
      (profile.HonouredBy x.receipt request.nowUnixMs ↔
        ingest.applicability.SamePins profile ∧
          (∀ chain ∈ x.receipt.realizations, profile.Names chain) ∧
          x.receipt.evaluatedAtUnixMs ≤ request.nowUnixMs) := by
  obtain ⟨stages, -, hretains⟩ := h.staged
  rw [run_resolveApplicability] at hresolve
  obtain ⟨_, -, hjudge⟩ := bind_eq_ok.mp hresolve
  obtain ⟨row, receipt, hrow, hread, hconflict, hstatus, hobserve⟩ := judge_observation hjudge
  obtain ⟨ingest, hmem, x, conflict, hverify, hreservation, rfl⟩ := hretains.realization _ row hrow
  obtain ⟨hread', happlicability, hpinned, hchains, hsingle⟩ := verify_spec hverify
  have hconflict' : conflict = false := hconflict
  subst hconflict'
  have hreceipt : receipt = x.receipt := Except.ok.inj (hread.symm.trans hread')
  subst hreceipt
  refine ⟨ingest, hmem, x, hverify, hrow, hread', ?_⟩
  simp only [RealizationIngest.pinned, Bool.and_eq_true, beq_iff_eq] at hpinned
  obtain ⟨⟨⟨⟨⟨⟨⟨⟨⟨⟨-, -⟩, -⟩, hsha⟩, hprofileId⟩, hprofileSha⟩, -⟩, hreceiptReservation⟩,
    hevaluatorId⟩, hevaluatorVersion⟩, hexecutable⟩ := hpinned
  constructor
  · intro hhonoured
    obtain ⟨chain, hchain, -, hnames⟩ := hhonoured.chain
    refine ⟨⟨?_, ?_, ?_, ?_, ?_⟩, ?_, hhonoured.evaluated⟩
    · rw [← hprofileId, hhonoured.nqProfileId]
    · rw [← hsha, ← hprofileSha, hhonoured.nqProfileSha256]
    · rw [← hevaluatorId, hhonoured.nqEvaluatorId]
    · rw [← hevaluatorVersion, hhonoured.nqEvaluatorVersion]
    · rw [← hexecutable, hhonoured.nqEvaluatorExecutable]
    · intro chain' hchain'
      rw [hchain, List.mem_singleton] at hchain'
      exact hchain' ▸ hnames
  · rintro ⟨hpins, hnames, hevaluated⟩
    obtain ⟨chain, hchain⟩ := List.length_eq_one_iff.mp (hsingle hstatus)
    have hmemChain : chain ∈ x.receipt.realizations := by rw [hchain]; exact List.mem_singleton_self _
    exact
      { nqProfileId := hprofileId.trans hpins.nqProfileId
        nqProfileSha256 := hprofileSha.trans (hsha.trans hpins.nqProfileSha256)
        nqEvaluatorId := hevaluatorId.trans hpins.nqEvaluatorId
        nqEvaluatorVersion := hevaluatorVersion.trans hpins.nqEvaluatorVersion
        nqEvaluatorExecutable := hexecutable.trans hpins.nqEvaluatorExecutable
        reservation := by rw [hreceiptReservation, ← happlicability, hreservation]
        chain := ⟨chain, hchain, (hchains chain hmemChain).trans hreservation, hnames chain hmemChain⟩
        evaluated := hevaluated
        fresh := observe_current hobserve hcurrent }

section Bench

open QualificationBench

/-- One ingest under the profile that pins the first version of the evaluator. -/
def oneIngested : List (Choice ReservationStore String RetainedReservationRealizationV1) :=
  [.start ((realizationIngest 3).ingest platform), .act 0, .act 0]

theorem realizationRun_oneIngested : RealizationRun platform [realizationIngest 3]
    (play .empty oneIngested).1 (play .empty oneIngested).2 :=
  realizationRun_play rfl

/-- Either profile is answered with a current observation. -/
theorem resolves_oneIngested (version : String) (hversion : version ∈ ["1", "2"]) :
    ∃ resolution, (((reservationProfile version).resolveApplicability platform
        (reservationRequest 1200)).run (play .empty oneIngested).2.store).1 =
      .ok (.observation resolution) ∧ resolution.status = .current := by
  have hstatus : ∀ version ∈ ["1", "2"], (·.observed) <$>
      (((reservationProfile version).resolveApplicability platform (reservationRequest 1200)).run
        (play ReservationStore.empty oneIngested).2.store).1 = .ok (some .current) := by
    decide +kernel
  obtain ⟨outcome, houtcome, hobserved⟩ := map_eq_ok.mp (hstatus version hversion)
  cases outcome with
  | observation resolution => exact ⟨resolution, houtcome, Option.some.inj hobserved⟩
  | retainedOnly receiptId status conflict => cases hobserved
  | absent => cases hobserved

/-- The general statement under the profile of the ingest. -/
theorem current_reservation_honours_profile_ingested :
    ∃ x : Realization, (play .empty oneIngested).2.store.realizations[reservation]? = some x.row ∧
      ((reservationProfile "1").HonouredBy x.receipt 1200 ↔
        (∀ chain ∈ x.receipt.realizations, (reservationProfile "1").Names chain) ∧
          x.receipt.evaluatedAtUnixMs ≤ 1200) := by
  obtain ⟨resolution, hresolve, hcurrent⟩ := resolves_oneIngested "1" (by decide)
  obtain ⟨ingest, hmem, x, -, hrow, -, hiff⟩ :=
    current_reservation_honours_profile realizationRun_oneIngested hresolve hcurrent
  refine ⟨x, hrow, hiff.trans ?_⟩
  rw [List.mem_singleton.mp hmem]
  exact ⟨fun h => h.2, fun h => ⟨⟨rfl, rfl, rfl, rfl, rfl⟩, h⟩⟩

/-- A receipt of the first version is current for the profile that pins the second. -/
theorem another_profile_resolves :
    ∃ (ingests : List RealizationIngest) (entries : List (Entry ReservationStore))
      (pool : Pool ReservationStore String RetainedReservationRealizationV1)
      (profile : ReservationApplicabilityProfileV1) (request : ApplicabilityRequest)
      (resolution : AgQualificationObservationResolutionV3) (row : RealizationRow)
      (receipt : NqRealizationReceiptV2),
      RealizationRun platform ingests entries pool ∧
      ((profile.resolveApplicability platform request).run pool.store).1 =
        .ok (.observation resolution) ∧ resolution.status = .current ∧
      pool.store.realizations[profile.evidenceReservation]? = some row ∧
      platform.readRealizationReceipt row.exactReceipt = .ok receipt ∧
      receipt.evaluatorVersion ≠ profile.expectedNqEvaluatorVersion := by
  obtain ⟨resolution, hresolve, hcurrent⟩ := resolves_oneIngested "2" (by decide)
  have hreceipt : ((play ReservationStore.empty oneIngested).2.store.realizations[reservation]?).map
      (fun row => (·.evaluatorVersion) <$> platform.readRealizationReceipt row.exactReceipt) =
        some (.ok "1") := by decide +kernel
  obtain ⟨row, hrow, hread⟩ := Option.map_eq_some_iff.mp hreceipt
  obtain ⟨receipt, hread, hversion⟩ := map_eq_ok.mp hread
  refine ⟨_, _, _, reservationProfile "2", reservationRequest 1200, resolution, row, receipt,
    realizationRun_oneIngested, hresolve, hcurrent, hrow, hread, ?_⟩
  rw [hversion]
  decide

end Bench

end Nightshift.Qualification
