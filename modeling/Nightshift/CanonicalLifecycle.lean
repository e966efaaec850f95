import Nightshift.CanonicalStore

/-!
# The life of one cycle

Every transition of a cycle is one of eight moves, whichever operation commits
it. What a cycle retains is then read off the moves: which statuses are final,
which facts are permanent, and in which order the AG program counter is seen.
-/

namespace Nightshift.Canonical

open Checked Diagnostic Interleave

/-! ## Moves -/

/-- What a committed transition does to a snapshot, before it is chained and sealed. -/
inductive Mutated (cycle : ObservationCycleV1) : ObservationCycleV1 → Prop
  | observed (observation : ObservationRecordV1) (attention : AttentionRecordV1)
      (temporalPosture : Option TemporalPostureV1) :
      cycle.status = .observing →
      Mutated cycle { cycle with
        observation := some observation
        attention := some attention
        temporalPosture
        status := .postureRecorded }
  | prepared (intent : TypedCoarseIntentV2) (request : PreparedAgRequestV1)
      (authoring : PreparedAuthoringEvidenceV1) (observation : ObservationRecordV1) :
      cycle.status = .postureRecorded → cycle.observation = some observation →
      observation.posture.current = true → observation.support.standing = .current →
      request.sourceIntentId = intent.intentId →
      Mutated cycle { cycle with
        intent := some intent
        preparedAgRequest := some request
        authoringContextProvenance := authoring.lineage
        authoringContextCustody := authoring.custody
        status := .awaitingAg }
  | attached (ag : AgOccurrenceReferenceV1) (request : PreparedAgRequestV1) :
      cycle.status = .awaitingAg → cycle.ag = none → cycle.preparedAgRequest = some request →
      request.campaignId = ag.campaignId → request.occurrenceId = ag.occurrenceId →
      Mutate.statusOf ag.programCounter = .awaitingAg →
      Mutated cycle { cycle with ag := some ag }
  | statusSeen (ag prior : AgOccurrenceReferenceV1) :
      cycle.status ∈ [CycleStatusV1.awaitingAg, .awaitingAgReconciliation, .observationRequired,
        .halted, .recoveryRequired] →
      cycle.ag = some prior → prior.campaignId = ag.campaignId →
      prior.occurrenceId = ag.occurrenceId →
      agStatusCanFollow prior.programCounter ag.programCounter = true →
      Mutated cycle { cycle with status := Mutate.statusOf ag.programCounter, ag := some ag }
  | refused (refusal : AgRefusalReferenceV1) (request : PreparedAgRequestV1)
      (ag : AgOccurrenceReferenceV1) :
      cycle.status ∈ [CycleStatusV1.awaitingAg, .recoveryRequired] →
      cycle.preparedAgRequest = some request → cycle.ag = some ag →
      request.campaignId = refusal.campaignId → request.occurrenceId = refusal.occurrenceId →
      ag.stateDigest = refusal.atStateDigest →
      Mutated cycle { cycle with agRefusal := some refusal, status := .closed }
  | recovered (ag : AgOccurrenceReferenceV1) (request : PreparedAgRequestV1) :
      cycle.status ∈ [CycleStatusV1.awaitingAg, .recoveryRequired] → cycle.ag = none →
      cycle.preparedAgRequest = some request → request.campaignId = ag.campaignId →
      request.occurrenceId = ag.occurrenceId →
      Mutated cycle { cycle with
        status := Mutate.statusOf ag.programCounter
        ag := some ag
        recoveryReason := none }
  | interrupted (reason : String) :
      cycle.status ≠ .closed → cycle.status ≠ .missed →
      Mutated cycle { cycle with status := .recoveryRequired, recoveryReason := some reason }
  | closed :
      cycle.status = .postureRecorded → cycle.intent = none →
      Mutated cycle { cycle with status := .closed }

section Closures

variable {w : CanonicalPlatform} {cycle mutated : ObservationCycleV1}

theorem recordObservation_mutated {observation : ObservationRecordV1}
    {attention : AttentionRecordV1} {temporalPosture : Option TemporalPostureV1}
    (h : Mutate.recordObservation observation attention temporalPosture cycle = .ok mutated) :
    Mutated cycle mutated := by
  simp only [Mutate.recordObservation, bind_eq_ok, refuseIf_eq_ok, bne_eq_false_iff_eq] at h
  obtain ⟨_, hstatus, h⟩ := h
  cases h
  exact .observed observation attention temporalPosture hstatus

theorem prepareAgOccurrence_mutated {intent : TypedCoarseIntentV2} {request : PreparedAgRequestV1}
    {authoring : PreparedAuthoringEvidenceV1}
    (h : Mutate.prepareAgOccurrence w intent request authoring cycle = .ok mutated) :
    Mutated cycle mutated := by
  simp only [Mutate.prepareAgOccurrence, bind_eq_ok, refuseIf_eq_ok, okOr_eq_ok,
    bne_eq_false_iff_eq, Bool.or_eq_false_iff, Bool.not_eq_false'] at h
  obtain ⟨_, hstatus, observation, hobservation, _, ⟨hcurrent, hstanding⟩, _, -, _, hintent, h⟩ := h
  cases h
  exact .prepared intent request authoring observation hstatus hobservation hcurrent hstanding
    hintent

theorem attachAgOccurrence_mutated {ag : AgOccurrenceReferenceV1}
    (h : Mutate.attachAgOccurrence ag cycle = .ok mutated) : Mutated cycle mutated := by
  simp only [Mutate.attachAgOccurrence, bind_eq_ok, refuseIf_eq_ok, okOr_eq_ok,
    bne_eq_false_iff_eq, Bool.or_eq_false_iff, Option.isSome_eq_false_iff,
    Option.isNone_iff_eq_none] at h
  obtain ⟨_, ⟨hstatus, hag⟩, request, hrequest, _, ⟨hcampaign, hoccurrence⟩, _, hearly, h⟩ := h
  cases h
  refine .attached ag request hstatus hag hrequest hcampaign hoccurrence ?_
  cases hcounter : ag.programCounter <;> simp [hcounter, Mutate.statusOf] at hearly ⊢

theorem recordAgStatus_mutated {ag : AgOccurrenceReferenceV1}
    (h : Mutate.recordAgStatus ag cycle = .ok mutated) : Mutated cycle mutated := by
  simp only [Mutate.recordAgStatus, bind_eq_ok, refuseIf_eq_ok, okOr_eq_ok, bne_eq_false_iff_eq,
    Bool.or_eq_false_iff, Bool.not_eq_false', List.contains_iff_mem] at h
  obtain ⟨_, hstatus, prior, hprior, _, ⟨hcampaign, hoccurrence⟩, _, hfollow, h⟩ := h
  cases h
  exact .statusSeen ag prior hstatus hprior hcampaign hoccurrence hfollow

theorem recordAgRefusal_mutated {refusal : AgRefusalReferenceV1}
    (h : Mutate.recordAgRefusal refusal cycle = .ok mutated) : Mutated cycle mutated := by
  simp only [Mutate.recordAgRefusal, bind_eq_ok, refuseIf_eq_ok, okOr_eq_ok, bne_eq_false_iff_eq,
    Bool.or_eq_false_iff, Bool.not_eq_false', List.contains_iff_mem] at h
  obtain ⟨_, hstatus, request, hrequest, _, ⟨hcampaign, hoccurrence⟩, ag, hag, _, hdigest, h⟩ := h
  cases h
  exact .refused refusal request ag hstatus hrequest hag hcampaign hoccurrence hdigest

theorem recoverAgOccurrence_mutated {ag : AgOccurrenceReferenceV1}
    (h : Mutate.recoverAgOccurrence ag cycle = .ok mutated) : Mutated cycle mutated := by
  simp only [Mutate.recoverAgOccurrence, bind_eq_ok, refuseIf_eq_ok, okOr_eq_ok,
    bne_eq_false_iff_eq, Bool.or_eq_false_iff, Bool.not_eq_false', List.contains_iff_mem,
    Option.isSome_eq_false_iff, Option.isNone_iff_eq_none] at h
  obtain ⟨_, ⟨hstatus, hag⟩, request, hrequest, _, ⟨hcampaign, hoccurrence⟩, h⟩ := h
  cases h
  exact .recovered ag request hstatus hag hrequest hcampaign hoccurrence

theorem markRecoveryRequired_mutated {reason : String}
    (h : Mutate.markRecoveryRequired reason cycle = .ok mutated) : Mutated cycle mutated := by
  simp only [Mutate.markRecoveryRequired, bind_eq_ok, refuseIf_eq_ok, Bool.or_eq_false_iff,
    beq_eq_false_iff_ne] at h
  obtain ⟨_, ⟨hclosed, hmissed⟩, h⟩ := h
  cases h
  exact .interrupted reason hclosed hmissed

theorem closeWithoutProposal_mutated (h : Mutate.closeWithoutProposal cycle = .ok mutated) :
    Mutated cycle mutated := by
  simp only [Mutate.closeWithoutProposal, bind_eq_ok, refuseIf_eq_ok, Bool.or_eq_false_iff,
    bne_eq_false_iff_eq, Option.isSome_eq_false_iff, Option.isNone_iff_eq_none] at h
  obtain ⟨_, ⟨hstatus, hintent⟩, h⟩ := h
  cases h
  exact .closed hstatus hintent

/-- The restart move has no guard of its own; it is one of the moves where it is made. -/
theorem restart_mutated (hlive : cycle.status = .observing ∨ cycle.status = .postureRecorded)
    (h : Mutate.restart cycle = .ok mutated) : Mutated cycle mutated := by
  cases h
  refine .interrupted Mutate.restartReason ?_ ?_
  · rcases hlive with h | h <;> simp [h]
  · rcases hlive with h | h <;> simp [h]

end Closures

/-! ## Validity -/

/-- What the validator establishes, fact by fact. -/
structure Valid (w : CanonicalPlatform) (cycle : ObservationCycleV1) : Prop where
  slot : cycle.slot.validate w = .ok ()
  observation : ∀ observation, cycle.observation = some observation →
    observation.validateForCycle w cycle.cycleId = .ok ()
  intent : cycle.checkIntent w = .ok ()
  request : cycle.checkRequest w = .ok ()
  authoring : cycle.checkAuthoring w = .ok ()
  custody : checkCustody w cycle.authoringContextCustody cycle.authoringContextProvenance = .ok ()
  structural : cycle.structural = true
  digest : cycle.stateDigest = cycle.identity w

namespace Valid

variable {w : CanonicalPlatform} {cycle : ObservationCycleV1}

theorem of_validate (h : cycle.validate w = .ok ()) : Valid w cycle := by
  simp only [ObservationCycleV1.validate, bind_eq_ok, refuseIf_eq_ok, forEach_eq_ok,
    Bool.not_eq_false', bne_eq_false_iff_eq, Option.mem_toList] at h
  obtain ⟨_, -, _, -, _, hslot, _, -, _, -, _, hobservation, _, hintent, _, -, _, -, _, -, _,
    hrequest, _, hauthoring, _, hcustody, _, hstructural, hdigest⟩ := h
  exact ⟨hslot, hobservation, hintent, hrequest, hauthoring, hcustody, hstructural, hdigest⟩

/-- Nothing has been recorded yet while a cycle observes. -/
theorem of_observing (h : Valid w cycle) (hstatus : cycle.status = .observing) :
    cycle.observation = none ∧ cycle.intent = none ∧ cycle.preparedAgRequest = none ∧
      cycle.ag = none := by
  have := h.structural
  simpa [ObservationCycleV1.structural, hstatus, and_assoc] using this

theorem of_postureRecorded (h : Valid w cycle) (hstatus : cycle.status = .postureRecorded) :
    cycle.intent = none ∧ cycle.preparedAgRequest = none ∧ cycle.ag = none := by
  have := h.structural
  simp only [ObservationCycleV1.structural, hstatus, Bool.and_eq_true,
    Option.isNone_iff_eq_none] at this
  exact ⟨this.1.1.2, this.1.2, this.2⟩

/-- A cycle interrupted before a request was prepared has no intent and no AG reference. -/
theorem of_recoveryRequired (h : Valid w cycle) (hstatus : cycle.status = .recoveryRequired)
    (hrequest : cycle.preparedAgRequest = none) : cycle.intent = none ∧ cycle.ag = none := by
  have := h.structural
  simp only [ObservationCycleV1.structural, hstatus, hrequest, Bool.and_eq_true,
    Option.isNone_iff_eq_none] at this
  exact ⟨this.1.1, this.1.2⟩

/-- Authoring evidence comes only with a prepared request. -/
theorem authoring_none (h : Valid w cycle) (hrequest : cycle.preparedAgRequest = none) :
    cycle.authoringContextProvenance = none ∧ cycle.authoringContextCustody = none := by
  have hauthoring := h.authoring
  have hcustody := h.custody
  cases hprovenance : cycle.authoringContextProvenance with
  | some provenance =>
    simp [ObservationCycleV1.checkAuthoring, hprovenance, hrequest] at hauthoring
  | none =>
    cases hc : cycle.authoringContextCustody with
    | some custody => simp [checkCustody, hc, hprovenance] at hcustody
    | none => exact ⟨rfl, rfl⟩

/-- The lineage of a valid snapshot is valid in its own right. -/
theorem authoring_valid (h : Valid w cycle) {provenance : AuthoringContextProvenanceV1}
    (hprovenance : cycle.authoringContextProvenance = some provenance) :
    provenance.validate w = .ok () := by
  have hauthoring := h.authoring
  cases hrequest : cycle.preparedAgRequest with
  | none => simp [ObservationCycleV1.checkAuthoring, hprovenance, hrequest] at hauthoring
  | some request =>
    cases hintent : cycle.intent with
    | none => simp [ObservationCycleV1.checkAuthoring, hprovenance, hrequest, hintent] at hauthoring
    | some intent =>
      simp only [ObservationCycleV1.checkAuthoring, hprovenance, hrequest, hintent,
        AuthoringContextProvenanceV1.checkFor, bind_eq_ok, invalid, mapErr_eq_ok,
        AuthoringContextProvenanceV1.validateRelationship] at hauthoring
      obtain ⟨_, -, _, -, _, -, _, hvalid, -⟩ := hauthoring
      exact hvalid

theorem custody_valid (h : Valid w cycle) {custody : AuthoringContextCustodyProvenanceV1}
    (hcustody : cycle.authoringContextCustody = some custody) : custody.validate w = .ok () := by
  have hchecked := h.custody
  cases hprovenance : cycle.authoringContextProvenance with
  | none => simp [checkCustody, hcustody, hprovenance] at hchecked
  | some provenance =>
    simp only [checkCustody, hcustody, hprovenance, invalid, mapErr_eq_ok,
      AuthoringContextCustodyProvenanceV1.validateForAuthoring, bind_eq_ok] at hchecked
    obtain ⟨_, hvalid, -⟩ := hchecked
    exact hvalid

end Valid

/-! ## Succession -/

/-- `after` is a committed successor of `before`. -/
def Follows (w : CanonicalPlatform) (before after : ObservationCycleV1) : Prop :=
  ∃ mutated now, Mutated before mutated ∧
    after = succeed w mutated before.stateDigest (before.version + 1) now

theorem Mutated.version_eq {cycle mutated : ObservationCycleV1} (h : Mutated cycle mutated) :
    mutated.version = cycle.version := by
  cases h <;> rfl

theorem Mutated.cycleId_eq {cycle mutated : ObservationCycleV1} (h : Mutated cycle mutated) :
    mutated.cycleId = cycle.cycleId := by
  cases h <;> rfl

theorem Mutated.slot_eq {cycle mutated : ObservationCycleV1} (h : Mutated cycle mutated) :
    mutated.slot = cycle.slot := by
  cases h <;> rfl

namespace Follows

variable {w : CanonicalPlatform} {before after : ObservationCycleV1}

theorem version_eq (h : Follows w before after) : after.version = before.version + 1 := by
  obtain ⟨mutated, now, -, rfl⟩ := h
  rfl

theorem prior_eq (h : Follows w before after) :
    after.priorStateDigest = some before.stateDigest := by
  obtain ⟨mutated, now, -, rfl⟩ := h
  rfl

theorem cycleId_eq (h : Follows w before after) : after.cycleId = before.cycleId := by
  obtain ⟨mutated, now, hm, rfl⟩ := h
  exact hm.cycleId_eq

theorem slot_eq (h : Follows w before after) : after.slot = before.slot := by
  obtain ⟨mutated, now, hm, rfl⟩ := h
  exact hm.slot_eq

/-- Nothing follows a missed or a closed cycle. -/
theorem not_terminal (h : Follows w before after) :
    before.status ≠ .missed ∧ before.status ≠ .closed := by
  obtain ⟨mutated, now, hm, -⟩ := h
  cases hm with
  | observed _ _ _ hs => simp [hs]
  | prepared _ _ _ _ hs => simp [hs]
  | attached _ _ hs => simp [hs]
  | statusSeen _ _ hs => constructor <;> (intro he; simp [he] at hs)
  | refused _ _ _ hs => constructor <;> (intro he; simp [he] at hs)
  | recovered _ _ hs => constructor <;> (intro he; simp [he] at hs)
  | interrupted _ hclosed hmissed => exact ⟨hmissed, hclosed⟩
  | closed hs => simp [hs]

end Follows

/-! ## What validity does not say -/

/-- The facts of a cycle that come from its history and not from its validator. -/
structure Lawful (cycle : ObservationCycleV1) : Prop where
  unobserved : cycle.status = .observing →
    cycle.attention = none ∧ cycle.temporalPosture = none
  named : ∀ ag, cycle.ag = some ag → ∃ request, cycle.preparedAgRequest = some request ∧
    request.campaignId = ag.campaignId ∧ request.occurrenceId = ag.occurrenceId

theorem statusOf_ne_observing (programCounter : AgProgramCounterV1) :
    Mutate.statusOf programCounter ≠ .observing := by
  cases programCounter <;> decide

theorem Mutated.not_observing {cycle mutated : ObservationCycleV1} (h : Mutated cycle mutated) :
    mutated.status ≠ .observing := by
  cases h with
  | attached _ _ hs => simp [hs]
  | statusSeen ag => exact statusOf_ne_observing ag.programCounter
  | recovered ag => exact statusOf_ne_observing ag.programCounter
  | _ => simp

/-- A move keeps the AG reference on the prepared request. -/
theorem Mutated.named {w : CanonicalPlatform} {cycle mutated : ObservationCycleV1}
    (h : Mutated cycle mutated) (hvalid : Valid w cycle) (hlawful : Lawful cycle) :
    ∀ ag, mutated.ag = some ag → ∃ request, mutated.preparedAgRequest = some request ∧
      request.campaignId = ag.campaignId ∧ request.occurrenceId = ag.occurrenceId := by
  intro seen hseen
  cases h with
  | prepared _ _ _ _ hs =>
    have := (hvalid.of_postureRecorded hs).2.2
    rw [this] at hseen
    cases hseen
  | attached ag request _ _ hrequest hcampaign hoccurrence =>
    cases hseen
    exact ⟨request, hrequest, hcampaign, hoccurrence⟩
  | statusSeen ag prior _ hprior hcampaign hoccurrence =>
    cases hseen
    obtain ⟨request, hrequest, hc, ho⟩ := hlawful.named prior hprior
    exact ⟨request, hrequest, hc.trans hcampaign, ho.trans hoccurrence⟩
  | recovered ag request _ _ hrequest hcampaign hoccurrence =>
    cases hseen
    exact ⟨request, hrequest, hcampaign, hoccurrence⟩
  | observed => exact hlawful.named seen hseen
  | refused => exact hlawful.named seen hseen
  | interrupted => exact hlawful.named seen hseen
  | closed => exact hlawful.named seen hseen

theorem Follows.lawful {w : CanonicalPlatform} {before after : ObservationCycleV1}
    (h : Follows w before after) (hvalid : Valid w before) (hlawful : Lawful before) :
    Lawful after := by
  obtain ⟨mutated, now, hm, rfl⟩ := h
  refine ⟨?_, hm.named hvalid hlawful⟩
  intro hs
  exact absurd hs hm.not_observing

/-! ## Permanence -/

/-- A fact that is there stays as it is. -/
def Stays {β : Type} (before after : Option β) : Prop := ∀ b, before = some b → after = some b

theorem Stays.refl {β : Type} (o : Option β) : Stays o o := fun _ h => h

theorem Stays.of_none {β : Type} {before after : Option β} (h : before = none) :
    Stays before after := by
  intro b hb
  rw [h] at hb
  cases hb

/-- The order the program counters are met in. -/
def AgProgramCounterV1.rank : AgProgramCounterV1 → Nat
  | .observationRequired => 0
  | .proposalRecorded => 1
  | .standingRequired => 2
  | .admissiblePendingAuthorization => 3
  | .authorizationConsumed => 4
  | .dispatched => 5
  | .reconciliationRequired => 6
  | .settledObservationRequired => 7
  | .halted => 8
  | .completed => 9

theorem rank_le_of_agStatusCanFollow {prior next : AgProgramCounterV1}
    (h : agStatusCanFollow prior next = true) : prior.rank ≤ next.rank := by
  revert h
  cases prior <;> cases next <;> decide

/-- What every later snapshot of a cycle owes to an earlier one. -/
structure Retains (before after : ObservationCycleV1) : Prop where
  cycleId : after.cycleId = before.cycleId
  slot : after.slot = before.slot
  observation : Stays before.observation after.observation
  attention : Stays before.attention after.attention
  temporalPosture : Stays before.temporalPosture after.temporalPosture
  intent : Stays before.intent after.intent
  preparedAgRequest : Stays before.preparedAgRequest after.preparedAgRequest
  authoring : Stays before.authoringContextProvenance after.authoringContextProvenance
  custody : Stays before.authoringContextCustody after.authoringContextCustody
  ag : ∀ ag, before.ag = some ag →
    ∃ ag', after.ag = some ag' ∧ ag.programCounter.rank ≤ ag'.programCounter.rank
  interrupted : before.status = .recoveryRequired → before.preparedAgRequest = none →
    after.status = .recoveryRequired ∧ after.preparedAgRequest = none

namespace Retains

theorem refl (cycle : ObservationCycleV1) : Retains cycle cycle where
  cycleId := rfl
  slot := rfl
  observation := .refl _
  attention := .refl _
  temporalPosture := .refl _
  intent := .refl _
  preparedAgRequest := .refl _
  authoring := .refl _
  custody := .refl _
  ag := fun ag h => ⟨ag, h, le_refl _⟩
  interrupted := fun hs hr => ⟨hs, hr⟩

theorem trans {a b c : ObservationCycleV1} (hab : Retains a b) (hbc : Retains b c) :
    Retains a c where
  cycleId := hbc.cycleId.trans hab.cycleId
  slot := hbc.slot.trans hab.slot
  observation := fun x h => hbc.observation x (hab.observation x h)
  attention := fun x h => hbc.attention x (hab.attention x h)
  temporalPosture := fun x h => hbc.temporalPosture x (hab.temporalPosture x h)
  intent := fun x h => hbc.intent x (hab.intent x h)
  preparedAgRequest := fun x h => hbc.preparedAgRequest x (hab.preparedAgRequest x h)
  authoring := fun x h => hbc.authoring x (hab.authoring x h)
  custody := fun x h => hbc.custody x (hab.custody x h)
  ag := by
    intro ag h
    obtain ⟨ag', h', hle⟩ := hab.ag ag h
    obtain ⟨ag'', h'', hle'⟩ := hbc.ag ag' h'
    exact ⟨ag'', h'', hle.trans hle'⟩
  interrupted := by
    intro hs hr
    obtain ⟨hs', hr'⟩ := hab.interrupted hs hr
    exact hbc.interrupted hs' hr'

end Retains

/-- One move retains everything the cycle carried. -/
theorem Mutated.retains {w : CanonicalPlatform} {cycle mutated : ObservationCycleV1}
    (h : Mutated cycle mutated) (hvalid : Valid w cycle) (hlawful : Lawful cycle) :
    Retains cycle mutated := by
  have hself := Retains.refl cycle
  cases h with
  | observed observation attention temporalPosture hs =>
    have hnone := (hvalid.of_observing hs).1
    have hearly := hlawful.unobserved hs
    exact { hself with
      observation := .of_none hnone
      attention := .of_none hearly.1
      temporalPosture := .of_none hearly.2
      interrupted := by simp [hs] }
  | prepared intent request authoring observation hs =>
    have hnone := hvalid.of_postureRecorded hs
    have hauthoring := hvalid.authoring_none hnone.2.1
    exact { hself with
      intent := .of_none hnone.1
      preparedAgRequest := .of_none hnone.2.1
      authoring := .of_none hauthoring.1
      custody := .of_none hauthoring.2
      interrupted := by simp [hs] }
  | attached ag request hs hag =>
    exact { hself with ag := by simp [hag] }
  | statusSeen ag prior hs hprior hcampaign hoccurrence hfollow =>
    refine { hself with ag := ?_, interrupted := ?_ }
    · intro seen hseen
      rw [hprior] at hseen
      cases hseen
      exact ⟨ag, rfl, rank_le_of_agStatusCanFollow hfollow⟩
    · intro hstatus hrequest
      have := (hvalid.of_recoveryRequired hstatus hrequest).2
      rw [hprior] at this
      cases this
  | refused refusal request ag hs hrequest =>
    exact { hself with interrupted := by simp [hrequest] }
  | recovered ag request hs hag hrequest =>
    exact { hself with ag := by simp [hag], interrupted := by simp [hrequest] }
  | interrupted reason =>
    exact { hself with interrupted := fun _ hrequest => ⟨rfl, hrequest⟩ }
  | closed hs =>
    exact { hself with interrupted := by simp [hs] }

theorem Follows.retains {w : CanonicalPlatform} {before after : ObservationCycleV1}
    (h : Follows w before after) (hvalid : Valid w before) (hlawful : Lawful before) :
    Retains before after := by
  obtain ⟨mutated, now, hm, rfl⟩ := h
  have hretains := hm.retains hvalid hlawful
  exact ⟨hretains.cycleId, hretains.slot, hretains.observation, hretains.attention,
    hretains.temporalPosture, hretains.intent, hretains.preparedAgRequest, hretains.authoring,
    hretains.custody, hretains.ag, hretains.interrupted⟩

end Nightshift.Canonical
