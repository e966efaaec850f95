import Nightshift.AttentionRecurrence

/-!
# Replay of an attention receipt

The receipt keeps the evaluated instant to the millisecond. A replay decides at
the kept instant, so it agrees when no event stands between the two instants at
the future check, at the window or at a reset.
-/

namespace Nightshift.Attention

open Checked
open Rfc3339 (Agrees FourDigitYear cut cut_le mul_le_cut cut_sub_mul)

variable {w : PulsePlatform} {policy : AttentionPolicyV1}
  {history others : List AttentionEventV1} {evaluatedAt : Instant}

/-- The instant a receipt keeps. -/
abbrev kept (evaluatedAt : Instant) : Instant := cut 1000000 evaluatedAt

theorem kept_le (evaluatedAt : Instant) : kept evaluatedAt ≤ evaluatedAt := cut_le (by decide) _

/-- The deadline is compared in whole milliseconds. -/
theorem unixMs_kept (evaluatedAt : Instant) : unixMs (kept evaluatedAt) = unixMs evaluatedAt := by
  simp only [unixMs, kept, cut]
  omega

theorem Live_kept : Live policy (kept evaluatedAt) = Live policy evaluatedAt := by
  funext event
  rw [Live, Live, unixMs_kept]

/-- The window opens on whole seconds before the instant. -/
theorem opens_kept : policy.opens (kept evaluatedAt) = kept (policy.opens evaluatedAt) := by
  have hwhole : (policy.recurrence.withinSeconds : Int) * 1000000000 =
      (policy.recurrence.withinSeconds * 1000) * 1000000 := by omega
  rw [AttentionPolicyV1.opens, AttentionPolicyV1.opens, hwhole]
  exact (cut_sub_mul _ _).symm

/-! ## Any order of the history -/

theorem Ready.perm (h : Ready w policy history evaluatedAt) (hperm : history.Perm others) :
    Ready w policy others evaluatedAt where
  policyValid := h.policyValid
  eventsValid event hevent := h.eventsValid event (hperm.mem_iff.mpr hevent)
  distinct := (hperm.map _).nodup_iff.mp h.distinct
  settled event hevent := h.settled event (hperm.mem_iff.mpr hevent)
  horizon := h.horizon
  start := h.start
  counted := by
    rw [← (qualifying_perm hperm evaluatedAt).length_eq]
    exact h.counted

theorem bundleOf_perm (hdistinct : (history.map (·.recurrenceId)).Nodup)
    (hperm : history.Perm others) :
    bundleOf w policy others evaluatedAt = bundleOf w policy history evaluatedAt := by
  rw [bundleOf, bundleOf, canonicalOrder_eq hdistinct hperm]

/-- An evaluation at the kept instant accepts the settled history it counts. -/
theorem Ready.kept (h : Ready w policy history evaluatedAt)
    (hsettled : ∀ event ∈ history, event.occurred w ≤ kept evaluatedAt)
    (hcounted : (qualifying w policy history (Attention.kept evaluatedAt)).length < 2 ^ 32) :
    Ready w policy history (Attention.kept evaluatedAt) := by
  refine ⟨h.policyValid, h.eventsValid, h.distinct, hsettled, h.horizon, ?_, hcounted⟩
  obtain ⟨hlow, hhigh⟩ := h.start
  rw [opens_kept]
  constructor
  · exact @mul_le_cut 1000000 (by decide) (-8334601228800000) _ hlow
  · exact (kept_le _).trans hhigh

/-! ## Both sides of the boundaries -/

/-- Matching events that passed their deadlines. -/
def Scan.lapsed (scan : Scan) : Bool :=
  scan.expiredSupported && decide (0 < scan.matchingBeforeCurrentness)

def lapsed (w : PulsePlatform) (policy : AttentionPolicyV1) (history : List AttentionEventV1)
    (evaluatedAt : Instant) : Bool :=
  (scanned w policy history evaluatedAt).lapsed

/-- The year has four digits and no event stands between the evaluated instant
and the kept one: none occurs after the kept instant, no live event is in scope
of one and not of the other, and without a qualifying event both see the same
lapse. -/
structure SameSide (w : PulsePlatform) (policy : AttentionPolicyV1)
    (history : List AttentionEventV1) (evaluatedAt : Instant) : Prop where
  year : FourDigitYear evaluatedAt
  settled : ∀ event ∈ history, event.occurred w ≤ kept evaluatedAt
  scope : ∀ event ∈ history, Live policy evaluatedAt event = true →
    InScope w policy history (kept evaluatedAt) event = InScope w policy history evaluatedAt event
  lapse : qualifying w policy history evaluatedAt = [] →
    lapsed w policy history (kept evaluatedAt) = lapsed w policy history evaluatedAt

/-- A whole millisecond is its own kept instant. -/
theorem SameSide.of_whole (h : Ready w policy history evaluatedAt) (hyear : FourDigitYear evaluatedAt)
    (hwhole : kept evaluatedAt = evaluatedAt) : SameSide w policy history evaluatedAt := by
  refine ⟨hyear, ?_, ?_, ?_⟩
  · rw [hwhole]
    exact h.settled
  · rw [hwhole]
    exact fun _ _ _ => rfl
  · rw [hwhole]
    exact fun _ => rfl

/-- The scope of live events decides what qualifies. -/
theorem qualifies_kept_iff {event : AttentionEventV1} :
    Qualifies w policy history (kept evaluatedAt) event =
        Qualifies w policy history evaluatedAt event ↔
      (Live policy evaluatedAt event = true →
        InScope w policy history (kept evaluatedAt) event =
          InScope w policy history evaluatedAt event) := by
  rw [Qualifies, Qualifies, Live_kept]
  cases Live policy evaluatedAt event <;> simp

theorem lapsed_perm (hperm : history.Perm others) :
    lapsed w policy others evaluatedAt = lapsed w policy history evaluatedAt := by
  have hexpired : (scanned w policy others evaluatedAt).expiredSupported =
      (scanned w policy history evaluatedAt).expiredSupported := by
    simp only [scanned]
    rw [InScope_perm hperm, hperm.any_eq]
  have hmatching : (scanned w policy others evaluatedAt).matchingBeforeCurrentness =
      (scanned w policy history evaluatedAt).matchingBeforeCurrentness := by
    simp only [scanned]
    rw [InScope_perm hperm, hperm.countP_eq]
  rw [lapsed, lapsed, Scan.lapsed, Scan.lapsed, hexpired, hmatching]

theorem judge_of_nil {scan : Scan} (hrequired : policy.recurrence.requiredDistinctOccurrences ≠ 0)
    (hnil : scan.qualifying = []) :
    judge policy scan = if scan.lapsed then
      (.inputNotCurrent, .none,
        "historical Pulse support exists but its exclusive currentness boundary does not cover this evaluation")
    else (.noAttention, .none, "no governed attention trigger currently satisfies the policy") := by
  have hbelow : ¬0 ≥ policy.recurrence.requiredDistinctOccurrences := by omega
  simp only [judge, hnil, List.length_nil, if_neg hbelow, gt_iff_lt, lt_irrefl, ↓reduceIte]
  rfl

/-- Behind a qualifying event the judgement reads nothing else of the scan. -/
theorem judge_of_ne_nil {scan scan' : Scan} (hqualifying : scan.qualifying = scan'.qualifying)
    (hne : scan.qualifying ≠ []) : judge policy scan = judge policy scan' := by
  have hpos : scan'.qualifying.length > 0 := List.length_pos_iff.mpr (hqualifying ▸ hne)
  simp only [judge, hqualifying, if_pos hpos]

/-- Keys tell the kept members of two filters apart. -/
theorem filter_map_eq_iff {α β : Type} {key : α → β} {xs : List α} (h : (xs.map key).Nodup)
    {p q : α → Bool} :
    (xs.filter p).map key = (xs.filter q).map key ↔ ∀ x ∈ xs, p x = q x := by
  have hmem : ∀ (r : α → Bool) (x : α), x ∈ xs → (key x ∈ (xs.filter r).map key ↔ r x = true) := by
    intro r x hx
    rw [List.mem_map]
    constructor
    · rintro ⟨y, hy, hsame⟩
      obtain ⟨hy, hry⟩ := List.mem_filter.mp hy
      rwa [← List.inj_on_of_nodup_map h hy hx hsame]
    · intro hrx
      exact ⟨x, List.mem_filter.mpr ⟨hx, hrx⟩, rfl⟩
  constructor
  · intro hsame x hx
    rw [Bool.eq_iff_iff, ← hmem p x hx, hsame, hmem q x hx]
  · intro hall
    rw [List.filter_congr hall]

theorem openReceipt_congr {start start' at_ at' : Instant} {scan scan' : Scan}
    (hstart : w.toRfc3339Millis start = w.toRfc3339Millis start')
    (hat : w.toRfc3339Millis at_ = w.toRfc3339Millis at')
    (hqualifying : scan.qualifying = scan'.qualifying)
    (hjudge : judge policy scan = judge policy scan') :
    openReceipt w policy history start at_ scan = openReceipt w policy history start' at' scan' := by
  simp only [openReceipt, hstart, hat, hqualifying, hjudge]

theorem required_ne_zero (h : policy.validate w = .ok ()) :
    policy.recurrence.requiredDistinctOccurrences ≠ 0 := by
  simp only [AttentionPolicyV1.validate, bind_eq_ok, refuseIf_eq_ok] at h
  obtain ⟨_, -, _, -, _, -, _, hnonzero, -⟩ := h
  intro hzero
  simp [hzero] at hnonzero

theorem qualifying_eq_nil (hperm : history.Perm others) :
    qualifying w policy others evaluatedAt = [] ↔ qualifying w policy history evaluatedAt = [] := by
  rw [← List.length_eq_zero_iff, ← List.length_eq_zero_iff,
    (qualifying_perm hperm evaluatedAt).length_eq]

/-- The receipts of both instants are one exactly when the events are on the
same side for both. -/
theorem receipt_kept_iff (hagrees : Agrees w.parseFromRfc3339 w.toRfc3339Millis 1000000)
    (hready : Ready w policy history evaluatedAt) :
    (bundleOf w policy history (kept evaluatedAt)).receipt =
        (bundleOf w policy history evaluatedAt).receipt ↔
      (∀ event ∈ history, Live policy evaluatedAt event = true →
        InScope w policy history (kept evaluatedAt) event =
          InScope w policy history evaluatedAt event) ∧
      (qualifying w policy history evaluatedAt = [] →
        lapsed w policy history (kept evaluatedAt) = lapsed w policy history evaluatedAt) := by
  have hperm := (canonicalOrder_perm history).symm
  have hids : ((canonicalOrder history).map (·.recurrenceId)).Nodup :=
    (hperm.map _).nodup_iff.mp hready.distinct
  have hscope : ((qualifying w policy (canonicalOrder history) (kept evaluatedAt)).map
        (·.recurrenceId) =
      (qualifying w policy (canonicalOrder history) evaluatedAt).map (·.recurrenceId)) ↔
        ∀ event ∈ history, Live policy evaluatedAt event = true →
          InScope w policy history (kept evaluatedAt) event =
            InScope w policy history evaluatedAt event := by
    rw [qualifying, qualifying, filter_map_eq_iff hids]
    simp only [qualifies_kept_iff, InScope_perm hperm.symm, hperm.symm.mem_iff]
  have hnil := @qualifying_eq_nil w policy history (canonicalOrder history) evaluatedAt hperm
  have hlapsed : ∀ at_, (scanned w policy (canonicalOrder history) at_).lapsed =
      lapsed w policy history at_ := fun at_ => lapsed_perm hperm
  have hrequired := required_ne_zero hready.policyValid
  constructor
  · intro hreceipt
    have hkeys : (qualifying w policy (canonicalOrder history) (kept evaluatedAt)).map
          (·.recurrenceId) =
        (qualifying w policy (canonicalOrder history) evaluatedAt).map (·.recurrenceId) :=
      congrArg AttentionReceiptV1.qualifyingRecurrenceIds hreceipt
    refine ⟨hscope.mp hkeys, fun hempty => ?_⟩
    have hnow : qualifying w policy (canonicalOrder history) evaluatedAt = [] := hnil.mpr hempty
    have hthen : qualifying w policy (canonicalOrder history) (kept evaluatedAt) = [] := by
      rw [hnow, List.map_nil, List.map_eq_nil_iff] at hkeys
      exact hkeys
    have hjudge : (judge policy (scanned w policy (canonicalOrder history) (kept evaluatedAt))).1 =
        (judge policy (scanned w policy (canonicalOrder history) evaluatedAt)).1 :=
      congrArg AttentionReceiptV1.disposition hreceipt
    rw [judge_of_nil hrequired hthen, judge_of_nil hrequired hnow, hlapsed, hlapsed] at hjudge
    cases hlate : lapsed w policy history (kept evaluatedAt) <;>
      cases hearly : lapsed w policy history evaluatedAt <;> simp [hlate, hearly] at hjudge ⊢
  · rintro ⟨hsame, hlapse⟩
    have hqualifying : qualifying w policy (canonicalOrder history) (kept evaluatedAt) =
        qualifying w policy (canonicalOrder history) evaluatedAt := by
      refine List.filter_congr fun event hevent => ?_
      have := hsame event ((canonicalOrder_perm history).mem_iff.mp hevent)
      rw [← qualifies_kept_iff] at this
      rw [Qualifies, Qualifies, InScope_perm hperm.symm, InScope_perm hperm.symm]
      exact this
    have hjudge : judge policy (scanned w policy (canonicalOrder history) (kept evaluatedAt)) =
        judge policy (scanned w policy (canonicalOrder history) evaluatedAt) := by
      by_cases hempty : qualifying w policy (canonicalOrder history) evaluatedAt = []
      · rw [judge_of_nil hrequired (hqualifying.trans hempty), judge_of_nil hrequired hempty,
          hlapsed, hlapsed, hlapse (hnil.mp hempty)]
      · refine judge_of_ne_nil hqualifying fun hthen => hempty ?_
        exact hqualifying.symm.trans hthen
    have hopens : w.toRfc3339Millis (policy.opens (kept evaluatedAt)) =
        w.toRfc3339Millis (policy.opens evaluatedAt) := by
      rw [opens_kept]
      exact hagrees.coarse _
    have hreceipt := @openReceipt_congr w policy (canonicalOrder history) _ _ _ _ _ _ hopens
      (hagrees.coarse evaluatedAt) hqualifying hjudge
    simp only [bundleOf, closedBundle]
    rw [hreceipt]

/-! ## The replay -/

/-- The replay of the bundle succeeds and matches, in any order of its history. -/
def Replays (w : PulsePlatform) (bundle : AttentionReplayBundleV1) : Prop :=
  ∀ others : List AttentionEventV1, others.Perm bundle.history →
    ∃ result, replayAttention w { bundle with history := others } = .ok result ∧
      result.matches_ = true

theorem replayAttention_eq_ok {bundle : AttentionReplayBundleV1}
    {result : AttentionReplayResultV1} :
    replayAttention w bundle = .ok result ∧ result.matches_ = true ↔
      bundle.schema = bundleSchemaV1 ∧
        ∃ at_, parseTime w bundle.receipt.evaluatedAt = .ok at_ ∧
          ∃ recomputed, evaluate w bundle.policy bundle.history at_ = .ok recomputed ∧
            recomputed.receipt = bundle.receipt ∧
              result =
                { schema := replaySchemaV1
                  matches_ := true
                  expectedReceiptDigest := bundle.receipt.receiptDigest
                  recomputedReceiptDigest := bundle.receipt.receiptDigest } := by
  simp only [replayAttention, bind_eq_ok, refuseIf_eq_ok, Except.ok.injEq]
  constructor
  · rintro ⟨⟨_, hschema, at_, hat, recomputed, hrecomputed, rfl⟩, hmatches⟩
    have hreceipt : recomputed.receipt = bundle.receipt := by simpa using hmatches
    refine ⟨by simpa using hschema, at_, hat, recomputed, hrecomputed, hreceipt, ?_⟩
    rw [hreceipt, beq_self_eq_true]
  · rintro ⟨hschema, at_, hat, recomputed, hrecomputed, hreceipt, rfl⟩
    refine ⟨⟨(), by simp [hschema], at_, hat, recomputed, hrecomputed, ?_⟩, rfl⟩
    rw [hreceipt, beq_self_eq_true]

/-- The bundle of an accepted evaluation replays, in any order of its history,
exactly when the events are on the same side of both instants. -/
theorem replays_iff {bundle : AttentionReplayBundleV1}
    (hagrees : Agrees w.parseFromRfc3339 w.toRfc3339Millis 1000000)
    (h : evaluate w policy history evaluatedAt = .ok bundle) :
    Replays w bundle ↔ SameSide w policy history evaluatedAt := by
  obtain ⟨hready, rfl⟩ := evaluate_eq_ok.mp h
  have hperm := canonicalOrder_perm history
  constructor
  · intro hreplays
    obtain ⟨result, hresult⟩ := hreplays _ (List.Perm.refl _)
    obtain ⟨-, at_, hat, recomputed, hrecomputed, hreceipt, -⟩ := replayAttention_eq_ok.mp hresult
    have hread : w.parseFromRfc3339 (w.toRfc3339Millis evaluatedAt) = .ok at_ :=
      mapErr_eq_ok.mp hat
    have hyear : FourDigitYear evaluatedAt := by
      by_contra hyear
      obtain ⟨e, he⟩ := hagrees.refuses evaluatedAt hyear
      rw [he] at hread
      cases hread
    obtain rfl : kept evaluatedAt = at_ :=
      Except.ok.inj ((hagrees.reads evaluatedAt hyear).symm.trans hread)
    obtain ⟨hthen, rfl⟩ := evaluate_eq_ok.mp hrecomputed
    have hthen := hthen.perm hperm
    have hsame : (bundleOf w policy history (kept evaluatedAt)).receipt =
        (bundleOf w policy history evaluatedAt).receipt := by
      rw [← hreceipt]
      exact congrArg AttentionReplayBundleV1.receipt
        (bundleOf_perm hready.distinct hperm.symm).symm
    obtain ⟨hscope, hlapse⟩ := (receipt_kept_iff hagrees hready).mp hsame
    exact ⟨hyear, hthen.settled, hscope, hlapse⟩
  · rintro ⟨hyear, hsettled, hscope, hlapse⟩ others hothers
    have horder : others.Perm history := hothers.trans hperm
    have hcounted : (qualifying w policy history (kept evaluatedAt)).length < 2 ^ 32 := by
      have hsame : qualifying w policy history (kept evaluatedAt) =
          qualifying w policy history evaluatedAt :=
        List.filter_congr fun event hevent => qualifies_kept_iff.mpr (hscope event hevent)
      rw [hsame]
      exact hready.counted
    have hthen := (hready.kept hsettled hcounted).perm horder.symm
    have hreceipt : (bundleOf w policy others (kept evaluatedAt)).receipt =
        (bundleOf w policy history evaluatedAt).receipt := by
      rw [bundleOf_perm hready.distinct horder.symm]
      exact (receipt_kept_iff hagrees hready).mpr ⟨hscope, hlapse⟩
    refine ⟨_, replayAttention_eq_ok.mpr ⟨rfl, kept evaluatedAt, ?_, _,
      evaluate_eq_ok.mpr ⟨hthen, rfl⟩, hreceipt, rfl⟩⟩
    exact mapErr_eq_ok.mpr (hagrees.reads evaluatedAt hyear)

end Nightshift.Attention

/-! ## An occurrence between the two instants -/

namespace Nightshift.AttentionBench

open Attention

theorem agrees :
    Rfc3339.Agrees platform.parseFromRfc3339 platform.toRfc3339Millis 1000000 := by
  have hspells : Rfc3339.Spells instants 1000000 := by constructor <;> decide +kernel
  have hread : Rfc3339.Agrees (Rfc3339.readBy instants) (Rfc3339.writeBy instants 1000000) 1000000 :=
    Rfc3339.agrees_by (by decide) (by decide) (by decide) hspells
  refine hread.of_eq fun t => ?_
  have hnone : spellings.find? (fun entry => entry.1 == Rfc3339.writeBy instants 1000000 t) =
      none := by
    rw [List.find?_eq_none]
    intro entry hentry hsame
    have htable : ∀ entry ∈ spellings, ∀ other ∈ instants, other.2 ≠ entry.1 := by decide +kernel
    have hplain : ∀ entry ∈ spellings,
        entry.1.toList.head? ≠ some '#' ∧ entry.1 ≠ "+" := by decide +kernel
    exact Rfc3339.writeBy_ne (htable entry hentry) (hplain entry hentry) t
      (beq_iff_eq.mp hsame).symm
  simp only [platform, hnone]

/-- An evaluation on a whole millisecond replays. -/
theorem whole_instant_replays :
    Replays platform (bundleOf platform (policy 2) respelled noon) := by
  rw [replays_iff agrees (evaluate_eq_ok.mpr ⟨respelled_ready, rfl⟩)]
  exact SameSide.of_whole respelled_ready (by decide) (by decide)

/-- Half a millisecond after noon, with an observation a fifth after it. -/
def between : List AttentionEventV1 := [event 1 "2026-07-23T12:00:00.0002Z"]

/-- The receipt keeps noon, when the observation is still to come. -/
theorem fraction_is_not_replayed :
    evaluate platform (policy 1) between (noon + 500000) =
        .ok (bundleOf platform (policy 1) between (noon + 500000)) ∧
      ¬Replays platform (bundleOf platform (policy 1) between (noon + 500000)) := by
  have hready : Ready platform (policy 1) between (noon + 500000) := by
    constructor <;> decide +kernel
  refine ⟨evaluate_eq_ok.mpr ⟨hready, rfl⟩, fun hreplays => ?_⟩
  obtain ⟨result, hresult⟩ := hreplays _ (List.Perm.refl _)
  obtain ⟨-, at_, hat, recomputed, hrecomputed, -⟩ := replayAttention_eq_ok.mp hresult
  have hkept := agrees.reads (noon + 500000) (by decide)
  obtain rfl := Except.ok.inj (hkept.symm.trans (Checked.mapErr_eq_ok.mp hat))
  have hsettled := (evaluate_eq_ok.mp hrecomputed).1.settled _
    ((canonicalOrder_perm between).mem_iff.mpr List.mem_cons_self)
  revert hsettled
  decide +kernel

end Nightshift.AttentionBench
