import Nightshift.Receipts

/-!
# Reading a longer journal

The strict validator reads two things beside the rows it scans: whether a
capacity requirement stands at a sequence, and the retained receipts. As both
only grow with the journal, the scan of a prefix does not change, and a read of
a run extends by the scan of the new rows.
-/

namespace Nightshift

open Checked

/-- The tables the scan looks up are kept or grown. -/
structure Carries (t t' : RunTables) : Prop where
  run : t'.run = t.run
  receipts : ∀ (item : String) (receipt : ReceiptRow),
    t.terminalReceipts[item]? = some receipt → t'.terminalReceipts[item]? = some receipt
  capacity : ∀ n, (t'.events.any fun row =>
      row.sequence == n && row.kind == .capacityRequirement) =
    t.events.any fun row => row.sequence == n && row.kind == .capacityRequirement

namespace Carries

variable {w : Platform} {t t' : RunTables} {c : Contracts}

theorem receiptOf (h : Carries t t') {item : String} {receipt : ReceiptRow}
    (hreceipt : t.receiptOf item = .ok receipt) : t'.receiptOf item = .ok receipt := by
  rw [RunTables.receiptOf, okOr_eq_ok] at hreceipt ⊢
  exact h.receipts item receipt hreceipt

theorem predecessorReceipts (h : Carries t t')
    {represent : ReceiptRow → RetainedPredecessorReceiptV1} {dependencies : List String}
    {map : BTreeMap String RetainedPredecessorReceiptV1}
    (hmap : Nightshift.predecessorReceipts t represent dependencies = .ok map) :
    Nightshift.predecessorReceipts t' represent dependencies = .ok map := by
  unfold Nightshift.predecessorReceipts at hmap ⊢
  generalize (∅ : BTreeMap String RetainedPredecessorReceiptV1) = start at hmap ⊢
  induction dependencies generalizing start with
  | nil => exact hmap
  | cons dependency rest ih =>
    obtain ⟨next, hnext, hrest⟩ := foldlM_cons_eq_ok.mp hmap
    simp only [bind_eq_ok, Except.ok.injEq] at hnext
    obtain ⟨receipt, hreceipt, rfl⟩ := hnext
    refine foldlM_cons_eq_ok.mpr ⟨_, ?_, ih _ hrest⟩
    rw [h.receiptOf hreceipt]
    rfl

theorem retainedLengths (h : Carries t t') {dependencies : List String} {total : Nat}
    (htotal : Nightshift.retainedLengths t dependencies = .ok total) :
    Nightshift.retainedLengths t' dependencies = .ok total := by
  unfold Nightshift.retainedLengths at htotal ⊢
  rw [h.run]
  generalize t.run.packetBytes.length = start at htotal ⊢
  induction dependencies generalizing start with
  | nil => exact htotal
  | cons dependency rest ih =>
    obtain ⟨next, hnext, hrest⟩ := foldlM_cons_eq_ok.mp htotal
    simp only [bind_eq_ok, Except.ok.injEq] at hnext
    obtain ⟨receipt, hreceipt, rfl⟩ := hnext
    refine foldlM_cons_eq_ok.mpr ⟨_, ?_, ih _ hrest⟩
    rw [h.receiptOf hreceipt]
    rfl

/-- A brief reads the receipts of its dependencies only. -/
theorem workerBrief (h : Carries t t') {packet : NightshiftPacketV1}
    {profile : ExecutionProfileV2} {workItemId : String} {brief : WorkerBriefV2}
    (hbrief : Nightshift.workerBrief w t packet profile workItemId = .ok brief) :
    Nightshift.workerBrief w t' packet profile workItemId = .ok brief := by
  simp only [Nightshift.workerBrief, bind_eq_ok] at hbrief ⊢
  obtain ⟨item, hitem, _, hcount, preflight, hpreflight, execution, hexecution, total, htotal, _,
    hbound, predecessors, hpredecessors, hrest⟩ := hbrief
  refine ⟨item, hitem, (), hcount, preflight, h.predecessorReceipts hpreflight, execution,
    hexecution, total, h.retainedLengths htotal, (), hbound, predecessors,
    h.predecessorReceipts hpredecessors, ?_⟩
  rw [h.run]
  exact hrest

theorem onConfigured (h : Carries t t') {scan scan' : Scan} {row : EventRow}
    {event : InternalEvent} {requirement : ForemanExecutionAvailabilityRequirementV1}
    {requirementBytes : Bytes} {policy : ExecutionAvailabilityPolicyV1} {policyBytes : Bytes}
    (hstep : scan.onConfigured w t c row event requirement requirementBytes policy policyBytes =
      .ok scan') :
    scan.onConfigured w t' c row event requirement requirementBytes policy policyBytes =
      .ok scan' := by
  unfold Scan.onConfigured at hstep ⊢
  simp only [h.capacity]
  exact hstep

theorem onPrelaunch (h : Carries t t') {scan scan' : Scan} {event : InternalEvent}
    {closure : PrelaunchClosureV1} {receipt : NotStartedReceiptV1}
    (hstep : scan.onPrelaunch w t c event closure receipt = .ok scan') :
    scan.onPrelaunch w t' c event closure receipt = .ok scan' := by
  simp only [Scan.onPrelaunch, bind_eq_ok] at hstep ⊢
  obtain ⟨history, hhistory, _, hbinding, index, hindex, brief, hbrief, request, hrequest, dispatch,
    hdispatch, _, hprepared, expected, hexpected, _, hreceipt, retained, hretained, hrest⟩ := hstep
  exact ⟨history, hhistory, (), hbinding, index, hindex, brief, h.workerBrief hbrief, request,
    hrequest, dispatch, hdispatch, (), hprepared, expected, hexpected, (), hreceipt, retained,
    h.receiptOf hretained, hrest⟩

theorem onPayload (h : Carries t t') {scan scan' : Scan} {row : EventRow}
    {event : InternalEvent} (hstep : scan.onPayload w t c row event = .ok scan') :
    scan.onPayload w t' c row event = .ok scan' := by
  obtain ⟨schema, eventId, runId, workItemId, attemptId, recordedAt, payload⟩ := event
  cases payload <;>
    first
      | exact h.onConfigured hstep
      | exact h.onPrelaunch hstep
      | exact hstep

theorem step (h : Carries t t') {scan scan' : Scan} {row : EventRow}
    (hstep : scan.step w t c row = .ok scan') : scan.step w t' c row = .ok scan' := by
  simp only [Scan.step, bind_eq_ok] at hstep ⊢
  obtain ⟨_, hrow, hstep⟩ := hstep
  refine ⟨(), hrow, ?_⟩
  split at hstep
  · rename_i hadapter
    rw [if_pos hadapter]
    exact hstep
  · rename_i hinternal
    rw [if_neg hinternal]
    obtain ⟨event, hevent, hpayload⟩ := bind_eq_ok.mp hstep
    refine bind_eq_ok.mpr ⟨event, hevent, ?_⟩
    exact h.onPayload hpayload

/-- The scan of a list of rows does not depend on what was added beside it. -/
theorem foldlM_step (h : Carries t t') {rows : List EventRow} {scan scan' : Scan}
    (hscan : rows.foldlM (Scan.step w t c) scan = .ok scan') :
    rows.foldlM (Scan.step w t' c) scan = .ok scan' := by
  induction rows generalizing scan with
  | nil => exact hscan
  | cons row rows ih =>
    obtain ⟨next, hnext, hrest⟩ := foldlM_cons_eq_ok.mp hscan
    exact foldlM_cons_eq_ok.mpr ⟨next, h.step hnext, ih hrest⟩

/-- The scan of the longer journal is the old scan continued over the new rows. -/
theorem ofJournal_iff (h : Carries t t') {rows : List EventRow} {scan scan' : Scan}
    (hevents : t'.events = t.events ++ rows) (hscan : Scan.ofJournal w t c = .ok scan) :
    Scan.ofJournal w t' c = .ok scan' ↔ rows.foldlM (Scan.step w t' c) scan = .ok scan' := by
  unfold Scan.ofJournal at hscan ⊢
  rw [hevents, foldlM_append_eq_ok]
  have hold := h.foldlM_step hscan
  constructor
  · rintro ⟨middle, hmiddle, hrest⟩
    rwa [← Except.ok.inj (hmiddle.symm.trans hold)]
  · exact fun hrest => ⟨scan, hold, hrest⟩

theorem loadContracts (h : Carries t t') {runId : String} :
    Nightshift.loadContracts w t' runId = Nightshift.loadContracts w t runId := by
  simp only [Nightshift.loadContracts, h.run]

end Carries

/-- Rows no later read of the old ones looks at. -/
def Unrequired (rows : List EventRow) : Prop := ∀ row ∈ rows, row.kind ≠ .capacityRequirement

theorem Grows.carries {tx tx' : Tx} {rows : List EventRow} (h : Grows tx tx' rows)
    (hrows : Unrequired rows) : Carries tx.tables tx'.tables where
  run := h.run
  receipts := h.receipts
  capacity n := by
    have hnone : (rows.any fun row => row.sequence == n && row.kind == .capacityRequirement) =
        false := by
      simp only [List.any_eq_false, Bool.and_eq_true, beq_iff_eq, not_and]
      exact fun row hrow _ => hrows row hrow
    rw [h.events, List.any_append, hnone, Bool.or_false]

end Nightshift
