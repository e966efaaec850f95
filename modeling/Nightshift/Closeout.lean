import Nightshift.Runs

/-!
# Closeout time custody

Closing a run compares its time with the retained receipts at full precision and
writes the time into the final document in whole seconds. The exported time is then
before a receipt exactly where the receipt falls inside the second of the closeout.
-/

namespace Nightshift

open Checked

/-- One second, in nanoseconds. -/
def second : Int := 1000000000

/-- The start of the second of an instant, the part that
`to_rfc3339_opts(SecondsFormat::Secs, true)` writes. -/
def wholeSecond (at_ : Instant) : Instant := at_ / second * second

/-- The reader of an exported final document: `serde_json` and `DateTime::from_str` on
its `updated_at`. What was written from an instant reads back as its whole second. -/
structure FinalReader (w : Platform) where
  updatedAt : Bytes → Option Instant
  updatedAt_canonical : ∀ (document : FinalReceiptDocument) (at_ : Instant),
    document.updatedAt = w.rfc3339Seconds at_ →
      updatedAt (w.canonical (.finalReceipts document)) = some (wholeSecond at_)

/-- The time of the evidence that a retained receipt carries. -/
def ReceiptRow.observedAt (w : Platform) (receipt : ReceiptRow) : Except ForemanError Instant :=
  match receipt.receiptKind with
  | .terminal => (·.endedAt) <$> mapErr .contract (w.parseTerminalReceipt receipt.rawBytes)
  | .notStarted => (·.recordedAt) <$> mapErr .contract (w.parseNotStartedReceipt receipt.rawBytes)

namespace RunTables

variable (w : Platform) (t : RunTables)

/-- A receipt of the run is dated at the instant. -/
def Receipted (at_ : Instant) : Prop :=
  ∃ (workItemId : String) (receipt : ReceiptRow),
    t.terminalReceipts[workItemId]? = some receipt ∧ receipt.observedAt w = .ok at_

/-- An exported document is not dated before any receipt of its run. -/
def KeepsTime {w : Platform} (reader : FinalReader w) (t : RunTables) (exported : Bytes) : Prop :=
  ∃ updatedAt, reader.updatedAt exported = some updatedAt ∧
    ∀ at_, t.Receipted w at_ → at_ ≤ updatedAt

/-- No receipt falls inside the second of the closeout, past its start. -/
def WholeAt (updatedAt : Instant) : Prop :=
  ∀ at_, t.Receipted w at_ → at_ / second = updatedAt / second → at_ % second = 0

end RunTables

/-- A number up to another one is up to the other's last multiple of `n` unless it falls
past it. -/
theorem le_floor_iff {a b n : Int} (hn : 0 < n) (h : a ≤ b) :
    a ≤ b / n * n ↔ (a / n = b / n → a % n = 0) := by
  have ha := Int.emod_add_ediv_mul a n
  have hnonneg := Int.emod_nonneg a hn.ne'
  constructor
  · intro hle hsame
    rw [← hsame] at hle
    omega
  · intro hwhole
    by_cases hsame : a / n = b / n
    · have hzero := hwhole hsame
      rw [← hsame]
      omega
    · have hle : a / n ≤ b / n := Int.ediv_le_ediv hn h
      have hnext : a / n + 1 ≤ b / n := by omega
      calc a ≤ (a / n + 1) * n := by
            have hlt := Int.emod_lt_of_pos a hn
            rw [add_mul, one_mul]
            omega
        _ ≤ b / n * n := Int.mul_le_mul_of_nonneg_right hnext hn.le

/-! ## What a closed run retains -/

variable {w : Platform} {t t' : RunTables} {c : Contracts}

theorem foldl_latest_ok {rows : List ReceiptRow} {start found : Option Instant}
    (h : rows.foldlM (fun latest (receipt : ReceiptRow) => do
      let observedAt ← receipt.observedAt w
      .ok (some ((latest.map fun current => max current observedAt).getD observedAt))) start =
        .ok found) :
    (∀ at_, start = some at_ → ∃ latest, found = some latest ∧ at_ ≤ latest) ∧
      ∀ receipt ∈ rows, ∃ at_ latest, receipt.observedAt w = .ok at_ ∧ found = some latest ∧
        at_ ≤ latest := by
  induction rows generalizing start with
  | nil =>
    obtain rfl := foldlM_nil_eq_ok.mp h
    exact ⟨fun at_ hat => ⟨at_, hat, le_rfl⟩, fun receipt hmem => nomatch hmem⟩
  | cons receipt rows ih =>
    obtain ⟨next, hstep, hrest⟩ := foldlM_cons_eq_ok.mp h
    simp only [bind_eq_ok, Except.ok.injEq] at hstep
    obtain ⟨observedAt, hobserved, rfl⟩ := hstep
    obtain ⟨hstart, hrows⟩ := ih hrest
    obtain ⟨latest, hfound, hle⟩ := hstart _ rfl
    refine ⟨fun at_ hat => ⟨latest, hfound, ?_⟩, fun other hmem => ?_⟩
    · rw [hat] at hle
      exact (le_max_left _ _).trans hle
    · rcases List.mem_cons.mp hmem with rfl | hmem
      · refine ⟨observedAt, latest, hobserved, hfound, le_trans ?_ hle⟩
        cases start with
        | none => exact le_rfl
        | some current => exact le_max_right _ _
      · exact hrows other hmem

/-- The latest evidence is past every retained receipt, and every receipt is read. -/
theorem latestTerminalEvidenceAt_ok {latest : Instant}
    (h : latestTerminalEvidenceAt w t = .ok latest) {workItemId : String} {receipt : ReceiptRow}
    (hreceipt : t.terminalReceipts[workItemId]? = some receipt) :
    ∃ at_, receipt.observedAt w = .ok at_ ∧ at_ ≤ latest := by
  have hread : latestTerminalEvidenceAt w t = (do
      let latest ← (BTreeMap.valuesOf t.terminalReceipts).foldlM (fun latest receipt => do
        let observedAt ← receipt.observedAt w
        .ok (some ((latest.map fun current => max current observedAt).getD observedAt))) none
      okOr latest (.incompleteCloseout "no terminal evidence")) := by
    unfold latestTerminalEvidenceAt
    congr 2
    funext latest receipt
    cases hkind : receipt.receiptKind <;> simp only [ReceiptRow.observedAt, hkind]
  rw [hread] at h
  simp only [bind_eq_ok, okOr_eq_ok] at h
  obtain ⟨found, hfold, rfl⟩ := h
  have hmem : receipt ∈ BTreeMap.valuesOf t.terminalReceipts :=
    BTreeMap.mem_valuesOf.mpr ⟨workItemId, hreceipt⟩
  obtain ⟨at_, latest', hobserved, hlatest, hle⟩ := (foldl_latest_ok hfold).2 receipt hmem
  obtain rfl := Option.some.inj hlatest
  exact ⟨at_, hobserved, hle⟩

/-- The final document has a section for every item, so every item has a receipt. -/
theorem buildFinalDocument_ok {packet : NightshiftPacketV1} {updatedAt : Instant}
    {document : FinalReceiptDocument} (h : buildFinalDocument w t packet updatedAt = .ok document) :
    document.updatedAt = w.rfc3339Seconds updatedAt ∧
      ∀ item ∈ packet.workItems, (t.terminalReceipts[item.id]?).isSome := by
  simp only [buildFinalDocument, bind_eq_ok, Except.ok.injEq] at h
  obtain ⟨sections, hsections, rfl⟩ := h
  refine ⟨rfl, fun item hitem => ?_⟩
  obtain ⟨index, hindex⟩ := List.getElem?_of_mem hitem
  obtain ⟨section_, hsection, -⟩ := getElem?_of_mapM_eq_ok hsections hindex
  simp only [finalSections, RunTables.receiptOf, bind_eq_ok, okOr_eq_ok] at hsection
  obtain ⟨row, hrow, -⟩ := hsection
  simp [hrow]

/-- The retained closeout of a run: its document carries the time of the closing call,
every item has a receipt, and no receipt is later than that time. -/
structure RunTables.Sealed (w : Platform) (c : Contracts) (t : RunTables) (row : FinalSnapshotRow) :
    Prop where
  document : ∃ document : FinalReceiptDocument,
    row.rawBytes = w.canonical (.finalReceipts document) ∧
      document.updatedAt = w.rfc3339Seconds row.updatedAt
  complete : ∀ item ∈ c.packet.workItems, (t.terminalReceipts[item.id]?).isSome
  evidence : ∀ (workItemId : String) (receipt : ReceiptRow),
    t.terminalReceipts[workItemId]? = some receipt →
      ∃ at_, receipt.observedAt w = .ok at_ ∧ at_ ≤ row.updatedAt

/-- Every closeout that a run retains is sealed. -/
def RunTables.Closed (w : Platform) (c : Contracts) (t : RunTables) : Prop :=
  ∀ row, t.finalSnapshot = some row → t.Sealed w c row

namespace RunTables

theorem Sealed.keepsTime_iff {row : FinalSnapshotRow} (h : t.Sealed w c row)
    (reader : FinalReader w) :
    t.KeepsTime reader row.rawBytes ↔ t.WholeAt w row.updatedAt := by
  obtain ⟨document, hraw, hupdated⟩ := h.document
  have hread := reader.updatedAt_canonical document row.updatedAt hupdated
  rw [← hraw] at hread
  have hupto : ∀ at_, t.Receipted w at_ → at_ ≤ row.updatedAt := by
    rintro at_ ⟨workItemId, receipt, hreceipt, hobserved⟩
    obtain ⟨at', hobserved', hle⟩ := h.evidence workItemId receipt hreceipt
    obtain rfl := Except.ok.inj (hobserved'.symm.trans hobserved)
    exact hle
  constructor
  · rintro ⟨updatedAt, hupdatedAt, hkept⟩ at_ hat
    obtain rfl := Option.some.inj (hread.symm.trans hupdatedAt)
    exact (le_floor_iff (by decide) (hupto at_ hat)).mp (hkept at_ hat)
  · intro hwhole
    refine ⟨wholeSecond row.updatedAt, hread, fun at_ hat => ?_⟩
    exact (le_floor_iff (by decide) (hupto at_ hat)).mpr (hwhole at_ hat)

/-- A turn that touches neither receipts nor closeout keeps it sealed. -/
theorem Closed.same (h : t.Closed w c) (hreceipts : t'.terminalReceipts = t.terminalReceipts)
    (hsnapshot : t'.finalSnapshot = t.finalSnapshot) : t'.Closed w c := by
  intro row hrow
  rw [hsnapshot] at hrow
  have hsealed := h row hrow
  refine ⟨hsealed.document, fun item hitem => ?_, fun workItemId receipt hreceipt => ?_⟩
  · rw [hreceipts]
    exact hsealed.complete item hitem
  · rw [hreceipts] at hreceipt
    exact hsealed.evidence workItemId receipt hreceipt

end RunTables

variable {runId : String} {scan : Scan} {replay : Scheduler.Replay}

/-- A new receipt belongs to an item without one, and a closed run has none left. -/
theorem Reads.open_of_absent (hr : Reads w runId t c scan replay) (h : t.Closed w c)
    {workItemId : String} {item : LiveWorkItemV1} (hitem : replay.items[workItemId]? = some item)
    (habsent : t.terminalReceipts[workItemId]? = none) : t.finalSnapshot = none := by
  cases hsnapshot : t.finalSnapshot with
  | none => rfl
  | some row =>
    obtain ⟨work, hwork, rfl, -⟩ := (hr.charts hitem).work
    have hsome := (h row hsnapshot).complete work hwork
    rw [habsent] at hsome
    cases hsome

/-- A run that is still open after a turn is closed in no way. -/
theorem RunTables.Closed.of_open (h : t.finalSnapshot = none)
    (hsnapshot : t'.finalSnapshot = t.finalSnapshot) : t'.Closed w c := by
  intro row hrow
  rw [hsnapshot, h] at hrow
  cases hrow

/-- Every turn keeps the closeout sealed; closing seals it. -/
theorem Turn.closed {tx tx' : Tx} {rows : List EventRow} {events : List ReplayEvent}
    (hr : Reads w runId tx.tables c scan replay) (hclosed : tx.tables.Closed w c)
    (h : Turn w runId c scan replay tx tx' rows events) : tx'.tables.Closed w c := by
  cases h with
  | kept h => exact h ▸ hclosed
  | drove h => exact hclosed.same (by rw [h.tables]) (by rw [h.tables])
  | prepared h => exact hclosed.same h.same.receipts h.same.snapshot
  | disposed h => exact hclosed.same h.same.receipts h.same.snapshot
  | woken h => exact hclosed.same h.same.receipts h.same.snapshot
  | resumed h => exact hclosed.same h.same.receipts h.same.snapshot
  | transitioned _ h => exact hclosed.same h.same.receipts h.same.snapshot
  | observed h => exact hclosed.same h.same.receipts h.same.snapshot
  | terminated _ h =>
    obtain ⟨item, hitem, -⟩ := h.active
    exact .of_open (hr.open_of_absent hclosed hitem h.ended.absent) h.ended.same.snapshot
  | prelaunched _ h =>
    obtain ⟨item, hitem, -⟩ := h.active
    exact .of_open (hr.open_of_absent hclosed hitem h.ended.absent) h.ended.same.snapshot
  | declined _ h =>
    obtain ⟨item, hitem, -⟩ := h.item
    exact .of_open (hr.open_of_absent hclosed hitem h.absent) h.same.snapshot
  | closedOut h =>
    obtain ⟨c', latest, updatedAt, document, hcontracts, hlatest, hle, hdocument, hsnapshot⟩ := h.wrote
    obtain rfl := hr.contracts_eq hcontracts
    obtain ⟨hupdated, hcomplete⟩ := buildFinalDocument_ok hdocument
    intro row hrow
    obtain rfl := Option.some.inj (hsnapshot.symm.trans hrow)
    refine ⟨⟨document, rfl, hupdated⟩, fun item hitem => ?_, fun workItemId receipt hreceipt => ?_⟩
    · rw [h.receipts]
      exact hcomplete item hitem
    · rw [h.receipts] at hreceipt
      obtain ⟨at_, hobserved, hupto⟩ := latestTerminalEvidenceAt_ok hlatest hreceipt
      exact ⟨at_, hobserved, hupto.trans hle⟩

/-- Over any turns the closeout of a run stays sealed. -/
theorem Evolves.closed {scan' : Scan} {replay' : Scheduler.Replay} (hclosed : t.Closed w c)
    (h : Evolves w runId c t scan replay t' scan' replay') : t'.Closed w c := by
  induction h with
  | refl => exact hclosed
  | turn _ hstanding hturn _ _ ih => exact hturn.closed hstanding.reads ih

/-- Every closeout of a reachable store is sealed. -/
theorem Store.run_closed (w : Platform) (calls : List Call) {runId : String} {t : RunTables}
    (ht : ((Store.empty : Store).run w calls).runs[runId]? = some t) : ∃ c, t.Closed w c := by
  obtain ⟨c, scan, replay, -, tx, scan₀, replay₀, hadmitted, -, -, hevolves⟩ :=
    (Store.run_traced w calls).2 runId t ht
  have hopen : tx.tables.Closed w c := .of_open hadmitted.snapshot rfl
  exact ⟨c, hevolves.closed hopen⟩

namespace Bench

/-- The clock text of a second: of the first ten it is the RFC 3339 text, of any other one
a row of marks. -/
def clockText (s : Int) : String :=
  if 0 ≤ s ∧ s < 10 then
    String.ofList ("1970-01-01T00:00:0".toList ++ [hexDigit s.toNat, 'Z'])
  else String.ofList (List.replicate s.natAbs (if s < 0 then 'n' else 'u'))

def spell (text : String) : Bytes := text.toList.map fun c => UInt8.ofNat c.toNat

/-- The receipt that declines an item. -/
def declined (workItemId : String) (recordedAt : Instant) : NotStartedReceiptV1 where
  schema := workItemNotStartedReceiptSchemaV1
  receiptDigest := digest 11
  packetDigest := digest 1
  runId := "run-1"
  workItemId := workItemId
  recordedAt := recordedAt
  state := "STOPPED_NOT_STARTED"
  resultClassification := "bench"
  evidence := []
  remainingTrigger := "bench"
  nextLawfulAction := "bench"
  humanQuestions := []
  extensions := ∅

def parseDeclined (bytes : Bytes) : Except ContractError NotStartedReceiptV1 :=
  if bytes = [11, 0] then .ok (declined "a" 2000000000)
  else if bytes = [11, 1] then .ok (declined "b" 5500000000)
  else .error (.json "bench")

/-- The final document is spelled as its time. -/
def closeoutBytes : Document → Bytes
  | .finalReceipts document => 10 :: spell document.updatedAt
  | document => [tag document]

theorem closeoutBytes_ne_nil (document : Document) : closeoutBytes document ≠ [] := by
  cases document <;> simp [closeoutBytes]

/-- The bench with not-started receipts and readable clock texts. -/
def closeoutPlatform : Platform :=
  { benchPlatform with
    canonical := closeoutBytes
    canonical_ne_nil := closeoutBytes_ne_nil
    rfc3339Seconds := fun at_ => clockText (at_ / second)
    parseNotStartedReceipt := parseDeclined }

def readSecond (text : Bytes) : Int :=
  match (List.range 10).find? fun (s : Nat) => spell (clockText s) == text with
  | some s => (s : Nat)
  | none => if text.head? = some 110 then -text.length else text.length

def readClock : Bytes → Option Instant
  | 10 :: text => some (readSecond text * second)
  | _ => none

theorem readSecond_early (s : Fin 10) : readSecond (spell (clockText s.val)) = s.val := by
  revert s
  decide +kernel

theorem head_spell_clockText (s : Fin 10) : (spell (clockText s.val)).head? = some 49 := by
  revert s
  decide +kernel

theorem readSecond_clockText (s : Int) : readSecond (spell (clockText s)) = s := by
  by_cases hearly : 0 ≤ s ∧ s < 10
  · have hread := readSecond_early ⟨s.toNat, by omega⟩
    have hs : ((s.toNat : Nat) : Int) = s := Int.toNat_of_nonneg hearly.1
    rwa [hs] at hread
  · have htext : spell (clockText s) =
        List.replicate s.natAbs (if s < 0 then 110 else 117) := by
      unfold spell clockText
      rw [if_neg hearly, String.toList_ofList, List.map_replicate]
      split <;> rfl
    have hnone : ((List.range 10).find? fun n : Nat =>
        spell (clockText n) == spell (clockText s)) = none := by
      rw [List.find?_eq_none]
      intro n hn hsame
      have hhead := head_spell_clockText ⟨n, List.mem_range.mp hn⟩
      rw [beq_iff_eq.mp hsame, htext, List.head?_replicate] at hhead
      by_cases hzero : s.natAbs = 0
      · simp [hzero] at hhead
      · rw [if_neg hzero] at hhead
        split at hhead <;> cases hhead
    unfold readSecond
    rw [hnone, htext]
    simp only [List.head?_replicate, List.length_replicate]
    by_cases hneg : s < 0
    · have hmarks : s.natAbs ≠ 0 := by omega
      rw [if_neg hmarks, if_pos hneg, if_pos rfl]
      omega
    · have hmarks : s.natAbs ≠ 0 := by omega
      rw [if_neg hmarks, if_neg hneg, if_neg (by decide)]
      omega

/-- The reader of the bench documents. -/
def finalReader : FinalReader closeoutPlatform where
  updatedAt := readClock
  updatedAt_canonical document at_ h := by
    show some (readSecond (spell document.updatedAt) * second) = some (wholeSecond at_)
    rw [h]
    show some (readSecond (spell (clockText (at_ / second))) * second) = _
    rw [readSecond_clockText]
    rfl

/-- Both items are declined, the second one at five and a half seconds. -/
def declinedRun : List Call :=
  [.admitRun [1] [2] [3] none none none 1, .acceptNotStarted [11, 0], .acceptNotStarted [11, 1]]

end Bench

/-- A closing call of a reachable store keeps closeout time custody exactly when no
receipt of the run is dated inside the second of the closeout, past its start; the
closeout is that of the first call that closed the run. -/
theorem Store.close_keepsTime_iff (w : Platform) (reader : FinalReader w) (calls : List Call)
    (runId : String) (updatedAt : Instant) (raw : Bytes) (s : Store)
    (h : ((Store.empty : Store).run w calls).close w runId updatedAt = .ok (raw, s)) :
    ∃ t row, s.runs[runId]? = some t ∧ t.finalSnapshot = some row ∧ row.rawBytes = raw ∧
      (∀ earlier, ((Store.empty : Store).run w calls).runs[runId]? = some earlier →
        earlier.finalSnapshot = none → row.updatedAt = updatedAt) ∧
      (t.KeepsTime reader raw ↔ t.WholeAt w row.updatedAt) := by
  have hperform : ((Store.empty : Store).run w calls).perform w (.close runId updatedAt) =
      .ok (.bytes raw, s) := Store.replyWith_eq_ok.mpr ⟨raw, h, rfl⟩
  have hafter : (Store.empty : Store).run w (calls ++ [.close runId updatedAt]) = s := by
    rw [Store.run, List.foldl_append]
    show ((Store.empty : Store).run w calls).after w (.close runId updatedAt) = s
    rw [Store.after, hperform]
  obtain ⟨tx, tx', hbegin, hbody, hcommit⟩ := Store.transact_eq_ok.mp h
  obtain ⟨earlier, hearlier, rfl⟩ := Store.begin_eq_ok.mp hbegin
  have hruns : s.runs[runId]? = some tx'.tables := by
    rw [hcommit, Store.commit_runs, BTreeMap.getElem?_insert_eq, if_pos rfl]
  have hsnapshot : ∃ row, tx'.tables.finalSnapshot = some row ∧ row.rawBytes = raw ∧
      (earlier.finalSnapshot = none → row.updatedAt = updatedAt) := by
    unfold Tx.close at hbody
    split at hbody
    case h_1 row hrow =>
      simp only [Except.ok.injEq, Prod.mk.injEq] at hbody
      obtain ⟨hraw, rfl⟩ := hbody
      refine ⟨row, hrow, hraw, fun hnone => ?_⟩
      rw [hnone] at hrow
      cases hrow
    case h_2 =>
      simp only [bind_eq_ok, Except.ok.injEq, Prod.mk.injEq] at hbody
      obtain ⟨_, -, _, -, _, -, _, -, _, -, document, -, tx₁, happend, hraw, rfl⟩ := hbody
      obtain ⟨-, rfl⟩ := (Tx.appendInternal_eq_ok rfl).mp happend
      exact ⟨_, rfl, hraw, fun _ => rfl⟩
  obtain ⟨row, hrow, hraw, htime⟩ := hsnapshot
  refine ⟨tx'.tables, row, hruns, hrow, hraw, fun other hother hnone => ?_, ?_⟩
  · obtain rfl := Option.some.inj (hearlier.symm.trans hother)
    exact htime hnone
  · obtain ⟨c, hclosed⟩ := Store.run_closed w _ (hafter.symm ▸ hruns)
    exact hraw ▸ (hclosed row hrow).keepsTime_iff reader

/-- The bench run closes at eight seconds, and at 5.7 seconds with a document of five. -/
theorem Store.closes_evaluated :
    (((Store.empty : Store).run Bench.closeoutPlatform Bench.declinedRun).close
      Bench.closeoutPlatform "run-1" 8000000000).toOption.isSome = true ∧
      ((((Store.empty : Store).run Bench.closeoutPlatform Bench.declinedRun).close
        Bench.closeoutPlatform "run-1" 5700000000).toOption.bind fun result =>
          (result.2.runs["run-1"]?).bind fun t => (t.terminalReceipts["b"]?).map fun receipt =>
            (Bench.readClock result.1, receipt.rawBytes, receipt.receiptKind)) =
        some (some 5000000000, [11, 1], .notStarted) := by
  decide +kernel

/-- The bench run closed two and a half seconds after its last receipt keeps time custody. -/
theorem Store.close_keepsTime_iff_bench : ∃ raw s t row,
    ((Store.empty : Store).run Bench.closeoutPlatform Bench.declinedRun).close
      Bench.closeoutPlatform "run-1" 8000000000 = .ok (raw, s) ∧
    s.runs["run-1"]? = some t ∧ t.finalSnapshot = some row ∧ row.rawBytes = raw ∧
    (t.KeepsTime Bench.finalReader raw ↔ t.WholeAt Bench.closeoutPlatform row.updatedAt) := by
  have hcloses := Store.closes_evaluated.1
  cases h : ((Store.empty : Store).run Bench.closeoutPlatform Bench.declinedRun).close
      Bench.closeoutPlatform "run-1" 8000000000 with
  | error e =>
    rw [h] at hcloses
    cases hcloses
  | ok result =>
    obtain ⟨raw, s⟩ := result
    obtain ⟨t, row, ht, hrow, hraw, -, hiff⟩ :=
      Store.close_keepsTime_iff Bench.closeoutPlatform Bench.finalReader Bench.declinedRun "run-1"
        8000000000 raw s h
    exact ⟨raw, s, t, row, rfl, ht, hrow, hraw, hiff⟩

/-- Closed at 5.7 seconds, the run exports a document dated at 5 seconds; its second
receipt is dated at 5.5 seconds. -/
theorem Store.close_predates_receipt : ∃ raw s t,
    ((Store.empty : Store).run Bench.closeoutPlatform Bench.declinedRun).close
      Bench.closeoutPlatform "run-1" 5700000000 = .ok (raw, s) ∧
    s.runs["run-1"]? = some t ∧ ¬ t.KeepsTime Bench.finalReader raw := by
  have hcloses := Store.closes_evaluated.2
  cases h : ((Store.empty : Store).run Bench.closeoutPlatform Bench.declinedRun).close
      Bench.closeoutPlatform "run-1" 5700000000 with
  | error e =>
    rw [h] at hcloses
    cases hcloses
  | ok result =>
    obtain ⟨raw, s⟩ := result
    simp only [h, Except.toOption, Option.bind_some, Option.bind_eq_some_iff, Option.map_eq_some_iff,
      Prod.mk.injEq] at hcloses
    obtain ⟨t, ht, receipt, hreceipt, hexported, hbytes, hkind⟩ := hcloses
    refine ⟨raw, s, t, rfl, ht, ?_⟩
    rintro ⟨exported, hread, hkept⟩
    have hobserved : receipt.observedAt Bench.closeoutPlatform = .ok 5500000000 := by
      simp only [ReceiptRow.observedAt, hkind, hbytes]
      rfl
    have hlate := hkept _ ⟨"b", receipt, hreceipt, hobserved⟩
    obtain rfl := Option.some.inj (hexported.symm.trans hread)
    exact absurd hlate (by decide)

end Nightshift
