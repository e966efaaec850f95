import Nightshift.QualificationBench

/-!
# The latest receipt of a profile

A receipt is ingested under every profile that asks for it, but its row bears
only the profile it first arrived under, and a resolution ranks the rows of one
profile. The answer is exact as long as the rows of the profile decide the
greatest of the receipts ingested under it.
-/

namespace Nightshift.Qualification

open Checked Diagnostic PresentEvidence Canonical Interleave

variable (w : QualificationPlatform)

/-- One call, with the receipts that were successfully ingested so far. -/
def ingestOne (run : List VerifiedReceipt × QualificationStore) (call : QualificationIngest) :
    List VerifiedReceipt × QualificationStore :=
  match call.verify w, (call.ingest w).run run.2 with
  | .ok verified, (.ok _, s) => (run.1 ++ [verified], s)
  | _, (_, s) => (run.1, s)

/-- A sequence of ingests on a new database. -/
def ingestAll (calls : List QualificationIngest) : List VerifiedReceipt × QualificationStore :=
  calls.foldl (ingestOne w) ([], .empty)

theorem ingestAll_concat (calls : List QualificationIngest) (call : QualificationIngest) :
    ingestAll w (calls ++ [call]) = ingestOne w (ingestAll w calls) call := by
  simp [ingestAll]

/-! ## One ingest -/

section Ingest

variable {w} {s : QualificationStore} {verified : VerifiedReceipt}

theorem mem_of_row? {receiptId : String} {row : QualificationRow}
    (h : s.row? receiptId = some row) : row ∈ s.rows ∧ row.receiptId = receiptId :=
  ⟨List.mem_of_find?_eq_some h, by simpa using List.find?_some h⟩

theorem run_retain (verified : VerifiedReceipt) (s : QualificationStore) :
    (verified.retain w).run s =
      match verified.insertOrIgnore w s with
      | .error e => (.error e, s)
      | .ok (0, s') => (verified.compare (s'.row? verified.receipt.receiptId), s')
      | .ok (_, s') => (.ok verified.retained, s') := by
  rw [VerifiedReceipt.retain, Call.run_bind]
  cases hinsert : verified.insertOrIgnore w s with
  | error e => simp [Call.commit, Call.run, hinsert]
  | ok out =>
    obtain ⟨changed, s'⟩ := out
    rw [Call.run_commit_eq_ok.mpr hinsert]
    cases changed with
    | zero => rfl
    | succ n => rfl

/-- The statement is retained in a new row, finds itself, or is refused. -/
theorem run_retain_cases (w : QualificationPlatform) (verified : VerifiedReceipt)
    (s : QualificationStore) :
    (verified.receipt.evaluatedAtUnixMs < i64Bound ∧
      (∀ row ∈ s.rows, verified.clashes row = false) ∧
      (verified.retain w).run s = (.ok verified.retained, ⟨s.rows ++ [verified.row]⟩)) ∨
    (verified.receipt.evaluatedAtUnixMs < i64Bound ∧
      (∃ row ∈ s.rows, row.receiptId = verified.receipt.receiptId ∧ verified.heldBy row) ∧
      (verified.retain w).run s = (.ok verified.retained, s)) ∨
    ((verified.receipt.evaluatedAtUnixMs < i64Bound → ∃ row ∈ s.rows, verified.clashes row ∧
        ¬ (row.receiptId = verified.receipt.receiptId ∧ verified.heldBy row)) ∧
      ∃ e, (verified.retain w).run s = (.error e, s)) := by
  rw [run_retain]
  by_cases hbound : i64Bound ≤ verified.receipt.evaluatedAtUnixMs
  · refine .inr (.inr ⟨fun hlt => absurd hlt (not_lt.mpr hbound), w.sqlMessage .integerOutOfRange, ?_⟩)
    simp only [VerifiedReceipt.insertOrIgnore, refuseIf, ge_iff_le, decide_eq_true hbound, if_true,
      error_bind]
  · have hlt := not_le.mp hbound
    simp only [VerifiedReceipt.insertOrIgnore, refuseIf, ge_iff_le, decide_eq_false hbound,
      Bool.false_eq_true, if_false, ok_bind]
    by_cases hany : s.rows.any verified.clashes = true
    · simp only [hany, if_true]
      obtain ⟨row, hrow, hclash⟩ := List.any_eq_true.mp hany
      cases hfind : s.row? verified.receipt.receiptId with
      | none =>
        refine .inr (.inr ⟨fun _ => ⟨row, hrow, hclash, ?_⟩, _, rfl⟩)
        rintro ⟨hid, -⟩
        have := List.find?_eq_none.mp hfind row hrow
        simp [hid] at this
      | some existing =>
        obtain ⟨hexisting, hid⟩ := mem_of_row? hfind
        cases hheld : verified.heldBy existing with
        | true =>
          refine .inr (.inl ⟨hlt, ⟨existing, hexisting, hid, hheld⟩, ?_⟩)
          simp [VerifiedReceipt.compare, okOr, refuseIf, hheld]
        | false =>
          refine .inr (.inr ⟨fun _ => ⟨existing, hexisting, ?_, ?_⟩,
            "immutable qualification receipt identity conflicts", ?_⟩)
          · simp [VerifiedReceipt.clashes, hid]
          · simp [hheld]
          · simp only [VerifiedReceipt.compare, okOr, refuseIf, hheld, Bool.not_false, if_true,
              ok_bind, error_bind]
    · refine .inl ⟨hlt, ?_, ?_⟩
      · simpa using hany
      · simp only [hany, Bool.false_eq_true, if_false]

end Ingest

/-! ## What the rows keep -/

/-- The receipts ingested so far and the rows: every row is the first arrival of one of them, every
one of them is held by a row, and a row is known by either key. -/
structure Ledger (receipts : List VerifiedReceipt) (s : QualificationStore) : Prop where
  read : ∀ v ∈ receipts, w.readReceipt v.exactReceipt = .ok v.receipt
  row : ∀ row ∈ s.rows, ∃ v ∈ receipts, row = v.row
  held : ∀ v ∈ receipts, ∃ row ∈ s.rows, row.receiptId = v.receipt.receiptId ∧ v.heldBy row
  distinct : s.rows.Pairwise fun a b =>
    a.receiptId ≠ b.receiptId ∧ a.receiptSha256 ≠ b.receiptSha256

section Ledger

variable {w} {receipts : List VerifiedReceipt} {s : QualificationStore} {call : QualificationIngest}
  {v : VerifiedReceipt}

theorem read_of_verify (h : call.verify w = .ok v) :
    w.readReceipt v.exactReceipt = .ok v.receipt ∧ v.applicability = call.applicability := by
  simp only [QualificationIngest.verify, bind_eq_ok, mapErr_eq_ok] at h
  obtain ⟨_, -, _, -, _, -, _, -, receipt, hread, _, -, _, -, _, -, _, -, _, -, h⟩ := h
  cases h
  exact ⟨hread, rfl⟩

theorem Ledger.empty : Ledger w [] .empty where
  read := by simp
  row := by simp [QualificationStore.empty]
  held := by simp
  distinct := .nil

theorem Ledger.append (h : Ledger w receipts s) (hread : w.readReceipt v.exactReceipt = .ok v.receipt)
    (hclash : ∀ row ∈ s.rows, v.clashes row = false) :
    Ledger w (receipts ++ [v]) ⟨s.rows ++ [v.row]⟩ where
  read := by
    intro u hu
    rcases List.mem_append.mp hu with hold | hnew
    · exact h.read u hold
    · rw [List.mem_singleton.mp hnew]
      exact hread
  row := by
    intro row hrow
    rcases List.mem_append.mp hrow with hold | hnew
    · obtain ⟨u, hu, hrow⟩ := h.row row hold
      exact ⟨u, List.mem_append_left _ hu, hrow⟩
    · exact ⟨v, by simp, List.mem_singleton.mp hnew⟩
  held := by
    intro u hu
    rcases List.mem_append.mp hu with hold | hnew
    · obtain ⟨row, hrow, hheld⟩ := h.held u hold
      exact ⟨row, List.mem_append_left _ hrow, hheld⟩
    · rw [List.mem_singleton.mp hnew]
      exact ⟨v.row, by simp, rfl, by simp [VerifiedReceipt.heldBy, VerifiedReceipt.row]⟩
  distinct := by
    refine List.pairwise_append.mpr ⟨h.distinct, List.pairwise_singleton _ _, ?_⟩
    intro row hrow new hnew
    have hfree := hclash row hrow
    simp only [VerifiedReceipt.clashes, Bool.or_eq_false_iff, beq_eq_false_iff_ne] at hfree
    rw [List.mem_singleton.mp hnew]
    exact hfree

theorem Ledger.again (h : Ledger w receipts s) (hread : w.readReceipt v.exactReceipt = .ok v.receipt)
    (hheld : ∃ row ∈ s.rows, row.receiptId = v.receipt.receiptId ∧ v.heldBy row) :
    Ledger w (receipts ++ [v]) s where
  read := by
    intro u hu
    rcases List.mem_append.mp hu with hold | hnew
    · exact h.read u hold
    · rw [List.mem_singleton.mp hnew]
      exact hread
  row := by
    intro row hrow
    obtain ⟨u, hu, hrow⟩ := h.row row hrow
    exact ⟨u, List.mem_append_left _ hu, hrow⟩
  held := by
    intro u hu
    rcases List.mem_append.mp hu with hold | hnew
    · exact h.held u hold
    · rw [List.mem_singleton.mp hnew]
      exact hheld
  distinct := h.distinct

/-- What one call does to the receipts and the rows. -/
theorem ingestOne_cases (receipts : List VerifiedReceipt) (s : QualificationStore)
    (call : QualificationIngest) :
    (∃ v, call.verify w = .ok v ∧ v.receipt.evaluatedAtUnixMs < i64Bound ∧
      (∀ row ∈ s.rows, v.clashes row = false) ∧
      ingestOne w (receipts, s) call = (receipts ++ [v], ⟨s.rows ++ [v.row]⟩)) ∨
    (∃ v, call.verify w = .ok v ∧ v.receipt.evaluatedAtUnixMs < i64Bound ∧
      (∃ row ∈ s.rows, row.receiptId = v.receipt.receiptId ∧ v.heldBy row) ∧
      ingestOne w (receipts, s) call = (receipts ++ [v], s)) ∨
    ((∀ v, call.verify w = .ok v → v.receipt.evaluatedAtUnixMs < i64Bound →
        ∃ row ∈ s.rows, v.clashes row ∧ ¬ (row.receiptId = v.receipt.receiptId ∧ v.heldBy row)) ∧
      ingestOne w (receipts, s) call = (receipts, s)) := by
  cases hverify : call.verify w with
  | error e =>
    refine .inr (.inr ⟨by simp, ?_⟩)
    simp [ingestOne, hverify, QualificationIngest.ingest, Call.run_bind]
  | ok v =>
    have hrun : (call.ingest w).run s = (v.retain w).run s := by
      rw [QualificationIngest.ingest, hverify]
      rfl
    rcases run_retain_cases w v s with ⟨hlt, hfree, h⟩ | ⟨hlt, hheld, h⟩ | ⟨hclash, e, h⟩
    · exact .inl ⟨v, rfl, hlt, hfree, by simp [ingestOne, hverify, hrun, h]⟩
    · exact .inr (.inl ⟨v, rfl, hlt, hheld, by simp [ingestOne, hverify, hrun, h]⟩)
    · refine .inr (.inr ⟨?_, by simp [ingestOne, hverify, hrun, h]⟩)
      intro u hu
      cases hu
      exact hclash

theorem ledger_ingestAll (calls : List QualificationIngest) :
    Ledger w (ingestAll w calls).1 (ingestAll w calls).2 := by
  induction calls using List.reverseRecOn with
  | nil => exact .empty
  | append_singleton calls call ih =>
    rw [ingestAll_concat]
    rcases ingestOne_cases (ingestAll w calls).1 (ingestAll w calls).2 call with
      ⟨v, hverify, -, hfree, h⟩ | ⟨v, hverify, -, hheld, h⟩ | ⟨-, h⟩
    · rw [h]
      exact ih.append (read_of_verify hverify).1 hfree
    · rw [h]
      exact ih.again (read_of_verify hverify).1 hheld
    · rw [h]
      exact ih

/-- Rows are only ever appended. -/
theorem prefix_ingestAll (calls later : List QualificationIngest) :
    (ingestAll w calls).2.rows <+: (ingestAll w (calls ++ later)).2.rows := by
  induction later using List.reverseRecOn with
  | nil => simp
  | append_singleton later call ih =>
    rw [← List.append_assoc, ingestAll_concat]
    rcases ingestOne_cases (ingestAll w (calls ++ later)).1 (ingestAll w (calls ++ later)).2 call with
      ⟨v, -, -, -, h⟩ | ⟨v, -, -, -, h⟩ | ⟨-, h⟩
    · rw [h]
      exact ih.trans (List.prefix_append _ _)
    · rw [h]
      exact ih
    · rw [h]
      exact ih

theorem receipts_ingestOne (receipts : List VerifiedReceipt) (s : QualificationStore)
    (call : QualificationIngest) : (ingestOne w (receipts, s) call).1 = receipts ∨
      ∃ v, call.verify w = .ok v ∧ v.receipt.evaluatedAtUnixMs < i64Bound ∧
        (ingestOne w (receipts, s) call).1 = receipts ++ [v] := by
  rcases ingestOne_cases receipts s call with
    ⟨v, hverify, hlt, -, h⟩ | ⟨v, hverify, hlt, -, h⟩ | ⟨-, h⟩
  · exact .inr ⟨v, hverify, hlt, by rw [h]⟩
  · exact .inr ⟨v, hverify, hlt, by rw [h]⟩
  · exact .inl (by rw [h])

/-- Every receipt ingested came with one of the calls. -/
theorem mem_ingestAll {calls : List QualificationIngest} (hv : v ∈ (ingestAll w calls).1) :
    ∃ call ∈ calls, call.verify w = .ok v ∧ v.receipt.evaluatedAtUnixMs < i64Bound := by
  induction calls using List.reverseRecOn with
  | nil => simp [ingestAll] at hv
  | append_singleton calls call ih =>
    rw [ingestAll_concat] at hv
    have hearlier : v ∈ (ingestAll w calls).1 → ∃ call' ∈ calls ++ [call],
        call'.verify w = .ok v ∧ v.receipt.evaluatedAtUnixMs < i64Bound := by
      intro hold
      obtain ⟨call', hcall', hv⟩ := ih hold
      exact ⟨call', List.mem_append_left _ hcall', hv⟩
    rcases receipts_ingestOne (ingestAll w calls).1 (ingestAll w calls).2 call with
      h | ⟨u, hverify, hlt, h⟩
    · rw [h] at hv
      exact hearlier hv
    · rw [h, List.mem_append] at hv
      rcases hv with hold | hnew
      · exact hearlier hold
      · rw [List.mem_singleton.mp hnew]
        exact ⟨call, by simp, hverify, hlt⟩

end Ledger

/-! ## The latest row -/

/-- The order receipts supersede each other in. -/
def NqReceiptV1.rank (receipt : NqReceiptV1) : Nat ×ₗ String :=
  toLex (receipt.evaluatedAtUnixMs, receipt.receiptSha256)

/-- The receipt was successfully ingested under the profile. -/
def IngestedUnder (receipts : List VerifiedReceipt) (profile : QualificationApplicabilityProfileV1)
    (receipt : NqReceiptV1) : Prop :=
  ∃ v ∈ receipts, v.applicability = profile ∧ v.receipt = receipt

/-- A greater receipt was successfully ingested under the profile. -/
def Outranked (receipts : List VerifiedReceipt) (profile : QualificationApplicabilityProfileV1)
    (receipt : NqReceiptV1) : Prop :=
  ∃ other, IngestedUnder receipts profile other ∧ receipt.rank < other.rank

/-- The row of the receipt bears the profile. -/
def FirstUnder (s : QualificationStore) (profile : QualificationApplicabilityProfileV1)
    (receipt : NqReceiptV1) : Prop :=
  ∃ row ∈ s.rows, profile.owns row ∧ row.receiptId = receipt.receiptId

/-- A row of the profile ranks higher. -/
def RowAbove (s : QualificationStore) (profile : QualificationApplicabilityProfileV1)
    (receipt : NqReceiptV1) : Prop :=
  ∃ row ∈ s.rows, profile.owns row ∧ receipt.rank < row.rank

section Latest

variable {w} {receipts : List VerifiedReceipt} {s : QualificationStore}
  {profile : QualificationApplicabilityProfileV1} {receiptId : String} {receipt : NqReceiptV1}

/-- Two rows differ in both keys. -/
theorem Ledger.apart (h : Ledger w receipts s) {a b : QualificationRow} (ha : a ∈ s.rows)
    (hb : b ∈ s.rows) (hne : a ≠ b) :
    a.receiptId ≠ b.receiptId ∧ a.receiptSha256 ≠ b.receiptSha256 := by
  have : Std.Symm fun a b : QualificationRow =>
      a.receiptId ≠ b.receiptId ∧ a.receiptSha256 ≠ b.receiptSha256 :=
    ⟨fun _ _ hdistinct => ⟨hdistinct.1.symm, hdistinct.2.symm⟩⟩
  exact h.distinct.forall ha hb hne

theorem Ledger.receipt_eq (h : Ledger w receipts s) {u v : VerifiedReceipt} (hu : u ∈ receipts)
    (hv : v ∈ receipts) (hexact : u.exactReceipt = v.exactReceipt) : u.receipt = v.receipt := by
  have hread := h.read u hu
  rw [hexact, h.read v hv] at hread
  exact (Except.ok.inj hread).symm

/-- A receipt is loaded from the one row of its identity. -/
theorem Ledger.loaded (h : Ledger w receipts s)
    (hload : s.loadReceipt w receiptId = .ok (some receipt)) :
    ∃ v ∈ receipts, v.row ∈ s.rows ∧ v.receipt = receipt ∧ receipt.receiptId = receiptId := by
  unfold QualificationStore.loadReceipt at hload
  split at hload
  · cases hload
  · rename_i row hrow
    obtain ⟨hmem, hid⟩ := mem_of_row? hrow
    obtain ⟨v, hv, rfl⟩ := h.row row hmem
    obtain ⟨r, hread, hr⟩ := map_eq_ok.mp hload
    cases hr
    have hreceipt : v.receipt = receipt := Except.ok.inj ((h.read v hv).symm.trans hread)
    exact ⟨v, hv, hmem, hreceipt, hreceipt ▸ hid⟩

/-- A retained receipt is the latest of a profile when its row is the profile's and no row of the
profile ranks higher. -/
theorem Ledger.latest_iff (h : Ledger w receipts s)
    (hload : s.loadReceipt w receiptId = .ok (some receipt)) :
    profile.latestReceiptId s = some receiptId ↔
      FirstUnder s profile receipt ∧ ¬ RowAbove s profile receipt := by
  obtain ⟨v, -, hrow, rfl, rfl⟩ := h.loaded hload
  have hsame : ∀ row ∈ s.rows, row.receiptId = v.receipt.receiptId → row = v.row := by
    intro row hmem hid
    by_contra hne
    exact (h.apart hmem hrow hne).1 hid
  constructor
  · intro hlatest
    obtain ⟨row, hmax, hid⟩ := Option.map_eq_some_iff.mp hlatest
    obtain ⟨hmem, howns⟩ := List.mem_filter.mp (List.argmax_mem hmax)
    have heq := hsame row hmem hid
    subst heq
    refine ⟨⟨v.row, hmem, howns, rfl⟩, ?_⟩
    rintro ⟨other, hother, hothers, habove⟩
    have hle := List.le_of_mem_argmax (List.mem_filter.mpr ⟨hother, hothers⟩) hmax
    exact absurd habove (not_lt.mpr hle)
  · rintro ⟨⟨row, hmem, howns, hid⟩, habove⟩
    have heq := hsame row hmem hid
    subst heq
    cases hmax : (s.rows.filter profile.owns).argmax (·.rank) with
    | none =>
      have hempty := List.argmax_eq_none.mp hmax
      have hin := List.mem_filter.mpr ⟨hmem, howns⟩
      rw [hempty] at hin
      cases hin
    | some best =>
      obtain ⟨hbest, hbestOwns⟩ := List.mem_filter.mp (List.argmax_mem hmax)
      have hle : v.row.rank ≤ best.rank :=
        List.le_of_mem_argmax (List.mem_filter.mpr ⟨hmem, howns⟩) hmax
      have hge : best.rank ≤ v.row.rank := by
        refine not_lt.mp fun hlt => habove ⟨best, hbest, hbestOwns, hlt⟩
      -- equal ranks have equal digests, and a digest is a key of the table
      have hsha : best.receiptSha256 = v.row.receiptSha256 := by
        have := toLex.injective (le_antisymm hge hle)
        exact (Prod.mk.inj this).2
      have heq : best = v.row := by
        by_contra hne
        exact (h.apart hbest hmem hne).2 hsha
      simp only [QualificationApplicabilityProfileV1.latestReceiptId, hmax, heq, Option.map_some]
      rfl

/-- Profiles of the run are told apart by their identity. -/
def TellsApart (receipts : List VerifiedReceipt) (profile : QualificationApplicabilityProfileV1) :
    Prop :=
  ∀ v ∈ receipts, v.applicability.profileId = profile.profileId → v.applicability = profile

theorem owns_iff (hapart : TellsApart receipts profile) {v : VerifiedReceipt} (hv : v ∈ receipts) :
    profile.owns v.row = true ↔ v.applicability = profile := by
  simp only [QualificationApplicabilityProfileV1.owns, Bool.and_eq_true, beq_iff_eq]
  constructor
  · rintro ⟨⟨hid, -⟩, -⟩
    exact hapart v hv hid
  · rintro rfl
    exact ⟨⟨rfl, rfl⟩, rfl⟩

theorem Ledger.ingested_of_first (h : Ledger w receipts s) (hapart : TellsApart receipts profile)
    (hload : s.loadReceipt w receiptId = .ok (some receipt)) (hfirst : FirstUnder s profile receipt) :
    IngestedUnder receipts profile receipt := by
  obtain ⟨row, hmem, howns, hid⟩ := hfirst
  obtain ⟨v, hv, hrow, rfl, -⟩ := h.loaded hload
  obtain ⟨u, hu, rfl⟩ := h.row row hmem
  have heq : u.row = v.row := by
    by_contra hne
    exact (h.apart hmem hrow hne).1 hid
  have hexact : u.exactReceipt = v.exactReceipt := congrArg QualificationRow.exactReceipt heq
  exact ⟨u, hu, (owns_iff hapart hu).mp howns, h.receipt_eq hu hv hexact⟩

theorem Ledger.outranked_of_above (h : Ledger w receipts s) (hapart : TellsApart receipts profile)
    (habove : RowAbove s profile receipt) : Outranked receipts profile receipt := by
  obtain ⟨row, hmem, howns, hlt⟩ := habove
  obtain ⟨u, hu, rfl⟩ := h.row row hmem
  exact ⟨u.receipt, ⟨u, hu, (owns_iff hapart hu).mp howns, rfl⟩, hlt⟩

end Latest

/-! ## Answers -/

/-- What is answered about a receipt that was loaded. -/
def QualificationApplicabilityProfileV1.report (w : QualificationPlatform)
    (profile : QualificationApplicabilityProfileV1) (request : ApplicabilityRequest)
    (receiptId : String) (latest : Option String) (receipt : NqReceiptV1) :
    Except String QualificationApplicabilityOutcomeV1 :=
  if receipt.status != .qualified then .ok (.retainedOnly receipt.receiptId receipt.status)
  else do
    refuseIf (request.requestedObservation != profile.observationId w receipt)
      "requested observation substitutes a different qualification"
    profile.judge w request receiptId receipt latest

/-- The resolution is an observation of this status. -/
def Answers (w : QualificationPlatform) (s : QualificationStore)
    (profile : QualificationApplicabilityProfileV1) (request : ApplicabilityRequest)
    (receiptId : String) (status : AgTypedObservationStatusV1) : Prop :=
  ∃ resolution, ((profile.resolveApplicability w request receiptId).run s).1 =
    .ok (.observation resolution) ∧ resolution.status = status

section Answers

variable {w} {receipts : List VerifiedReceipt} {s : QualificationStore}
  {profile : QualificationApplicabilityProfileV1} {request : ApplicabilityRequest}
  {receiptId : String} {receipt : NqReceiptV1} {status : AgTypedObservationStatusV1}

theorem run_resolveQualification (s : QualificationStore)
    (profile : QualificationApplicabilityProfileV1) (request : ApplicabilityRequest)
    (receiptId : String) : (profile.resolveApplicability w request receiptId).run s =
      (profile.accepts w request >>= fun _ => s.loadReceipt w receiptId >>= fun loaded =>
        okOr loaded "qualification receipt is not retained" >>= fun receipt =>
          profile.report w request receiptId (profile.latestReceiptId s) receipt, s) := by
  refine Call.run_check_bind fun _ => ?_
  rw [Call.run_bind, Call.run_read]
  refine Call.run_check_bind fun loaded => Call.run_check_bind fun receipt => ?_
  unfold QualificationApplicabilityProfileV1.report
  by_cases hstatus : (receipt.status != .qualified) = true
  · simp only [hstatus, if_true]
    rfl
  · simp only [hstatus, Bool.false_eq_true, if_false]
    exact Call.run_check_bind fun _ => rfl

theorem horizon_eq_ok {n : Nat} : profile.horizon receipt = .ok n ↔
    receipt.evaluatedAtUnixMs + profile.maxAgeMs < u64Bound ∧
      n = receipt.evaluatedAtUnixMs + profile.maxAgeMs := by
  simp only [QualificationApplicabilityProfileV1.horizon, okOr_eq_ok, checkedAdd,
    Option.ite_none_right_eq_some, Option.some.injEq]
  exact ⟨fun h => ⟨h.1, h.2.symm⟩, fun h => ⟨h.1, h.2.symm⟩⟩

/-- An observation has the status it was made with, and its horizon is a `u64`. -/
theorem judge_iff {latest : Option String} :
    (∃ resolution, profile.judge w request receiptId receipt latest = .ok (.observation resolution) ∧
      resolution.status = status) ↔
    receipt.evaluatedAtUnixMs + profile.maxAgeMs < u64Bound ∧
      profile.standing receipt receiptId latest request.nowUnixMs = .ok status := by
  simp only [QualificationApplicabilityProfileV1.judge, bind_eq_ok,
    QualificationApplicabilityProfileV1.observe, horizon_eq_ok]
  constructor
  · rintro ⟨resolution, ⟨status', hstanding, n, ⟨hfits, -⟩, hresolution⟩, hstatus⟩
    cases hresolution
    exact ⟨hfits, hstatus ▸ hstanding⟩
  · rintro ⟨hfits, hstanding⟩
    exact ⟨_, ⟨status, hstanding, _, ⟨hfits, rfl⟩, rfl⟩, rfl⟩

/-- The status a receipt has, in terms of the latest row and the clock. -/
theorem standing_iff {latest : Option String} {nowUnixMs : Nat}
    (hfits : receipt.evaluatedAtUnixMs + profile.maxAgeMs < u64Bound) :
    profile.standing receipt receiptId latest nowUnixMs = .ok status ↔
      status = if latest ≠ some receiptId then .superseded
        else if receipt.evaluatedAtUnixMs + profile.maxAgeMs ≤ nowUnixMs then .stale
        else .current := by
  have hhorizon : profile.horizon receipt = .ok (receipt.evaluatedAtUnixMs + profile.maxAgeMs) :=
    horizon_eq_ok.mpr ⟨hfits, rfl⟩
  unfold QualificationApplicabilityProfileV1.standing
  by_cases hlatest : latest = some receiptId
  · simp only [hlatest, bne_self_eq_false, Bool.false_eq_true, if_false, hhorizon, ok_bind, ge_iff_le,
      ne_eq, not_true_eq_false]
    by_cases hlate : receipt.evaluatedAtUnixMs + profile.maxAgeMs ≤ nowUnixMs
    · simp only [hlate, if_true, Except.ok.injEq]
      exact eq_comm
    · simp only [hlate, if_false, Except.ok.injEq]
      exact eq_comm
  · have hother : (latest != some receiptId) = true := bne_iff_ne.mpr hlatest
    simp only [hother, if_true, ne_eq, hlatest, not_false_eq_true, Except.ok.injEq]
    exact eq_comm

theorem standing_superseded {latest : Option String} {nowUnixMs : Nat}
    (hfits : receipt.evaluatedAtUnixMs + profile.maxAgeMs < u64Bound) :
    profile.standing receipt receiptId latest nowUnixMs = .ok .superseded ↔
      ¬ latest = some receiptId := by
  rw [standing_iff hfits]
  split_ifs <;> simp_all

theorem standing_stale {latest : Option String} {nowUnixMs : Nat}
    (hfits : receipt.evaluatedAtUnixMs + profile.maxAgeMs < u64Bound) :
    profile.standing receipt receiptId latest nowUnixMs = .ok .stale ↔
      latest = some receiptId ∧ receipt.evaluatedAtUnixMs + profile.maxAgeMs ≤ nowUnixMs := by
  rw [standing_iff hfits]
  split_ifs <;> simp_all

theorem standing_current {latest : Option String} {nowUnixMs : Nat}
    (hfits : receipt.evaluatedAtUnixMs + profile.maxAgeMs < u64Bound) :
    profile.standing receipt receiptId latest nowUnixMs = .ok .current ↔
      latest = some receiptId ∧ nowUnixMs < receipt.evaluatedAtUnixMs + profile.maxAgeMs := by
  rw [standing_iff hfits]
  split_ifs <;> simp_all

theorem answers_iff : Answers w s profile request receiptId status ↔
    profile.accepts w request = .ok () ∧ ∃ receipt, s.loadReceipt w receiptId = .ok (some receipt) ∧
      receipt.status = .qualified ∧
      request.requestedObservation = profile.observationId w receipt ∧
      receipt.evaluatedAtUnixMs + profile.maxAgeMs < u64Bound ∧
      profile.standing receipt receiptId (profile.latestReceiptId s) request.nowUnixMs =
        .ok status := by
  unfold Answers
  simp only [run_resolveQualification, bind_eq_ok, okOr_eq_ok]
  constructor
  · rintro ⟨resolution, ⟨_, haccepts, loaded, hload, receipt, rfl, hreport⟩, hstatus⟩
    unfold QualificationApplicabilityProfileV1.report at hreport
    split at hreport
    · cases hreport
    · rename_i hqualified
      simp only [bind_eq_ok, refuseIf_eq_ok, bne_eq_false_iff_eq] at hreport
      obtain ⟨_, hobservation, hjudge⟩ := hreport
      have hstanding := judge_iff.mp ⟨resolution, hjudge, hstatus⟩
      exact ⟨haccepts, receipt, hload, by simpa using hqualified, hobservation, hstanding⟩
  · rintro ⟨haccepts, receipt, hload, hqualified, hobservation, hstanding⟩
    obtain ⟨resolution, hjudge, hstatus⟩ := judge_iff.mpr hstanding
    refine ⟨resolution, ⟨(), haccepts, some receipt, hload, receipt, rfl, ?_⟩, hstatus⟩
    have hsame : (request.requestedObservation != profile.observationId w receipt) = false :=
      bne_eq_false_iff_eq.mpr hobservation
    simp only [QualificationApplicabilityProfileV1.report, hqualified, bne_self_eq_false,
      Bool.false_eq_true, if_false, refuseIf, hsame, ok_bind]
    exact hjudge

end Answers

/-! ## Exactness -/

/-- The answer is current for the greatest qualified receipt ingested under the profile while it is
fresh, and superseded only behind a greater one. -/
structure ExactAnswer (w : QualificationPlatform) (receipts : List VerifiedReceipt)
    (s : QualificationStore) (profile : QualificationApplicabilityProfileV1)
    (request : ApplicabilityRequest) (receiptId : String) (receipt : NqReceiptV1) : Prop where
  current : Answers w s profile request receiptId .current ↔
    receipt.status = .qualified ∧ IngestedUnder receipts profile receipt ∧
      ¬ Outranked receipts profile receipt ∧
      request.nowUnixMs < receipt.evaluatedAtUnixMs + profile.maxAgeMs
  superseded : Answers w s profile request receiptId .superseded →
    Outranked receipts profile receipt

/-- The rows of the profile decide about the receipt as the receipts ingested under it do, whenever
the clock leaves the answer to them. -/
def Decided (receipts : List VerifiedReceipt) (s : QualificationStore)
    (profile : QualificationApplicabilityProfileV1) (receipt : NqReceiptV1) (nowUnixMs : Nat) :
    Prop :=
  receipt.status = .qualified →
    if receipt.evaluatedAtUnixMs + profile.maxAgeMs < u64Bound then
      (¬ Outranked receipts profile receipt → FirstUnder s profile receipt) ∧
        (Outranked receipts profile receipt →
          nowUnixMs < receipt.evaluatedAtUnixMs + profile.maxAgeMs →
          FirstUnder s profile receipt → RowAbove s profile receipt)
    else IngestedUnder receipts profile receipt →
      nowUnixMs < receipt.evaluatedAtUnixMs + profile.maxAgeMs → Outranked receipts profile receipt

section Exactness

variable {w} {receipts : List VerifiedReceipt} {s : QualificationStore}
  {profile : QualificationApplicabilityProfileV1} {request : ApplicabilityRequest}
  {receiptId : String} {receipt : NqReceiptV1} {status : AgTypedObservationStatusV1}

/-- The answer about a receipt whose bindings are accepted. -/
theorem answers_of_accepted (haccepts : profile.accepts w request = .ok ())
    (hload : s.loadReceipt w receiptId = .ok (some receipt))
    (hobservation : receipt.status = .qualified →
      request.requestedObservation = profile.observationId w receipt) :
    Answers w s profile request receiptId status ↔ receipt.status = .qualified ∧
      receipt.evaluatedAtUnixMs + profile.maxAgeMs < u64Bound ∧
      profile.standing receipt receiptId (profile.latestReceiptId s) request.nowUnixMs =
        .ok status := by
  rw [answers_iff]
  constructor
  · rintro ⟨-, receipt', hload', hqualified, -, hanswer⟩
    rw [hload] at hload'
    cases hload'
    exact ⟨hqualified, hanswer⟩
  · rintro ⟨hqualified, hanswer⟩
    exact ⟨haccepts, receipt, hload, hqualified, hobservation hqualified, hanswer⟩

/-- `latest` is decided by the rows, `ingested` and `outranked` by the receipts. -/
theorem exact_iff_decided {latest first above ingested outranked fresh : Prop}
    (hlatest : latest ↔ first ∧ ¬ above) (hfirst : first → ingested) (habove : above → outranked) :
    ((latest ∧ fresh ↔ ingested ∧ ¬ outranked ∧ fresh) ∧ (¬ latest → outranked)) ↔
      (¬ outranked → first) ∧ (outranked → fresh → first → above) := by
  by_cases hout : outranked
  · simp only [hout, not_true_eq_false, false_implies, true_implies, implies_true, and_true,
      true_and, false_and, and_false, iff_false, hlatest]
    constructor
    · intro h hfresh hf
      by_contra ha
      exact h ⟨⟨hf, ha⟩, hfresh⟩
    · rintro h ⟨⟨hf, ha⟩, hfresh⟩
      exact ha (h hfresh hf)
  · have hnot : ¬ above := fun ha => hout (habove ha)
    simp only [hout, hnot, hlatest, not_false_eq_true, and_true, true_and, true_implies,
      false_implies, imp_false, not_not]
    constructor
    · exact fun h => h.2
    · exact fun hf => ⟨⟨fun h => ⟨hfirst h.1, h.2⟩, fun h => ⟨hf, h.2⟩⟩, hf⟩

theorem Ledger.exactAnswer_iff (h : Ledger w receipts s) (hapart : TellsApart receipts profile)
    (haccepts : profile.accepts w request = .ok ())
    (hload : s.loadReceipt w receiptId = .ok (some receipt))
    (hobservation : receipt.status = .qualified →
      request.requestedObservation = profile.observationId w receipt) :
    ExactAnswer w receipts s profile request receiptId receipt ↔
      Decided receipts s profile receipt request.nowUnixMs := by
  have hanswers : ∀ status, Answers w s profile request receiptId status ↔ _ :=
    fun _ => answers_of_accepted haccepts hload hobservation
  have hfirst := h.ingested_of_first hapart hload
  have habove : RowAbove s profile receipt → _ := h.outranked_of_above hapart
  have hlatest : profile.latestReceiptId s = some receiptId ↔ _ := h.latest_iff hload
  have hsplit : ExactAnswer w receipts s profile request receiptId receipt ↔
      (Answers w s profile request receiptId .current ↔ receipt.status = .qualified ∧
        IngestedUnder receipts profile receipt ∧ ¬ Outranked receipts profile receipt ∧
        request.nowUnixMs < receipt.evaluatedAtUnixMs + profile.maxAgeMs) ∧
      (Answers w s profile request receiptId .superseded → Outranked receipts profile receipt) :=
    ⟨fun hexact => ⟨hexact.current, hexact.superseded⟩, fun hexact => ⟨hexact.1, hexact.2⟩⟩
  rw [hsplit, hanswers, hanswers, Decided]
  by_cases hqualified : receipt.status = .qualified
  · by_cases hfits : receipt.evaluatedAtUnixMs + profile.maxAgeMs < u64Bound
    · simp only [hqualified, hfits, true_and, true_implies, if_true, standing_current hfits,
        standing_superseded hfits]
      exact exact_iff_decided hlatest hfirst habove
    · simp only [hqualified, hfits, true_and, true_implies, false_and, if_false, false_iff,
        false_implies, and_true, not_and, not_lt]
      exact ⟨fun hnot hingested hfresh => by_contra fun hO => absurd hfresh (not_lt.mpr (hnot hingested hO)),
        fun hdecided hingested hO => not_lt.mp fun hfresh => hO (hdecided hingested hfresh)⟩
  · simp [hqualified]

end Exactness

/-! ## Later stores -/

section Later

variable {w} {receipts receipts' : List VerifiedReceipt} {s s' : QualificationStore}
  {profile : QualificationApplicabilityProfileV1} {request request' : ApplicabilityRequest}
  {receiptId : String} {receipt : NqReceiptV1}

theorem loadReceipt_of_grown (hgrown : s.rows <+: s'.rows)
    (hload : s.loadReceipt w receiptId = .ok (some receipt)) :
    s'.loadReceipt w receiptId = .ok (some receipt) := by
  unfold QualificationStore.loadReceipt at hload ⊢
  cases hrow : s.row? receiptId with
  | none => simp [hrow] at hload
  | some row =>
    have hrow' : s'.row? receiptId = some row := by
      obtain ⟨suffix, hrows⟩ := hgrown
      rw [QualificationStore.row?, ← hrows, List.find?_append, ← QualificationStore.row?, hrow]
      rfl
    rw [hrow] at hload
    rw [hrow']
    exact hload

theorem Ledger.first_of_grown (h' : Ledger w receipts' s') (h : Ledger w receipts s)
    (hgrown : s.rows <+: s'.rows) (hload : s.loadReceipt w receiptId = .ok (some receipt))
    (hfirst : FirstUnder s' profile receipt) : FirstUnder s profile receipt := by
  obtain ⟨row, hmem, howns, hid⟩ := hfirst
  obtain ⟨v, -, hrow, rfl, -⟩ := h.loaded hload
  have heq : row = v.row := by
    by_contra hne
    exact (h'.apart hmem (hgrown.subset hrow) hne).1 hid
  exact ⟨v.row, hrow, heq ▸ howns, rfl⟩

/-- A receipt that is stale or superseded is not current behind any further ingests. -/
theorem Ledger.not_current_later (h : Ledger w receipts s) (h' : Ledger w receipts' s')
    (hgrown : s.rows <+: s'.rows) (hnow : request.nowUnixMs ≤ request'.nowUnixMs)
    (hanswer : Answers w s profile request receiptId .stale ∨
      Answers w s profile request receiptId .superseded) :
    ¬ Answers w s' profile request' receiptId .current := by
  intro hcurrent
  obtain ⟨-, receipt', hload', -, -, hfits, hstanding⟩ := answers_iff.mp hcurrent
  obtain ⟨hlatest, hfresh⟩ := (standing_current hfits).mp hstanding
  obtain ⟨hfirst, habove⟩ := (h'.latest_iff hload').mp hlatest
  have hsame : ∀ receipt, s.loadReceipt w receiptId = .ok (some receipt) → receipt = receipt' := by
    intro receipt hload
    have hload := loadReceipt_of_grown hgrown hload
    rw [hload'] at hload
    cases hload
    rfl
  rcases hanswer with hstale | hsuperseded
  · obtain ⟨-, receipt, hload, -, -, hfits, hstanding⟩ := answers_iff.mp hstale
    have hlate := ((standing_stale hfits).mp hstanding).2
    rw [hsame receipt hload] at hlate
    omega
  · obtain ⟨-, receipt, hload, -, -, hfits, hstanding⟩ := answers_iff.mp hsuperseded
    have hother := (standing_superseded hfits).mp hstanding
    obtain rfl := hsame receipt hload
    refine hother ((h.latest_iff hload).mpr ⟨h'.first_of_grown h hgrown hload hfirst, ?_⟩)
    rintro ⟨row, hmem, howns, hlt⟩
    exact habove ⟨row, hgrown.subset hmem, howns, hlt⟩

end Later

/-! ## Other orders -/

/-- No two of the calls bring different bytes under one key of the table. -/
def Consistent (w : QualificationPlatform) (calls : List QualificationIngest) : Prop :=
  ∀ a ∈ calls, ∀ b ∈ calls, ∀ u v, a.verify w = .ok u → b.verify w = .ok v →
    (u.receipt.receiptId = v.receipt.receiptId ∨ u.receipt.receiptSha256 = v.receipt.receiptSha256) →
    (u.exactProfile, u.exactEvidence, u.exactReceipt) =
      (v.exactProfile, v.exactEvidence, v.exactReceipt)

/-- The rows of the profile decide about the receipt as the receipts ingested under it do, at any
time. -/
def Settled (receipts : List VerifiedReceipt) (s : QualificationStore)
    (profile : QualificationApplicabilityProfileV1) (receipt : NqReceiptV1) : Prop :=
  (¬ Outranked receipts profile receipt → FirstUnder s profile receipt) ∧
    (Outranked receipts profile receipt → FirstUnder s profile receipt → RowAbove s profile receipt)

section Orders

variable {w} {calls calls' : List QualificationIngest} {receipts receipts' : List VerifiedReceipt}
  {s s' : QualificationStore} {profile : QualificationApplicabilityProfileV1}
  {request : ApplicabilityRequest} {receiptId : String} {receipt : NqReceiptV1}

/-- Without clashes every verified receipt is ingested, whatever came before it. -/
theorem mem_ingestAll_iff (h : Consistent w calls) {v : VerifiedReceipt} :
    v ∈ (ingestAll w calls).1 ↔
      ∃ call ∈ calls, call.verify w = .ok v ∧ v.receipt.evaluatedAtUnixMs < i64Bound := by
  refine ⟨mem_ingestAll, ?_⟩
  induction calls using List.reverseRecOn with
  | nil => simp
  | append_singleton calls call ih =>
    have hearlier : Consistent w calls := fun a ha b hb =>
      h a (List.mem_append_left _ ha) b (List.mem_append_left _ hb)
    rintro ⟨call', hcall', hverify, hlt⟩
    rw [ingestAll_concat]
    have hledger : Ledger w _ _ := ledger_ingestAll calls
    rcases List.mem_append.mp hcall' with hold | hnew
    · have hin := ih hearlier ⟨call', hold, hverify, hlt⟩
      rcases receipts_ingestOne (ingestAll w calls).1 (ingestAll w calls).2 call with
        heq | ⟨u, -, -, heq⟩
      · rw [heq]
        exact hin
      · rw [heq]
        exact List.mem_append_left _ hin
    · rw [List.mem_singleton.mp hnew] at hverify
      rcases ingestOne_cases (ingestAll w calls).1 (ingestAll w calls).2 call with
        ⟨u, hverify', -, -, heq⟩ | ⟨u, hverify', -, -, heq⟩ | ⟨hclash, -⟩
      · rw [hverify] at hverify'
        cases hverify'
        simp [heq]
      · rw [hverify] at hverify'
        cases hverify'
        simp [heq]
      · obtain ⟨row, hrow, hclashes, hdiffers⟩ := hclash v hverify hlt
        obtain ⟨u, hu, rfl⟩ := hledger.row row hrow
        obtain ⟨earlier, hearlier, hearlierVerify, -⟩ := mem_ingestAll hu
        have hkeys : u.receipt.receiptId = v.receipt.receiptId ∨
            u.receipt.receiptSha256 = v.receipt.receiptSha256 := by
          simpa [VerifiedReceipt.clashes, VerifiedReceipt.row] using hclashes
        have hbytes := h earlier (List.mem_append_left _ hearlier) call (by simp) u v
          hearlierVerify hverify hkeys
        simp only [Prod.mk.injEq] at hbytes
        have hread := (read_of_verify hearlierVerify).1
        rw [hbytes.2.2, (read_of_verify hverify).1] at hread
        have hreceipt : v.receipt = u.receipt := Except.ok.inj hread
        refine absurd ⟨?_, ?_⟩ hdiffers
        · rw [hreceipt]
          rfl
        · simp [VerifiedReceipt.heldBy, VerifiedReceipt.row, hreceipt, hbytes]

/-- What is loaded is decided by the receipts. -/
theorem Ledger.loadReceipt_of_mem (h : Ledger w receipts s) {v : VerifiedReceipt}
    (hv : v ∈ receipts) : s.loadReceipt w v.receipt.receiptId = .ok (some v.receipt) := by
  obtain ⟨row, hmem, hid, hheld⟩ := h.held v hv
  unfold QualificationStore.loadReceipt
  cases hrow : s.row? v.receipt.receiptId with
  | none =>
    have := List.find?_eq_none.mp hrow row hmem
    simp [hid] at this
  | some found =>
    obtain ⟨hfound, hfoundId⟩ := mem_of_row? hrow
    have heq : found = row := by
      by_contra hne
      exact (h.apart hfound hmem hne).1 (hfoundId.trans hid.symm)
    simp only [VerifiedReceipt.heldBy, Bool.and_eq_true, beq_iff_eq] at hheld
    simp only [heq, hheld.2, h.read v hv]
    rfl

theorem Ledger.loadReceipt_of_not_mem (h : Ledger w receipts s)
    (hnone : ∀ v ∈ receipts, v.receipt.receiptId ≠ receiptId) :
    s.loadReceipt w receiptId = .ok none := by
  unfold QualificationStore.loadReceipt
  cases hrow : s.row? receiptId with
  | none => rfl
  | some row =>
    obtain ⟨hmem, hid⟩ := mem_of_row? hrow
    obtain ⟨v, hv, rfl⟩ := h.row row hmem
    exact absurd hid (hnone v hv)

theorem Ledger.loadReceipt_eq (h : Ledger w receipts s) (h' : Ledger w receipts' s')
    (hsame : ∀ v, v ∈ receipts ↔ v ∈ receipts') (receiptId : String) :
    s.loadReceipt w receiptId = s'.loadReceipt w receiptId := by
  by_cases hsome : ∃ v ∈ receipts, v.receipt.receiptId = receiptId
  · obtain ⟨v, hv, rfl⟩ := hsome
    rw [h.loadReceipt_of_mem hv, h'.loadReceipt_of_mem ((hsame v).mp hv)]
  · have hnone : ∀ v ∈ receipts, v.receipt.receiptId ≠ receiptId :=
      fun v hv hid => hsome ⟨v, hv, hid⟩
    rw [h.loadReceipt_of_not_mem hnone,
      h'.loadReceipt_of_not_mem fun v hv => hnone v ((hsame v).mpr hv)]

theorem outranked_congr (hsame : ∀ v, v ∈ receipts ↔ v ∈ receipts') :
    Outranked receipts profile receipt ↔ Outranked receipts' profile receipt := by
  simp only [Outranked, IngestedUnder, hsame]

/-- Settled rows find the greatest of the receipts ingested under the profile. -/
theorem Ledger.latest_of_settled (h : Ledger w receipts s) (hapart : TellsApart receipts profile)
    (hload : s.loadReceipt w receiptId = .ok (some receipt))
    (hsettled : Settled receipts s profile receipt) :
    profile.latestReceiptId s = some receiptId ↔ ¬ Outranked receipts profile receipt := by
  rw [h.latest_iff hload]
  constructor
  · rintro ⟨hfirst, habove⟩ hout
    exact habove (hsettled.2 hout hfirst)
  · intro hout
    exact ⟨hsettled.1 hout, fun habove => hout (h.outranked_of_above hapart habove)⟩

theorem report_congr {latest latest' : Option String}
    (h : receipt.status = .qualified → (latest = some receiptId ↔ latest' = some receiptId)) :
    profile.report w request receiptId latest receipt =
      profile.report w request receiptId latest' receipt := by
  unfold QualificationApplicabilityProfileV1.report
  by_cases hqualified : receipt.status = .qualified
  · have hlatest : (latest != some receiptId) = (latest' != some receiptId) := by
      rw [Bool.eq_iff_iff, bne_iff_ne, bne_iff_ne, ne_eq, ne_eq, h hqualified]
    simp only [QualificationApplicabilityProfileV1.judge, QualificationApplicabilityProfileV1.standing,
      hlatest]
  · simp [hqualified]

theorem Ledger.resolve_eq (h : Ledger w receipts s) (h' : Ledger w receipts' s')
    (hsame : ∀ v, v ∈ receipts ↔ v ∈ receipts') (hapart : TellsApart receipts profile)
    (hsettled : ∀ receipt, s.loadReceipt w receiptId = .ok (some receipt) →
      receipt.status = .qualified →
      Settled receipts s profile receipt ∧ Settled receipts' s' profile receipt) :
    ((profile.resolveApplicability w request receiptId).run s).1 =
      ((profile.resolveApplicability w request receiptId).run s').1 := by
  have hapart' : TellsApart receipts' profile := fun v hv => hapart v ((hsame v).mpr hv)
  have hload := h.loadReceipt_eq h' hsame receiptId
  simp only [run_resolveQualification, ← hload]
  cases hloaded : s.loadReceipt w receiptId with
  | error e => rfl
  | ok loaded =>
    cases loaded with
    | none => rfl
    | some receipt =>
      have hlatest : receipt.status = .qualified → (profile.latestReceiptId s = some receiptId ↔
          profile.latestReceiptId s' = some receiptId) := by
        intro hqualified
        obtain ⟨hs, hs'⟩ := hsettled receipt hloaded hqualified
        rw [h.latest_of_settled hapart hloaded hs,
          h'.latest_of_settled hapart' (hload ▸ hloaded) hs', outranked_congr hsame]
      have hreport : profile.report w request receiptId (profile.latestReceiptId s) receipt =
          profile.report w request receiptId (profile.latestReceiptId s') receipt :=
        report_congr hlatest
      simp only [ok_bind, okOr, hreport]

end Orders

/-- For every sequence of ingests under any profiles: a resolution whose bindings are accepted
answers exactly when the rows of the profile decide about the receipt; another order of the ingests
is answered alike when the rows are settled in both; and a receipt that was stale or superseded is
never current again. -/
theorem repository_applicability {calls : List QualificationIngest}
    {profile : QualificationApplicabilityProfileV1}
    (hprofiles : ∀ call ∈ calls, call.applicability.profileId = profile.profileId →
      call.applicability = profile) :
    (∀ (request : ApplicabilityRequest) (receiptId : String) (receipt : NqReceiptV1),
      profile.accepts w request = .ok () →
      (ingestAll w calls).2.loadReceipt w receiptId = .ok (some receipt) →
      (receipt.status = .qualified →
        request.requestedObservation = profile.observationId w receipt) →
      (ExactAnswer w (ingestAll w calls).1 (ingestAll w calls).2 profile request receiptId receipt ↔
        Decided (ingestAll w calls).1 (ingestAll w calls).2 profile receipt request.nowUnixMs)) ∧
    (∀ calls', calls.Perm calls' → Consistent w calls →
      ∀ (request : ApplicabilityRequest) (receiptId : String),
      (∀ receipt, (ingestAll w calls).2.loadReceipt w receiptId = .ok (some receipt) →
        receipt.status = .qualified →
        Settled (ingestAll w calls).1 (ingestAll w calls).2 profile receipt ∧
          Settled (ingestAll w calls').1 (ingestAll w calls').2 profile receipt) →
      ((profile.resolveApplicability w request receiptId).run (ingestAll w calls).2).1 =
        ((profile.resolveApplicability w request receiptId).run (ingestAll w calls').2).1) ∧
    ∀ (later : List QualificationIngest) (request request' : ApplicabilityRequest)
      (receiptId : String), request.nowUnixMs ≤ request'.nowUnixMs →
      Answers w (ingestAll w calls).2 profile request receiptId .stale ∨
        Answers w (ingestAll w calls).2 profile request receiptId .superseded →
      ¬ Answers w (ingestAll w (calls ++ later)).2 profile request' receiptId .current := by
  have hledger := fun calls => (ledger_ingestAll calls : Ledger w _ _)
  have hapart : TellsApart (ingestAll w calls).1 profile := by
    intro v hv hid
    obtain ⟨call, hcall, hverify, -⟩ := mem_ingestAll hv
    rw [(read_of_verify hverify).2] at hid ⊢
    exact hprofiles call hcall hid
  refine ⟨?_, ?_, ?_⟩
  · intro request receiptId receipt haccepts hload hobservation
    exact (hledger calls).exactAnswer_iff hapart haccepts hload hobservation
  · intro calls' hperm hconsistent request receiptId hsettled
    have hconsistent' : Consistent w calls' := fun a ha b hb =>
      hconsistent a (hperm.mem_iff.mpr ha) b (hperm.mem_iff.mpr hb)
    have hsame : ∀ v, v ∈ (ingestAll w calls).1 ↔ v ∈ (ingestAll w calls').1 := by
      intro v
      rw [mem_ingestAll_iff hconsistent, mem_ingestAll_iff hconsistent']
      simp only [hperm.mem_iff]
    exact (hledger calls).resolve_eq (hledger calls') hsame hapart hsettled
  · intro later request request' receiptId hnow hanswer
    exact (hledger calls).not_current_later (hledger (calls ++ later)) (prefix_ingestAll calls later)
      hnow hanswer

section Bench

open QualificationBench

/-- One receipt, under a profile with a window of 500 ms and then under one with 700 ms. -/
def ingestedTwice : List QualificationIngest := [qualificationIngest 500 3, qualificationIngest 700 3]

/-- The general statement when the requesting profile is the first. -/
theorem repository_applicability_first :
    ExactAnswer platform (ingestAll platform ingestedTwice).1 (ingestAll platform ingestedTwice).2
        (qualificationProfile 500) (qualificationRequest 1200) "qualification-3"
        (qualificationReceipt 3) ↔
      Decided (ingestAll platform ingestedTwice).1 (ingestAll platform ingestedTwice).2
        (qualificationProfile 500) (qualificationReceipt 3) 1200 := by
  have hprofiles : ∀ call ∈ ingestedTwice,
      call.applicability.profileId = (qualificationProfile 500).profileId →
        call.applicability = qualificationProfile 500 := by decide +kernel
  exact (repository_applicability platform hprofiles).1 (qualificationRequest 1200) "qualification-3"
    (qualificationReceipt 3) (by decide +kernel) (by decide +kernel) (fun _ => by decide +kernel)

/-- The one receipt ingested under the second profile is superseded, though nothing ranks higher. -/
theorem idempotent_ingest_is_superseded :
    ∃ (calls : List QualificationIngest) (profile : QualificationApplicabilityProfileV1)
      (request : ApplicabilityRequest) (receiptId : String) (receipt : NqReceiptV1),
      profile.accepts platform request = .ok () ∧
      (ingestAll platform calls).2.loadReceipt platform receiptId = .ok (some receipt) ∧
      request.requestedObservation = profile.observationId platform receipt ∧
      receipt.status = .qualified ∧ IngestedUnder (ingestAll platform calls).1 profile receipt ∧
      request.nowUnixMs < receipt.evaluatedAtUnixMs + profile.maxAgeMs ∧
      Answers platform (ingestAll platform calls).2 profile request receiptId .superseded ∧
      ¬ Outranked (ingestAll platform calls).1 profile receipt := by
  have hreceipts : (ingestAll platform ingestedTwice).1.map (·.receipt) =
      [qualificationReceipt 3, qualificationReceipt 3] := by decide +kernel
  have hingested : ((ingestAll platform ingestedTwice).1.any fun v =>
      decide (v.applicability = qualificationProfile 700 ∧ v.receipt = qualificationReceipt 3)) =
        true := by decide +kernel
  refine ⟨ingestedTwice, qualificationProfile 700, qualificationRequest 1200, "qualification-3",
    qualificationReceipt 3, by decide +kernel, by decide +kernel, by decide +kernel, rfl, ?_,
    by decide +kernel, ?_, ?_⟩
  · obtain ⟨v, hv, hsame⟩ := List.any_eq_true.mp hingested
    exact ⟨v, hv, of_decide_eq_true hsame⟩
  · refine answers_iff.mpr ⟨by decide +kernel, qualificationReceipt 3, by decide +kernel, rfl,
      by decide +kernel, by decide +kernel, ?_⟩
    decide +kernel
  · rintro ⟨other, ⟨v, hv, -, rfl⟩, hlt⟩
    have hmem : v.receipt ∈ (ingestAll platform ingestedTwice).1.map (·.receipt) :=
      List.mem_map_of_mem hv
    rw [hreceipts] at hmem
    simp only [List.mem_cons, List.not_mem_nil, or_false, or_self] at hmem
    rw [hmem] at hlt
    exact lt_irrefl _ hlt

end Bench

end Nightshift.Qualification
