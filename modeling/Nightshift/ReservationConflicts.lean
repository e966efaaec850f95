import Nightshift.Lib.Staged
import Nightshift.QualificationBench

/-!
# Conflicting realizations

Any number of ingests act on one database, statement by statement, and any of
them may stop for good between two statements. Each stands at one of five
stages, and the rows and the stages together keep one invariant: a realization
an ingest has answered for is retained, every row is a verified realization, and
a reservation with a conflict row is flagged or waits for one of its ingests.
-/

namespace Nightshift.Qualification

open Checked Diagnostic PresentEvidence Canonical Interleave

variable (w : QualificationPlatform)

/-- The runs of any number of ingests, process `p` making the call at place `p`. -/
def RealizationRun (ingests : List RealizationIngest) (entries : List (Entry ReservationStore))
    (pool : Pool ReservationStore String RetainedReservationRealizationV1) : Prop :=
  Reached (fun p call => ∃ ingest, ingests[p]? = some ingest ∧ call = ingest.ingest w)
    ReservationStore.empty entries pool

/-! ## Rows -/

/-- Rows of the first table keep all but their flag, which only rises; the second only grows. -/
structure Grows (s s' : ReservationStore) : Prop where
  realizations : ∀ (r : String) (row : RealizationRow), s.realizations[r]? = some row →
    ∃ conflict, s'.realizations[r]? = some { row with conflict } ∧ (row.conflict → conflict)
  conflicts : ∀ row ∈ s.conflicts, row ∈ s'.conflicts

theorem Grows.refl (s : ReservationStore) : Grows s s :=
  ⟨fun _ row hrow => ⟨row.conflict, hrow, id⟩, fun _ h => h⟩

/-- The realization is in one of the two tables, byte for byte. -/
def Realization.KeptIn (x : Realization) (s : ReservationStore) : Prop :=
  (∃ row, s.realizations[x.evidenceReservation]? = some row ∧ x.heldBy row) ∨
    ∃ row ∈ s.conflicts, row.evidenceReservation = x.evidenceReservation ∧
      row.receiptSha256 = x.receipt.receiptSha256

/-- The reservation has a row that is flagged. -/
def Flagged (s : ReservationStore) (reservation : String) : Prop :=
  ∃ row, s.realizations[reservation]? = some row ∧ row.conflict

/-- The row of the reservation is another realization's. -/
def Realization.Contested (x : Realization) (s : ReservationStore) : Prop :=
  ∃ row, s.realizations[x.evidenceReservation]? = some row ∧ x.heldBy row = false

section Growth

variable {s s' : ReservationStore} {x : Realization}

theorem Grows.keptIn (h : Grows s s') (hkept : x.KeptIn s) : x.KeptIn s' := by
  rcases hkept with ⟨row, hrow, hheld⟩ | ⟨row, hrow, hids⟩
  · obtain ⟨conflict, hrow', -⟩ := h.realizations _ row hrow
    exact .inl ⟨_, hrow', hheld⟩
  · exact .inr ⟨row, h.conflicts row hrow, hids⟩

theorem Grows.flagged (h : Grows s s') {reservation : String} (hflagged : Flagged s reservation) :
    Flagged s' reservation := by
  obtain ⟨row, hrow, hconflict⟩ := hflagged
  obtain ⟨conflict, hrow', hraised⟩ := h.realizations _ row hrow
  exact ⟨_, hrow', hraised hconflict⟩

theorem Grows.contested (h : Grows s s') (hcontested : x.Contested s) : x.Contested s' := by
  obtain ⟨row, hrow, hother⟩ := hcontested
  obtain ⟨conflict, hrow', -⟩ := h.realizations _ row hrow
  exact ⟨_, hrow', hother⟩

end Growth

/-! ## Statements -/

section Statements

variable {w} {s : ReservationStore} {x : Realization}

/-- A first row, when the reservation has none. -/
theorem insertRealization_eq_ok {u : Unit} {s' : ReservationStore} :
    x.insertRealization w s = .ok (u, s') ↔ x.receipt.evaluatedAtUnixMs < i64Bound ∧
      s.realizations[x.evidenceReservation]? = none ∧
      s' = { s with realizations := s.realizations.insert x.evidenceReservation x.row } := by
  simp only [Realization.insertRealization, bind_eq_ok, refuseIf_eq_ok, decide_eq_false_iff_not,
    not_le, Except.ok.injEq, Prod.mk.injEq, true_and]
  rw [Std.ExtTreeMap.contains_eq_isSome_getElem?, Option.isSome_eq_false_iff, Option.isNone_iff_eq_none]
  constructor
  · rintro ⟨_, hbound, _, hfree, rfl⟩
    exact ⟨hbound, hfree, rfl⟩
  · rintro ⟨hbound, hfree, rfl⟩
    exact ⟨(), hbound, (), hfree, rfl⟩

theorem grows_insertRealization (hfree : s.realizations[x.evidenceReservation]? = none) :
    Grows s { s with realizations := s.realizations.insert x.evidenceReservation x.row } where
  realizations := by
    intro r row hrow
    refine ⟨row.conflict, ?_, id⟩
    rw [BTreeMap.getElem?_insert_eq]
    split
    · rename_i hr
      rw [← hr, hfree] at hrow
      cases hrow
    · exact hrow
  conflicts := fun _ h => h

/-- The store behind a conflict row, retained or ignored. -/
def Realization.withConflict (x : Realization) (s : ReservationStore) : ReservationStore :=
  if s.conflicts.any fun row => row.evidenceReservation == x.evidenceReservation &&
      row.receiptSha256 == x.receipt.receiptSha256 then s
  else { s with conflicts := s.conflicts ++ [x.conflictRow] }

theorem insertConflict_eq (x : Realization) (s : ReservationStore) :
    x.insertConflict s = .ok ((), x.withConflict s) := by
  unfold Realization.insertConflict Realization.withConflict
  split <;> rfl

theorem withConflict_realizations (x : Realization) (s : ReservationStore) :
    (x.withConflict s).realizations = s.realizations := by
  unfold Realization.withConflict
  split <;> rfl

theorem mem_withConflict {row : ConflictRow} (h : row ∈ (x.withConflict s).conflicts) :
    row ∈ s.conflicts ∨ row = x.conflictRow := by
  unfold Realization.withConflict at h
  split at h
  · exact .inl h
  · simpa using h

theorem grows_withConflict (x : Realization) (s : ReservationStore) : Grows s (x.withConflict s) where
  realizations := by
    intro r row hrow
    rw [withConflict_realizations]
    exact ⟨row.conflict, hrow, id⟩
  conflicts := by
    intro row hrow
    unfold Realization.withConflict
    split
    · exact hrow
    · exact List.mem_append_left _ hrow

theorem keptIn_withConflict (x : Realization) (s : ReservationStore) :
    x.KeptIn (x.withConflict s) := by
  refine .inr ?_
  unfold Realization.withConflict
  split
  · rename_i hany
    obtain ⟨row, hrow, hids⟩ := List.any_eq_true.mp hany
    simp only [Bool.and_eq_true, beq_iff_eq] at hids
    exact ⟨row, hrow, hids⟩
  · exact ⟨x.conflictRow, by simp, rfl, rfl⟩

/-- The store behind the flag. -/
def Realization.withFlag (x : Realization) (s : ReservationStore) : ReservationStore :=
  { s with
    realizations := s.realizations.modify x.evidenceReservation ({ · with conflict := true }) }

theorem withFlag_get (x : Realization) (s : ReservationStore) (r : String) :
    (x.withFlag s).realizations[r]? = if x.evidenceReservation = r then
      (s.realizations[r]?).map ({ · with conflict := true }) else s.realizations[r]? := by
  rw [Realization.withFlag, Std.ExtTreeMap.getElem?_modify]
  by_cases hr : x.evidenceReservation = r
  · simp [hr]
  · simp [hr]

theorem grows_withFlag (x : Realization) (s : ReservationStore) : Grows s (x.withFlag s) where
  realizations := by
    intro r row hrow
    rw [withFlag_get]
    split
    · exact ⟨true, by rw [hrow]; rfl, fun _ => rfl⟩
    · exact ⟨row.conflict, hrow, id⟩
  conflicts := fun _ h => h

theorem flagged_withFlag (h : x.Contested s) : Flagged (x.withFlag s) x.evidenceReservation := by
  obtain ⟨row, hrow, -⟩ := h
  refine ⟨{ row with conflict := true }, ?_, rfl⟩
  rw [withFlag_get, if_pos rfl, hrow]
  rfl

end Statements

/-! ## Stages -/

/-- Where an ingest stands: it has ended, or it is about to read the row, to retain a conflict, to
flag the row, or to retain the first row. -/
inductive RealizationStage where
  | ended (result : Except String RetainedReservationRealizationV1)
  | reading (x : Realization)
  | conflicting (x : Realization)
  | flagging (x : Realization)
  | inserting (x : Realization)

namespace RealizationStage

/-- What is left of the call. -/
def rest : RealizationStage → Call ReservationStore String RetainedReservationRealizationV1
  | ended result => .done result
  | reading x => x.retain w
  | conflicting x => x.retainConflict
  | flagging x => x.flagConflict
  | inserting x => x.retainFirst w

/-- What an ingest that stands here may rely on. -/
inductive Holds (s : ReservationStore) (ingest : RealizationIngest) : RealizationStage → Prop
  | refused (e : String) : Holds s ingest (ended (.error e))
  | accepted (x : Realization) (conflict : Bool) : ingest.verify w = .ok x → x.KeptIn s →
      (Flagged s x.evidenceReservation ∨
        ∃ row, s.realizations[x.evidenceReservation]? = some row ∧ x.heldBy row) →
      Holds s ingest (ended (.ok (x.retained conflict)))
  | reading (x : Realization) : ingest.verify w = .ok x → Holds s ingest (reading x)
  | conflicting (x : Realization) : ingest.verify w = .ok x → x.Contested s →
      Holds s ingest (conflicting x)
  | flagging (x : Realization) : ingest.verify w = .ok x → x.Contested s → x.KeptIn s →
      Holds s ingest (flagging x)
  | inserting (x : Realization) : ingest.verify w = .ok x → Holds s ingest (inserting x)

variable {w}

theorem Holds.grows {s s' : ReservationStore} {ingest : RealizationIngest} {stage : RealizationStage}
    (h : Holds w s ingest stage) (hgrows : Grows s s') : Holds w s' ingest stage := by
  cases h with
  | refused e => exact .refused e
  | accepted x conflict hverify hkept hsettled =>
    refine .accepted x conflict hverify (hgrows.keptIn hkept) ?_
    rcases hsettled with hflagged | ⟨row, hrow, hheld⟩
    · exact .inl (hgrows.flagged hflagged)
    · obtain ⟨conflict, hrow', -⟩ := hgrows.realizations _ row hrow
      exact .inr ⟨_, hrow', hheld⟩
  | reading x hverify => exact .reading x hverify
  | conflicting x hverify hcontested => exact .conflicting x hverify (hgrows.contested hcontested)
  | flagging x hverify hcontested hkept =>
    exact .flagging x hverify (hgrows.contested hcontested) (hgrows.keptIn hkept)
  | inserting x hverify => exact .inserting x hverify

/-- One action of an ingest: its new stage holds, the rows grow, and a new row of either table is the
realization of the ingest, which then waits at the flag if the row is a conflict. -/
structure Advances (w : QualificationPlatform) (s s' : ReservationStore) (ingest : RealizationIngest)
    (stage stage' : RealizationStage) : Prop where
  holds : Holds w s' ingest stage'
  grows : Grows s s'
  realization : ∀ (r : String) (row : RealizationRow), s'.realizations[r]? = some row →
    (∃ conflict, s.realizations[r]? = some { row with conflict }) ∨
      ∃ x, ingest.verify w = .ok x ∧ x.evidenceReservation = r ∧ row = x.row
  conflict : ∀ row ∈ s'.conflicts, row ∈ s.conflicts ∨
    ∃ x, ingest.verify w = .ok x ∧ row = x.conflictRow ∧ stage' = flagging x ∧ x.Contested s'
  flag : ∀ x, stage = flagging x → Flagged s' x.evidenceReservation

theorem Advances.still {s : ReservationStore} {ingest : RealizationIngest}
    {stage stage' : RealizationStage} (h : Holds w s ingest stage')
    (hflag : ∀ x, stage ≠ flagging x) : Advances w s s ingest stage stage' where
  holds := h
  grows := .refl s
  realization := fun _ row hrow => .inl ⟨row.conflict, hrow⟩
  conflict := fun _ hrow => .inl hrow
  flag := fun x hx => absurd hx (hflag x)

section Actions

variable {s : ReservationStore} {ingest : RealizationIngest} {x : Realization}

theorem advances_reading (h : Holds w s ingest (reading x)) :
    ∃ stage', rest w stage' = x.behind w s.realizations[x.evidenceReservation]? ∧
      Advances w s s ingest (reading x) stage' := by
  cases h with
  | reading _ hverify =>
    cases hrow : s.realizations[x.evidenceReservation]? with
    | none => exact ⟨inserting x, rfl, .still (.inserting x hverify) (by simp)⟩
    | some row =>
      cases hheld : x.heldBy row with
      | true =>
        refine ⟨ended (.ok (x.retained row.conflict)), ?_, .still ?_ (by simp)⟩
        · simp only [rest, Realization.behind, hheld, if_true]
          rfl
        · exact .accepted x row.conflict hverify (.inl ⟨row, hrow, hheld⟩) (.inr ⟨row, hrow, hheld⟩)
      | false =>
        refine ⟨conflicting x, ?_, .still (.conflicting x hverify ⟨row, hrow, hheld⟩) (by simp)⟩
        simp [rest, Realization.behind, hheld]

theorem advances_conflicting (h : Holds w s ingest (conflicting x)) :
    Advances w s (x.withConflict s) ingest (conflicting x) (flagging x) := by
  cases h with
  | conflicting _ hverify hcontested =>
    have hgrows := grows_withConflict x s
    exact
      { holds := .flagging x hverify (hgrows.contested hcontested) (keptIn_withConflict x s)
        grows := hgrows
        realization := by
          intro r row hrow
          rw [withConflict_realizations] at hrow
          exact .inl ⟨row.conflict, hrow⟩
        conflict := by
          intro row hrow
          rcases mem_withConflict hrow with hold | hnew
          · exact .inl hold
          · exact .inr ⟨x, hverify, hnew, rfl, hgrows.contested hcontested⟩
        flag := by simp }

theorem advances_flagging (h : Holds w s ingest (flagging x)) :
    Advances w s (x.withFlag s) ingest (flagging x) (ended (.ok (x.retained true))) := by
  cases h with
  | flagging _ hverify hcontested hkept =>
    have hflagged := flagged_withFlag hcontested
    exact
      { holds := .accepted x true hverify ((grows_withFlag x s).keptIn hkept) (.inl hflagged)
        grows := grows_withFlag x s
        realization := by
          intro r row hrow
          rw [withFlag_get] at hrow
          split at hrow
          · obtain ⟨old, hold, rfl⟩ := Option.map_eq_some_iff.mp hrow
            exact .inl ⟨old.conflict, hold⟩
          · exact .inl ⟨row.conflict, hrow⟩
        conflict := fun _ hrow => .inl hrow
        flag := by
          intro y hy
          cases hy
          exact hflagged }

theorem advances_inserting (h : Holds w s ingest (inserting x)) {u : Unit} {s' : ReservationStore}
    (hinsert : x.insertRealization w s = .ok (u, s')) :
    Advances w s s' ingest (inserting x) (ended (.ok (x.retained false))) := by
  cases h with
  | inserting _ hverify =>
    obtain ⟨-, hfree, rfl⟩ := insertRealization_eq_ok.mp hinsert
    have hrow : (s.realizations.insert x.evidenceReservation x.row)[x.evidenceReservation]? =
        some x.row := Std.ExtTreeMap.getElem?_insert_self
    have hheld : x.heldBy x.row := by simp [Realization.heldBy, Realization.row]
    exact
      { holds := .accepted x false hverify (.inl ⟨_, hrow, hheld⟩) (.inr ⟨_, hrow, hheld⟩)
        grows := grows_insertRealization hfree
        realization := by
          intro r row hget
          rw [BTreeMap.getElem?_insert_eq] at hget
          split at hget
          · rename_i hr
            cases hget
            exact .inr ⟨x, hverify, hr, rfl⟩
          · exact .inl ⟨row.conflict, hget⟩
        conflict := fun _ hconflict => .inl hconflict
        flag := by simp }

end Actions

/-- Whatever stage acts, it advances. -/
theorem Holds.act {s : ReservationStore} {ingest : RealizationIngest} {stage : RealizationStage}
    (h : Holds w s ingest stage) {update : ReservationStore → ReservationStore}
    {next : ReservationStore → Call ReservationStore String RetainedReservationRealizationV1}
    (hrest : rest w stage = .act update next) :
    ∃ stage', rest w stage' = next s ∧ Advances w s (update s) ingest stage stage' := by
  cases stage with
  | ended result => cases hrest
  | reading x =>
    rw [rest, Realization.retain, Call.read_bind] at hrest
    cases hrest
    exact advances_reading h
  | conflicting x =>
    rw [rest, Realization.retainConflict, Call.commit_bind_of_ok (insertConflict_eq x)] at hrest
    cases hrest
    exact ⟨_, rfl, advances_conflicting h⟩
  | flagging x =>
    have hset : ∀ s, x.setConflict s = .ok ((), x.withFlag s) := fun _ => rfl
    rw [rest, Realization.flagConflict, Call.commit_bind_of_ok hset] at hrest
    cases hrest
    exact ⟨_, rfl, advances_flagging h⟩
  | inserting x =>
    rw [rest, Realization.retainFirst] at hrest
    cases hrest
    cases hinsert : x.insertRealization w s with
    | error e =>
      simp only [hinsert]
      exact ⟨ended (.error e), rfl, .still (.refused e) (by simp)⟩
    | ok out =>
      simp only [hinsert]
      exact ⟨_, rfl, advances_inserting h hinsert⟩

end RealizationStage

/-! ## Runs -/

/-- What holds of the rows and the stages together. -/
structure Retains (w : QualificationPlatform) (ingests : List RealizationIngest)
    (s : ReservationStore) (stages : List RealizationStage) : Prop where
  /-- Each process is at a stage of its own call. -/
  stage : ∀ (p : Nat) (stage : RealizationStage), stages[p]? = some stage →
    ∃ ingest, ingests[p]? = some ingest ∧ stage.Holds w s ingest
  /-- Each row was written from a verified realization of its reservation. -/
  realization : ∀ (r : String) (row : RealizationRow), s.realizations[r]? = some row →
    ∃ ingest ∈ ingests, ∃ x conflict, ingest.verify w = .ok x ∧ x.evidenceReservation = r ∧
      row = { x.row with conflict }
  /-- Each conflict row is one, and its reservation is flagged or waits for the flag. -/
  conflict : ∀ row ∈ s.conflicts, ∃ ingest ∈ ingests, ∃ x, ingest.verify w = .ok x ∧
    row = x.conflictRow ∧ x.Contested s ∧ (Flagged s x.evidenceReservation ∨
      ∃ (p : Nat) (y : Realization), stages[p]? = some (.flagging y) ∧
        y.evidenceReservation = x.evidenceReservation)

section Invariant

variable {w} {ingests : List RealizationIngest} {s : ReservationStore}
  {stages : List RealizationStage}

theorem Retains.empty : Retains w ingests .empty [] where
  stage := by simp
  realization := by simp [ReservationStore.empty]
  conflict := by simp [ReservationStore.empty]

theorem Retains.start (h : Retains w ingests s stages) {ingest : RealizationIngest}
    (hingest : ingests[stages.length]? = some ingest) :
    ∃ stage, stage.rest w = ingest.ingest w ∧ Retains w ingests s (stages ++ [stage]) := by
  have hstage : ∃ stage : RealizationStage, stage.rest w = ingest.ingest w ∧
      stage.Holds w s ingest := by
    cases hverify : ingest.verify w with
    | error e =>
      refine ⟨.ended (.error e), ?_, .refused e⟩
      rw [RealizationIngest.ingest, hverify]
      rfl
    | ok x =>
      refine ⟨.reading x, ?_, .reading x hverify⟩
      rw [RealizationIngest.ingest, hverify]
      rfl
  obtain ⟨stage, hrest, hholds⟩ := hstage
  refine ⟨stage, hrest, ?_, h.realization, ?_⟩
  · intro p stage' hp
    rw [List.getElem?_append] at hp
    split at hp
    · exact h.stage p stage' hp
    · have hp' : p = stages.length := by
        have := (List.getElem?_eq_some_iff.mp hp).1
        simp at this
        omega
      subst hp'
      rw [Nat.sub_self] at hp
      cases hp
      exact ⟨ingest, hingest, hholds⟩
  · intro row hrow
    obtain ⟨ingest', hmem, x, hverify, hx, hcontested, hwaits⟩ := h.conflict row hrow
    refine ⟨ingest', hmem, x, hverify, hx, hcontested, ?_⟩
    rcases hwaits with hflagged | ⟨p, y, hp, hy⟩
    · exact .inl hflagged
    · have hlt := (List.getElem?_eq_some_iff.mp hp).1
      exact .inr ⟨p, y, by rw [List.getElem?_append_left hlt, hp], hy⟩

/-- The invariant goes through one action of one process. -/
theorem Retains.act (h : Retains w ingests s stages) {p : Nat} {stage stage' : RealizationStage}
    {s' : ReservationStore} {ingest : RealizationIngest} (hp : stages[p]? = some stage)
    (hingest : ingests[p]? = some ingest)
    (hadvances : RealizationStage.Advances w s s' ingest stage stage') :
    Retains w ingests s' (stages.set p stage') where
  stage := by
    intro q stage'' hq
    rcases stage_of_set hq with ⟨rfl, rfl⟩ | ⟨hne, hold⟩
    · exact ⟨ingest, hingest, hadvances.holds⟩
    · obtain ⟨ingest', hingest', hholds⟩ := h.stage q stage'' hold
      exact ⟨ingest', hingest', hholds.grows hadvances.grows⟩
  realization := by
    intro r row hrow
    rcases hadvances.realization r row hrow with ⟨conflict, hold⟩ | ⟨x, hverify, hr, rfl⟩
    · obtain ⟨ingest', hmem, x, conflict', hverify, hr, hx⟩ := h.realization r _ hold
      refine ⟨ingest', hmem, x, row.conflict, hverify, hr, ?_⟩
      cases row
      cases hx
      rfl
    · exact ⟨ingest, List.mem_of_getElem? hingest, x, false, hverify, hr, rfl⟩
  conflict := by
    intro row hrow
    have hlt := (List.getElem?_eq_some_iff.mp hp).1
    rcases hadvances.conflict row hrow with hold | ⟨x, hverify, hx, hflagging, hcontested⟩
    · obtain ⟨ingest', hmem, x, hverify, hx, hcontested, hwaits⟩ := h.conflict row hold
      refine ⟨ingest', hmem, x, hverify, hx, hadvances.grows.contested hcontested, ?_⟩
      rcases hwaits with hflagged | ⟨q, y, hq, hy⟩
      · exact .inl (hadvances.grows.flagged hflagged)
      · by_cases hqp : q = p
        · subst hqp
          rw [hp] at hq
          cases hq
          exact .inl (hy ▸ hadvances.flag y rfl)
        · exact .inr ⟨q, y, by rw [List.getElem?_set_ne (Ne.symm hqp), hq], hy⟩
    · refine ⟨ingest, List.mem_of_getElem? hingest, x, hverify, hx, hcontested, .inr ⟨p, x, ?_, rfl⟩⟩
      rw [List.getElem?_set_self hlt, hflagging]

end Invariant

/-- Every pool of a run is at stages that keep the invariant. -/
theorem RealizationRun.staged {w : QualificationPlatform} {ingests : List RealizationIngest}
    {entries : List (Entry ReservationStore)}
    {pool : Pool ReservationStore String RetainedReservationRealizationV1}
    (h : RealizationRun w ingests entries pool) : ∃ stages : List RealizationStage,
      pool.calls = stages.map (·.rest w) ∧ Retains w ingests pool.store stages := by
  refine Reached.staged .empty ?_ ?_ h
  · rintro s stages call hretains ⟨ingest, hingest, rfl⟩
    exact hretains.start hingest
  · intro s stages p stage update next hretains hp hrest
    obtain ⟨ingest, hingest, hholds⟩ := hretains.stage p stage hp
    obtain ⟨stage', hnext, hadvances⟩ := hholds.act hrest
    exact ⟨stage', hnext, hretains.act hp hingest hadvances⟩

/-! ## Resolutions -/

/-- What an accepted realization promises about the receipt that is read back. -/
theorem verify_spec {w : QualificationPlatform} {ingest : RealizationIngest} {x : Realization}
    (h : ingest.verify w = .ok x) :
    w.readRealizationReceipt x.exactReceipt = .ok x.receipt ∧
      x.evidenceReservation = ingest.applicability.evidenceReservation ∧
      ingest.pinned w x.receipt = true ∧
      (∀ chain ∈ x.receipt.realizations, chain.evidenceReservation = x.evidenceReservation) ∧
      (x.receipt.status = .qualified → x.receipt.realizations.length = 1) := by
  simp only [RealizationIngest.verify, bind_eq_ok, mapErr_eq_ok, refuseIf_eq_ok, Bool.or_eq_false_iff,
    Bool.not_eq_false', Bool.and_eq_false_imp, beq_iff_eq] at h
  obtain ⟨_, -, receipt, hread, _, -, _, hpinned, executable, -, _, -, _, ⟨hchains, hsingle⟩, _, -,
    h⟩ := h
  cases h
  refine ⟨hread, rfl, hpinned, ?_, ?_⟩
  · intro chain hchain
    have := List.any_eq_false.mp hchains chain hchain
    simpa using this
  · intro hstatus
    have := hsingle hstatus
    simpa using this

/-- The checks a resolution makes before it reads the row. -/
def ReservationApplicabilityProfileV1.accepts (w : QualificationPlatform)
    (profile : ReservationApplicabilityProfileV1) (request : ApplicabilityRequest) :
    Except String Unit := do
  profile.validate w
  mapErr (·.display w.toRuntimePlatform) (request.source.validate w.toCanonicalPlatform)
  requireDigest "target_campaign_id" request.targetCampaignId
  refuseIf (!w.isUuid request.targetOccurrenceId) "target_occurrence_id must be a UUID"
  refuseIf (!profile.admits request)
    "reservation realization is not applicable to the exact settled predecessor"

theorem run_resolveApplicability (w : QualificationPlatform)
    (profile : ReservationApplicabilityProfileV1) (request : ApplicabilityRequest)
    (s : ReservationStore) : (profile.resolveApplicability w request).run s =
      (profile.accepts w request >>= fun _ =>
        profile.judge w request s.realizations[profile.evidenceReservation]?, s) := by
  simp only [ReservationApplicabilityProfileV1.resolveApplicability,
    ReservationApplicabilityProfileV1.accepts, bind_assoc]
  refine Call.run_check_bind fun _ => Call.run_check_bind fun _ => Call.run_check_bind fun _ =>
    Call.run_check_bind fun _ => Call.run_check_bind fun _ => ?_
  rfl

/-! ## Conflicts -/

/-- The bytes a realization is retained as. -/
def Realization.bytes (x : Realization) : Bytes × Bytes × Bytes :=
  (x.exactProfile, x.exactEvidence, x.exactReceipt)

/-- The realization is in one of the two tables, byte for byte. -/
def Realization.VerbatimIn (x : Realization) (s : ReservationStore) : Prop :=
  (∃ row, s.realizations[x.evidenceReservation]? = some row ∧
    (row.exactProfile, row.exactEvidence, row.exactReceipt) = x.bytes) ∨ x.conflictRow ∈ s.conflicts

/-- SHA-256 tells the receipts of the run apart: equal receipt digests come with equal bytes. -/
def Collisionless (w : QualificationPlatform) (ingests : List RealizationIngest) : Prop :=
  ∀ a ∈ ingests, ∀ b ∈ ingests, ∀ x y, a.verify w = .ok x → b.verify w = .ok y →
    x.receipt.receiptSha256 = y.receipt.receiptSha256 → x.bytes = y.bytes

/-- Some ingest has answered for the realization. -/
def Accepted (w : QualificationPlatform) (ingests : List RealizationIngest)
    (pool : Pool ReservationStore String RetainedReservationRealizationV1) (x : Realization) : Prop :=
  ∃ (p : Nat) (ingest : RealizationIngest) (retained : RetainedReservationRealizationV1),
    ingests[p]? = some ingest ∧ ingest.verify w = .ok x ∧
    pool.calls[p]? = some (.done (.ok retained))

/-- Two different realizations of the reservation were accepted, or one of them is retained as a
conflict. -/
def Conflicting (w : QualificationPlatform) (ingests : List RealizationIngest)
    (pool : Pool ReservationStore String RetainedReservationRealizationV1) (reservation : String) :
    Prop :=
  (∃ x y, Accepted w ingests pool x ∧ Accepted w ingests pool y ∧
    x.evidenceReservation = reservation ∧ y.evidenceReservation = reservation ∧
    x.bytes ≠ y.bytes) ∨ ∃ row ∈ pool.store.conflicts, row.evidenceReservation = reservation

/-- An ingest of the reservation stands, or has died, between its two conflict statements. -/
def BetweenStatements (pool : Pool ReservationStore String RetainedReservationRealizationV1)
    (reservation : String) : Prop :=
  ∃ (p : Nat) (x : Realization), x.evidenceReservation = reservation ∧
    pool.calls[p]? = some x.flagConflict

/-- The serde tag of an outcome. -/
def ReservationApplicabilityOutcomeV1.disposition : ReservationApplicabilityOutcomeV1 → String
  | observation _ => "observation"
  | retainedOnly _ _ _ => "retained_only"
  | absent => "absent"

section Conflicts

variable {w : QualificationPlatform} {ingests : List RealizationIngest}
  {entries : List (Entry ReservationStore)}
  {pool : Pool ReservationStore String RetainedReservationRealizationV1} {x : Realization}

/-- An ingest that has answered stands at its end. -/
theorem Accepted.holds (h : Accepted w ingests pool x) {stages : List RealizationStage}
    (hcalls : pool.calls = stages.map (·.rest w)) (hretains : Retains w ingests pool.store stages) :
    x.KeptIn pool.store ∧ (Flagged pool.store x.evidenceReservation ∨
      ∃ row, pool.store.realizations[x.evidenceReservation]? = some row ∧ x.heldBy row) := by
  obtain ⟨p, ingest, retained, hingest, hverify, hdone⟩ := h
  rw [hcalls, List.getElem?_map] at hdone
  obtain ⟨stage, hstage, hrest⟩ := Option.map_eq_some_iff.mp hdone
  obtain ⟨ingest', hingest', hholds⟩ := hretains.stage p stage hstage
  rw [hingest] at hingest'
  cases hingest'
  cases hholds with
  | refused e => cases hrest
  | accepted y conflict hverify' hkept hsettled =>
    rw [hverify] at hverify'
    cases hverify'
    exact ⟨hkept, hsettled⟩
  | reading y => cases hrest
  | conflicting y => cases hrest
  | flagging y => cases hrest
  | inserting y => cases hrest

theorem verbatim_of_kept (hkept : x.KeptIn pool.store) {stages : List RealizationStage}
    (hretains : Retains w ingests pool.store stages) (hcollisionless : Collisionless w ingests)
    {ingest : RealizationIngest} (hingest : ingest ∈ ingests) (hverify : ingest.verify w = .ok x) :
    x.VerbatimIn pool.store := by
  rcases hkept with ⟨row, hrow, hheld⟩ | ⟨row, hrow, hreservation, hsha⟩
  · simp only [Realization.heldBy, Bool.and_eq_true, beq_iff_eq] at hheld
    refine .inl ⟨row, hrow, ?_⟩
    rw [hheld.1.1.2, hheld.1.2, hheld.2]
    rfl
  · obtain ⟨ingest', hmem, y, hverify', rfl, -⟩ := hretains.conflict row hrow
    have hbytes := hcollisionless _ hmem _ hingest y x hverify' hverify hsha
    refine .inr ?_
    have hrow' : y.conflictRow = x.conflictRow := by
      simp only [Realization.bytes, Prod.mk.injEq] at hbytes
      simp only [Realization.conflictRow] at hreservation hsha ⊢
      rw [hreservation, hsha, hbytes.1, hbytes.2.1, hbytes.2.2]
    rw [← hrow']
    exact hrow

/-- A conflicting reservation none of whose ingests is between two statements is flagged. -/
theorem flagged_of_conflicting {stages : List RealizationStage}
    (hcalls : pool.calls = stages.map (·.rest w)) (hretains : Retains w ingests pool.store stages)
    {reservation : String} (hconflicting : Conflicting w ingests pool reservation)
    (hbetween : ¬ BetweenStatements pool reservation) : Flagged pool.store reservation := by
  rcases hconflicting with ⟨x, y, hx, hy, rfl, hreservation, hbytes⟩ | ⟨row, hrow, rfl⟩
  · obtain ⟨-, hflagged | ⟨row, hrow, hheld⟩⟩ := hx.holds hcalls hretains
    · exact hflagged
    · obtain ⟨-, hflagged | ⟨row', hrow', hheld'⟩⟩ := hy.holds hcalls hretains
      · exact hreservation ▸ hflagged
      · rw [hreservation, hrow] at hrow'
        cases hrow'
        simp only [Realization.heldBy, Bool.and_eq_true, beq_iff_eq] at hheld hheld'
        refine absurd ?_ hbytes
        rw [Realization.bytes, Realization.bytes, ← hheld.1.1.2, ← hheld.1.2, ← hheld.2,
          ← hheld'.1.1.2, ← hheld'.1.2, ← hheld'.2]
  · obtain ⟨ingest, hmem, x, hverify, rfl, -, hflagged | ⟨p, y, hp, hy⟩⟩ := hretains.conflict row hrow
    · exact hflagged
    · refine absurd ⟨p, y, hy, ?_⟩ hbetween
      rw [hcalls, List.getElem?_map, hp]
      rfl

/-- A flagged reservation is retained only. -/
theorem judge_flagged {stages : List RealizationStage}
    (hretains : Retains w ingests pool.store stages) {profile : ReservationApplicabilityProfileV1}
    (hflagged : Flagged pool.store profile.evidenceReservation) (request : ApplicabilityRequest) :
    ∃ receiptId status, profile.judge w request
      pool.store.realizations[profile.evidenceReservation]? =
        .ok (.retainedOnly receiptId status true) := by
  obtain ⟨row, hrow, hconflict⟩ := hflagged
  obtain ⟨ingest, -, x, conflict, hverify, -, rfl⟩ := hretains.realization _ row hrow
  have hread : w.readRealizationReceipt x.row.exactReceipt = .ok x.receipt := (verify_spec hverify).1
  have hconflict' : conflict = true := hconflict
  subst hconflict'
  refine ⟨x.receipt.receiptId, x.receipt.status, ?_⟩
  rw [hrow]
  simp [ReservationApplicabilityProfileV1.judge, hread]

theorem run_resolve_conflicting (h : RealizationRun w ingests entries pool)
    (profile : ReservationApplicabilityProfileV1) (request : ApplicabilityRequest)
    (hconflicting : Conflicting w ingests pool profile.evidenceReservation)
    (hbetween : ¬ BetweenStatements pool profile.evidenceReservation) :
    ∃ receiptId status, (profile.resolveApplicability w request).run pool.store =
      ((profile.accepts w request).map fun _ => .retainedOnly receiptId status true, pool.store) := by
  obtain ⟨stages, hcalls, hretains⟩ := h.staged
  have hflagged := flagged_of_conflicting hcalls hretains hconflicting hbetween
  obtain ⟨receiptId, status, hjudge⟩ := judge_flagged hretains hflagged request
  refine ⟨receiptId, status, ?_⟩
  rw [run_resolveApplicability, hjudge]
  cases profile.accepts w request <;> rfl

end Conflicts

/-- Every schedule of ingests is a run of them. -/
theorem realizationRun_play {w : QualificationPlatform} {ingests : List RealizationIngest}
    {schedule : List (Choice ReservationStore String RetainedReservationRealizationV1)}
    (h : (play .empty schedule).2.started = ingests.map (·.ingest w)) :
    RealizationRun w ingests (play .empty schedule).1 (play .empty schedule).2 := by
  refine reached_play_started schedule ?_
  intro p call hp
  rw [h, List.getElem?_map] at hp
  obtain ⟨ingest, hingest, hcall⟩ := Option.map_eq_some_iff.mp hp
  exact ⟨ingest, hingest, hcall.symm⟩

section Bench

open QualificationBench
open CanonicalBench (digest)

def bothIngested : List (Choice ReservationStore String RetainedReservationRealizationV1) :=
  bothIngests ++ [.act 1, .act 1]

theorem collisionless_bothIngests :
    Collisionless platform [realizationIngest 3, realizationIngest 4] := by
  have hverify : ∀ n ∈ [3, 4], ((realizationIngest n).verify platform).map
      (fun x => (x.receipt.receiptSha256, x.bytes)) = .ok (digest [n], [1], [2], [n]) := by
    decide +kernel
  have hdigest : ∀ n ∈ ([3, 4] : List UInt8), ∀ m ∈ ([3, 4] : List UInt8),
      digest [n] = digest [m] → n = m := by decide +kernel
  have hname : ∀ a ∈ [realizationIngest 3, realizationIngest 4],
      ∃ n ∈ ([3, 4] : List UInt8), a = realizationIngest n := by simp
  intro a ha b hb x y hx hy hsha
  obtain ⟨n, hn, rfl⟩ := hname a ha
  obtain ⟨m, hm, rfl⟩ := hname b hb
  have hx' := hverify n hn
  have hy' := hverify m hm
  rw [hx] at hx'
  rw [hy] at hy'
  simp only [Except.map, Except.ok.injEq, Prod.mk.injEq] at hx' hy'
  have hnm : n = m := hdigest n hn m hm (by rw [← hx'.1, ← hy'.1, hsha])
  rw [hx'.2, hy'.2, hnm]

end Bench

end Nightshift.Qualification
