import Nightshift.Extension

/-!
# The capacity history of a longer journal

A row that concerns no capacity leaves the capacity validator where it was. The
only other rows a run gets after its admission are an accepted capacity
admission with the attempt it admits, or that attempt alone when the run has no
capacity requirement.
-/

namespace Nightshift

open Checked

/-- The payloads the capacity validator reads. -/
def InternalPayload.concernsCapacity : InternalPayload → Bool
  | runAdmitted | capacityRequirementAdmitted .. | capacityAdmissionAccepted ..
  | attemptCreated .. => true
  | _ => false

/-- A row the capacity validator passes over. -/
inductive CapacityNeutral (w : Platform) : EventRow → Prop
  | adapter {row : EventRow} (h : row.kind = .adapterEvent) : CapacityNeutral w row
  | internal (e : InternalEvent) (n : Nat) (h : e.payload.concernsCapacity = false) :
    CapacityNeutral w (e.row w n)

namespace RunTables

variable {w : Platform} {t t' : RunTables} {rows : List EventRow}

theorem capacityLengths_append (hevents : t'.events = t.events ++ rows) :
    t'.capacityLengths w = t.capacityLengths w ++
      (rows.filter (·.kind.isCapacity)).map fun row => (row.rawBytes w).length := by
  simp [capacityLengths, hevents]

/-- Rows of other kinds leave the capacity history as large as it was. -/
theorem validateCapacityHistorySize_of_plain (hevents : t'.events = t.events ++ rows)
    (hplain : ∀ row ∈ rows, row.kind.isCapacity = false) (maximumEventBytes maximumRows : Nat) :
    t'.validateCapacityHistorySize w maximumEventBytes maximumRows =
      t.validateCapacityHistorySize w maximumEventBytes maximumRows := by
  have hnil : rows.filter (·.kind.isCapacity) = [] := by
    rw [List.filter_eq_nil_iff]
    intro row hrow
    simp [hplain row hrow]
  simp [validateCapacityHistorySize, capacityLengths_append hevents, hnil]

/-- One capacity row for which the history had room. -/
theorem validateCapacityHistorySize_of_room {event : InternalEvent} {n : Nat}
    {maximumEventBytes maximumRows : Nat}
    (hevents : t'.events = t.events ++ event.row w n :: rows)
    (hplain : ∀ row ∈ rows, row.kind.isCapacity = false)
    (hroom : Tx.CapacityRoom w t event maximumEventBytes maximumRows) :
    ∃ retained, t'.validateCapacityHistorySize w maximumEventBytes maximumRows =
      .ok retained := by
  obtain ⟨retained, hretained, hcount, hbytes⟩ := hroom.room
  have hnil : rows.filter (·.kind.isCapacity) = [] := by
    rw [List.filter_eq_nil_iff]
    intro row hrow
    simp [hplain row hrow]
  have hlengths : t'.capacityLengths w =
      t.capacityLengths w ++ [(w.canonical (.event event)).length] := by
    rw [capacityLengths_append hevents, List.filter_cons]
    simp [hroom.kind, hnil]
  have hpos : (w.canonical (.event event)).length ≠ 0 := by
    simpa using w.canonical_ne_nil (.event event)
  refine ⟨(retained.1 + (w.canonical (.event event)).length, retained.2 + 1), ?_⟩
  unfold validateCapacityHistorySize at hretained ⊢
  rw [hlengths, foldlM_append_eq_ok]
  refine ⟨retained, hretained, foldlM_cons_eq_ok.mpr ⟨_, ?_, foldlM_nil_eq_ok.mpr rfl⟩⟩
  have hlength := hroom.length
  simp only [addLength, bind_eq_ok, refuseIf_eq_ok]
  exact ⟨(), by simpa using hcount, (), by simp [hpos, hlength], (), by simpa using hbytes, trivial⟩

end RunTables

namespace CapacityScan

variable {w : Platform} {c : Contracts}

theorem step_neutral {row : EventRow} (h : CapacityNeutral w row) (scan : CapacityScan) :
    scan.step w c row = .ok scan := by
  cases h with
  | adapter hkind => simp [step, hkind]
  | internal e n hpayload =>
    obtain ⟨schema, eventId, runId, workItemId, attemptId, recordedAt, payload⟩ := e
    cases payload <;> first | rfl | cases hpayload

theorem foldlM_step_neutral {rows : List EventRow} (h : ∀ row ∈ rows, CapacityNeutral w row)
    (scan : CapacityScan) : rows.foldlM (step w c) scan = .ok scan := by
  induction rows with
  | nil => rfl
  | cons row rows ih =>
    exact foldlM_cons_eq_ok.mpr ⟨scan, step_neutral (h row List.mem_cons_self) scan,
      ih fun r hr => h r (List.mem_cons_of_mem _ hr)⟩

/-- What the end of the scan requires. -/
structure Consistent (scan : CapacityScan) : Prop where
  complete : (scan.requirement.isSome && scan.attempts != scan.admitted) = false
  legacy : (scan.requirement.isNone && !scan.admitted.isEmpty) = false

end CapacityScan

theorem readOnlyCapacityAdmissions_eq_ok {w : Platform} {c : Contracts} {rows : List EventRow}
    {requirement : Option RetainedCapacityRequirement} :
    readOnlyCapacityAdmissions w c rows = .ok requirement ↔
      ∃ scan, rows.foldlM (CapacityScan.step w c) CapacityScan.start = .ok scan ∧
        scan.Consistent ∧ requirement = scan.requirement := by
  simp only [readOnlyCapacityAdmissions, bind_eq_ok, refuseIf_eq_ok, Except.ok.injEq]
  constructor
  · rintro ⟨scan, hscan, _, hcomplete, _, hlegacy, rfl⟩
    exact ⟨scan, hscan, ⟨hcomplete, hlegacy⟩, rfl⟩
  · rintro ⟨scan, hscan, ⟨hcomplete, hlegacy⟩, rfl⟩
    exact ⟨scan, hscan, (), hcomplete, (), hlegacy, rfl⟩

/-- The placement of a journal's last rows does not depend on what follows them. -/
theorem checkCapacityPlacements_append {required : Bool} {runPosition : Nat} {index : Nat}
    {previous : Option InternalEvent} {entries more : List (EventRow × Option InternalEvent)}
    (h : checkCapacityPlacements required runPosition index previous entries = .ok ())
    (hmore : checkCapacityPlacements required runPosition (index + entries.length)
      ((entries.getLast?.map (·.2)).getD previous) more = .ok ()) :
    checkCapacityPlacements required runPosition index previous (entries ++ more) = .ok () := by
  induction entries generalizing index previous with
  | nil => simpa using hmore
  | cons entry rest ih =>
    simp only [checkCapacityPlacements, bind_eq_ok] at h
    obtain ⟨_, hentry, hrest⟩ := h
    rw [List.cons_append, checkCapacityPlacements]
    refine bind_eq_ok.mpr ⟨(), ?_, ih hrest ?_⟩
    · cases rest with
      | cons next rest => exact hentry
      | nil =>
        -- the last entry has no successor, so it is no capacity admission
        unfold checkCapacityPlacement at hentry ⊢
        split at hentry
        · rfl
        · split at hentry <;> first | exact hentry | (simp at hentry)
    · rw [List.length_cons] at hmore
      rw [show index + 1 + rest.length = index + (rest.length + 1) by omega]
      cases rest with
      | nil => simpa using hmore
      | cons next rest =>
        rw [List.getLast?_cons_cons] at hmore
        simpa [List.getLast?_eq_some_getLast] using hmore

theorem checkRequirementAdjacent_append {entries more : List (EventRow × Option InternalEvent)}
    {index : Nat} (h : checkRequirementAdjacent entries index = .ok ()) :
    checkRequirementAdjacent (entries ++ more) index = .ok () := by
  simp only [checkRequirementAdjacent, bind_eq_ok, okOr_eq_ok] at h ⊢
  obtain ⟨admitted, hadmitted, next, hnext, event, hevent, hrest⟩ := h
  refine ⟨admitted, ?_, next, ?_, event, hevent, hrest⟩
  · rw [List.getElem?_append_left (List.getElem?_eq_some_iff.mp hadmitted).1, hadmitted]
  · rw [List.getElem?_append_left (List.getElem?_eq_some_iff.mp hnext).1, hnext]

/-- The positions of run admissions in a parsed journal. -/
def admissionPositions (parsed : List (Option InternalEvent)) : List Nat :=
  (List.range parsed.length).filter fun index => isRunAdmitted (parsed[index]?).join

theorem admissionPositions_append {parsed more : List (Option InternalEvent)}
    (h : ∀ event ∈ more, isRunAdmitted event = false) :
    admissionPositions (parsed ++ more) = admissionPositions parsed := by
  unfold admissionPositions
  rw [List.length_append, List.range_add, List.filter_append]
  have hold : (List.range parsed.length).filter
      (fun index => isRunAdmitted ((parsed ++ more)[index]?).join) =
      (List.range parsed.length).filter fun index => isRunAdmitted (parsed[index]?).join := by
    refine List.filter_congr fun index hindex => ?_
    rw [List.getElem?_append_left (List.mem_range.mp hindex)]
  have hnew : ((List.range more.length).map (parsed.length + ·)).filter
      (fun index => isRunAdmitted ((parsed ++ more)[index]?).join) = [] := by
    rw [List.filter_eq_nil_iff]
    intro index hindex
    obtain ⟨k, hk, rfl⟩ := List.mem_map.mp hindex
    rw [List.getElem?_append_right (Nat.le_add_right _ _), Nat.add_sub_cancel_left,
      List.getElem?_eq_getElem (List.mem_range.mp hk)]
    simpa using h _ (List.getElem_mem _)
  rw [hold, hnew, List.append_nil]

/-- What a successful capacity read of a journal establishes. -/
structure CapacityReads (w : Platform) (c : Contracts) (rows : List EventRow)
    (scan : CapacityScan) (parsed : List (Option InternalEvent)) (position : Nat) : Prop where
  valid : ∀ row ∈ rows, validateReadOnlyEventRow w c row = .ok ()
  scanned : rows.foldlM (CapacityScan.step w c) CapacityScan.start = .ok scan
  consistent : scan.Consistent
  parses : rows.mapM parsedEvent = .ok parsed
  admitted : admissionPositions parsed = [position]
  adjacent : scan.requirement.isSome = true →
    checkRequirementAdjacent (rows.zip parsed) position = .ok ()
  placed : checkCapacityPlacements scan.requirement.isSome position 0 none (rows.zip parsed) =
    .ok ()

theorem validateCapacityHistory_eq_ok {w : Platform} {t : RunTables} {c : Contracts}
    {requirement : Option RetainedCapacityRequirement} :
    validateCapacityHistory w t c = .ok requirement ↔
      (∃ retained, t.validateCapacityHistorySize w c.profile.maximumEventBytes
        c.maximumCapacityRows = .ok retained) ∧
      ∃ scan parsed position, CapacityReads w c t.events scan parsed position ∧
        requirement = scan.requirement := by
  simp only [validateCapacityHistory, bind_eq_ok, forEach_eq_ok, readOnlyCapacityAdmissions_eq_ok]
  constructor
  · rintro ⟨retained, hsize, _, hvalid, _, ⟨scan, hscan, hconsistent, rfl⟩, parsed, hparsed, hrest⟩
    refine ⟨⟨retained, hsize⟩, scan, parsed, ?_⟩
    split at hrest
    case h_2 => cases hrest
    case h_1 position hposition =>
      cases hrequired : scan.requirement with
      | none =>
        simp only [hrequired, Option.isSome_none, Bool.false_eq_true, if_false, bind_eq_ok,
          Except.ok.injEq] at hrest
        obtain ⟨_, -, _, hplaced, rfl⟩ := hrest
        exact ⟨position, ⟨hvalid, hscan, hconsistent, hparsed, hposition, by simp [hrequired],
          by rw [hrequired]; exact hplaced⟩, rfl⟩
      | some value =>
        simp only [hrequired, Option.isSome_some, if_true, bind_eq_ok, Except.ok.injEq] at hrest
        obtain ⟨_, hadjacent, _, hplaced, rfl⟩ := hrest
        exact ⟨position, ⟨hvalid, hscan, hconsistent, hparsed, hposition, fun _ => hadjacent,
          by rw [hrequired]; exact hplaced⟩, rfl⟩
  · rintro ⟨⟨retained, hsize⟩, scan, parsed, position, h, rfl⟩
    refine ⟨retained, hsize, (), h.valid, scan.requirement, ⟨scan, h.scanned, h.consistent, rfl⟩,
      parsed, h.parses, ?_⟩
    have hposition := h.admitted
    unfold admissionPositions at hposition
    rw [hposition]
    cases hrequired : scan.requirement with
    | none =>
      have hplaced := h.placed
      rw [hrequired] at hplaced
      simp only [Option.isSome_none, Bool.false_eq_true, if_false, ok_bind] at hplaced ⊢
      rw [hplaced]
      rfl
    | some value =>
      have hplaced := h.placed
      have hadjacent := h.adjacent (by simp [hrequired])
      rw [hrequired] at hplaced
      simp only [Option.isSome_some, if_true] at hplaced ⊢
      rw [hadjacent, ok_bind, hplaced]
      rfl

/-- The parsed form of a row the capacity validator passes over. -/
def NeutralEntry (entry : EventRow × Option InternalEvent) : Prop :=
  ∀ e, entry.2 = some e → e.payload.concernsCapacity = false

theorem checkCapacityPlacement_neutral {entry : EventRow × Option InternalEvent}
    (h : NeutralEntry entry) (required : Bool) (runPosition index : Nat)
    (previous : Option InternalEvent) (next : Option (EventRow × Option InternalEvent)) :
    checkCapacityPlacement required runPosition index previous entry next = .ok () := by
  unfold checkCapacityPlacement
  split
  · rfl
  · rename_i event hevent
    have hpayload := h event hevent
    split <;> first | rfl | (rename_i hp; rw [hp] at hpayload; cases hpayload)

theorem checkCapacityPlacements_neutral {entries : List (EventRow × Option InternalEvent)}
    (h : ∀ entry ∈ entries, NeutralEntry entry) (required : Bool) (runPosition index : Nat)
    (previous : Option InternalEvent) :
    checkCapacityPlacements required runPosition index previous entries = .ok () := by
  induction entries generalizing index previous with
  | nil => rfl
  | cons entry rest ih =>
    rw [checkCapacityPlacements, checkCapacityPlacement_neutral (h entry List.mem_cons_self)]
    exact ih (fun e he => h e (List.mem_cons_of_mem _ he)) _ _

/-- Neutral rows parse to entries that are no run admission and have no placement rule. -/
theorem mapM_parsedEvent_neutral {w : Platform} {rows : List EventRow}
    (h : ∀ row ∈ rows, CapacityNeutral w row) :
    ∃ parsed, rows.mapM parsedEvent = .ok parsed ∧
      (∀ event ∈ parsed, isRunAdmitted event = false) ∧
      ∀ entry ∈ rows.zip parsed, NeutralEntry entry := by
  induction rows with
  | nil => exact ⟨[], rfl, by simp, by simp⟩
  | cons row rows ih =>
    obtain ⟨parsed, hparsed, hadmitted, hneutral⟩ :=
      ih fun r hr => h r (List.mem_cons_of_mem _ hr)
    cases h row List.mem_cons_self with
    | adapter hkind =>
      refine ⟨none :: parsed, mapM_cons_eq_ok.mpr ⟨none, parsed, by simp [parsedEvent, hkind],
        hparsed, rfl⟩, ?_, ?_⟩
      · simpa [isRunAdmitted] using hadmitted
      · simp only [List.zip_cons_cons, List.mem_cons]
        rintro entry (rfl | hentry)
        · simp [NeutralEntry]
        · exact hneutral entry hentry
    | internal e n hpayload =>
      refine ⟨some e :: parsed, mapM_cons_eq_ok.mpr ⟨some e, parsed, by
        simp [parsedEvent, Functor.map, Except.map], hparsed, rfl⟩, ?_, ?_⟩
      · simp only [List.mem_cons]
        rintro event (rfl | hevent)
        · simp only [isRunAdmitted, Option.any_some, beq_eq_false_iff_ne]
          rintro hp
          rw [hp] at hpayload
          cases hpayload
        · exact hadmitted event hevent
      · simp only [List.zip_cons_cons, List.mem_cons]
        rintro entry (rfl | hentry)
        · intro e' he'
          obtain rfl := Option.some.inj he'
          exact hpayload
        · exact hneutral entry hentry

namespace CapacityReads

variable {w : Platform} {c : Contracts} {rows more : List EventRow} {scan scan' : CapacityScan}
  {parsed parsedMore : List (Option InternalEvent)} {position : Nat}

/-- A capacity read extends over rows the validator passes. -/
theorem append (h : CapacityReads w c rows scan parsed position)
    (hvalid : ∀ row ∈ more, validateReadOnlyEventRow w c row = .ok ())
    (hscan : more.foldlM (CapacityScan.step w c) scan = .ok scan')
    (hrequirement : scan'.requirement = scan.requirement) (hconsistent : scan'.Consistent)
    (hparsed : more.mapM parsedEvent = .ok parsedMore)
    (hadmitted : ∀ event ∈ parsedMore, isRunAdmitted event = false)
    (hplaced : ∀ index previous, checkCapacityPlacements scan.requirement.isSome position index
      previous (more.zip parsedMore) = .ok ()) :
    CapacityReads w c (rows ++ more) scan' (parsed ++ parsedMore) position := by
  have hzip : (rows ++ more).zip (parsed ++ parsedMore) =
      rows.zip parsed ++ more.zip parsedMore :=
    List.zip_append (length_of_mapM_eq_ok h.parses).symm
  refine ⟨fun row hrow => ?_, foldlM_append_eq_ok.mpr ⟨scan, h.scanned, hscan⟩, hconsistent,
    mapM_append_eq_ok.mpr ⟨parsed, parsedMore, h.parses, hparsed, rfl⟩, ?_, fun hrequired => ?_, ?_⟩
  · rcases List.mem_append.mp hrow with hrow | hrow
    · exact h.valid row hrow
    · exact hvalid row hrow
  · rw [admissionPositions_append hadmitted, h.admitted]
  · rw [hzip]
    exact checkRequirementAdjacent_append (h.adjacent (hrequirement ▸ hrequired))
  · rw [hzip, hrequirement]
    exact checkCapacityPlacements_append h.placed (hplaced _ _)

theorem append_neutral (h : CapacityReads w c rows scan parsed position)
    (hvalid : ∀ row ∈ more, validateReadOnlyEventRow w c row = .ok ())
    (hneutral : ∀ row ∈ more, CapacityNeutral w row) :
    ∃ parsed', CapacityReads w c (rows ++ more) scan parsed' position := by
  obtain ⟨parsedMore, hparsed, hadmitted, hentries⟩ := mapM_parsedEvent_neutral hneutral
  exact ⟨_, h.append hvalid (CapacityScan.foldlM_step_neutral hneutral scan) rfl h.consistent
    hparsed hadmitted fun index previous =>
      checkCapacityPlacements_neutral hentries _ _ index previous⟩

end CapacityReads

/-- One row moves the loaded requirement and the scanned one alike. -/
theorem findCapacityRequirement_step {w : Platform} {c : Contracts} {row : EventRow}
    {rows : List EventRow} {event : InternalEvent} {start next : CapacityScan}
    {found : Option ForemanCapacityRequirementV1} (hspells : Spells c row event)
    (hkind : row.kind ≠ .adapterEvent) (hstep : start.step w c row = .ok next)
    (hfound : ((row :: rows).filter fun row =>
        row.kind == .internal || row.kind == .capacityRequirement).foldlM
      (findCapacityRequirement w) (start.requirement.map (·.requirement)) = .ok found) :
    (rows.filter fun row => row.kind == .internal || row.kind == .capacityRequirement).foldlM
      (findCapacityRequirement w) (next.requirement.map (·.requirement)) = .ok found := by
  have hk := hspells.kind
  simp only [CapacityScan.step, beq_eq_false_iff_ne.mpr hkind, Bool.false_eq_true, if_false,
    hspells.read, ok_bind] at hstep
  cases hp : event.payload
  case capacityRequirementAdmitted candidate bytes =>
    rw [hp] at hstep hk
    simp only [bind_eq_ok, Except.ok.injEq] at hstep
    obtain ⟨_, -, _, -, _, -, rfl⟩ := hstep
    rw [List.filter_cons_of_pos (by simp [hk, InternalPayload.rowKind])] at hfound
    obtain ⟨now, hnow, hrest⟩ := foldlM_cons_eq_ok.mp hfound
    simp only [findCapacityRequirement, hspells.read, ok_bind, hp, bind_eq_ok,
      Except.ok.injEq] at hnow
    obtain ⟨_, -, _, -, rfl⟩ := hnow
    exact hrest
  case capacityAdmissionAccepted =>
    rw [hp] at hstep hk
    simp only [bind_eq_ok, Except.ok.injEq] at hstep
    obtain ⟨_, -, _, -, _, -, _, -, _, -, _, -, rfl⟩ := hstep
    rwa [List.filter_cons_of_neg (by simp [hk, InternalPayload.rowKind])] at hfound
  case attemptCreated =>
    rw [hp] at hstep hk
    simp only [bind_eq_ok, Except.ok.injEq] at hstep
    obtain ⟨_, -, rfl⟩ := hstep
    rw [List.filter_cons_of_pos (by simp [hk, InternalPayload.rowKind])] at hfound
    obtain ⟨now, hnow, hrest⟩ := foldlM_cons_eq_ok.mp hfound
    simp only [findCapacityRequirement, hspells.read, ok_bind, hp, Except.ok.injEq] at hnow
    rwa [← hnow] at hrest
  all_goals
    rw [hp] at hstep hk
    obtain rfl := Except.ok.inj hstep
    rw [List.filter_cons, hk] at hfound
    first
      | exact hfound
      | (obtain ⟨now, hnow, hrest⟩ := foldlM_cons_eq_ok.mp hfound
         simp only [findCapacityRequirement, hspells.read, ok_bind, hp, Except.ok.injEq] at hnow
         rwa [← hnow] at hrest)

/-- The capacity requirement a preparation loads is the one the scan retains. -/
theorem loadCapacityRequirement_eq {w : Platform} {c : Contracts} {t : RunTables}
    {scan : CapacityScan} {found : Option ForemanCapacityRequirementV1}
    (hvalid : ∀ row ∈ t.events, validateReadOnlyEventRow w c row = .ok ())
    (hscan : t.events.foldlM (CapacityScan.step w c) CapacityScan.start = .ok scan)
    (hload : loadCapacityRequirement w t = .ok found) :
    found = scan.requirement.map (·.requirement) := by
  unfold loadCapacityRequirement at hload
  have hgen : ∀ (rows : List EventRow) (start scan : CapacityScan)
      (found : Option ForemanCapacityRequirementV1),
      (∀ row ∈ rows, validateReadOnlyEventRow w c row = .ok ()) →
      rows.foldlM (CapacityScan.step w c) start = .ok scan →
      (rows.filter fun row => row.kind == .internal || row.kind == .capacityRequirement).foldlM
        (findCapacityRequirement w) (start.requirement.map (·.requirement)) = .ok found →
      found = scan.requirement.map (·.requirement) := by
    intro rows
    induction rows with
    | nil =>
      intro start scan found _ hscan hfound
      rw [← foldlM_nil_eq_ok.mp hscan, ← foldlM_nil_eq_ok.mp hfound]
    | cons row rows ih =>
      intro start scan found hvalid hscan hfound
      obtain ⟨next, hstep, hrest⟩ := foldlM_cons_eq_ok.mp hscan
      have hrow := hvalid row List.mem_cons_self
      refine ih next scan found (fun r hr => hvalid r (List.mem_cons_of_mem _ hr)) hrest ?_
      by_cases hkind : row.kind = .adapterEvent
      · obtain rfl : start = next := by simpa [CapacityScan.step, hkind] using hstep
        rwa [List.filter_cons_of_neg (by simp [hkind])] at hfound
      · obtain ⟨event, hspells⟩ := validateReadOnlyEventRow_spells hrow hkind
        exact findCapacityRequirement_step hspells hkind hstep hfound
  exact hgen t.events CapacityScan.start scan found hvalid hscan hload

end Nightshift
