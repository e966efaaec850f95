import Nightshift.Bench

/-!
Sealing and the dependency graph. The graph check is compared with what it is
for: every dependency known, none listed twice, and no cycle. It reads the last
work item of each id. Sealing runs the structural checks and leaves the graph
to admission, so a sealed packet is admissible only if its graph is.
-/

namespace Nightshift

open Checked

namespace Packet

/-- The packet `seal` leaves behind: content digest and plan reference set. -/
def sealedForm (w : Platform) (packet : NightshiftPacketV1) : NightshiftPacketV1 :=
  { packet with
    packetDigest := computedDigest w packet
    switchyard := { packet.switchyard with planRef := planRef (computedDigest w packet) } }

def sealed (w : Platform) (packet : NightshiftPacketV1) : Except PacketError NightshiftPacketV1 := do
  let _ ← okOr (stripPrefix "sha256:" (computedDigest w packet)) (.invalidField "packet_digest")
  validateStructure (sealedForm w packet)
  .ok (sealedForm w packet)

/-- `work_items.iter().map(|item| item.id.clone()).collect()` -/
def itemIds (items : List WorkItemV1) : BTreeSet String :=
  Std.ExtTreeSet.ofList (items.map (·.id))

/-- The search of `validate_dag` over the graph of the items. -/
def search (items : List WorkItemV1) : Except Dag.Refusal (Dag.Search String) :=
  Dag.visitAll (edges (graph items)) ((graph items).size + 1) (graph items).keys ⟨∅, ∅⟩

/-- An item of id `a` lists `b` as a dependency. -/
def DependsOn (items : List WorkItemV1) (a b : String) : Prop :=
  ∃ item ∈ items, item.id = a ∧ b ∈ item.dependencies

def Known (items : List WorkItemV1) : Prop :=
  ∀ item ∈ items, ∀ dependency ∈ item.dependencies, dependency ∈ items.map (·.id)

def Acyclic (items : List WorkItemV1) : Prop :=
  ∀ id, ¬Relation.TransGen (DependsOn items) id id

/-- What the dependency check is for. -/
structure Acceptable (items : List WorkItemV1) : Prop where
  known : Known items
  distinct : ∀ item ∈ items, item.dependencies.Nodup
  acyclic : Acyclic items

/-- The work item an id stands for in the graph: the last one that carries it. -/
def entry (items : List WorkItemV1) (id : String) : Option WorkItemV1 :=
  items.reverse.find? fun item => item.id == id

/-- The items the graph keeps. -/
def kept (items : List WorkItemV1) : List WorkItemV1 :=
  items.filter fun item => entry items item.id == some item

theorem entry_id {items : List WorkItemV1} {id : String} {item : WorkItemV1}
    (h : entry items id = some item) : item ∈ items ∧ item.id = id := by
  refine ⟨List.mem_reverse.mp (List.mem_of_find?_eq_some h), ?_⟩
  simpa using List.find?_some h

theorem mem_kept {items : List WorkItemV1} {item : WorkItemV1} :
    item ∈ kept items ↔ entry items item.id = some item := by
  rw [kept, List.mem_filter, beq_iff_eq]
  exact ⟨fun h => h.2, fun h => ⟨(entry_id h).1, h⟩⟩

theorem exists_entry {items : List WorkItemV1} {item : WorkItemV1} (h : item ∈ items) :
    ∃ last, entry items item.id = some last := by
  cases hentry : entry items item.id with
  | some last => exact ⟨last, rfl⟩
  | none =>
    have hnone := List.find?_eq_none.mp hentry item (List.mem_reverse.mpr h)
    simp at hnone

/-- The kept items carry the same ids. -/
theorem map_id_kept {items : List WorkItemV1} {id : String} :
    id ∈ (kept items).map (·.id) ↔ id ∈ items.map (·.id) := by
  constructor
  · intro h
    obtain ⟨item, hitem, rfl⟩ := List.mem_map.mp h
    exact List.mem_map_of_mem (List.mem_filter.mp hitem).1
  · intro h
    obtain ⟨item, hitem, rfl⟩ := List.mem_map.mp h
    obtain ⟨last, hlast⟩ := exists_entry hitem
    have hid := (entry_id hlast).2
    refine List.mem_map.mpr ⟨last, mem_kept.mpr ?_, hid⟩
    rw [hid, hlast]

/-- With distinct ids nothing is shadowed. -/
theorem kept_of_nodup {items : List WorkItemV1} (h : (items.map (·.id)).Nodup) :
    kept items = items := by
  rw [kept, List.filter_eq_self]
  intro item hitem
  obtain ⟨last, hlast⟩ := exists_entry hitem
  obtain ⟨hmem, hid⟩ := entry_id hlast
  have hsame : last = item := List.inj_on_of_nodup_map h hmem hitem hid
  rw [beq_iff_eq, hlast, hsame]

/-- Dropping shadowed items breaks no rule. -/
theorem acceptable_kept {items : List WorkItemV1} (h : Acceptable items) :
    Acceptable (kept items) := by
  have hsub : ∀ item ∈ kept items, item ∈ items := fun _ hitem => (List.mem_filter.mp hitem).1
  refine ⟨fun item hitem dependency hdependency => ?_, fun item hitem => ?_, fun id hid => ?_⟩
  · exact map_id_kept.mpr (h.known item (hsub item hitem) dependency hdependency)
  · exact h.distinct item (hsub item hitem)
  · have hedges : ∀ a b, DependsOn (kept items) a b → DependsOn items a b := by
      rintro a b ⟨item, hitem, hedge⟩
      exact ⟨item, hsub item hitem, hedge⟩
    exact h.acyclic id (Relation.TransGen.mono hedges id id hid)

/-- The graph holds the dependencies of the last item of each id. -/
theorem getElem?_graph_eq (items : List WorkItemV1) (id : String) :
    (graph items)[id]? = (entry items id).map (·.dependencies) := by
  induction items using List.reverseRecOn with
  | nil => simp [graph, entry]
  | append_singleton items item ih =>
    rw [graph, List.foldl_append, List.foldl_cons, List.foldl_nil, BTreeMap.getElem?_insert_eq]
    by_cases hid : item.id = id
    · simp [entry, hid]
    · rw [if_neg hid]
      have hentry : entry (items ++ [item]) id = entry items id := by simp [entry, hid]
      rw [hentry]
      exact ih

theorem mem_edges_graph {items : List WorkItemV1} {a b : String} :
    b ∈ edges (graph items) a ↔ DependsOn (kept items) a b := by
  rw [edges, getElem?_graph_eq]
  constructor
  · intro h
    cases hentry : entry items a with
    | none => simp [hentry] at h
    | some item =>
      have hid := (entry_id hentry).2
      refine ⟨item, mem_kept.mpr (by rw [hid, hentry]), hid, ?_⟩
      simpa [hentry] using h
  · rintro ⟨item, hitem, rfl, hb⟩
    rw [mem_kept.mp hitem]
    exact hb

theorem mem_keys_graph {items : List WorkItemV1} {id : String} :
    id ∈ (graph items).keys ↔ id ∈ items.map (·.id) := by
  rw [BTreeMap.mem_keys_iff]
  constructor
  · rintro ⟨dependencies, h⟩
    obtain ⟨item, hitem, rfl, -⟩ := graph_keys_subset h
    exact List.mem_map_of_mem hitem
  · intro h
    obtain ⟨item, hitem, rfl⟩ := List.mem_map.mp h
    obtain ⟨last, hlast⟩ := exists_entry hitem
    exact ⟨last.dependencies, by rw [getElem?_graph_eq, hlast, Option.map_some]⟩

theorem mem_itemIds {items : List WorkItemV1} {id : String} :
    id ∈ itemIds items ↔ id ∈ items.map (·.id) := by
  rw [itemIds, Std.ExtTreeSet.mem_ofList, List.contains_iff_mem]

theorem validateDependencies_eq_ok {items : List WorkItemV1} {dependencies : List String} :
    validateDependencies (itemIds items) dependencies = .ok () ↔
      dependencies.Nodup ∧ ∀ dependency ∈ dependencies, dependency ∈ items.map (·.id) := by
  simp only [validateDependencies, bind_eq_ok, refuseIf_eq_ok, forEach_eq_ok, bne_eq_false_iff_eq,
    BTreeSet.size_ofList_eq_length, Bool.not_eq_false', Std.ExtTreeSet.contains_iff_mem, mem_itemIds]
  constructor
  · rintro ⟨_, hdistinct, hknown⟩
    exact ⟨hdistinct, hknown⟩
  · rintro ⟨hdistinct, hknown⟩
    exact ⟨(), hdistinct, hknown⟩

/-- The loop over the dependency lists passes exactly when the kept items list
known dependencies, each once. -/
theorem dependencies_pass_iff {items : List WorkItemV1} :
    forEach (BTreeMap.valuesOf (graph items)) (validateDependencies (itemIds items)) = .ok () ↔
      Known (kept items) ∧ ∀ item ∈ kept items, item.dependencies.Nodup := by
  have hvalues : ∀ dependencies, dependencies ∈ BTreeMap.valuesOf (graph items) ↔
      ∃ item ∈ kept items, item.dependencies = dependencies := by
    intro dependencies
    rw [BTreeMap.mem_valuesOf]
    constructor
    · rintro ⟨id, h⟩
      rw [getElem?_graph_eq] at h
      obtain ⟨item, hentry, hdependencies⟩ := Option.map_eq_some_iff.mp h
      exact ⟨item, mem_kept.mpr (by rw [(entry_id hentry).2, hentry]), hdependencies⟩
    · rintro ⟨item, hitem, rfl⟩
      exact ⟨item.id, by rw [getElem?_graph_eq, mem_kept.mp hitem, Option.map_some]⟩
  rw [forEach_eq_ok]
  simp only [hvalues, validateDependencies_eq_ok]
  constructor
  · intro h
    refine ⟨fun item hitem dependency hdependency => ?_, fun item hitem => ?_⟩
    · exact map_id_kept.mpr ((h _ ⟨item, hitem, rfl⟩).2 dependency hdependency)
    · exact (h _ ⟨item, hitem, rfl⟩).1
  · rintro ⟨hknown, hdistinct⟩ dependencies ⟨item, hitem, rfl⟩
    exact ⟨hdistinct item hitem,
      fun dependency hdependency => map_id_kept.mp (hknown item hitem dependency hdependency)⟩

/-- Over known dependencies the search ends by itself. -/
theorem search_ends {items : List WorkItemV1} (hknown : Known (kept items)) :
    search items ≠ .error .exhausted := by
  apply Dag.visitAll_not_exhausted
  · intro id _ dependency hdependency
    obtain ⟨item, hitem, -, hlisted⟩ := mem_edges_graph.mp hdependency
    exact mem_keys_graph.mpr (map_id_kept.mp (hknown item hitem dependency hlisted))
  · rw [Std.ExtTreeMap.length_keys]
    exact Nat.lt_succ_self _

/-- Over known dependencies the search accepts exactly the acyclic graphs. -/
theorem search_accepts_iff {items : List WorkItemV1} (hknown : Known (kept items)) :
    (∃ t, search items = .ok t) ↔ Acyclic (kept items) := by
  have hedge : Dag.Edge (edges (graph items)) = DependsOn (kept items) := by
    funext a b
    exact propext mem_edges_graph
  rw [Acyclic, ← hedge]
  apply Dag.visitAll_accepts_iff
  · intro id dependency hdependency
    obtain ⟨item, hitem, rfl, -⟩ := mem_edges_graph.mp hdependency
    exact mem_keys_graph.mpr (List.mem_map_of_mem (List.mem_filter.mp hitem).1)
  · intro id _ dependency hdependency
    obtain ⟨item, hitem, -, hlisted⟩ := mem_edges_graph.mp hdependency
    exact mem_keys_graph.mpr (map_id_kept.mp (hknown item hitem dependency hlisted))
  · rw [Std.ExtTreeMap.length_keys]
    exact Nat.lt_succ_self _

/-- The graph check judges the items the graph keeps. -/
theorem validateDag_eq_ok {items : List WorkItemV1} :
    validateDag items (itemIds items) = .ok () ↔ Acceptable (kept items) := by
  have hsplit : validateDag items (itemIds items) = .ok () ↔
      forEach (BTreeMap.valuesOf (graph items)) (validateDependencies (itemIds items)) = .ok () ∧
        ∃ t, search items = .ok t := by
    simp only [validateDag, bind_eq_ok, mapErr_eq_ok]
    constructor
    · rintro ⟨_, hloop, t, ht, _⟩
      exact ⟨hloop, t, ht⟩
    · rintro ⟨hloop, t, ht⟩
      exact ⟨(), hloop, t, ht, trivial⟩
  rw [hsplit, dependencies_pass_iff]
  constructor
  · rintro ⟨⟨hknown, hdistinct⟩, hsearch⟩
    exact ⟨hknown, hdistinct, (search_accepts_iff hknown).mp hsearch⟩
  · rintro ⟨hknown, hdistinct, hacyclic⟩
    exact ⟨⟨hknown, hdistinct⟩, (search_accepts_iff hknown).mpr hacyclic⟩

theorem foldlM_insertDependency_nodup {dependencies : List String} {seen seen' : BTreeSet String}
    (h : dependencies.foldlM insertDependency seen = .ok seen') :
    dependencies.Nodup ∧ ∀ dependency ∈ dependencies, dependency ∉ seen := by
  induction dependencies generalizing seen with
  | nil => simp
  | cons dependency rest ih =>
    obtain ⟨next, hinsert, hrest⟩ := foldlM_cons_eq_ok.mp h
    simp only [insertDependency, bind_eq_ok, refuseIf_eq_ok, Bool.or_eq_false_iff] at hinsert
    obtain ⟨_, ⟨-, hfresh⟩, hnext⟩ := hinsert
    obtain rfl := Except.ok.inj hnext
    obtain ⟨hnodup, hout⟩ := ih hrest
    have hrest_out : ∀ other ∈ rest, other ≠ dependency ∧ other ∉ seen := by
      intro other hother
      have hnot := hout other hother
      simp only [Std.ExtTreeSet.mem_insert, not_or] at hnot
      exact ⟨fun he => hnot.1 (by simp [he]), hnot.2⟩
    constructor
    · rw [List.nodup_cons]
      exact ⟨fun hmem => (hrest_out dependency hmem).1 rfl, hnodup⟩
    · intro other hother
      rcases List.mem_cons.mp hother with rfl | hother
      · exact BTreeSet.contains_eq_false.mp hfresh
      · exact (hrest_out other hother).2

theorem validateItem_dependencies {seen seen' : Seen} {item : WorkItemV1}
    (h : validateItem seen item = .ok seen') : item.dependencies.Nodup := by
  simp only [validateItem, bind_eq_ok] at h
  obtain ⟨_, -, _, -, _, -, _, -, _, -, _, -, _, -, _, -, _, -, _, -, _, -, _, -, set, hset, -⟩ := h
  exact (foldlM_insertDependency_nodup hset).1

/-- The structural checks already refuse a dependency listed twice. -/
theorem validateStructure_distinct {packet : NightshiftPacketV1}
    (h : validateStructure packet = .ok ()) :
    ∀ item ∈ packet.workItems, item.dependencies.Nodup := by
  simp only [validateStructure, bind_eq_ok] at h
  obtain ⟨_, -, _, -, _, -, _, -, _, -, _, -, _, -, _, -, _, -, _, -, _, -, _, -, _, -, _, -,
    _, -, _, -, _, -, _, -, _, -, seen, hitems, -⟩ := h
  intro item hitem
  obtain ⟨before, after, hsplit⟩ := List.append_of_mem hitem
  rw [hsplit, foldlM_append_eq_ok] at hitems
  obtain ⟨s, -, hrest⟩ := hitems
  obtain ⟨t, hvalid, -⟩ := foldlM_cons_eq_ok.mp hrest
  exact validateItem_dependencies hvalid

/-- A sealed packet carries the digest it is checked against. -/
theorem computedDigest_sealedForm (w : Platform) (packet : NightshiftPacketV1) :
    computedDigest w (sealedForm w packet) = (sealedForm w packet).packetDigest := rfl

theorem sealed_eq_ok {w : Platform} {packet out : NightshiftPacketV1} :
    sealed w packet = .ok out ↔
      out = sealedForm w packet ∧ validateStructure (sealedForm w packet) = .ok () := by
  constructor
  · intro h
    simp only [sealed, bind_eq_ok] at h
    obtain ⟨_, -, _, hstructure, hout⟩ := h
    exact ⟨(Except.ok.inj hout).symm, hstructure⟩
  · rintro ⟨rfl, hstructure⟩
    have hdigest := hstructure
    simp only [validateStructure, requireDigest, bind_eq_ok, okOr_eq_ok] at hdigest
    obtain ⟨_, -, _, -, _, ⟨hex, hhex, -⟩, -⟩ := hdigest
    have htag : stripPrefix "sha256:" (computedDigest w packet) = some hex := hhex
    simp [sealed, htag, okOr, hstructure]

/-- Of a sealed packet, admission adds the graph check alone. -/
theorem validateIntegrity_sealedForm {w : Platform} {packet : NightshiftPacketV1}
    (h : validateStructure (sealedForm w packet) = .ok ()) :
    validateIntegrity w (sealedForm w packet) = .ok () ↔ Acceptable packet.workItems := by
  have hkept : kept packet.workItems = packet.workItems :=
    kept_of_nodup (@validateStructure_nodup (sealedForm w packet) h)
  have hdag : validateDag packet.workItems (itemIds packet.workItems) = .ok () ↔
      Acceptable packet.workItems := by
    rw [validateDag_eq_ok, hkept]
  rw [← hdag, validateIntegrity, h, computedDigest_sealedForm]
  simp only [bne_self_eq_false, refuseIf, Bool.false_eq_true, ↓reduceIte, ok_bind]
  rfl

/-- Dependency validation does what it is for: the search ends, the check
accepts exactly the acceptable lists, and what is sealed is admissible. -/
structure DependenciesExact (w : Platform) (packet : NightshiftPacketV1) : Prop where
  ends : forEach (BTreeMap.valuesOf (graph packet.workItems))
      (validateDependencies (itemIds packet.workItems)) = .ok () →
    search packet.workItems ≠ .error .exhausted
  accepts : validateDag packet.workItems (itemIds packet.workItems) = .ok () ↔
    Acceptable packet.workItems
  admits : ∀ out, sealed w packet = .ok out → validateIntegrity w out = .ok ()

end Packet

namespace Bench

open Packet

/-- The bench packet with its two items waiting for each other. -/
def cyclicPacket : NightshiftPacketV1 :=
  { packet with
    workItems := [item "a" "FIRST" "first" ["b"], item "b" "SECOND" "second" ["a"]] }

end Bench

end Nightshift
