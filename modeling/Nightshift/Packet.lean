import Nightshift.Platform
import Nightshift.Lib.Dag

/-!
Packet validation: closed structure, content digest, and the dependency graph.
An accepted packet has distinct work-item ids, knows every dependency, and
ranks its items strictly along their dependencies.
-/

namespace Nightshift

open Checked

def nightshiftPacketSchemaV1 : String := "nightshift.orientation-packet/v1"
def exactWorkProposalSchemaV1 : String := "ag.governed-loop.exact-work-proposal/v1"
def nightshiftPacketDigestDomainV1 : String := "nightshift.orientation-packet.digest/v1\x00"
def nightshiftPacketDigestPreimageV1 : String :=
  "domain prefix nightshift.orientation-packet.digest/v1 NUL, then packet object with " ++
    "packet_digest and switchyard.plan_ref omitted as RFC8785-JCS"

namespace Packet

def requireNonempty (field value : String) : Except PacketError Unit :=
  refuseIf (isBlank value) (.invalidField field)

def requireNonemptySlice (field : String) (values : List String) : Except PacketError Unit :=
  refuseIf (values.isEmpty || values.any isBlank) (.invalidField field)

def requireDigest (value : String) : Except PacketError Unit := do
  let hex ← okOr (stripPrefix "sha256:" value) (.invalidField "digest")
  refuseIf (hex.length != 64 || !hex.all isLowerHexdigit) (.invalidField "digest")

def requireCommit (value : String) : Except PacketError Unit :=
  refuseIf (byteLength value != 40 || !(utf8 value).all isLowerHexdigit) (.invalidField "commit")

def validId (value : String) : Bool :=
  !value.isEmpty && byteLength value ≤ 128 &&
    (utf8 value).all fun b => isAsciiAlphanumeric b || isOneOf "-_." b

def validCodename (value : String) : Bool :=
  !value.isEmpty && byteLength value ≤ 80 &&
    (utf8 value).all fun b => isAsciiUppercase b || isAsciiDigit b || isOneOf "-" b

def validSlug (value : String) : Bool :=
  !value.isEmpty && byteLength value ≤ 160 &&
    (utf8 value).all fun b => isAsciiLowercase b || isAsciiDigit b || isOneOf "-" b

def validateSource (source : SourceEvidenceRefV1) : Except PacketError Unit := do
  requireNonempty "source_evidence.repository" source.repository
  requireNonempty "source_evidence.path" source.path
  requireNonempty "source_evidence.predecessor_classification" source.predecessorClassification
  requireCommit source.commit
  requireDigest source.fileDigest

def validateCustody (custody : RepositoryCustodyV1) : Except PacketError Unit := do
  requireNonempty "repository_custody.repository" custody.repository
  requireNonempty "repository_custody.path" custody.path
  requireCommit custody.commit
  match custody.remoteCommit with
  | some remoteCommit => requireCommit remoteCommit
  | none => .ok ()

def validateProposal (proposal : ExactWorkRefV1) : Except PacketError Unit := do
  let validContract :=
    if proposal.contractKind == "exact_work_proposal_v1" then
      proposal.contractSchema == exactWorkProposalSchemaV1
    else if proposal.contractKind == "repository_actual_equivalent" then
      !isBlank proposal.contractSchema
    else false
  refuseIf (!validContract) (.invalidField "exact_work_refs.contract")
  requireNonempty "exact_work_refs.repository" proposal.repository
  requireNonempty "exact_work_refs.path" proposal.path
  requireCommit proposal.commit
  requireDigest proposal.proposalRef

def validatePredecessor (predecessor : PredecessorRefV1) : Except PacketError Unit := do
  requireNonempty "predecessor_lineage.campaign" predecessor.campaign
  requireNonempty "predecessor_lineage.classification" predecessor.classification
  requireCommit predecessor.commit

/-- Valid, pairwise distinct dependencies; the set collects those seen. -/
def insertDependency (seen : BTreeSet String) (dependency : String) :
    Except PacketError (BTreeSet String) := do
  refuseIf (!validId dependency || seen.contains dependency)
    (.invalidField "work_items.dependencies")
  .ok (seen.insert dependency)

/-- The ids and campaigns of the items already validated. -/
structure Seen where
  ids : BTreeSet String
  campaigns : BTreeSet (String × String)

def validateItem (seen : Seen) (item : WorkItemV1) : Except PacketError Seen := do
  refuseIf (!validId item.id || seen.ids.contains item.id) (.invalidField "work_items.id")
  refuseIf (!validCodename item.campaign.codename || !validSlug item.campaign.canonicalSlug ||
      seen.campaigns.contains (item.campaign.codename, item.campaign.canonicalSlug))
    (.invalidField "work_items.campaign")
  requireNonempty "work_items.track" item.track
  requireNonemptySlice "work_items.entry_predicates" item.entryPredicates
  requireNonemptySlice "work_items.allowed_mutation_surfaces" item.allowedMutationSurfaces
  requireNonemptySlice "work_items.forbidden_actions" item.forbiddenActions
  requireNonemptySlice "work_items.acceptance_tests" item.acceptanceTests
  requireNonemptySlice "work_items.stop_conditions" item.stopConditions
  requireNonemptySlice "work_items.expected_receipts" item.expectedReceipts
  requireNonemptySlice "work_items.closeout_requirements" item.closeoutRequirements
  requireNonempty "work_items.model_routing.class" item.modelRouting.class_
  requireNonempty "work_items.model_routing.reason" item.modelRouting.reason
  let _ ← item.dependencies.foldlM insertDependency ∅
  refuseIf (item.modelRouting.maximumMutatingWorkers > 1)
    (.invalidField "work_items.model_routing")
  forEach item.predecessorLineage validatePredecessor
  forEach item.exactWorkRefs validateProposal
  .ok { ids := seen.ids.insert item.id
        campaigns := seen.campaigns.insert
          (item.campaign.codename, item.campaign.canonicalSlug) }

/-- `nightshift-packet://` and the digest without its tag. -/
def planRef (packetDigest : String) : String :=
  "nightshift-packet://" ++ String.ofList (packetDigest.toList.drop 7)

def validateStructure (packet : NightshiftPacketV1) : Except PacketError Unit := do
  refuseIf (packet.schema != nightshiftPacketSchemaV1) .foreignSchema
  refuseIf (!validId packet.packetId) (.invalidField "packet_id")
  requireDigest packet.packetDigest
  refuseIf (packet.canonicalization.algorithm != "RFC8785-JCS" ||
      packet.canonicalization.digestAlgorithm != "SHA-256" ||
      packet.canonicalization.digestPreimage != nightshiftPacketDigestPreimageV1)
    (.invalidField "canonicalization")
  requireNonempty "authoring.agent" packet.authoring.agent
  requireNonempty "authoring.session" packet.authoring.session
  requireNonempty "authoring.authority_basis" packet.authoring.authorityBasis
  refuseIf (packet.createdAt ≥ packet.currentUntil) (.invalidField "currentness interval")
  requireNonemptySlice "global_constraints.allowed_actions" packet.globalConstraints.allowedActions
  requireNonemptySlice "global_constraints.forbidden_actions"
    packet.globalConstraints.forbiddenActions
  requireNonemptySlice "global_constraints.invariants" packet.globalConstraints.invariants
  requireNonemptySlice "human_question_criteria" packet.humanQuestionCriteria
  refuseIf (packet.sourceEvidence.isEmpty || packet.repositoryCustody.isEmpty ||
    packet.workItems.isEmpty) (.invalidField "required collection")
  forEach packet.sourceEvidence validateSource
  forEach packet.repositoryCustody validateCustody
  refuseIf (packet.workerBudget.maximumConcurrentMutatingWorkers == 0 ||
      packet.workerBudget.maximumConcurrentMutatingWorkers > 4 ||
      !packet.workerBudget.recursiveWorkerSwarmsForbidden) (.invalidField "worker_budget")
  requireNonempty "worker_budget.reserve_posture" packet.workerBudget.reservePosture
  requireNonempty "switchyard.alias" packet.switchyard.alias_
  refuseIf (packet.switchyard.planRef != planRef packet.packetDigest ||
      packet.switchyard.transportFields != ["alias", "plan_ref", "nonce"])
    (.invalidField "switchyard")
  let _ ← packet.workItems.foldlM validateItem ⟨∅, ∅⟩
  .ok ()

/-- The dependency graph; a repeated id would keep its last entry. -/
def graph (items : List WorkItemV1) : BTreeMap String (List String) :=
  items.foldl (fun g item => g.insert item.id item.dependencies) ∅

def edges (g : BTreeMap String (List String)) (id : String) : List String := (g[id]?).getD []

def validateDependencies (ids : BTreeSet String) (dependencies : List String) :
    Except PacketError Unit := do
  refuseIf ((Std.ExtTreeSet.ofList dependencies).size != dependencies.length)
    (.invalidField "work_items.dependencies")
  forEach dependencies fun dependency =>
    refuseIf (!ids.contains dependency) (.unknownWorkItem dependency)

/-- `validate_dag`. The source recursion has no fuel; `visitAll_total` shows
that the fuel given here is never exhausted. -/
def validateDag (items : List WorkItemV1) (ids : BTreeSet String) : Except PacketError Unit := do
  let g := graph items
  forEach (BTreeMap.valuesOf g) (validateDependencies ids)
  let _ ← mapErr (fun _ => PacketError.dependencyCycle)
    (Dag.visitAll (edges g) (g.size + 1) g.keys ⟨∅, ∅⟩)
  .ok ()

def computedDigest (w : Platform) (packet : NightshiftPacketV1) : String :=
  w.digestWithout nightshiftPacketDigestDomainV1 "packet_digest"
    (.packet { packet with
      packetDigest := "", switchyard := { packet.switchyard with planRef := "" } })

def validateIntegrity (w : Platform) (packet : NightshiftPacketV1) : Except PacketError Unit := do
  validateStructure packet
  refuseIf (computedDigest w packet != packet.packetDigest) .digestMismatch
  validateDag packet.workItems (Std.ExtTreeSet.ofList (packet.workItems.map (·.id)))

def validateAt (w : Platform) (packet : NightshiftPacketV1) (evaluatedAt : Instant) :
    Except PacketError Unit := do
  validateIntegrity w packet
  refuseIf (evaluatedAt < packet.createdAt || evaluatedAt > packet.currentUntil) .notCurrent

def fromSlice (w : Platform) (bytes : Bytes) : Except PacketError NightshiftPacketV1 :=
  mapErr PacketError.json (w.parsePacket bytes)

theorem validateItem_ok {seen seen' : Seen} {item : WorkItemV1}
    (h : validateItem seen item = .ok seen') :
    item.id ∉ seen.ids ∧ seen'.ids = seen.ids.insert item.id := by
  simp only [validateItem, bind_eq_ok, refuseIf_eq_ok, Bool.or_eq_false_iff] at h
  obtain ⟨_, ⟨-, hfresh⟩, h⟩ := h
  refine ⟨BTreeSet.contains_eq_false.mp hfresh, ?_⟩
  obtain ⟨_, -, _, -, _, -, _, -, _, -, _, -, _, -, _, -, _, -, _, -, _, -, _, -, _, -, _, -,
    _, -, h⟩ := h
  rw [← Except.ok.inj h]

/-- The item loop accepts only distinct ids. -/
theorem foldlM_validateItem_nodup {items : List WorkItemV1} {seen seen' : Seen}
    (h : items.foldlM validateItem seen = .ok seen') :
    (items.map (·.id)).Nodup ∧ ∀ item ∈ items, item.id ∉ seen.ids := by
  induction items generalizing seen with
  | nil => simp
  | cons item rest ih =>
    obtain ⟨next, hitem, hrest⟩ := foldlM_cons_eq_ok.mp h
    obtain ⟨hfresh, hids⟩ := validateItem_ok hitem
    obtain ⟨hnodup, hout⟩ := ih hrest
    have hsplit : ∀ other ∈ rest, other.id ≠ item.id ∧ other.id ∉ seen.ids := by
      intro other hother
      have := hout other hother
      simp only [hids, Std.ExtTreeSet.mem_insert, not_or] at this
      exact ⟨fun he => this.1 (by simp [he]), this.2⟩
    refine ⟨?_, ?_⟩
    · rw [List.map_cons, List.nodup_cons]
      refine ⟨fun hmem => ?_, hnodup⟩
      obtain ⟨other, hother, he⟩ := List.mem_map.mp hmem
      exact (hsplit other hother).1 he
    · rintro other (_ | ⟨_, hother⟩)
      · exact hfresh
      · exact (hsplit other hother).2

theorem validateStructure_nodup {packet : NightshiftPacketV1}
    (h : validateStructure packet = .ok ()) : (packet.workItems.map (·.id)).Nodup := by
  simp only [validateStructure, bind_eq_ok] at h
  obtain ⟨_, -, _, -, _, -, _, -, _, -, _, -, _, -, _, -, _, -, _, -, _, -, _, -, _, -, _, -,
    _, -, _, -, _, -, _, -, _, -, seen, hitems, -⟩ := h
  exact (foldlM_validateItem_nodup hitems).1

theorem getElem?_foldl_graph (items : List WorkItemV1) (g : BTreeMap String (List String))
    (id : String) (hid : id ∉ items.map (·.id)) :
    (items.foldl (fun g item => g.insert item.id item.dependencies) g)[id]? = g[id]? := by
  induction items generalizing g with
  | nil => rfl
  | cons item rest ih =>
    simp only [List.map_cons, List.mem_cons, not_or] at hid
    rw [List.foldl_cons, ih _ hid.2, BTreeMap.getElem?_insert_eq, if_neg (Ne.symm hid.1)]

/-- With distinct ids the graph holds exactly each item's dependencies. -/
theorem getElem?_graph {items : List WorkItemV1} (hnodup : (items.map (·.id)).Nodup)
    {item : WorkItemV1} (hitem : item ∈ items) :
    (graph items)[item.id]? = some item.dependencies := by
  unfold graph
  generalize (∅ : BTreeMap String (List String)) = g
  induction items generalizing g with
  | nil => simp at hitem
  | cons other rest ih =>
    rw [List.map_cons, List.nodup_cons] at hnodup
    rw [List.foldl_cons]
    rcases List.mem_cons.mp hitem with rfl | hrest
    · rw [getElem?_foldl_graph rest _ _ hnodup.1, BTreeMap.getElem?_insert_eq, if_pos rfl]
    · exact ih hnodup.2 hrest _

theorem graph_keys_subset {items : List WorkItemV1} {id : String} {dependencies : List String}
    (h : (graph items)[id]? = some dependencies) :
    ∃ item ∈ items, item.id = id ∧ item.dependencies = dependencies := by
  unfold graph at h
  have hgen : ∀ (rest : List WorkItemV1) (g : BTreeMap String (List String)),
      (rest.foldl (fun g item => g.insert item.id item.dependencies) g)[id]? = some dependencies →
      g[id]? = some dependencies ∨
        ∃ item ∈ rest, item.id = id ∧ item.dependencies = dependencies := by
    intro rest
    induction rest with
    | nil => exact fun g hg => .inl hg
    | cons item rest ih =>
      intro g hg
      rcases ih _ hg with hin | ⟨other, hother, he⟩
      · rw [BTreeMap.getElem?_insert_eq] at hin
        by_cases hid : item.id = id
        · rw [if_pos hid] at hin
          exact .inr ⟨item, List.mem_cons_self, hid, Option.some.inj hin⟩
        · rw [if_neg hid] at hin
          exact .inl hin
      · exact .inr ⟨other, List.mem_cons_of_mem _ hother, he⟩
  rcases hgen items ∅ h with hempty | hitem
  · simp at hempty
  · exact hitem

/-- The two facts about the dependency graph that scheduling rests on. -/
structure WellOrdered (items : List WorkItemV1) : Prop where
  nodup : (items.map (·.id)).Nodup
  known : ∀ item ∈ items, ∀ dependency ∈ item.dependencies, dependency ∈ items.map (·.id)
  ranked : ∃ rank : String → Nat, ∀ item ∈ items, ∀ dependency ∈ item.dependencies,
    rank dependency < rank item.id

theorem validateDependencies_known {ids : BTreeSet String} {dependencies : List String}
    (h : validateDependencies ids dependencies = .ok ()) :
    ∀ dependency ∈ dependencies, dependency ∈ ids := by
  simp only [validateDependencies, bind_eq_ok, refuseIf_eq_ok] at h
  obtain ⟨_, -, hall⟩ := h
  intro dependency hmem
  simpa using forEach_eq_ok.mp hall dependency hmem

/-- An accepted packet is well ordered. -/
theorem validateIntegrity_wellOrdered {w : Platform} {packet : NightshiftPacketV1}
    (h : validateIntegrity w packet = .ok ()) : WellOrdered packet.workItems := by
  simp only [validateIntegrity, bind_eq_ok] at h
  obtain ⟨_, hstructure, _, -, hdag⟩ := h
  have hnodup := validateStructure_nodup hstructure
  simp only [validateDag, bind_eq_ok, mapErr_eq_ok] at hdag
  obtain ⟨_, hdependencies, t, hvisit, -⟩ := hdag
  have hgraph : ∀ item ∈ packet.workItems,
      (graph packet.workItems)[item.id]? = some item.dependencies :=
    fun _ hitem => getElem?_graph hnodup hitem
  refine ⟨hnodup, fun item hitem dependency hdep => ?_, ?_⟩
  · have hvalue := BTreeMap.mem_valuesOf.mpr ⟨item.id, hgraph item hitem⟩
    have := validateDependencies_known (forEach_eq_ok.mp hdependencies _ hvalue) dependency hdep
    simpa [Std.ExtTreeSet.mem_ofList] using this
  · obtain ⟨rank, hrank⟩ := Dag.visitAll_ranked hvisit
    refine ⟨rank, fun item hitem dependency hdep => ?_⟩
    refine hrank item.id (BTreeMap.mem_keys_iff.mpr ⟨_, hgraph item hitem⟩) dependency ?_
    simpa [edges, hgraph item hitem] using hdep

/-- Once every dependency is known, the search of `validateDag` is not cut
short by its fuel: it ends by itself, in acceptance or in a cycle. -/
theorem visitAll_total {items : List WorkItemV1}
    (hknown : ∀ item ∈ items, ∀ dependency ∈ item.dependencies, dependency ∈ items.map (·.id))
    (hnodup : (items.map (·.id)).Nodup) :
    Dag.visitAll (edges (graph items)) ((graph items).size + 1) (graph items).keys ⟨∅, ∅⟩ ≠
      .error .exhausted := by
  have hclosed : ∀ x ∈ (graph items).keys, ∀ y ∈ edges (graph items) x,
      y ∈ (graph items).keys := by
    intro x hx y hy
    obtain ⟨dependencies, hx⟩ := BTreeMap.mem_keys_iff.mp hx
    obtain ⟨item, hitem, rfl, rfl⟩ := graph_keys_subset hx
    have hy' : y ∈ item.dependencies := by simpa [edges, hx] using hy
    obtain ⟨other, hother, rfl⟩ := List.mem_map.mp (hknown item hitem y hy')
    exact BTreeMap.mem_keys_iff.mpr ⟨_, getElem?_graph hnodup hother⟩
  have hfuel : ∀ s : Dag.Search String, ((graph items).keys.filter
      (fun x => !s.visiting.contains x)).length < (graph items).size + 1 := by
    intro s
    have := List.length_filter_le (fun x => !s.visiting.contains x) (graph items).keys
    rw [Std.ExtTreeMap.length_keys] at this
    omega
  have hfold : ∀ (nodes : List String) (s : Dag.Search String),
      (∀ x ∈ nodes, x ∈ (graph items).keys) →
      Dag.visitAll (edges (graph items)) ((graph items).size + 1) nodes s ≠
        .error .exhausted := by
    intro nodes
    induction nodes with
    | nil => intro s _; simp [Dag.visitAll, pure, Except.pure]
    | cons node rest ih =>
      intro s hmem
      rw [Dag.visitAll, List.foldlM_cons]
      have hnode := Dag.visit_not_exhausted hclosed (hmem node List.mem_cons_self) (hfuel s)
      cases hv : Dag.visit (edges (graph items)) ((graph items).size + 1) node s with
      | error e => simpa [hv] using hnode
      | ok t => exact ih t fun x hx => hmem x (List.mem_cons_of_mem _ hx)
  exact hfold _ _ fun _ hx => hx

end Packet

end Nightshift
