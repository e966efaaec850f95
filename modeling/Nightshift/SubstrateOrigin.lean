import Nightshift.CanonicalStore
import Nightshift.Lib.Succession

/-!
# The substrate-origin head

Which verdict histories `unique_substrate_origin_head` accepts. Its counts leave
one line of verdicts from a root to the head, and any number of predecessor
cycles beside it.
-/

namespace Nightshift.Canonical

open Checked

/-- The identity that a verdict names as its predecessor. -/
def predecessorOf (nodes : BTreeMap String SubstrateOriginApplicabilityV1) (id : String) :
    Option String :=
  nodes[id]?.bind (·.predecessorApplicabilityId)

/-- The later verdict names the identity and the observed coordinate of the earlier one. -/
def Precedes (nodes : BTreeMap String SubstrateOriginApplicabilityV1) (earlier later : String) :
    Prop :=
  ∃ previous verdict, nodes[earlier]? = some previous ∧ nodes[later]? = some verdict ∧
    verdict.predecessorApplicabilityId = some earlier ∧
    verdict.predecessorCoordinateRef = some previous.observedCoordinateRef

/-- Verdicts listed from one without a predecessor, each naming the one before it. -/
structure OriginLine (nodes : BTreeMap String SubstrateOriginApplicabilityV1)
    (ids : List String) : Prop where
  known : ∀ id ∈ ids, id ∈ nodes
  distinct : ids.Nodup
  root : ∀ id ∈ ids.head?, predecessorOf nodes id = none
  linked : ids.IsChain (Precedes nodes)

/-- All verdicts are listed in one line that ends in the head. -/
def LinearChain (nodes : BTreeMap String SubstrateOriginApplicabilityV1)
    (head : SubstrateOriginApplicabilityV1) : Prop :=
  ∃ ids, OriginLine nodes ids ∧ (∀ id ∈ nodes, id ∈ ids) ∧
    ∃ last ∈ ids.getLast?, nodes[last]? = some head

/-- A line of verdicts with one predecessor cycle at least beside it, and nothing else. -/
def LineBesideCycles (nodes : BTreeMap String SubstrateOriginApplicabilityV1) : Prop :=
  ∃ ids, ids ≠ [] ∧ OriginLine nodes ids ∧ (∃ id ∈ nodes, id ∉ ids) ∧
    ∀ id ∈ nodes, id ∉ ids → Relation.TransGen (Precedes nodes) id id

section

variable {nodes : BTreeMap String SubstrateOriginApplicabilityV1}

theorem predecessorOf_eq_some {id p : String} : predecessorOf nodes id = some p ↔
    ∃ verdict, nodes[id]? = some verdict ∧ verdict.predecessorApplicabilityId = some p := by
  simp [predecessorOf, Option.bind_eq_some_iff]

theorem Precedes.predecessorOf {earlier later : String} (h : Precedes nodes earlier later) :
    predecessorOf nodes later = some earlier := by
  obtain ⟨_, verdict, -, hverdict, hnames, -⟩ := h
  exact predecessorOf_eq_some.mpr ⟨verdict, hverdict, hnames⟩

/-! ## One pass over the references -/

/-- One verdict against the references taken before it. -/
def referStep (nodes : BTreeMap String SubstrateOriginApplicabilityV1)
    (referenced : BTreeSet String) (verdict : SubstrateOriginApplicabilityV1) :
    Except CanonicalStoreError (BTreeSet String) :=
  match verdict.predecessorApplicabilityId with
  | none => .ok referenced
  | some predecessorId => do
    let previous ← okOr nodes[predecessorId]?
      (.invalid "substrate-origin chain references unknown predecessor verdict")
    refuseIf (verdict.predecessorCoordinateRef != some previous.observedCoordinateRef)
      (.invalid "substrate-origin chain substitutes predecessor coordinate")
    refuseIf (referenced.contains predecessorId)
      (.invalid "substrate-origin history forks from one predecessor")
    .ok (referenced.insert predecessorId)

theorem referencedPredecessors_eq :
    referencedPredecessors nodes = (BTreeMap.valuesOf nodes).foldlM (referStep nodes) ∅ := rfl

/-- The verdict's reference, if any, is known and binds the observed coordinate. -/
def ReferenceBound (nodes : BTreeMap String SubstrateOriginApplicabilityV1)
    (verdict : SubstrateOriginApplicabilityV1) : Prop :=
  ∀ p, verdict.predecessorApplicabilityId = some p → ∃ previous, nodes[p]? = some previous ∧
    verdict.predecessorCoordinateRef = some previous.observedCoordinateRef

theorem referStep_eq_ok {referenced next : BTreeSet String}
    {verdict : SubstrateOriginApplicabilityV1} :
    referStep nodes referenced verdict = .ok next ↔ ReferenceBound nodes verdict ∧
      (∀ p, verdict.predecessorApplicabilityId = some p → p ∉ referenced) ∧
      next = verdict.predecessorApplicabilityId.elim referenced referenced.insert := by
  unfold referStep ReferenceBound
  cases verdict.predecessorApplicabilityId with
  | none => simp [eq_comm]
  | some p =>
    simp only [bind_eq_ok, okOr_eq_ok, refuseIf_eq_ok, bne_eq_false_iff_eq,
      BTreeSet.contains_eq_false, Except.ok.injEq, Option.some.injEq, forall_eq', Option.elim_some]
    constructor
    · rintro ⟨previous, hprevious, _, hcoordinate, _, hfresh, rfl⟩
      exact ⟨⟨previous, hprevious, hcoordinate⟩, hfresh, rfl⟩
    · rintro ⟨⟨previous, hprevious, hcoordinate⟩, hfresh, rfl⟩
      exact ⟨previous, hprevious, (), hcoordinate, (), hfresh, rfl⟩

/-- A pass over verdicts takes every reference once. -/
theorem foldlM_referStep_eq_ok {verdicts : List SubstrateOriginApplicabilityV1}
    {referenced : BTreeSet String} :
    (∃ final, verdicts.foldlM (referStep nodes) referenced = .ok final) ↔
      (∀ verdict ∈ verdicts, ReferenceBound nodes verdict) ∧
      (verdicts.filterMap (·.predecessorApplicabilityId)).Nodup ∧
      ∀ p ∈ verdicts.filterMap (·.predecessorApplicabilityId), p ∉ referenced := by
  induction verdicts generalizing referenced with
  | nil => simp
  | cons verdict rest ih =>
    have hstep : (∃ final, (verdict :: rest).foldlM (referStep nodes) referenced = .ok final) ↔
        ReferenceBound nodes verdict ∧
        (∀ p, verdict.predecessorApplicabilityId = some p → p ∉ referenced) ∧
        ∃ final, rest.foldlM (referStep nodes)
          (verdict.predecessorApplicabilityId.elim referenced referenced.insert) = .ok final := by
      simp only [foldlM_cons_eq_ok, referStep_eq_ok]
      constructor
      · rintro ⟨final, _, ⟨hbound, hfresh, rfl⟩, hrest⟩
        exact ⟨hbound, hfresh, final, hrest⟩
      · rintro ⟨hbound, hfresh, final, hrest⟩
        exact ⟨final, _, ⟨hbound, hfresh, rfl⟩, hrest⟩
    rw [hstep, ih, List.forall_mem_cons]
    cases hnames : verdict.predecessorApplicabilityId with
    | none => simp [hnames, and_assoc]
    | some p =>
      rw [List.filterMap_cons_some hnames, List.nodup_cons, List.forall_mem_cons]
      simp only [Option.some.injEq, forall_eq', Option.elim_some, Std.ExtTreeSet.mem_insert,
        Std.LawfulEqOrd.compare_eq_iff_eq, not_or]
      constructor
      · rintro ⟨hbound, hfresh, hbounds, hnodup, hapart⟩
        exact ⟨⟨hbound, hbounds⟩, ⟨fun hp => (hapart p hp).1 rfl, hnodup⟩, hfresh,
          fun q hq => (hapart q hq).2⟩
      · rintro ⟨⟨hbound, hbounds⟩, ⟨hp, hnodup⟩, hfresh, hapart⟩
        exact ⟨hbound, hfresh, hbounds, hnodup, fun q hq =>
          ⟨fun heq => hp (heq ▸ hq), hapart q hq⟩⟩

/-- What a pass has taken. -/
theorem mem_foldlM_referStep {verdicts : List SubstrateOriginApplicabilityV1}
    {referenced final : BTreeSet String}
    (h : verdicts.foldlM (referStep nodes) referenced = .ok final) {p : String} :
    p ∈ final ↔ p ∈ referenced ∨ p ∈ verdicts.filterMap (·.predecessorApplicabilityId) := by
  induction verdicts generalizing referenced with
  | nil =>
    rw [foldlM_nil_eq_ok] at h
    simp [h]
  | cons verdict rest ih =>
    obtain ⟨next, hnext, hrest⟩ := foldlM_cons_eq_ok.mp h
    obtain ⟨-, -, rfl⟩ := referStep_eq_ok.mp hnext
    rw [ih hrest]
    cases hnames : verdict.predecessorApplicabilityId with
    | none => simp [hnames]
    | some q =>
      rw [List.filterMap_cons_some hnames, Option.elim_some, Std.ExtTreeSet.mem_insert,
        Std.LawfulEqOrd.compare_eq_iff_eq, List.mem_cons, or_assoc, or_left_comm, eq_comm]

/-! ## The nodes as a succession -/

/-- The identities of the nodes. -/
def members (nodes : BTreeMap String SubstrateOriginApplicabilityV1) : Finset String :=
  nodes.keys.toFinset

@[simp] theorem mem_members {id : String} : id ∈ members nodes ↔ id ∈ nodes := by
  simp [members, Std.ExtTreeMap.mem_keys]

theorem mem_filterMap_valuesOf {p : String} :
    p ∈ (BTreeMap.valuesOf nodes).filterMap (·.predecessorApplicabilityId) ↔
      Succession.Named (members nodes) (predecessorOf nodes) p := by
  simp only [List.mem_filterMap, BTreeMap.mem_valuesOf, Succession.Named, predecessorOf_eq_some,
    mem_members]
  constructor
  · rintro ⟨verdict, ⟨id, hid⟩, hnames⟩
    exact ⟨id, Std.ExtTreeMap.mem_iff_isSome_getElem?.mpr (by simp [hid]), verdict, hid, hnames⟩
  · rintro ⟨id, -, verdict, hid, hnames⟩
    exact ⟨verdict, ⟨id, hid⟩, hnames⟩

/-- Every reference is known and binds the coordinate it names. -/
def ReferencesBound (nodes : BTreeMap String SubstrateOriginApplicabilityV1) : Prop :=
  ∀ (id : String) verdict, nodes[id]? = some verdict → ReferenceBound nodes verdict

/-- Bound references are links. -/
theorem ReferencesBound.precedes (h : ReferencesBound nodes) {earlier later : String}
    (hnames : predecessorOf nodes later = some earlier) : Precedes nodes earlier later := by
  obtain ⟨verdict, hverdict, hnames⟩ := predecessorOf_eq_some.mp hnames
  obtain ⟨previous, hprevious, hcoordinate⟩ := h later verdict hverdict earlier hnames
  exact ⟨previous, verdict, hprevious, hverdict, hnames, hcoordinate⟩

/-- No reference is taken twice exactly when no two nodes name the same. -/
theorem nodup_references_iff :
    ((BTreeMap.valuesOf nodes).filterMap (·.predecessorApplicabilityId)).Nodup ↔
      ∀ a b p, predecessorOf nodes a = some p → predecessorOf nodes b = some p → a = b := by
  rw [BTreeMap.valuesOf, List.filterMap_map, List.nodup_iff_pairwise_ne, List.pairwise_filterMap]
  simp only [Function.comp_apply]
  constructor
  · intro hpairwise a b p ha hb
    obtain ⟨verdict, hverdict, hnames⟩ := predecessorOf_eq_some.mp ha
    obtain ⟨other, hother, hnames'⟩ := predecessorOf_eq_some.mp hb
    by_contra hne
    have hsymm : Std.Symm fun x y : String × SubstrateOriginApplicabilityV1 =>
        ∀ q, x.2.predecessorApplicabilityId = some q →
          ∀ q', y.2.predecessorApplicabilityId = some q' → q ≠ q' :=
      ⟨fun _ _ h q hq q' hq' => (h q' hq' q hq).symm⟩
    exact hpairwise.forall (Std.ExtTreeMap.mem_toList_iff_getElem?_eq_some.mpr hverdict)
      (Std.ExtTreeMap.mem_toList_iff_getElem?_eq_some.mpr hother)
      (fun heq => hne (congrArg Prod.fst heq)) p hnames p hnames' rfl
  · intro hsingle
    have hkeys := List.pairwise_map.mp
      (List.nodup_iff_pairwise_ne.mp (BTreeMap.nodup_keys_toList (m := nodes)))
    refine hkeys.imp_of_mem ?_
    rintro ⟨a, verdict⟩ ⟨b, other⟩ ha hb hne p hp _ hp' rfl
    exact hne (hsingle a b p
      (predecessorOf_eq_some.mpr ⟨verdict, Std.ExtTreeMap.mem_toList_iff_getElem?_eq_some.mp ha, hp⟩)
      (predecessorOf_eq_some.mpr ⟨other, Std.ExtTreeMap.mem_toList_iff_getElem?_eq_some.mp hb, hp'⟩))

/-- A pass over the nodes succeeds exactly on bound and unforked references. -/
theorem referencedPredecessors_eq_ok :
    (∃ referenced, referencedPredecessors nodes = .ok referenced) ↔
      ReferencesBound nodes ∧ Succession.Unforked (members nodes) (predecessorOf nodes) := by
  rw [referencedPredecessors_eq, foldlM_referStep_eq_ok, nodup_references_iff]
  have hbound : (∀ verdict ∈ BTreeMap.valuesOf nodes, ReferenceBound nodes verdict) ↔
      ReferencesBound nodes := by
    simp only [BTreeMap.mem_valuesOf, ReferencesBound]
    exact ⟨fun h id verdict hid => h verdict ⟨id, hid⟩, fun h verdict ⟨id, hid⟩ => h id verdict hid⟩
  rw [hbound]
  constructor
  · rintro ⟨hall, hsingle, -⟩
    refine ⟨hall, ⟨?_, fun a _ b _ p => hsingle a b p⟩⟩
    intro a _ p hp
    obtain ⟨previous, -, hprevious, -⟩ := hall.precedes hp
    exact mem_members.mpr (Std.ExtTreeMap.mem_iff_isSome_getElem?.mpr (by simp [hprevious]))
  · rintro ⟨hall, hunforked⟩
    have hmember : ∀ a p, predecessorOf nodes a = some p → a ∈ members nodes := by
      intro a p hp
      obtain ⟨verdict, hverdict, -⟩ := predecessorOf_eq_some.mp hp
      exact mem_members.mpr (Std.ExtTreeMap.mem_iff_isSome_getElem?.mpr (by simp [hverdict]))
    refine ⟨hall, ?_, by simp⟩
    exact fun a b p ha hb => hunforked.single a (hmember a p ha) b (hmember b p hb) p ha hb

theorem mem_referencedPredecessors {referenced : BTreeSet String}
    (h : referencedPredecessors nodes = .ok referenced) {p : String} :
    p ∈ referenced ↔ Succession.Named (members nodes) (predecessorOf nodes) p := by
  rw [referencedPredecessors_eq] at h
  rw [mem_foldlM_referStep h, mem_filterMap_valuesOf]
  simp

/-- One unreferenced node is one node that none names. -/
theorem heads_eq_singleton {referenced : BTreeSet String}
    (h : referencedPredecessors nodes = .ok referenced) {last : String}
    {head : SubstrateOriginApplicabilityV1} :
    nodes.toList.filter (fun node => !referenced.contains node.1) = [(last, head)] ↔
      nodes[last]? = some head ∧ ∀ id ∈ members nodes,
        ¬ Succession.Named (members nodes) (predecessorOf nodes) id ↔ id = last := by
  have hreferenced (id : String) : (!referenced.contains id) = true ↔
      ¬ Succession.Named (members nodes) (predecessorOf nodes) id := by
    rw [Bool.not_eq_true', BTreeSet.contains_eq_false, mem_referencedPredecessors h]
  simp only [BTreeMap.filter_toList_eq_singleton, hreferenced]
  constructor
  · rintro ⟨hhead, hunnamed, honly⟩
    refine ⟨hhead, ?_⟩
    intro id hid
    obtain ⟨verdict, hverdict⟩ := Option.isSome_iff_exists.mp
      (Std.ExtTreeMap.mem_iff_isSome_getElem?.mp (mem_members.mp hid))
    exact ⟨honly id verdict hverdict, fun heq => heq ▸ hunnamed⟩
  · rintro ⟨hhead, honly⟩
    have hmember (id : String) (verdict : SubstrateOriginApplicabilityV1)
        (hid : nodes[id]? = some verdict) : id ∈ members nodes :=
      mem_members.mpr (Std.ExtTreeMap.mem_iff_isSome_getElem?.mpr (by simp [hid]))
    exact ⟨hhead, (honly last (hmember last head hhead)).mpr rfl,
      fun id verdict hid => (honly id (hmember id verdict hid)).mp⟩

theorem mem_of_getElem? {id : String} {verdict : SubstrateOriginApplicabilityV1}
    (h : nodes[id]? = some verdict) : id ∈ members nodes :=
  mem_members.mpr (Std.ExtTreeMap.mem_iff_isSome_getElem?.mpr (by simp [h]))

theorem exists_getElem?_of_mem {id : String} (h : id ∈ members nodes) :
    ∃ verdict, nodes[id]? = some verdict :=
  Option.isSome_iff_exists.mp (Std.ExtTreeMap.mem_iff_isSome_getElem?.mp (mem_members.mp h))

/-- One root is one node that names none. -/
theorem roots_eq_one : (BTreeMap.valuesOf nodes).countP (·.predecessorApplicabilityId.isNone) = 1 ↔
    ∃ root ∈ members nodes, predecessorOf nodes root = none ∧
      ∀ id ∈ members nodes, predecessorOf nodes id = none → id = root := by
  have hnone {id : String} {verdict : SubstrateOriginApplicabilityV1}
      (hid : nodes[id]? = some verdict) :
      verdict.predecessorApplicabilityId.isNone = true ↔ predecessorOf nodes id = none := by
    simp [predecessorOf, hid]
  rw [BTreeMap.valuesOf, List.countP_map, List.countP_eq_length_filter, List.length_eq_one_iff]
  constructor
  · rintro ⟨⟨root, verdict⟩, hroots⟩
    obtain ⟨hroot, hroot_none, honly⟩ := BTreeMap.filter_toList_eq_singleton.mp hroots
    refine ⟨root, mem_of_getElem? hroot, (hnone hroot).mp hroot_none, ?_⟩
    intro id hid hid_none
    obtain ⟨other, hother⟩ := exists_getElem?_of_mem hid
    exact honly id other hother ((hnone hother).mpr hid_none)
  · rintro ⟨root, hmem, hroot_none, honly⟩
    obtain ⟨verdict, hroot⟩ := exists_getElem?_of_mem hmem
    refine ⟨(root, verdict), BTreeMap.filter_toList_eq_singleton.mpr
      ⟨hroot, (hnone hroot).mpr hroot_none, ?_⟩⟩
    exact fun id other hother hother_none =>
      honly id (mem_of_getElem? hother) ((hnone hother).mp hother_none)

/-- The references leave one node over when one node is unreferenced. -/
theorem size_referenced {referenced : BTreeSet String}
    (h : referencedPredecessors nodes = .ok referenced)
    {node : String × SubstrateOriginApplicabilityV1}
    (hheads : nodes.toList.filter (fun node => !referenced.contains node.1) = [node]) :
    referenced.size + 1 = nodes.size := by
  have hunforked := (referencedPredecessors_eq_ok.mp ⟨referenced, h⟩).2
  have hkeys : ((nodes.toList.filter fun node => referenced.contains node.1).map Prod.fst).Nodup :=
    (List.filter_sublist.map Prod.fst).nodup BTreeMap.nodup_keys_toList
  have hreferences : referenced.toList.Nodup := by
    rw [List.nodup_iff_pairwise_ne]
    refine Std.ExtTreeSet.distinct_toList.imp ?_
    intro a b hab heq
    exact hab (by rw [heq, Std.LawfulEqOrd.compare_eq_iff_eq])
  have hperm : referenced.toList.Perm
      ((nodes.toList.filter fun node => referenced.contains node.1).map Prod.fst) := by
    rw [List.perm_ext_iff_of_nodup hreferences hkeys]
    intro id
    simp only [Std.ExtTreeSet.mem_toList, List.mem_map, List.mem_filter,
      Std.ExtTreeSet.contains_iff_mem]
    constructor
    · intro hid
      obtain ⟨b, hb, hnames⟩ := (mem_referencedPredecessors h).mp hid
      obtain ⟨verdict, hverdict⟩ := exists_getElem?_of_mem (hunforked.closed b hb id hnames)
      exact ⟨(id, verdict),
        ⟨Std.ExtTreeMap.mem_toList_iff_getElem?_eq_some.mpr hverdict, hid⟩, rfl⟩
    · rintro ⟨⟨a, verdict⟩, ⟨-, ha⟩, rfl⟩
      exact ha
  have hsplit := List.length_eq_length_filter_add (l := nodes.toList)
    fun node => referenced.contains node.1
  have hlength := hperm.length_eq
  rw [List.length_map, Std.ExtTreeSet.length_toList] at hlength
  rw [hheads, List.length_singleton, Std.ExtTreeMap.length_toList, ← hlength] at hsplit
  exact hsplit.symm

/-- The accepted nodes: a line of bound references up to the head, and cycles beside it. -/
theorem uniqueSubstrateOriginHead_eq_ok {head : SubstrateOriginApplicabilityV1} :
    uniqueSubstrateOriginHead nodes = .ok head ↔ ReferencesBound nodes ∧ ∃ ids last,
      Succession.Laid (members nodes) (predecessorOf nodes) ids last ∧
        nodes[last]? = some head := by
  constructor
  · intro h
    simp only [uniqueSubstrateOriginHead, bind_eq_ok] at h
    obtain ⟨referenced, hreferenced, h⟩ := h
    split at h
    case h_2 => cases h
    case h_1 node hheads =>
    obtain ⟨last, found⟩ := node
    simp only [bind_eq_ok, refuseIf_eq_ok, Bool.or_eq_false_iff, bne_eq_false_iff_eq,
      Except.ok.injEq] at h
    obtain ⟨_, ⟨hroots, -⟩, rfl⟩ := h
    obtain ⟨hbound, hunforked⟩ := referencedPredecessors_eq_ok.mp ⟨referenced, hreferenced⟩
    obtain ⟨root, hmem, hroot_none, hroot⟩ := roots_eq_one.mp hroots
    obtain ⟨hhead, honly⟩ := (heads_eq_singleton hreferenced).mp hheads
    obtain ⟨ids, hlaid⟩ := hunforked.laid hmem hroot_none hroot
      fun id hid hunnamed => (honly id hid).mp hunnamed
    exact ⟨hbound, ids, last, hlaid, hhead⟩
  · rintro ⟨hbound, ids, last, hlaid, hhead⟩
    obtain ⟨referenced, hreferenced⟩ := referencedPredecessors_eq_ok.mpr ⟨hbound, hlaid.unforked⟩
    have hheads := (heads_eq_singleton hreferenced).mpr
      ⟨hhead, fun id hid => hlaid.unnamed_iff hid⟩
    have hroots := roots_eq_one.mpr hlaid.root
    have hsize := size_referenced hreferenced hheads
    simp [uniqueSubstrateOriginHead, hreferenced, hheads, hroots, hsize]

/-! ## Lines and cycles of verdicts -/

variable {ids : List String}

theorem OriginLine.line (h : OriginLine nodes ids) :
    Succession.Line (members nodes) (predecessorOf nodes) ids :=
  ⟨fun id hid => mem_members.mpr (h.known id hid), h.distinct, h.root,
    h.linked.imp fun _ _ => Precedes.predecessorOf⟩

theorem OriginLine.of_line (hbound : ReferencesBound nodes)
    (h : Succession.Line (members nodes) (predecessorOf nodes) ids) : OriginLine nodes ids :=
  ⟨fun id hid => mem_members.mp (h.members id hid), h.distinct, h.root,
    h.linked.imp fun _ _ => hbound.precedes⟩

theorem Precedes.bound {earlier later : String} (h : Precedes nodes earlier later)
    {verdict : SubstrateOriginApplicabilityV1} (hverdict : nodes[later]? = some verdict) :
    ReferenceBound nodes verdict := by
  obtain ⟨previous, other, hprevious, hother, hnames, hcoordinate⟩ := h
  rw [hverdict] at hother
  cases hother
  intro p hp
  rw [hnames] at hp
  cases hp
  exact ⟨previous, hprevious, hcoordinate⟩

/-- The verdicts of a line are bound. -/
theorem OriginLine.bound (h : OriginLine nodes ids) {id : String} (hid : id ∈ ids)
    {verdict : SubstrateOriginApplicabilityV1} (hverdict : nodes[id]? = some verdict) :
    ReferenceBound nodes verdict := by
  obtain ⟨i, hi⟩ := List.getElem?_of_mem hid
  cases i with
  | zero =>
    have hroot := h.root id (by rw [List.head?_eq_getElem?, hi]; rfl)
    intro p hp
    simp [predecessorOf, hverdict, hp] at hroot
  | succ i =>
    obtain ⟨hlt, hi⟩ := List.getElem?_eq_some_iff.mp hi
    have hlink := List.isChain_iff_getElem.mp h.linked i hlt
    rw [hi] at hlink
    exact hlink.bound hverdict

theorem onCycle_of_transGen {id : String} (h : Relation.TransGen (Precedes nodes) id id) :
    Succession.OnCycle (predecessorOf nodes) id :=
  Relation.TransGen.mono (fun _ _ => Precedes.predecessorOf) _ _ h

/-- A line of bound verdicts with cycles beside it is laid out as accepted. -/
theorem OriginLine.accepted (h : OriginLine nodes ids) (hne : ids ≠ [])
    (hbeside : ∀ id ∈ nodes, id ∉ ids → Relation.TransGen (Precedes nodes) id id) :
    ∃ last head, last ∈ ids.getLast? ∧ nodes[last]? = some head ∧
      uniqueSubstrateOriginHead nodes = .ok head := by
  have hlast : ids.getLast? = some (ids.getLast hne) := List.getLast?_eq_some_getLast hne
  obtain ⟨head, hhead⟩ := exists_getElem?_of_mem
    (mem_members.mpr (h.known _ (List.getLast_mem hne)))
  refine ⟨_, head, hlast, hhead, uniqueSubstrateOriginHead_eq_ok.mpr ⟨?_, ids, _, ?_, hhead⟩⟩
  · intro id verdict hverdict
    by_cases hid : id ∈ ids
    · exact h.bound hid hverdict
    · have hcycle := hbeside id (mem_members.mp (mem_of_getElem? hverdict)) hid
      obtain ⟨p, -, hp⟩ := Relation.TransGen.tail'_iff.mp hcycle
      exact hp.bound hverdict
  · refine ⟨h.line, hlast, ?_⟩
    intro id hid hout
    have hcycle := hbeside id (mem_members.mp hid) hout
    obtain ⟨p, -, hp⟩ := Relation.TransGen.tail'_iff.mp hcycle
    have hnames := hp.predecessorOf
    obtain ⟨previous, _, hprevious, -⟩ := hp
    exact ⟨onCycle_of_transGen hcycle, p, mem_of_getElem? hprevious, hnames⟩

end

/-- The head is the end of the one line of all verdicts, unless predecessor cycles
stand beside a line: those are accepted with it. -/
theorem uniqueSubstrateOriginHead_linear_iff
    (nodes : BTreeMap String SubstrateOriginApplicabilityV1) :
    (∀ head, uniqueSubstrateOriginHead nodes = .ok head ↔ LinearChain nodes head) ↔
      ¬ LineBesideCycles nodes := by
  constructor
  · rintro hlinear ⟨ids, hne, hline, ⟨id, hid, hout⟩, hbeside⟩
    obtain ⟨_, head, -, -, haccepted⟩ := hline.accepted hne hbeside
    obtain ⟨all, hall, hcovers, -⟩ := (hlinear head).mp haccepted
    exact hall.line.not_onCycle id (hcovers id hid) (onCycle_of_transGen (hbeside id hid hout))
  · intro hcycles head
    constructor
    · intro h
      obtain ⟨hbound, ids, last, hlaid, hhead⟩ := uniqueSubstrateOriginHead_eq_ok.mp h
      refine ⟨ids, .of_line hbound hlaid.line, ?_, last, hlaid.end_, hhead⟩
      intro id hid
      by_contra hout
      refine hcycles ⟨ids, ?_, .of_line hbound hlaid.line, ⟨id, hid, hout⟩, ?_⟩
      · rintro rfl
        cases hlaid.end_
      · intro other hother hother_out
        have hcycle := (hlaid.beside other (mem_members.mpr hother) hother_out).1
        exact Relation.TransGen.mono (fun _ _ => hbound.precedes) _ _ hcycle
    · rintro ⟨ids, hline, hcovers, last, hlast, hhead⟩
      have hne : ids ≠ [] := by
        rintro rfl
        cases hlast
      obtain ⟨other, found, hother, hfound, haccepted⟩ :=
        hline.accepted hne fun id hid hout => absurd (hcovers id hid) hout
      rw [Option.mem_unique hother hlast] at hfound
      rw [hfound] at hhead
      cases hhead
      exact haccepted

namespace Bench

/-- A verdict on the bench subject that was observed at the coordinate of its own name. -/
def originVerdict (id : String) (predecessor : Option String) : SubstrateOriginApplicabilityV1 where
  schema := "bench"
  applicabilityId := id
  status := .applicable
  reason := .stableExactOrigin
  profileId := "bench"
  diagnosticArtifactId := "bench"
  subjectRef := "bench"
  predecessorApplicabilityId := predecessor
  predecessorCoordinateRef := predecessor
  observedCoordinateRef := id
  attestationOccurrenceRef := "bench"
  acquisitionId := "bench"
  providerIntakeRef := "bench"
  authorityOccurrenceRef := none

/-- A root with its successor, and two verdicts that name each other. -/
def cyclicOrigins : BTreeMap String SubstrateOriginApplicabilityV1 :=
  ["root", "head", "left", "right"].foldl
    (fun nodes id => nodes.insert id (originVerdict id
      (if id = "head" then some "root" else if id = "left" then some "right"
        else if id = "right" then some "left" else none))) ∅

end Bench

/-- Two verdicts that name each other pass beside a line. -/
theorem uniqueSubstrateOriginHead_accepts_cycle :
    ¬ ∀ head, uniqueSubstrateOriginHead Bench.cyclicOrigins = .ok head ↔
      LinearChain Bench.cyclicOrigins head := by
  intro hlinear
  have haccepted : uniqueSubstrateOriginHead Bench.cyclicOrigins =
      .ok (Bench.originVerdict "head" (some "root")) := by decide +kernel
  obtain ⟨ids, hline, hcovers, -⟩ := (hlinear _).mp haccepted
  have hleft : Precedes Bench.cyclicOrigins "right" "left" :=
    ⟨Bench.originVerdict "right" (some "left"), Bench.originVerdict "left" (some "right"),
      by decide +kernel, by decide +kernel, rfl, rfl⟩
  have hright : Precedes Bench.cyclicOrigins "left" "right" :=
    ⟨Bench.originVerdict "left" (some "right"), Bench.originVerdict "right" (some "left"),
      by decide +kernel, by decide +kernel, rfl, rfl⟩
  have hmem : "left" ∈ Bench.cyclicOrigins := by decide +kernel
  have hcycle : Relation.TransGen (Precedes Bench.cyclicOrigins) "left" "left" :=
    .head hright (.single hleft)
  exact hline.line.not_onCycle "left" (hcovers "left" hmem) (onCycle_of_transGen hcycle)

end Nightshift.Canonical
