import Nightshift.Lib.Checked
import Nightshift.Lib.OrderedMap

/-!
# Depth-first cycle check

The two-colour search that refuses a node met again while it is still open.
Recursion carries fuel, and the fuel is shown to be immaterial: one more than
the number of nodes never runs out. Acceptance of every node yields a rank that
strictly decreases along each edge, and a refusal shows a cycle: over closed
nodes the search accepts exactly the acyclic graphs.
-/

namespace Dag

open Checked

variable {α : Type} [Ord α] [Std.TransOrd α]

inductive Refusal where
  | cycle
  | exhausted
  deriving DecidableEq, Repr

/-- The open and the finished nodes. -/
structure Search (α : Type) [Ord α] where
  visiting : BTreeSet α
  visited : BTreeSet α

/-- Visit one node: finished nodes return at once, open nodes are a cycle, and
otherwise every successor is visited before the node is closed. -/
def visit (edges : α → List α) : Nat → α → Search α → Except Refusal (Search α)
  | 0, _, _ => .error .exhausted
  | fuel + 1, node, s =>
    if s.visited.contains node then .ok s
    else if s.visiting.contains node then .error .cycle
    else do
      let t ← (edges node).foldlM (fun t next => visit edges fuel next t)
        { s with visiting := s.visiting.insert node }
      .ok { visiting := t.visiting.erase node, visited := t.visited.insert node }

def visitAll (edges : α → List α) (fuel : Nat) (nodes : List α) (s : Search α) :
    Except Refusal (Search α) :=
  nodes.foldlM (fun t node => visit edges fuel node t) s

/-- Finished nodes only lead to finished nodes of smaller rank. -/
def Ranked (edges : α → List α) (finished : BTreeSet α) : Prop :=
  ∃ rank : α → Nat, ∀ x ∈ finished, ∀ y ∈ edges x, y ∈ finished ∧ rank y < rank x

/-- What a successful visit establishes of the finished nodes. -/
structure Advances (edges : α → List α) (s t : Search α) : Prop where
  grows : ∀ x ∈ s.visited, x ∈ t.visited
  ranked : Ranked edges s.visited → Ranked edges t.visited

theorem Advances.refl (edges : α → List α) (s : Search α) : Advances edges s s :=
  ⟨fun _ h => h, fun h => h⟩

theorem Advances.trans {edges : α → List α} {s t u : Search α}
    (h₁ : Advances edges s t) (h₂ : Advances edges t u) : Advances edges s u :=
  ⟨fun x h => h₂.grows x (h₁.grows x h), fun h => h₂.ranked (h₁.ranked h)⟩

/-- A fold of visits advances and finishes every listed node. -/
theorem fold_visit_advances {edges : α → List α} {fuel : Nat}
    (ih : ∀ node s t, visit edges fuel node s = .ok t →
      Advances edges s t ∧ node ∈ t.visited)
    (nodes : List α) {s t : Search α}
    (h : nodes.foldlM (fun t next => visit edges fuel next t) s = .ok t) :
    Advances edges s t ∧ ∀ x ∈ nodes, x ∈ t.visited := by
  induction nodes generalizing s with
  | nil =>
    obtain rfl := foldlM_nil_eq_ok.mp h
    exact ⟨Advances.refl edges s, by simp⟩
  | cons node rest hrest =>
    obtain ⟨u, hnode, htail⟩ := foldlM_cons_eq_ok.mp h
    obtain ⟨hadv, hmem⟩ := ih node s u hnode
    obtain ⟨hadv', hmem'⟩ := hrest htail
    refine ⟨hadv.trans hadv', fun x hx => ?_⟩
    rcases List.mem_cons.mp hx with rfl | hx
    · exact hadv'.grows _ hmem
    · exact hmem' x hx

variable [Std.LawfulEqOrd α] [DecidableEq α]

theorem ranked_insert {edges : α → List α} {finished : BTreeSet α} {node : α}
    (h : Ranked edges finished) (hout : ∀ y ∈ edges node, y ∈ finished) :
    Ranked edges (finished.insert node) := by
  obtain ⟨rank, hrank⟩ := h
  by_cases hnode : node ∈ finished
  · refine ⟨rank, fun x hx y hy => ?_⟩
    have hx' : x ∈ finished := by
      rcases Std.ExtTreeSet.mem_insert.mp hx with he | hf
      · exact Std.LawfulEqOrd.eq_of_compare he ▸ hnode
      · exact hf
    exact ⟨Std.ExtTreeSet.mem_insert.mpr (.inr (hrank x hx' y hy).1), (hrank x hx' y hy).2⟩
  · -- The new node is placed above every successor, all of which are finished.
    let top := ((edges node).map rank).sum + 1
    refine ⟨fun x => if x = node then top else rank x, fun x hx y hy => ?_⟩
    have hy_ne : y ∈ finished → y ≠ node := fun hf he => hnode (he ▸ hf)
    rcases Std.ExtTreeSet.mem_insert.mp hx with he | hf
    · obtain rfl : node = x := Std.LawfulEqOrd.eq_of_compare he
      have hfin := hout y hy
      have hle : rank y ≤ ((edges node).map rank).sum :=
        List.single_le_sum (by simp) _ (List.mem_map_of_mem hy)
      refine ⟨Std.ExtTreeSet.mem_insert.mpr (.inr hfin), ?_⟩
      simp only [hy_ne hfin, ↓reduceIte, top]
      omega
    · have hxn : x ≠ node := fun he => hnode (he ▸ hf)
      obtain ⟨hfin, hlt⟩ := hrank x hf y hy
      refine ⟨Std.ExtTreeSet.mem_insert.mpr (.inr hfin), ?_⟩
      simpa only [hy_ne hfin, hxn, ↓reduceIte] using hlt

theorem visit_advances {edges : α → List α} {fuel : Nat} {node : α} {s t : Search α}
    (h : visit edges fuel node s = .ok t) : Advances edges s t ∧ node ∈ t.visited := by
  induction fuel generalizing node s t with
  | zero => simp [visit] at h
  | succ fuel ih =>
    rw [visit] at h
    split at h
    · rename_i hfin
      obtain rfl := Except.ok.inj h
      exact ⟨Advances.refl edges s, Std.ExtTreeSet.contains_iff_mem.mp hfin⟩
    · split at h
      · cases h
      · obtain ⟨u, hfold, hu⟩ := bind_eq_ok.mp h
        obtain rfl := Except.ok.inj hu
        obtain ⟨hadv, hout⟩ := fold_visit_advances (fun n a b => ih) (edges node) hfold
        refine ⟨⟨fun x hx => ?_, fun hs => ?_⟩, by simp⟩
        · exact Std.ExtTreeSet.mem_insert.mpr (.inr (hadv.grows x hx))
        · exact ranked_insert (hadv.ranked hs) hout

/-- Acceptance of all nodes ranks them along their edges. -/
theorem visitAll_ranked {edges : α → List α} {fuel : Nat} {nodes : List α} {t : Search α}
    (h : visitAll edges fuel nodes ⟨∅, ∅⟩ = .ok t) :
    ∃ rank : α → Nat, ∀ x ∈ nodes, ∀ y ∈ edges x, rank y < rank x := by
  obtain ⟨hadv, hmem⟩ := fold_visit_advances (fun _ _ _ => visit_advances) nodes h
  obtain ⟨rank, hrank⟩ := hadv.ranked ⟨fun _ => 0, by simp⟩
  exact ⟨rank, fun x hx y hy => (hrank x (hmem x hx) y hy).2⟩

/-- A successful visit closes exactly the node it opened. -/
theorem visit_visiting {edges : α → List α} {fuel : Nat} {node : α} {s t : Search α}
    (h : visit edges fuel node s = .ok t) : t.visiting = s.visiting := by
  induction fuel generalizing node s t with
  | zero => simp [visit] at h
  | succ fuel ih =>
    rw [visit] at h
    split at h
    · rw [Except.ok.inj h]
    · split at h
      · cases h
      · rename_i hopen
        obtain ⟨u, hfold, hu⟩ := bind_eq_ok.mp h
        obtain rfl := Except.ok.inj hu
        have hvis : u.visiting = s.visiting.insert node :=
          foldlM_invariant (fun c => c.visiting = s.visiting.insert node) rfl
            (fun c x c' _ hc hv => (ih hv).trans hc) hfold
        have hnot : node ∉ s.visiting := fun hm => hopen (Std.ExtTreeSet.contains_iff_mem.mpr hm)
        ext x
        simp only [hvis, Std.ExtTreeSet.mem_erase, Std.ExtTreeSet.mem_insert]
        by_cases hx : node = x
        · subst hx; simpa using hnot
        · simp [hx]

omit [Ord α] [Std.TransOrd α] [Std.LawfulEqOrd α] in
/-- A weaker test keeps strictly more once it keeps one more element. -/
theorem length_filter_lt {p q : α → Bool} {xs : List α} {a : α} (ha : a ∈ xs)
    (hp : p a = true) (hq : q a = false) (hpq : ∀ x, q x = true → p x = true) :
    (xs.filter q).length < (xs.filter p).length := by
  induction xs with
  | nil => simp at ha
  | cons x xs ih =>
    have hle : (xs.filter q).length ≤ (xs.filter p).length := by
      simpa [List.countP_eq_length_filter] using
        List.countP_mono_left (l := xs) (fun y _ => hpq y)
    by_cases hx : x = a
    · subst hx
      simp only [List.filter_cons, hp, hq, ↓reduceIte, List.length_cons, Bool.false_eq_true]
      omega
    · have hlt := ih ((List.mem_cons.mp ha).resolve_left (Ne.symm hx))
      have hpqx := hpq x
      simp only [List.filter_cons]
      split <;> split <;> simp_all

/-- One unit of fuel beyond the nodes that are not open never runs out. -/
theorem visit_not_exhausted {edges : α → List α} {nodes : List α}
    (hclosed : ∀ x ∈ nodes, ∀ y ∈ edges x, y ∈ nodes) {fuel : Nat} {node : α} {s : Search α}
    (hnode : node ∈ nodes)
    (hfuel : (nodes.filter (fun x => !s.visiting.contains x)).length < fuel) :
    visit edges fuel node s ≠ .error .exhausted := by
  induction fuel generalizing node s with
  | zero => omega
  | succ fuel ih =>
    rw [visit]
    split
    · simp
    · split
      · simp
      · rename_i hopen
        have hlt : (nodes.filter (fun x => !(s.visiting.insert node).contains x)).length <
            (nodes.filter (fun x => !s.visiting.contains x)).length :=
          length_filter_lt hnode (by simp only [Bool.eq_false_iff.mpr hopen, Bool.not_false]) (by simp)
            (fun x hx => by simp_all)
        have hfold : ∀ (rest : List α) (t : Search α), (∀ y ∈ rest, y ∈ nodes) →
            t.visiting = s.visiting.insert node →
            rest.foldlM (fun t next => visit edges fuel next t) t ≠ .error .exhausted := by
          intro rest
          induction rest with
          | nil => intro t _ _; simp [pure, Except.pure]
          | cons y rest hrest =>
            intro t hmem ht
            rw [List.foldlM_cons]
            have hy := ih (s := t) (hmem y List.mem_cons_self) (by rw [ht]; omega)
            cases hv : visit edges fuel y t with
            | error e => simpa [hv] using hy
            | ok u =>
              exact hrest u (fun z hz => hmem z (List.mem_cons_of_mem _ hz))
                ((visit_visiting hv).trans ht)
        have := hfold (edges node) { s with visiting := s.visiting.insert node }
          (hclosed node hnode) rfl
        cases hf : (edges node).foldlM (fun t next => visit edges fuel next t)
            { s with visiting := s.visiting.insert node } with
        | error e => simpa [hf] using this
        | ok u => simp

/-- `x` lists `y` among its successors. -/
def Edge (edges : α → List α) (x y : α) : Prop := y ∈ edges x

/-- A fold of visits leaves the open nodes as it found them. -/
theorem fold_visit_visiting {edges : α → List α} {fuel : Nat} {nodes : List α} {s t : Search α}
    (h : nodes.foldlM (fun t next => visit edges fuel next t) s = .ok t) :
    t.visiting = s.visiting :=
  foldlM_invariant (fun c => c.visiting = s.visiting) rfl
    (fun _ _ _ _ hc hv => (visit_visiting hv).trans hc) h

/-- A visit that meets an open node closes a cycle, as long as every open node
leads to the node visited. -/
theorem visit_cycle {edges : α → List α} {fuel : Nat} {node : α} {s : Search α}
    (h : visit edges fuel node s = .error .cycle)
    (hopen : ∀ x ∈ s.visiting, Relation.TransGen (Edge edges) x node) :
    ∃ x, Relation.TransGen (Edge edges) x x := by
  induction fuel generalizing node s with
  | zero => simp [visit] at h
  | succ fuel ih =>
    rw [visit] at h
    split at h
    · cases h
    · split at h
      · rename_i hmet
        exact ⟨node, hopen node (Std.ExtTreeSet.contains_iff_mem.mp hmet)⟩
      · rcases bind_eq_error.mp h with hfold | ⟨_, _, hdone⟩
        · obtain ⟨before, next, after, t, hsplit, hbefore, hnext⟩ :=
            exists_of_foldlM_eq_error hfold
          have hedge : Edge edges node next := by
            change next ∈ edges node
            rw [hsplit]
            exact List.mem_append_right _ List.mem_cons_self
          have hvisiting := fold_visit_visiting hbefore
          -- The open nodes are now those of before and the node itself.
          refine ih hnext fun x hx => ?_
          rw [hvisiting, Std.ExtTreeSet.mem_insert] at hx
          rcases hx with hx | hx
          · obtain rfl : node = x := Std.LawfulEqOrd.eq_of_compare hx
            exact Relation.TransGen.single hedge
          · exact (hopen x hx).tail hedge
        · cases hdone

theorem visitAll_cycle {edges : α → List α} {fuel : Nat} {nodes : List α}
    (h : visitAll edges fuel nodes ⟨∅, ∅⟩ = .error .cycle) :
    ∃ x, Relation.TransGen (Edge edges) x x := by
  obtain ⟨before, node, after, s, -, hbefore, hnode⟩ := exists_of_foldlM_eq_error h
  refine visit_cycle hnode fun x hx => ?_
  rw [fold_visit_visiting hbefore] at hx
  simp at hx

omit [Ord α] [Std.TransOrd α] [Std.LawfulEqOrd α] [DecidableEq α] in
/-- A rank that falls along every edge leaves no room for a cycle. -/
theorem irrefl_of_rank {edges : α → List α} {rank : α → Nat}
    (h : ∀ x, ∀ y ∈ edges x, rank y < rank x) (x : α) :
    ¬Relation.TransGen (Edge edges) x x := by
  have hfalls : ∀ y z, Relation.TransGen (Edge edges) y z → rank z < rank y := by
    intro y z hyz
    induction hyz with
    | single hedge => exact h _ _ hedge
    | tail _ hedge ih => exact (h _ _ hedge).trans ih
  exact fun hcycle => (hfalls x x hcycle).false

/-- No run of the search over closed nodes exhausts its fuel. -/
theorem visitAll_not_exhausted {edges : α → List α} {nodes : List α}
    (hclosed : ∀ x ∈ nodes, ∀ y ∈ edges x, y ∈ nodes) {fuel : Nat} (hfuel : nodes.length < fuel) :
    visitAll edges fuel nodes ⟨∅, ∅⟩ ≠ .error .exhausted := by
  intro h
  obtain ⟨before, node, after, s, hsplit, -, hnode⟩ := exists_of_foldlM_eq_error h
  have hmem : node ∈ nodes := by
    rw [hsplit]
    exact List.mem_append_right _ List.mem_cons_self
  have hopen := List.length_filter_le (fun x => !s.visiting.contains x) nodes
  exact visit_not_exhausted hclosed hmem (by omega) hnode

/-- Over a graph whose edges stay among its nodes, the search accepts exactly
the acyclic ones. -/
theorem visitAll_accepts_iff {edges : α → List α} {nodes : List α}
    (hsource : ∀ x, ∀ y ∈ edges x, x ∈ nodes) (hclosed : ∀ x ∈ nodes, ∀ y ∈ edges x, y ∈ nodes)
    {fuel : Nat} (hfuel : nodes.length < fuel) :
    (∃ t, visitAll edges fuel nodes ⟨∅, ∅⟩ = .ok t) ↔
      ∀ x, ¬Relation.TransGen (Edge edges) x x := by
  constructor
  · rintro ⟨t, ht⟩
    obtain ⟨rank, hrank⟩ := visitAll_ranked ht
    exact irrefl_of_rank fun x y hy => hrank x (hsource x y hy) y hy
  · intro hacyclic
    cases h : visitAll edges fuel nodes ⟨∅, ∅⟩ with
    | ok t => exact ⟨t, rfl⟩
    | error e =>
      cases e with
      | cycle =>
        obtain ⟨x, hx⟩ := visitAll_cycle h
        exact absurd hx (hacyclic x)
      | exhausted => exact absurd h (visitAll_not_exhausted hclosed hfuel)

end Dag
