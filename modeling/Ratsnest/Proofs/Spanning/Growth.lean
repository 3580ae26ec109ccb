import Mathlib.Algebra.BigOperators.Finprod
import Mathlib.Algebra.Order.BigOperators.Group.Finset
import Mathlib.Combinatorics.SimpleGraph.Acyclic

/-!
# Growing a tree by cheapest edges

A set of vertices grows by one edge after the other, always a cheapest one among those that leave
it (`Grown`).  When no edge leaves it any more, it is the component that it has grown from, the
edges are those of a spanning tree (`Grown.exists_tree`), and no spanning tree of the component
costs less (`Grown.cost_le`).

The last statement needs no cycles.  What is kept from round to round is that the other tree still
hangs on the grown set: every vertex has a way back to it.  A vertex that joins the set makes one
edge of its own way dispensable, and that edge leaves the set, so it is not cheaper.
-/

namespace Ratsnest

universe u v

variable {V : Type u} {M : Type v}

/-! ## Hanging on a set -/

/-- Whether edges in `F` lead from some vertex in `J` to `v`. -/
inductive Hangs (F : Set (Sym2 V)) (J : Set V) : V → Prop where
  | base {v : V} : v ∈ J → Hangs F J v
  | step {u v : V} : Hangs F J u → s(u, v) ∈ F → Hangs F J v

namespace Hangs

variable {F F' : Set (Sym2 V)} {J K : Set V} {u v : V}

/-- What hangs on vertices that hang on `J` hangs on `J` itself. -/
theorem trans (h : Hangs F K v) (hF : F ⊆ F') (hK : ∀ k ∈ K, Hangs F' J k) : Hangs F' J v := by
  induction h with
  | base hv => exact hK _ hv
  | step _ huv ih => exact ih.step (hF huv)

theorem mono (h : Hangs F J v) (hF : F ⊆ F') (hJ : J ⊆ K) : Hangs F' K v :=
  h.trans hF fun _ hj => .base (hJ hj)

/-- The way to a vertex outside `J` leaves `J` for the last time by an edge, and what follows does
without that edge; so it can be gone back. -/
theorem exists_exit (h : Hangs F J v) (hv : v ∉ J) :
    ∃ j ∈ J, ∃ i ∉ J, s(j, i) ∈ F ∧ Hangs (F \ {s(j, i)}) {v} i := by
  induction h with
  | base hv' => exact absurd hv' hv
  | @step u v _ huv ih =>
    by_cases hu : u ∈ J
    · exact ⟨u, hu, v, hv, huv, .base rfl⟩
    · obtain ⟨j, hj, i, hi, hji, hback⟩ := ih hu
      refine ⟨j, hj, i, hi, hji, hback.trans le_rfl ?_⟩
      rintro k rfl
      have hne : s(v, k) ≠ s(j, i) := by
        intro heq
        rcases Sym2.eq_iff.1 heq with ⟨rfl, -⟩ | ⟨-, rfl⟩
        · exact hv hj
        · exact hu hj
      exact .step (.base rfl) ⟨Sym2.eq_swap ▸ huv, hne⟩

/-- A vertex that joins `J` makes an edge that leaves `J` dispensable. -/
theorem exists_dispensable (h : Hangs F J v) (hv : v ∉ J) :
    ∃ j ∈ J, ∃ i ∉ J, s(j, i) ∈ F ∧
      ∀ u, Hangs F J u → Hangs (F \ {s(j, i)}) (insert v J) u := by
  obtain ⟨j, hj, i, hi, hji, hback⟩ := h.exists_exit hv
  have hvi : Hangs (F \ {s(j, i)}) (insert v J) i :=
    hback.mono le_rfl (Set.singleton_subset_iff.2 (Set.mem_insert v J))
  refine ⟨j, hj, i, hi, hji, ?_⟩
  intro u hu
  induction hu with
  | base hu => exact .base (Set.mem_insert_of_mem v hu)
  | @step x y _ hxy ih =>
    by_cases heq : s(x, y) = s(j, i)
    · rcases Sym2.eq_iff.1 heq with ⟨-, rfl⟩ | ⟨-, rfl⟩
      · exact hvi
      · exact .base (Set.mem_insert_of_mem v hj)
    · exact ih.step ⟨hxy, heq⟩

theorem of_reachable {G : SimpleGraph V} (h : G.Reachable u v) : Hangs G.edgeSet {u} v := by
  obtain ⟨p⟩ := h
  induction p with
  | nil => exact .base rfl
  | @cons u w v hadj _ ih =>
    refine ih.trans le_rfl ?_
    rintro k rfl
    exact .step (.base rfl) hadj

theorem reachable {G : SimpleGraph V} (h : Hangs G.edgeSet {u} v) : G.Reachable u v := by
  induction h with
  | base hv => exact hv ▸ .rfl
  | step _ hxy ih => exact ih.trans (SimpleGraph.Adj.reachable hxy)

end Hangs

/-! ## Growth -/

variable [DecidableEq V] {G : SimpleGraph V} {cheap : Sym2 V → Sym2 V → Prop} {J J' : Finset V}
  {es : List (V × V)}

/-- `J` grows to `J'` by the edges `es`, each given as the end inside with the end outside.  Of the
edges that leave the set each one is a cheapest; in the end no edge leaves it. -/
inductive Grown (G : SimpleGraph V) (cheap : Sym2 V → Sym2 V → Prop) :
    Finset V → List (V × V) → Finset V → Prop where
  | closed {J : Finset V} : (∀ j ∈ J, ∀ i ∉ J, ¬G.Adj j i) → Grown G cheap J [] J
  | graft {J J' : Finset V} {j i : V} {es : List (V × V)} : j ∈ J → i ∉ J → G.Adj j i →
    (∀ k ∈ J, ∀ l ∉ J, G.Adj k l → cheap s(j, i) s(k, l)) → Grown G cheap (insert i J) es J' →
    Grown G cheap J ((j, i) :: es) J'

/-- The edges that a set has grown by. -/
def edgesOf (es : List (V × V)) : List (Sym2 V) := es.map fun e => s(e.1, e.2)

omit [DecidableEq V] in
@[simp] theorem edgesOf_cons (e : V × V) (es : List (V × V)) :
    edgesOf (e :: es) = s(e.1, e.2) :: edgesOf es := rfl

namespace Grown

theorem subset (h : Grown G cheap J es J') : J ⊆ J' := by
  induction h with
  | closed => exact subset_rfl
  | graft _ _ _ _ _ ih => exact (Finset.subset_insert _ _).trans ih

/-- Each edge adds one vertex. -/
theorem card_eq (h : Grown G cheap J es J') : J'.card = J.card + es.length := by
  induction h with
  | closed => rfl
  | graft _ hi _ _ _ ih =>
    rw [ih, Finset.card_insert_of_notMem hi, List.length_cons]
    omega

theorem not_adj (h : Grown G cheap J es J') : ∀ j ∈ J', ∀ i ∉ J', ¬G.Adj j i := by
  induction h with
  | closed hJ => exact hJ
  | graft _ _ _ _ _ ih => exact ih

/-- The edges are edges of the graph, and each leads out of `J` within `J'`. -/
theorem adj_of_mem (h : Grown G cheap J es J') :
    ∀ e ∈ es, G.Adj e.1 e.2 ∧ e.1 ∈ J' ∧ e.2 ∈ J' ∧ e.2 ∉ J := by
  induction h with
  | closed => simp
  | graft hj hi hadj _ rest ih =>
    intro e he
    rcases List.mem_cons.1 he with rfl | he
    · have hsub := rest.subset
      exact ⟨hadj, hsub (Finset.mem_insert_of_mem hj), hsub (Finset.mem_insert_self _ _), hi⟩
    · obtain ⟨hadj, h1, h2, hout⟩ := ih e he
      exact ⟨hadj, h1, h2, fun hmem => hout (Finset.mem_insert_of_mem hmem)⟩

/-- No edge is used twice. -/
theorem nodup (h : Grown G cheap J es J') : (edgesOf es).Nodup := by
  induction h with
  | closed => exact List.nodup_nil
  | @graft J J' j i es hj _ _ _ rest ih =>
    rw [edgesOf_cons, List.nodup_cons]
    refine ⟨fun hmem => ?_, ih⟩
    obtain ⟨e, he, heq⟩ := List.mem_map.1 hmem
    obtain ⟨-, -, -, hout⟩ := rest.adj_of_mem e he
    rcases Sym2.eq_iff.1 heq with ⟨-, h2⟩ | ⟨-, h2⟩
    · exact hout (h2 ▸ Finset.mem_insert_self i J)
    · exact hout (h2 ▸ Finset.mem_insert_of_mem hj)

/-- Everything that has been joined hangs on `J` by the edges. -/
theorem hangs (h : Grown G cheap J es J') :
    ∀ v ∈ J', Hangs {e | e ∈ edgesOf es} (J : Set V) v := by
  induction h with
  | closed => exact fun v hv => .base hv
  | @graft J J' j i es hj _ _ _ _ ih =>
    refine fun v hv => (ih v hv).trans (fun e he => List.mem_cons_of_mem _ he) fun k hk => ?_
    rcases Finset.mem_insert.1 (Finset.mem_coe.1 hk) with rfl | hk
    · exact .step (.base hj) List.mem_cons_self
    · exact .base hk

/-- What has grown from one vertex is its component. -/
theorem mem_iff_reachable {r v : V} (h : Grown G cheap {r} es J') :
    v ∈ J' ↔ G.Reachable r v := by
  constructor
  · intro hv
    have hsub : {e | e ∈ edgesOf es} ⊆ G.edgeSet := by
      intro e he
      obtain ⟨d, hd, rfl⟩ := List.mem_map.1 he
      exact (h.adj_of_mem d hd).1
    refine Hangs.reachable ((h.hangs v hv).mono hsub ?_)
    rw [Finset.coe_singleton]
  · intro hv
    have hr : r ∈ J' := h.subset (Finset.mem_singleton_self r)
    refine (Hangs.of_reachable hv).rec (fun hv => ?_) fun {x y} _ hxy hx => ?_
    · rwa [Set.mem_singleton_iff.1 hv]
    · by_contra hy
      exact h.not_adj x hx y hy hxy

end Grown

/-! ## The tree -/

/-- Whether `T` is a spanning tree of the component of `r`. -/
structure IsSpanningTree (r : V) (T : G.Subgraph) : Prop where
  verts : T.verts = {v | G.Reachable r v}
  tree : T.coe.IsTree

section Tree

variable {r : V} {T : G.Subgraph}

omit [DecidableEq V]

theorem card_edgeSet_coe (T : G.Subgraph) : Nat.card T.coe.edgeSet = T.edgeSet.ncard := by
  rw [← SimpleGraph.Subgraph.image_coe_edgeSet_coe,
    Set.ncard_image_of_injective _ (Sym2.map.injective Subtype.val_injective)]
  rfl

theorem reachable_coe {v : V} (hr : r ∈ T.verts) (h : Hangs T.edgeSet {r} v) :
    ∃ hv : v ∈ T.verts, T.coe.Reachable ⟨r, hr⟩ ⟨v, hv⟩ := by
  induction h with
  | base hv =>
    obtain rfl := Set.mem_singleton_iff.1 hv
    exact ⟨hr, .rfl⟩
  | @step x y _ hxy ih =>
    obtain ⟨hx, hrx⟩ := ih
    have hadj : T.Adj x y := SimpleGraph.Subgraph.mem_edgeSet.1 hxy
    exact ⟨hadj.snd_mem, hrx.trans (SimpleGraph.Adj.reachable hadj.coe)⟩

theorem IsSpanningTree.hangs (h : IsSpanningTree r T) {v : V} (hv : G.Reachable r v) :
    Hangs T.edgeSet {r} v := by
  have hr : r ∈ T.verts := h.verts ▸ SimpleGraph.Reachable.rfl
  have hv : v ∈ T.verts := h.verts ▸ hv
  obtain ⟨p⟩ := h.tree.connected.preconnected ⟨r, hr⟩ ⟨v, hv⟩
  suffices ∀ a b : T.verts, T.coe.Walk a b → Hangs T.edgeSet {a.1} b.1 from this _ _ p
  intro a b p
  induction p with
  | nil => exact .base rfl
  | cons hadj _ ih =>
    refine ih.trans le_rfl ?_
    rintro k rfl
    exact .step (.base rfl) (SimpleGraph.Subgraph.mem_edgeSet.2 hadj)

theorem IsSpanningTree.card_edgeSet [Finite V] (h : IsSpanningTree r T) :
    T.edgeSet.ncard + 1 = {v | G.Reachable r v}.ncard := by
  rw [← card_edgeSet_coe, ← h.verts]
  exact (SimpleGraph.isTree_iff_connected_and_card.1 h.tree).2

end Tree

namespace Grown

/-- The edges that a vertex has grown by are those of a spanning tree of its component. -/
theorem exists_tree [Finite V] {r : V} (h : Grown G cheap {r} es J') :
    ∃ T : G.Subgraph, IsSpanningTree r T ∧ T.edgeSet = {e | e ∈ edgesOf es} := by
  have hmem {v w : V} (hvw : s(v, w) ∈ edgesOf es) : G.Adj v w ∧ v ∈ J' := by
    obtain ⟨e, he, heq⟩ := List.mem_map.1 hvw
    obtain ⟨hadj, h1, h2, -⟩ := h.adj_of_mem e he
    rcases Sym2.eq_iff.1 heq with ⟨rfl, rfl⟩ | ⟨rfl, rfl⟩
    · exact ⟨hadj, h1⟩
    · exact ⟨hadj.symm, h2⟩
  let T : G.Subgraph :=
    { verts := J'
      Adj := fun v w => s(v, w) ∈ edgesOf es
      adj_sub := fun hvw => (hmem hvw).1
      edge_vert := fun hvw => (hmem hvw).2
      symm := ⟨fun v w hvw => by rwa [Sym2.eq_swap]⟩ }
  have hedges : T.edgeSet = {e | e ∈ edgesOf es} := by
    ext e
    induction e using Sym2.ind with
    | h v w => rfl
  have hr : r ∈ T.verts := h.subset (Finset.mem_singleton_self r)
  have hreach (v : T.verts) : T.coe.Reachable ⟨r, hr⟩ v := by
    have hv := h.hangs v v.2
    rw [← hedges, Finset.coe_singleton] at hv
    exact (reachable_coe hr hv).2
  have hcard : T.edgeSet.ncard + 1 = Nat.card T.verts := by
    have hverts : Nat.card T.verts = J'.card := Set.ncard_coe_finset J'
    rw [hverts, hedges, ← List.coe_toFinset, Set.ncard_coe_finset,
      List.toFinset_card_of_nodup h.nodup, edgesOf, List.length_map, h.card_eq,
      Finset.card_singleton, Nat.add_comm]
  refine ⟨T, ⟨?_, SimpleGraph.isTree_iff_connected_and_card.2 ⟨?_, ?_⟩⟩, hedges⟩
  · ext v
    exact h.mem_iff_reachable
  · have : Nonempty T.verts := ⟨⟨r, hr⟩⟩
    exact ⟨fun a b => (hreach a).symm.trans (hreach b)⟩
  · rw [card_edgeSet_coe, hcard]

variable [AddCommMonoid M] [PartialOrder M] [IsOrderedAddMonoid M] {cost : Sym2 V → M}

/-- As many edges by which everything hangs on `J` cost no less. -/
theorem sum_le (h : Grown G cheap J es J')
    (hcost : ∀ e ∈ G.edgeSet, ∀ f ∈ G.edgeSet, cheap e f → cost e ≤ cost f)
    (F : Finset (Sym2 V)) (hF : ∀ e ∈ F, e ∈ G.edgeSet)
    (hangs : ∀ v ∈ J', Hangs (F : Set (Sym2 V)) (J : Set V) v) (hcard : F.card = es.length) :
    ((edgesOf es).map cost).sum ≤ ∑ e ∈ F, cost e := by
  induction h generalizing F with
  | closed =>
    obtain rfl := Finset.card_eq_zero.1 hcard
    exact le_rfl
  | @graft J J' j i es hj hi hadj hcheap rest ih =>
    have hiJ' : i ∈ J' := rest.subset (Finset.mem_insert_self i J)
    obtain ⟨k, hk, l, hl, hf, hrest⟩ :=
      (hangs i hiJ').exists_dispensable (fun h => hi (Finset.mem_coe.1 h))
    have hf : s(k, l) ∈ F := Finset.mem_coe.1 hf
    have hle : cost s(j, i) ≤ cost s(k, l) :=
      hcost _ hadj _ (hF _ hf) (hcheap k (Finset.mem_coe.1 hk) l
        (fun h => hl (Finset.mem_coe.2 h)) (hF _ hf))
    have htail := ih (F.erase s(k, l)) (fun e he => hF e (Finset.mem_of_mem_erase he))
      (fun v hv => by
        rw [Finset.coe_erase, Finset.coe_insert]
        exact hrest v (hangs v hv))
      (by rw [Finset.card_erase_of_mem hf, hcard, List.length_cons, Nat.add_sub_cancel])
    rw [edgesOf_cons, List.map_cons, List.sum_cons, ← Finset.add_sum_erase F cost hf]
    exact add_le_add hle htail

/-- No spanning tree of the component costs less than what a vertex has grown by. -/
theorem cost_le [Finite V] {r : V} (h : Grown G cheap {r} es J')
    (hcost : ∀ e ∈ G.edgeSet, ∀ f ∈ G.edgeSet, cheap e f → cost e ≤ cost f)
    {U : G.Subgraph} (hU : IsSpanningTree r U) :
    ((edgesOf es).map cost).sum ≤ ∑ᶠ e ∈ U.edgeSet, cost e := by
  have hfin : U.edgeSet.Finite := Set.toFinite _
  rw [finsum_mem_eq_finite_toFinset_sum cost hfin]
  refine h.sum_le hcost _ (fun e he => ?_) (fun v hv => ?_) ?_
  · exact U.edgeSet_subset (hfin.mem_toFinset.1 he)
  · rw [hfin.coe_toFinset, Finset.coe_singleton]
    exact hU.hangs (h.mem_iff_reachable.1 hv)
  · have hverts : {v | G.Reachable r v} = (J' : Set V) := by
      ext v
      exact h.mem_iff_reachable.symm
    have hcard := hU.card_edgeSet
    rw [hverts, Set.ncard_coe_finset, h.card_eq, Finset.card_singleton] at hcard
    rw [← Set.ncard_eq_toFinset_card U.edgeSet hfin]
    omega

end Grown

end Ratsnest
