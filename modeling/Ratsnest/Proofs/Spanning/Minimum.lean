import Ratsnest.Proofs.Spanning.Growth
import Ratsnest.Proofs.Spanning.Links

/-!
# Spanning links are of the least total cost

The links that `LinkTable.spanning` picks are the edges of a spanning tree of the subnets that can
be joined to the first one, and no spanning tree of these costs less
(`LinkTable.exists_minimumSpanning`).  A cost may be any function of the squared distance that
does not decrease.
-/

namespace Ratsnest

universe u v

variable {α : Type u} [AngularScalar α]

/-- The graph of the subnets, with an edge wherever there is a link. -/
def linkGraph (s : Store α) (policy : Policy) (subnets : List Subnet) :
    SimpleGraph (Fin subnets.length) where
  Adj i j := ∃ l, Links s policy subnets i j l
  symm := ⟨fun _ _ ⟨l, hl⟩ => ⟨l.swap, hl.swap⟩⟩
  loopless := ⟨fun _ ⟨_, hl⟩ => hl.ne rfl⟩

/-- What the links `ls` have to be, along the edges `es` of the graph of the subnets, to join the
component of `root` at the least cost. -/
structure MinimumSpanning (s : Store α) (policy : Policy) (subnets : List Subnet)
    (root : Fin subnets.length) (es : List (Fin subnets.length × Fin subnets.length))
    (ls : List (Link α)) : Prop where
  /-- Each link is a shortest one along its edge. -/
  shortest : List.Forall₂ (fun e l => ShortestLink s policy subnets e.1 e.2 l) es ls
  /-- No edge is used twice. -/
  nodup : (edgesOf es).Nodup
  /-- The edges are those of a spanning tree of the component. -/
  tree : ∃ T : (linkGraph s policy subnets).Subgraph,
    IsSpanningTree root T ∧ T.edgeSet = {e | e ∈ edgesOf es}
  /-- No spanning tree of the component costs less. -/
  minimal : ∀ {M : Type v} [AddCommMonoid M] [PartialOrder M] [IsOrderedAddMonoid M]
    (cost : α → M),
    (∀ x y, Scalar.finite x → Scalar.finite y → x ≤ y → cost x ≤ cost y) →
    ∀ weight : Sym2 (Fin subnets.length) → α,
      (∀ i j, (linkGraph s policy subnets).Adj i j →
        ∃ l, ShortestLink s policy subnets i j l ∧ weight s(i, j) = l.bridge.d2) →
      ∀ U : (linkGraph s policy subnets).Subgraph, IsSpanningTree root U →
        (ls.map fun l => cost l.bridge.d2).sum ≤ ∑ᶠ e ∈ U.edgeSet, cost (weight e)

section Cost

variable {s : Store α} {policy : Policy} {subnets : List Subnet} {i j : Fin subnets.length}
  {l m : Link α} {M : Type v} [PartialOrder M] {cost : α → M}

theorem Links.finite (h : Links s policy subnets i j l) : Scalar.finite l.bridge.d2 := by
  rcases h with ⟨-, h⟩ | ⟨-, h⟩
  · obtain ⟨o, p, -, -, -, hb⟩ := h.bridge
    exact Shape.finite_of_bridge? hb
  · obtain ⟨o, p, -, -, -, hb⟩ := h.bridge
    rw [← Link.swap_d2]
    exact Shape.finite_of_bridge? hb

variable [OrderedScalar α]

/-- All shortest links between two subnets cost the same. -/
theorem ShortestLink.cost_eq (hl : ShortestLink s policy subnets i j l)
    (hm : ShortestLink s policy subnets i j m)
    (hcost : ∀ x y, Scalar.finite x → Scalar.finite y → x ≤ y → cost x ≤ cost y) :
    cost l.bridge.d2 = cost m.bridge.d2 := by
  have hlf := hl.links.finite
  have hmf := hm.links.finite
  refine le_antisymm (hcost _ _ hlf hmf ?_) (hcost _ _ hmf hlf ?_)
  · exact OrderedScalar.le_of_not_lt hlf hmf (hl.least m hm.links)
  · exact OrderedScalar.le_of_not_lt hmf hlf (hm.least l hl.links)

end Cost

namespace LinkTable

variable {s : Store α} {policy : Policy} {subnets : List Subnet}

/-- Whether the link of `t` along the edge `f` is not shorter than the one along `e`. -/
def NotDearer {n : ℕ} (t : LinkTable α) (e f : Sym2 (Fin n)) : Prop :=
  ∀ (i j k m : Fin n) (a b : Link α), e = s(i, j) → f = s(k, m) → t.get? i j = some a →
    t.get? k m = some b → ¬b.bridge.d2 < a.bridge.d2

omit [AngularScalar α] in
/-- The entries of a table for the two directions of an edge are equally long. -/
theorem d2_eq_of_edge_eq {n : ℕ} {t : LinkTable α} {i j k m : Fin n} {a b : Link α}
    (h : s(i, j) = s(k, m)) (ha : t.get? i j = some a) (hb : t.get? k m = some b) :
    a.bridge.d2 = b.bridge.d2 := by
  rcases Sym2.eq_iff.1 h with ⟨rfl, rfl⟩ | ⟨rfl, rfl⟩
  · rw [Option.some.inj (ha.symm.trans hb)]
  · rw [get?_swap, ha, Option.map_some] at hb
    rw [← Option.some.inj hb]
    rfl

variable [OrderedScalar α]

theorem exists_get?_of_adj {i j : Fin subnets.length}
    (h : (linkGraph s policy subnets).Adj i j) :
    ∃ l, (ofSubnets s policy subnets).get? i j = some l := by
  obtain ⟨m, hm⟩ := h
  exact Option.ne_none_iff_exists'.1 fun hnone => get?_eq_none hnone m hm

variable (s policy) in
/-- The rounds grow the joined subnets by shortest links.  As many rounds as there are subnets
left are enough for no link to leave the joined ones in the end. -/
theorem exists_grown (n : ℕ) (joined : List ℕ) (J : Finset (Fin subnets.length))
    (hJ : ∀ i, i ∈ J ↔ (i : ℕ) ∈ joined) (hn : subnets.length ≤ J.card + n) :
    ∃ es J', Grown (linkGraph s policy subnets) (ofSubnets s policy subnets).NotDearer J es J' ∧
      List.Forall₂ (fun e l => (ofSubnets s policy subnets).get? e.1 e.2 = some l) es
        ((ofSubnets s policy subnets).grow n joined) := by
  induction n generalizing joined J with
  | zero =>
    have hall : J = Finset.univ := by
      refine Finset.eq_univ_of_card J (le_antisymm (Finset.card_le_univ J) ?_)
      rwa [Fintype.card_fin]
    exact ⟨[], J, .closed fun j _ i hi => absurd (hall ▸ Finset.mem_univ i) hi, .nil⟩
  | succ n ih =>
    rw [grow]
    cases h : (ofSubnets s policy subnets).nearest? joined with
    | none =>
      refine ⟨[], J, .closed fun j hj i hi hadj => ?_, .nil⟩
      obtain ⟨l, hl⟩ := exists_get?_of_adj hadj
      have hnone := nearest?_eq_none h j j.2 ((hJ j).1 hj) i i.2 fun hin => hi ((hJ i).2 hin)
      rw [hl] at hnone
      cases hnone
    | some next =>
      obtain ⟨i, l⟩ := next
      obtain ⟨hi, hout, ⟨j, hj, hin, hl⟩, hleast⟩ := nearest?_eq_some h
      have hj' : (⟨j, hj⟩ : Fin subnets.length) ∈ J := (hJ _).2 hin
      have hi' : (⟨i, hi⟩ : Fin subnets.length) ∉ J := fun h => hout ((hJ _).1 h)
      obtain ⟨es, J', hgrown, hes⟩ := ih (i :: joined) (insert ⟨i, hi⟩ J)
        (fun k => by simp [hJ, Fin.ext_iff])
        (by rw [Finset.card_insert_of_notMem hi']; omega)
      refine ⟨(⟨j, hj⟩, ⟨i, hi⟩) :: es, J', .graft hj' hi' ?_ ?_ hgrown, .cons hl hes⟩
      · exact ⟨l, (get?_eq_some (i := ⟨j, hj⟩) (j := ⟨i, hi⟩) hl).links⟩
      · intro k hk m hm hadj p q p' q' a b hpq hpq' ha hb
        obtain ⟨c, hc⟩ := exists_get?_of_adj hadj
        rw [← d2_eq_of_edge_eq hpq hl ha, ← d2_eq_of_edge_eq hpq' hc hb]
        exact hleast k k.2 ((hJ k).1 hk) m m.2 (fun hin => hm ((hJ m).2 hin)) c hc

variable (s policy) in
/-- The spanning links join all subnets that can be joined to the first one, at the least total
cost. -/
theorem exists_minimumSpanning (h : 0 < subnets.length) :
    ∃ es, MinimumSpanning s policy subnets ⟨0, h⟩ es (ofSubnets s policy subnets).spanning ∧
      es.length + 1 = {i | (linkGraph s policy subnets).Reachable ⟨0, h⟩ i}.ncard := by
  obtain ⟨es, J', hgrown, hes⟩ := exists_grown s policy (subnets.length - 1) [0]
    {(⟨0, h⟩ : Fin subnets.length)} (fun i => by simp [Fin.ext_iff])
    (by rw [Finset.card_singleton]; omega)
  have hshort : List.Forall₂ (fun e l => ShortestLink s policy subnets e.1 e.2 l) es
      (ofSubnets s policy subnets).spanning := hes.imp fun _ _ hl => get?_eq_some hl
  refine ⟨es, ⟨hshort, hgrown.nodup, hgrown.exists_tree, ?_⟩, ?_⟩
  · intro M _ _ _ cost hcost weight hweight U hU
    have hmap : (edgesOf es).map (fun e => cost (weight e)) =
        (ofSubnets s policy subnets).spanning.map fun l => cost l.bridge.d2 := by
      rw [edgesOf, List.map_map]
      refine List.forall₂_eq_eq_eq ▸ List.forall₂_map_left_iff.2 (List.forall₂_map_right_iff.2 ?_)
      apply hshort.imp
      intro e l hl
      obtain ⟨m, hm, hwm⟩ := hweight e.1 e.2 ⟨l, hl.links⟩
      rw [Function.comp_apply, hwm]
      exact hm.cost_eq hl hcost
    rw [← hmap]
    refine hgrown.cost_le ?_ hU
    intro e he f hf hef
    induction e using Sym2.ind with
    | h i j =>
      induction f using Sym2.ind with
      | h k m =>
        obtain ⟨a, ha⟩ := exists_get?_of_adj he
        obtain ⟨b, hb⟩ := exists_get?_of_adj hf
        have hsa := get?_eq_some ha
        have hsb := get?_eq_some hb
        obtain ⟨a', ha', hwa⟩ := hweight i j he
        obtain ⟨b', hb', hwb⟩ := hweight k m hf
        rw [hwa, hwb, ha'.cost_eq hsa hcost, hb'.cost_eq hsb hcost]
        exact hcost _ _ hsa.links.finite hsb.links.finite
          (OrderedScalar.le_of_not_lt hsa.links.finite hsb.links.finite
            (hef i j k m a b rfl rfl ha hb))
  · have hverts : {i | (linkGraph s policy subnets).Reachable ⟨0, h⟩ i} = (J' : Set _) := by
      ext i
      exact hgrown.mem_iff_reachable.symm
    rw [hverts, Set.ncard_coe_finset, hgrown.card_eq, Finset.card_singleton, Nat.add_comm]

end LinkTable

end Ratsnest
