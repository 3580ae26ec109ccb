import Ratsnest.Proofs.Crawl.Joined
import Ratsnest.Proofs.Crawl.Spread
import Ratsnest.Proofs.Marks
import Ratsnest.Scalar.Float

/-!
# What a crawl discovers

A crawl discovers exactly the objects that paths of joins lead to outside the visited ones
(`ConnectionIndex.mem_crawl_iff`).  `ConnectionIndex.crawl_exact` adds in which way each object is
discovered: once, from an object discovered before, by a join there really is.

The look-ups may be older than the store: objects taken away since are joined to nothing, and
nothing is joined to them.
-/

namespace Ratsnest

universe u

variable {α : Type u} [AngularScalar α]

/-- Whether a crawl may go from `x` to `y` in one step. -/
def Adjacent (c : Content α) (r : JoinRules α) (s : Store α) (x y : ObjectId) : Prop :=
  ∃ k, Joined c r s x y k

/-- What a crawl from `seed` has to return when `visited` are visited already. -/
structure DiscoversExactly (c : Content α) (r : JoinRules α) (s : Store α)
    (visited : List ObjectId) (seed : ObjectId) (ds : List Discovery) : Prop where
  /-- The discovered objects are those that paths of joins lead to. -/
  mem_iff : ∀ id, id ∈ objectsOf ds ↔ Reached s.contains (Adjacent c r s) visited seed id
  /-- Each one is discovered once. -/
  nodup : (objectsOf ds).Nodup
  /-- The first one is the seed. -/
  head : ds.head? = some ⟨seed, none, .start⟩
  /-- Every other one is joined, in the way reported, to one discovered before. -/
  traced : ∀ {pre post : List Discovery} {d : Discovery}, ds = pre ++ d :: post → pre ≠ [] →
    ∃ x ∈ objectsOf pre, d.arrivedFrom = some x ∧ Joined c r s x d.object d.kind
  /-- The visited objects grow by as many as there are discoveries. -/
  growth : (visited ++ objectsOf ds).toFinset.card = visited.toFinset.card + ds.length

namespace ConnectionIndex

variable {c : Content α} {r : JoinRules α} {s : Store α} {visited : List ObjectId}
  {seed : ObjectId}

theorem leads_joins : Leads ((ofContent c).joins r s) = Adjacent c r s := by
  funext x y
  exact propext (exists_congr fun _ => mem_joins_iff)

theorem crawl_of_fresh (hs : s.contains seed) (hv : seed ∉ visited) (i : ConnectionIndex α) :
    i.crawl r s visited seed =
      ⟨seed, none, .start⟩ :: spread s.contains (i.joins r s) s.size [seed] (seed :: visited) := by
  rw [crawl, if_pos (by simp [hs, hv])]

theorem crawl_of_stale (h : ¬(s.contains seed ∧ seed ∉ visited)) (i : ConnectionIndex α) :
    i.crawl r s visited seed = [] := by
  rw [crawl, if_neg]
  simpa using h

omit [AngularScalar α] in
/-- A crawl may take as many objects from its queue as there are. -/
theorem roundsLeft_seed_le (hs : s.contains seed) (visited : List ObjectId) :
    roundsLeft s.ids [seed] (seed :: visited) ≤ s.size := by
  have hseed : seed ∈ s.ids := Store.mem_ids.2 hs
  have hsub : s.ids \ (seed :: visited).toFinset ⊆ s.ids.erase seed := by
    intro id hid
    rw [Finset.mem_sdiff, List.mem_toFinset, List.mem_cons, not_or] at hid
    exact Finset.mem_erase.2 ⟨hid.2.1, hid.1⟩
  have hcard := Finset.card_le_card hsub
  have hpos := Finset.card_pos.2 ⟨seed, hseed⟩
  rw [Finset.card_erase_of_mem hseed] at hcard
  rw [roundsLeft, List.length_singleton, ← s.card_ids]
  omega

/-- A crawl discovers exactly what paths of joins lead to outside the visited objects. -/
theorem mem_crawl_iff (hs : s.contains seed) (hv : seed ∉ visited) {id : ObjectId} :
    id ∈ objectsOf ((ofContent c).crawl r s visited seed) ↔
      Reached s.contains (Adjacent c r s) visited seed id := by
  rw [crawl_of_fresh hs hv, objectsOf_cons, List.mem_cons, ← leads_joins]
  constructor
  · rintro (rfl | h)
    · exact .seed
    · refine reached_of_mem_spread _ _ _ (List.subset_cons_self seed visited) (fun x hx => ?_) _ h
      rw [List.mem_singleton.1 hx]
      exact .seed
  · intro h
    induction h with
    | seed => exact .inl rfl
    | @step x y _ hxy hp hy ih =>
      have hmem := mem_of_joins_spread (fun _ => Store.mem_ids.2) s.size [seed] (seed :: visited)
        (roundsLeft_seed_le hs visited)
        (by simpa only [List.singleton_append, List.mem_cons] using ih) hxy hp
      rw [List.mem_append, List.mem_cons] at hmem
      tauto

/-- Joins lead from what a crawl discovers to no object that it leaves out. -/
theorem mem_crawl_of_adjacent {x y : ObjectId}
    (hx : x ∈ objectsOf ((ofContent c).crawl r s visited seed)) (hxy : Adjacent c r s x y)
    (hy : s.contains y) :
    y ∈ visited ∨ y ∈ objectsOf ((ofContent c).crawl r s visited seed) := by
  by_cases hseed : s.contains seed ∧ seed ∉ visited
  · rw [mem_crawl_iff hseed.1 hseed.2] at hx ⊢
    by_cases hv : y ∈ visited
    · exact .inl hv
    · exact .inr (.step hx hxy hy hv)
  · rw [crawl_of_stale hseed] at hx
    cases hx

/-- A crawl discovers each object once, and no visited one. -/
theorem nodup_crawl (i : ConnectionIndex α) (visited : List ObjectId) (seed : ObjectId) :
    (objectsOf (i.crawl r s visited seed)).Nodup ∧
      ∀ id ∈ objectsOf (i.crawl r s visited seed), s.contains id ∧ id ∉ visited := by
  by_cases h : s.contains seed ∧ seed ∉ visited
  · obtain ⟨hs, hv⟩ := h
    rw [crawl_of_fresh hs hv, objectsOf_cons]
    obtain ⟨hn, hm⟩ := nodup_spread s.contains (i.joins r s) s.size [seed] (seed :: visited)
    refine ⟨List.nodup_cons.2 ⟨fun h => (hm seed h).2 List.mem_cons_self, hn⟩, fun id hid => ?_⟩
    rcases List.mem_cons.1 hid with rfl | hid
    · exact ⟨hs, hv⟩
    · exact ⟨(hm id hid).1, fun h => (hm id hid).2 (List.mem_cons_of_mem _ h)⟩
  · rw [crawl_of_stale h]
    exact ⟨List.nodup_nil, fun _ h => absurd h List.not_mem_nil⟩

/-- The visited objects grow by what a crawl discovers. -/
theorem card_visited_crawl (i : ConnectionIndex α) (visited : List ObjectId) (seed : ObjectId) :
    (visited ++ objectsOf (i.crawl r s visited seed)).toFinset.card =
      visited.toFinset.card + (i.crawl r s visited seed).length := by
  obtain ⟨hn, hm⟩ := nodup_crawl (r := r) (s := s) i visited seed
  have hdisj : Disjoint visited.toFinset (objectsOf (i.crawl r s visited seed)).toFinset :=
    Finset.disjoint_right.2 fun id hid hv =>
      (hm id (List.mem_toFinset.1 hid)).2 (List.mem_toFinset.1 hv)
  rw [List.toFinset_append, Finset.card_union_of_disjoint hdisj,
    List.toFinset_card_of_nodup hn, objectsOf, List.length_map]

/-- A crawl from an object that is there and not visited discovers exactly what paths of joins
lead to.  It comes to an end: more rounds than there are objects find nothing more.  And it does
not matter which objects are marked, as they are one by one while they are discovered. -/
theorem crawl_exact (c : Content α) (r : JoinRules α) (s : Store α) (visited : List ObjectId)
    (seed : ObjectId) (hs : s.contains seed) (hv : seed ∉ visited) :
    DiscoversExactly c r s visited seed ((ofContent c).crawl r s visited seed) ∧
      (∀ n, s.size ≤ n →
        spread s.contains ((ofContent c).joins r s) n [seed] (seed :: visited) =
          spread s.contains ((ofContent c).joins r s) s.size [seed] (seed :: visited)) ∧
      ∀ (m : Marking) (ds : List Discovery),
        (ofContent c).crawl r (s.mark m ds) visited seed =
          (ofContent c).crawl r s visited seed := by
  refine ⟨⟨fun _ => mem_crawl_iff hs hv, (nodup_crawl _ _ _).1, ?_, ?_,
    card_visited_crawl _ _ _⟩, fun n hn => ?_, fun m ds => ?_⟩
  · rw [crawl_of_fresh hs hv, List.head?_cons]
  · intro pre post d h hpre
    rw [crawl_of_fresh hs hv] at h
    cases pre with
    | nil => exact absurd rfl hpre
    | cons e pre =>
      obtain ⟨rfl, hrest⟩ := List.cons.inj h
      obtain ⟨x, hx, hfrom, hjoin⟩ := spread_traced _ _ _ hrest
      exact ⟨x, hx, hfrom, mem_joins_iff.1 hjoin⟩
  · have hle := roundsLeft_seed_le hs visited
    exact spread_eq_of_roundsLeft_le (fun _ => Store.mem_ids.2) _ _ _ _ (hle.trans hn) hle
  · rw [← crawl_unmarked, Store.unmarked_mark, crawl_unmarked]

/-- A board with two round pads and a rat line between them. -/
def twoPads : Content Float :=
  let pad (x : Float) : Shape Float := .padstack ⟨⟨x, 0⟩, .circle 5, [0], 0, []⟩
  let line : Shape Float := .rat ⟨⟨5, 0⟩, ⟨95, 0⟩, 0, 0, 0, 1, false⟩
  { (Content.empty 1 "pads" : Content Float) with
    store := ((Store.empty.insert { id := 0, shape := pad 0 }).insert
      { id := 1, shape := pad 100 }).insert { id := 2, shape := line } }

/-- With the second pad visited, a crawl from the first one ends at the rat line. -/
theorem crawl_exact_twoPads :
    twoPads.store.contains 0 ∧ (0 : ObjectId) ∉ ([1] : List ObjectId) ∧
      objectsOf ((ofContent twoPads).crawl ⟨0, false, true⟩ twoPads.store [1] 0) = [0, 2] ∧
      DiscoversExactly twoPads ⟨0, false, true⟩ twoPads.store [1] 0
        ((ofContent twoPads).crawl ⟨0, false, true⟩ twoPads.store [1] 0) :=
  ⟨by decide +kernel, by decide, by decide +kernel,
    (crawl_exact twoPads ⟨0, false, true⟩ twoPads.store [1] 0 (by decide +kernel)
      (by decide)).1⟩

end ConnectionIndex

end Ratsnest
