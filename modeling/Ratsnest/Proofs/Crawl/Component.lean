import Mathlib.Logic.Relation
import Ratsnest.Proofs.Crawl.Exact

/-!
# Components

On a grounded board (`Grounded`) joins lead from copper objects and rat lines to such objects alone,
and on a regular one (`Regular`) they go both ways too.  So a crawl that leaves out whole components
discovers exactly the component of its seed (`Regular.mem_crawl_iff`).
-/

namespace Ratsnest

universe u

variable {α : Type u} [AngularScalar α]

/-- Whether the box of one shape, grown by the bloat, meets the indexed box of another. -/
def JoinRules.boxesMeet (r : JoinRules α) (s t : Shape α) : Bool :=
  match s.box?, t.box? with
  | some b, some d => (SpatialIndex.ordered d).intersects (SpatialIndex.ordered (b.inflate r.bloat))
  | _, _ => false

/-- Boards on which joins do not leave the copper objects and the rat lines. -/
structure Grounded (c : Content α) : Prop where
  /-- Objects are kept under their own ids. -/
  keyed : ∀ e ∈ c.store.objects.entries, e.2.id = e.1
  /-- Only copper stands for pins. -/
  pads : ∀ o ∈ c.store.toList, o.isRat = false → (c.store.pinOf? o).isSome → c.isCopper o
  /-- Rat lines end on copper. -/
  anchors : ∀ o ∈ c.store.toList, ∀ e ∈ ConnectionIndex.anchorsOf o, ∃ p ∈ c.copper, p.id = e.1

/-- Boards on which contact goes both ways, and pins and ends of rat lines are copper.  The objects
may be kept under other ids than theirs. -/
structure Mutual (c : Content α) (r : JoinRules α) : Prop where
  /-- Only copper stands for pins. -/
  pads : ∀ o ∈ c.store.toList, o.isRat = false → (c.store.pinOf? o).isSome → c.isCopper o
  /-- Rat lines end on copper. -/
  anchors : ∀ o ∈ c.store.toList, ∀ e ∈ ConnectionIndex.anchorsOf o, ∃ p ∈ c.copper, p.id = e.1
  /-- Touching goes both ways. -/
  touches_symm : ∀ o ∈ c.copper, ∀ p ∈ c.copper,
    r.touches o.shape p.shape = r.touches p.shape o.shape
  /-- So does the test of boxes. -/
  boxes_symm : ∀ o ∈ c.copper, ∀ p ∈ c.copper,
    r.boxesMeet o.shape p.shape = r.boxesMeet p.shape o.shape

/-- Boards on which joins go both ways. -/
structure Regular (c : Content α) (r : JoinRules α) : Prop extends Mutual c r where
  /-- Objects are kept under their own ids. -/
  keyed : ∀ e ∈ c.store.objects.entries, e.2.id = e.1

instance (c : Content α) (r : JoinRules α) : Decidable (Mutual c r) :=
  -- Only the anchors themselves are gone through, not all pairs of ids.
  have (o : BoardObject α) :
      Decidable (∀ e ∈ ConnectionIndex.anchorsOf o, ∃ p ∈ c.copper, p.id = e.1) :=
    List.decidableBAll (fun e : ObjectId × ObjectId => ∃ p ∈ c.copper, p.id = e.1) _
  decidable_of_iff
    ((∀ o ∈ c.store.toList, o.isRat = false → (c.store.pinOf? o).isSome → c.isCopper o) ∧
      (∀ o ∈ c.store.toList, ∀ e ∈ ConnectionIndex.anchorsOf o, ∃ p ∈ c.copper, p.id = e.1) ∧
      (∀ o ∈ c.copper, ∀ p ∈ c.copper, r.touches o.shape p.shape = r.touches p.shape o.shape) ∧
      ∀ o ∈ c.copper, ∀ p ∈ c.copper, r.boxesMeet o.shape p.shape = r.boxesMeet p.shape o.shape)
    ⟨fun ⟨pads, anchors, touches, boxes⟩ => ⟨pads, anchors, touches, boxes⟩,
      fun ⟨pads, anchors, touches, boxes⟩ => ⟨pads, anchors, touches, boxes⟩⟩

instance (c : Content α) (r : JoinRules α) : Decidable (Regular c r) :=
  decidable_of_iff (Mutual c r ∧ ∀ e ∈ c.store.objects.entries, e.2.id = e.1)
    ⟨fun ⟨contact, keyed⟩ => ⟨contact, keyed⟩, fun h => ⟨h.toMutual, h.keyed⟩⟩

theorem Regular.grounded {c : Content α} {r : JoinRules α} (hc : Regular c r) : Grounded c :=
  ⟨hc.keyed, hc.pads, hc.anchors⟩

/-- Whether an id is that of a copper object or a rat line. -/
def IsNode (c : Content α) (x : ObjectId) : Prop :=
  ∃ o, c.store.get? x = some o ∧ (c.isCopper o ∨ o.isRat)

/-- Whether joins lead from one object to another, directly or through others. -/
def Wired (c : Content α) (r : JoinRules α) : ObjectId → ObjectId → Prop :=
  Relation.ReflTransGen (Adjacent c r c.store)

/-- What is reached, joins lead to. -/
theorem wired_of_reached {c : Content α} {r : JoinRules α} {present : ObjectId → Bool}
    {visited : List ObjectId} {x y : ObjectId}
    (h : Reached present (Adjacent c r c.store) visited x y) : Wired c r x y := by
  induction h with
  | seed => exact .refl
  | step _ hyz _ _ ih => exact ih.tail hyz

/-- A crawl discovers what joins lead to. -/
theorem wired_of_mem_crawl {c : Content α} {r : JoinRules α} {visited : List ObjectId}
    {x y : ObjectId} (h : y ∈ objectsOf ((ConnectionIndex.ofContent c).crawl r c.store visited x)) :
    Wired c r x y := by
  by_cases hx : c.store.contains x ∧ x ∉ visited
  · exact wired_of_reached ((ConnectionIndex.mem_crawl_iff hx.1 hx.2).1 h)
  · rw [ConnectionIndex.crawl_of_stale hx] at h
    cases h

/-- Joins lead away from existing objects alone. -/
theorem exists_of_adjacent {c : Content α} {r : JoinRules α} {s : Store α} {x y : ObjectId}
    (h : Adjacent c r s x y) : ∃ o, s.get? x = some o := by
  obtain ⟨k, h⟩ := h
  cases h with
  | copper ho => exact ⟨_, ho⟩
  | internal ho => exact ⟨_, ho⟩
  | toRat ho => exact ⟨_, ho⟩
  | toAnchor ho => exact ⟨_, ho⟩

/-- Shapes that touch have a distance that the bloat bridges. -/
theorem JoinRules.exists_bridge_of_touches {r : JoinRules α} {s t : Shape α}
    (h : r.touches s t) : ∃ b, s.bridge? .precise t = some b ∧ b.d2 ≤ r.bloat * r.bloat := by
  rw [touches, Bool.and_eq_true, Option.any_eq_true] at h
  obtain ⟨-, b, hb, hle⟩ := h
  exact ⟨b, hb, of_decide_eq_true hle⟩

theorem boxesMeet_iff {r : JoinRules α} {s t : Shape α} : r.boxesMeet s t ↔
    ∃ b, s.box? = some b ∧ ∃ d, t.box? = some d ∧
      (SpatialIndex.ordered d).intersects (SpatialIndex.ordered (b.inflate r.bloat)) := by
  rw [JoinRules.boxesMeet]
  cases s.box? <;> cases t.box? <;> simp

omit [AngularScalar α] in
theorem Content.mem_copper_iff {c : Content α} {o : BoardObject α} :
    o ∈ c.copper ↔ (∃ id, c.store.get? id = some o) ∧ c.isCopper o := by
  rw [copper, List.mem_filter, Store.mem_toList_iff]

omit [AngularScalar α] in
theorem Content.not_isRat_of_isCopper {c : Content α} {o : BoardObject α} (h : c.isCopper o) :
    o.isRat = false := by
  rw [isCopper, Bool.and_eq_true, Bool.not_eq_true'] at h
  exact h.1

omit [AngularScalar α] in
theorem IsNode.mem_copper {c : Content α} {x : ObjectId} {o : BoardObject α} (hx : IsNode c x)
    (h : c.store.get? x = some o) (hrat : o.isRat = false) : o ∈ c.copper := by
  obtain ⟨o', ho', hkind⟩ := hx
  obtain rfl := Option.some.inj (h.symm.trans ho')
  refine Content.mem_copper_iff.2 ⟨⟨x, h⟩, hkind.resolve_right ?_⟩
  rw [hrat]
  exact Bool.false_ne_true

omit [AngularScalar α] in
theorem mem_anchorsOf_iff {o : BoardObject α} {l : RatLine α} (hl : o.shape = .rat l)
    {e : ObjectId × ObjectId} : e ∈ ConnectionIndex.anchorsOf o ↔
      e = (l.anchor1, o.id) ∨ e = (l.anchor2, o.id) := by
  simp [ConnectionIndex.anchorsOf, hl]

theorem copperJoined_iff {c : Content α} {r : JoinRules α} {s : Store α} {x y : ObjectId}
    {o : BoardObject α} : CopperJoined c r s x o y ↔ y ≠ x ∧
      (∃ p ∈ c.copper, p.id = y ∧ r.boxesMeet o.shape p.shape) ∧
      ∃ p, s.get? y = some p ∧ r.touches o.shape p.shape := by
  constructor
  · rintro ⟨hne, ⟨b, hb, p, hp, hid, d, hd, hmeet⟩, ht⟩
    exact ⟨hne, ⟨p, hp, hid, boxesMeet_iff.2 ⟨b, hb, d, hd, hmeet⟩⟩, ht⟩
  · rintro ⟨hne, ⟨p, hp, hid, hmeet⟩, ht⟩
    obtain ⟨b, hb, d, hd, hmeet⟩ := boxesMeet_iff.1 hmeet
    exact ⟨hne, ⟨b, hb, p, hp, hid, d, hd, hmeet⟩, ht⟩

namespace Grounded

variable {c : Content α} {r : JoinRules α} {x y : ObjectId} {o p : BoardObject α}

omit [AngularScalar α] in
theorem id_eq (hc : Grounded c) (h : c.store.get? x = some o) : o.id = x :=
  hc.keyed _ (SortedMap.mem_entries_iff.2 h)

omit [AngularScalar α] in
theorem get?_id (hc : Grounded c) (h : o ∈ c.store.toList) : c.store.get? o.id = some o := by
  obtain ⟨id, hid⟩ := Store.mem_toList_iff.1 h
  rwa [hc.id_eq hid]

omit [AngularScalar α] in
theorem get?_of_copper (hc : Grounded c) (h : o ∈ c.copper) : c.store.get? o.id = some o :=
  hc.get?_id (List.mem_of_mem_filter h)

omit [AngularScalar α] in
theorem isNode_of_copper (hc : Grounded c) (h : o ∈ c.copper) : IsNode c o.id :=
  ⟨o, hc.get?_of_copper h, .inl (Content.mem_copper_iff.1 h).2⟩

omit [AngularScalar α] in
theorem anchor_mem_copper (hc : Grounded c) (h : c.store.get? x = some o) {l : RatLine α}
    (hl : o.shape = .rat l) (hy : y = l.anchor1 ∨ y = l.anchor2) : ∃ p ∈ c.copper, p.id = y := by
  have hmem : o ∈ c.store.toList := Store.mem_toList_iff.2 ⟨x, h⟩
  rcases hy with rfl | rfl
  · exact hc.anchors o hmem (l.anchor1, o.id) ((mem_anchorsOf_iff hl).2 (.inl rfl))
  · exact hc.anchors o hmem (l.anchor2, o.id) ((mem_anchorsOf_iff hl).2 (.inr rfl))

/-- Joins lead to copper objects and rat lines alone. -/
theorem isNode_of_adjacent (hc : Grounded c) (h : Adjacent c r c.store x y) : IsNode c y := by
  obtain ⟨k, h⟩ := h
  cases h with
  | copper _ _ h =>
    obtain ⟨-, ⟨p, hp, rfl, -⟩, -⟩ := copperJoined_iff.1 h
    exact hc.isNode_of_copper hp
  | internal _ _ h =>
    obtain ⟨part, pin, -, -, p, hp, rfl, -⟩ := h.pad
    exact hc.isNode_of_copper hp
  | @toRat o p l _ _ _ hp hl _ =>
    refine ⟨p, hc.get?_id hp, .inr ?_⟩
    rw [BoardObject.isRat, hl]
    rfl
  | toAnchor ho hl _ hy =>
    obtain ⟨p, hp, rfl⟩ := hc.anchor_mem_copper ho hl hy
    exact hc.isNode_of_copper hp

theorem isNode_of_wired (hc : Grounded c) (hx : IsNode c x) (h : Wired c r x y) :
    IsNode c y := by
  induction h with
  | refl => exact hx
  | tail _ hyz _ => exact hc.isNode_of_adjacent hyz

end Grounded

namespace Regular

variable {c : Content α} {r : JoinRules α} {x y : ObjectId}

/-- Joins go both ways. -/
theorem adjacent_symm (hc : Regular c r) (hx : IsNode c x) (h : Adjacent c r c.store x y) :
    Adjacent c r c.store y x := by
  obtain ⟨k, h⟩ := h
  cases h with
  | @copper o _ ho hrat h =>
    obtain ⟨hne, ⟨p, hp, rfl, hmeet⟩, q, hq, ht⟩ := copperJoined_iff.1 h
    have hpy := hc.grounded.get?_of_copper hp
    obtain rfl := Option.some.inj (hpy.symm.trans hq)
    have hocu := hx.mem_copper ho hrat
    refine ⟨_, .copper hpy (Content.not_isRat_of_isCopper (Content.mem_copper_iff.1 hp).2)
      (copperJoined_iff.2 ⟨hne.symm, ⟨o, hocu, hc.grounded.id_eq ho, ?_⟩, o, ho, ?_⟩)⟩
    · rwa [hc.boxes_symm p hp o hocu]
    · rwa [hc.touches_symm p hp o hocu]
  | @internal o _ ho hrat h =>
    obtain ⟨part, pin, hpart, hpin, p, hp, rfl, hpart', hpin'⟩ := h.pad
    exact ⟨_, .internal (hc.grounded.get?_of_copper hp)
      (Content.not_isRat_of_isCopper (Content.mem_copper_iff.1 hp).2)
      ⟨h.ne.symm, part, pin, hpart', hpin', o, hx.mem_copper ho hrat, hc.grounded.id_eq ho, hpart,
        hpin⟩⟩
  | toRat _ _ hr hp hl hx =>
    exact ⟨_, .toAnchor (hc.grounded.get?_id hp) hl hr (hx.imp Eq.symm Eq.symm)⟩
  | @toAnchor o l _ ho hl hr hy =>
    obtain ⟨p, hp, rfl⟩ := hc.grounded.anchor_mem_copper ho hl hy
    have hid := hc.grounded.id_eq ho
    subst hid
    exact ⟨_, .toRat (hc.grounded.get?_of_copper hp)
      (Content.not_isRat_of_isCopper (Content.mem_copper_iff.1 hp).2) hr
      (Store.mem_toList_iff.2 ⟨_, ho⟩) hl (hy.imp Eq.symm Eq.symm)⟩

theorem wired_symm (hc : Regular c r) (hx : IsNode c x) (h : Wired c r x y) :
    Wired c r y x := by
  induction h with
  | refl => exact .refl
  | tail hxy hyz ih =>
    exact .head (hc.adjacent_symm (hc.grounded.isNode_of_wired hx hxy) hyz) ih

/-- A crawl that leaves out whole components discovers the component of its seed. -/
theorem mem_crawl_iff (hc : Regular c r) {visited : List ObjectId} {seed id : ObjectId}
    (hvisited : ∀ x ∈ visited, ∀ y, Adjacent c r c.store x y → y ∈ visited)
    (hseed : IsNode c seed) (hfresh : seed ∉ visited) :
    id ∈ objectsOf ((ConnectionIndex.ofContent c).crawl r c.store visited seed) ↔
      Wired c r seed id := by
  have hpresent {y : ObjectId} (hy : IsNode c y) : c.store.contains y := by
    obtain ⟨o, ho, -⟩ := hy
    exact Store.contains_of_get? ho
  rw [ConnectionIndex.mem_crawl_iff (hpresent hseed) hfresh]
  refine ⟨wired_of_reached, fun h => ?_⟩
  suffices Reached c.store.contains (Adjacent c r c.store) visited seed id ∧ id ∉ visited from
    this.1
  induction h with
  | refl => exact ⟨.seed, hfresh⟩
  | @tail x y hx hxy ih =>
    have hnode := hc.grounded.isNode_of_wired hseed hx
    have hy : y ∉ visited := fun hy =>
      ih.2 (hvisited y hy x (hc.adjacent_symm hnode hxy))
    exact ⟨.step ih.1 hxy (hpresent (hc.grounded.isNode_of_adjacent hxy)) hy, hy⟩

end Regular

end Ratsnest
