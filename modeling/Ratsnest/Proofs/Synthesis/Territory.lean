import Ratsnest.Proofs.Synthesis.Aside

/-!
# What belongs to a net

The territory of a net is what crawls from its terminals discover.  On a tidy board joins do not
lead out of it (`Content.Tidy.mem_territory_iff`), and the links that the net still needs end in it
(`Content.Tidy.mem_territory_of_linksFor`).
-/

namespace Ratsnest

variable {α : Type}

/-- Boards whose objects are kept under their own ids, whose rat lines end on objects, and whose
counter is beyond all ids. -/
structure Content.Tidy (c : Content α) : Prop where
  keyed : c.store.Keyed
  anchored : ∀ o ∈ c.store.toList, ∀ e ∈ ConnectionIndex.anchorsOf o, c.store.contains e.1
  below : ∀ e ∈ c.store.objects.entries, e.1 < c.store.nextId

instance (c : Content α) : Decidable c.Tidy :=
  -- Only the anchors themselves are gone through, not all pairs of ids.
  have (o : BoardObject α) :
      Decidable (∀ e ∈ ConnectionIndex.anchorsOf o, c.store.contains e.1) :=
    List.decidableBAll (fun e : ObjectId × ObjectId => c.store.contains e.1) _
  decidable_of_iff
    (c.store.Keyed ∧
      (∀ o ∈ c.store.toList, ∀ e ∈ ConnectionIndex.anchorsOf o, c.store.contains e.1) ∧
      ∀ e ∈ c.store.objects.entries, e.1 < c.store.nextId)
    ⟨fun ⟨keyed, anchored, below⟩ => ⟨keyed, anchored, below⟩,
      fun ⟨keyed, anchored, below⟩ => ⟨keyed, anchored, below⟩⟩

variable [AngularScalar α]

namespace Content

variable (settings : Settings α) (policy : Policy) (c : Content α)

/-- What crawls from the terminals of a net discover. -/
def territory (m : Net) : List ObjectId :=
  (c.store.located m.terminals).flatMap fun x =>
    objectsOf ((ConnectionIndex.ofContent c).crawl (Extraction.rules settings) c.store [] x)

/-- The links along which a net gets connected. -/
def linksFor (m : Net) : List (Link α) :=
  Extraction.linksOf settings policy c.store
    (Extraction.ofTerminals settings c m.terminals).subnets

/-- The rat lines along these links. -/
def linesFor (m : Net) : List (RatLine α) := (c.linksFor settings policy m).map Link.toRat

/-- The number of terminals of a net with no object, and one more where pieces are left apart. -/
def missingFor (m : Net) : ℕ :=
  (Extraction.ofTerminals settings c m.terminals).missing +
    if (Extraction.ofTerminals settings c m.terminals).subnets.length ≤
      (c.linksFor settings policy m).length + 1 then 0 else 1

variable {settings policy c} {m n : Net} {x y id : ObjectId} {r : JoinRules α} {l : Link α}

/-- Joins lead to objects of the board. -/
theorem Tidy.contains_of_adjacent (hc : c.Tidy) (h : Adjacent c r c.store x y) :
    c.store.contains y := by
  have hlist {o : BoardObject α} (ho : o ∈ c.store.toList) : c.store.contains o.id := by
    obtain ⟨id, hid⟩ := Store.mem_toList_iff.1 ho
    obtain rfl := Store.keyed_iff.1 hc.keyed id o hid
    exact Store.contains_of_get? hid
  obtain ⟨k, h⟩ := h
  cases h with
  | copper _ _ h =>
    obtain ⟨-, ⟨p, hp, rfl, -⟩, -⟩ := copperJoined_iff.1 h
    exact hlist (List.mem_of_mem_filter hp)
  | internal _ _ h =>
    obtain ⟨part, pin, -, -, p, hp, rfl, -⟩ := h.pad
    exact hlist (List.mem_of_mem_filter hp)
  | toRat _ _ _ hp _ _ => exact hlist hp
  | @toAnchor o l _ ho hl _ hy =>
    have hmem : o ∈ c.store.toList := Store.mem_toList_iff.2 ⟨x, ho⟩
    rcases hy with rfl | rfl
    · exact hc.anchored o hmem _ ((mem_anchorsOf_iff hl).2 (.inl rfl))
    · exact hc.anchored o hmem _ ((mem_anchorsOf_iff hl).2 (.inr rfl))

theorem Tidy.contains_of_wired (hc : c.Tidy) (hx : c.store.contains x)
    (h : Wired c r x y) : c.store.contains y := by
  cases h with
  | refl => exact hx
  | tail _ h => exact hc.contains_of_adjacent h

omit [AngularScalar α] in
theorem Tidy.contains_of_located (hc : c.Tidy) {ts : List Terminal}
    (h : x ∈ c.store.located ts) : c.store.contains x := by
  obtain ⟨t, -, ht⟩ := List.mem_filterMap.1 h
  exact (hc.keyed.of_find? ht).1

/-- The territory of a net is what joins lead to from its terminals. -/
theorem Tidy.mem_territory_iff (hc : c.Tidy) : id ∈ c.territory settings m ↔
    ∃ x ∈ c.store.located m.terminals, Wired c (Extraction.rules settings) x id := by
  rw [territory, List.mem_flatMap]
  refine exists_congr fun x => and_congr_right fun hx => ⟨wired_of_mem_crawl, fun h => ?_⟩
  have hcontains := hc.contains_of_located hx
  exact mem_crawl_of_wired h hcontains (hc.contains_of_wired hcontains h)

/-- Rat lines that end outside the territory of a net are drawn aside of it. -/
theorem Tidy.aside (hc : c.Tidy) {ls : List (Link α)}
    (hroom : c.store.nextId.toNat + ls.length ≤ UInt64.size)
    (hends : ∀ l ∈ ls, l.source ∉ c.territory settings m ∧ l.target ∉ c.territory settings m) :
    Aside c (Extraction.rules settings) ls {x | x ∈ c.territory settings m} where
  below := hc.below
  room := hroom
  present x hx := by
    obtain ⟨y, hy, hyx⟩ := hc.mem_territory_iff.1 hx
    exact hc.contains_of_wired (hc.contains_of_located hy) hyx
  closed x hx y hxy := by
    obtain ⟨z, hz, hzx⟩ := hc.mem_territory_iff.1 hx
    exact hc.mem_territory_iff.2 ⟨z, hz, hzx.tail hxy⟩
  ends := hends

theorem Tidy.mem_territory_of_located (hc : c.Tidy) (h : x ∈ c.store.located m.terminals) :
    x ∈ c.territory settings m := hc.mem_territory_iff.2 ⟨x, h, .refl⟩

theorem Tidy.mem_territory_of_subnets (hc : c.Tidy) {p : Subnet}
    (hp : p ∈ (Extraction.ofTerminals settings c m.terminals).subnets) (hid : id ∈ p.objects) :
    id ∈ c.territory settings m :=
  hc.mem_territory_iff.2 (Extraction.exists_wired (Extraction.of_mem_objects hp hid).1)

/-- The links of a net end in its territory. -/
theorem Tidy.mem_territory_of_linksFor [OrderedScalar α] (hc : c.Tidy)
    (hl : l ∈ c.linksFor settings policy m) :
    l.source ∈ c.territory settings m ∧ l.target ∈ c.territory settings m := by
  obtain ⟨⟨p, hp, hsource⟩, q, hq, htarget⟩ := Extraction.mem_objects_of_linksOf hl
  exact ⟨hc.mem_territory_of_subnets hp hsource, hc.mem_territory_of_subnets hq htarget⟩

end Content

omit [AngularScalar α] in
/-- Stores with the same objects but for marks other than selection offer the same links. -/
theorem Store.linkable_congr {s t : Store α} (hmarks : s.unmarked = t.unmarked)
    {id : ObjectId} (hselected : (s.get? id).map (·.hasFlags .selected) =
      (t.get? id).map (·.hasFlags .selected)) : s.linkable id = t.linkable id := by
  have hshape : (s.get? id).map (·.shape) = (t.get? id).map (·.shape) := by
    have key (s : Store α) : (s.get? id).map (·.shape) = (s.unmarked.get? id).map (·.shape) := by
      rw [get?_unmarked, Option.map_map]
      rfl
    rw [key s, hmarks, ← key]
  rw [linkable, linkable]
  cases hs : s.get? id with
  | none =>
    rw [hs] at hshape
    rw [Option.map_none, Option.map_eq_none_iff.1 hshape.symm]
    rfl
  | some o =>
    rw [hs] at hshape hselected
    obtain ⟨p, hp, hpo⟩ := Option.map_eq_some_iff.1 hshape.symm
    rw [hp, Option.map_some, Option.map_some, Option.some.injEq] at hselected
    rw [hp, Option.map_some, Option.map_some, hpo, hselected]

end Ratsnest
