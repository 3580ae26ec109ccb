import Ratsnest.Proofs.RipUp.Walk
import Ratsnest.Proofs.WellFormed.History

/-!
# Taking objects away from sound boards

No rat line ends on a rat line, so rat lines may be taken away (`Board.Sound.deleteRats`).  And the
crawls of a net that is ripped up come from an object to the rat lines that end on it, so these are
taken away with it (`Board.Sound.ripUp`).
-/

namespace Ratsnest

variable {α : Type}

/-! ## Taking several objects away -/

/-- Whether a board is another one without the objects under some ids. -/
structure Content.Without (c : Content α) (ids : List ObjectId) (d : Content α) : Prop where
  layers : d.layers = c.layers
  parts : d.store.parts = c.store.parts
  netlist : d.netlist = c.netlist
  nextId : d.store.nextId = c.store.nextId
  get? : ∀ id, d.store.get? id = if id ∈ ids then none else c.store.get? id

namespace Content

variable {c d e : Content α} {ids : List ObjectId}

theorem Without.nil (c : Content α) : c.Without [] c :=
  ⟨rfl, rfl, rfl, rfl, fun _ => (if_neg List.not_mem_nil).symm⟩

theorem Without.cons {i : ObjectId} (h : c.Without [i] d) (h' : d.Without ids e) :
    c.Without (i :: ids) e := by
  refine ⟨h'.layers.trans h.layers, h'.parts.trans h.parts, h'.netlist.trans h.netlist,
    h'.nextId.trans h.nextId, fun id => ?_⟩
  rw [h'.get?, h.get?]
  by_cases hid : id = i <;> by_cases hids : id ∈ ids <;> simp [hid, hids]

/-- Objects may be taken away together with the rat lines that end on them. -/
theorem WellFormed.without (hc : c.WellFormed) (h : c.Without ids d)
    (hends : ∀ id o, c.store.get? id = some o → ∀ e ∈ ConnectionIndex.anchorsOf o,
      e.1 ∈ ids → id ∈ ids) : d.WellFormed := by
  have hget {id : ObjectId} {o : BoardObject α} (ho : d.store.get? id = some o) :
      id ∉ ids ∧ c.store.get? id = some o := by
    rw [h.get?] at ho
    split at ho
    · cases ho
    · exact ⟨‹_›, ho⟩
  have hd : c.Restricts d := ⟨h.layers, h.parts, h.netlist, h.nextId ▸ UInt64.le_refl _,
    fun id o ho => ⟨o, (hget ho).2, rfl⟩⟩
  refine hc.restrict hd fun id o ho e he => ?_
  obtain ⟨hid, ho⟩ := hget ho
  obtain ⟨p, hp, hpid⟩ := hc.anchors o (Store.mem_toList_iff.2 ⟨id, ho⟩) e he
  refine Store.contains_iff.2 ⟨p, ?_⟩
  rw [h.get?, if_neg fun hmem => hid (hends id o ho e he hmem), ← hpid]
  exact hc.grounded.get?_of_copper hp

end Content

namespace Board

variable {b : Board α}

theorem without_remove (b : Board α) (id : ObjectId) :
    b.content.Without [id] (b.execute (.remove id)).content := by
  refine ⟨rfl, rfl, rfl, rfl, fun other => ?_⟩
  simp only [List.mem_singleton]
  exact b.content.store.get?_remove id other

theorem without_ripUpOne (b : Board α) (id : ObjectId) :
    b.content.Without [id] (b.ripUpOne id).content := by
  refine ⟨rfl, rfl, rfl, rfl, fun other => ?_⟩
  simp only [List.mem_singleton]
  exact b.get?_ripUpOne id other

theorem Underway.ripUpOne (h : b.Underway) (id : ObjectId) : (b.ripUpOne id).Underway := by
  have hmarked : (b.updateStore (·.changeFlags id .none .found)).Underway := by
    refine ⟨h.opened, h.traced.congr ?_ rfl ⟨rfl, UInt64.le_refl _⟩⟩
    have hmarks := b.content.store.unmarked_changeFlags id .none .found
    exact Content.layout_eq_iff.2 ⟨congrArg Store.objects hmarks, rfl, rfl⟩
  exact hmarked.execute trivial

/-- Objects are taken away one by one. -/
theorem without_foldl {remove : Board α → ObjectId → Board α}
    (hwithout : ∀ (b : Board α) id, b.content.Without [id] (remove b id).content) (b : Board α)
    (ids : List ObjectId) : b.content.Without ids (ids.foldl remove b).content := by
  induction ids generalizing b with
  | nil => exact .nil b.content
  | cons id ids ih => exact (hwithout b id).cons (ih (remove b id))

theorem without_removeAll (b : Board α) (description : String) (ids : List ObjectId) :
    b.content.Without ids (b.removeAll description ids).content :=
  without_foldl without_remove (b.begin description) ids

/-- The step in which this is done stays under way. -/
theorem underway_foldl {remove : Board α → ObjectId → Board α}
    (hunderway : ∀ (b : Board α) id, b.Underway → (remove b id).Underway)
    (hwithout : ∀ (b : Board α) id, b.content.Without [id] (remove b id).content) (h : b.Underway)
    (ids : List ObjectId) : (ids.foldl remove b).Underway ∧
      b.content.Without ids (ids.foldl remove b).content := by
  refine ⟨?_, without_foldl hwithout b ids⟩
  induction ids generalizing b with
  | nil => exact h
  | cons id ids ih => exact ih (hunderway b id h)

namespace Sound

/-! ## Rat lines -/

theorem deleteRats (h : b.Sound) (selectedOnly : Bool) : (b.deleteRats selectedOnly).2.Sound := by
  obtain ⟨hunderway, hwithout⟩ := underway_foldl
    (fun _ id hb => hb.execute (e := .remove id) trivial) without_remove
    (h.begin "Delete rat lines")
    ((b.content.store.rats.filter fun o => !selectedOnly || o.hasFlags .selected).map (·.id))
  refine hunderway.commit (h.wellFormed.without hwithout fun id o ho e he hmem => ?_)
  -- What is taken away is no copper, so no rat line ends on it.
  obtain ⟨p, hp, hpid⟩ := h.wellFormed.anchors o (Store.mem_toList_iff.2 ⟨id, ho⟩) e he
  obtain ⟨q, hq, hqid⟩ := List.mem_map.1 hmem
  obtain ⟨hq, hrat⟩ := List.mem_filter.1 (List.mem_of_mem_filter hq)
  have hpq := h.wellFormed.grounded.get?_of_copper hp
  rw [hpid, ← hqid, h.wellFormed.grounded.get?_id hq] at hpq
  obtain rfl := Option.some.inj hpq
  rw [Content.not_isRat_of_isCopper (Content.mem_copper_iff.1 hp).2] at hrat
  cases hrat

/-! ## Marks -/

theorem clearFlags (h : b.Sound) (f : Flags) : (b.clearFlags f).2.Sound :=
  h.updateStore (f := (·.clearFlags f)) (b.content.store.unmarked_clearFlags f)

end Sound

end Board

/-! ## What a net is connected to -/

section Connected

variable [AngularScalar α] {c : Content α} {r : JoinRules α} {s : Store α} {x y : ObjectId}

/-- Crawls that share their visited objects miss nothing that is joined to a discovery. -/
theorem ConnectionIndex.mem_crawlAll_of_adjacent {visited seeds : List ObjectId}
    (hvisited : ∀ x ∈ visited, ∀ y, Adjacent c r s x y → s.contains y → y ∈ visited)
    (hx : x ∈ objectsOf ((ofContent c).crawlAll r s visited seeds)) (hxy : Adjacent c r s x y)
    (hy : s.contains y) :
    y ∈ visited ∨ y ∈ objectsOf ((ofContent c).crawlAll r s visited seeds) := by
  induction seeds generalizing visited with
  | nil => cases hx
  | cons seed seeds ih =>
    rw [crawlAll, objectsOf_append, List.mem_append] at hx ⊢
    rcases hx with hx | hx
    · exact (mem_crawl_of_adjacent hx hxy hy).imp_right .inl
    · have hgrown : ∀ x ∈ visited ++ objectsOf ((ofContent c).crawl r s visited seed), ∀ y,
          Adjacent c r s x y → s.contains y →
            y ∈ visited ++ objectsOf ((ofContent c).crawl r s visited seed) := by
        intro x hx y hxy hy
        rw [List.mem_append] at hx ⊢
        rcases hx with hx | hx
        · exact .inl (hvisited x hx y hxy hy)
        · exact mem_crawl_of_adjacent hx hxy hy
      rcases ih hgrown hx with hy | hy
      · rw [List.mem_append] at hy
        exact hy.imp_right .inl
      · exact .inr (.inr hy)

omit [AngularScalar α] in
/-- After marking, what no part owns is doomed where it is discovered or was marked before. -/
theorem Board.isDoomed_mark (s : Store α) (ds : List Discovery) (id : ObjectId) :
    isDoomed (s.mark { set := .found, clear := .none } ds) id =
      (s.get? id).any fun o =>
        o.part.isNone && (decide (id ∈ objectsOf ds) || o.hasFlags .found) := by
  induction ds generalizing s with
  | nil => simp [Store.mark, isDoomed]
  | cons d ds ih =>
    have hstep : s.mark { set := .found, clear := .none } (d :: ds) =
        (s.changeFlags d.object .found .none).mark { set := .found, clear := .none } ds := by
      simp [Store.mark]
    rw [hstep, ih, Store.changeFlags, Store.get?_modify, objectsOf_cons]
    by_cases hid : id = d.object
    · have hset (o : BoardObject α) : (o.changeFlags .found .none).hasFlags .found = true :=
        Flags.contains_change_set o.flags .found
      have hpart (o : BoardObject α) : (o.changeFlags .found .none).part = o.part := rfl
      rw [if_pos hid, Option.any_map]
      simp [hid, hset, hpart]
    · rw [if_neg hid]
      simp [hid]

end Connected

namespace Board

variable [AngularScalar α] {b b' : Board α} {settings : Settings α} {name : String}

/-- Among the objects connected to a net, a rat line that ends on a doomed object is doomed too. -/
theorem isDoomed_of_anchor (hb : b.content.WellFormed)
    (hclear : ∀ o ∈ b.content.store.toList, o.hasFlags .found = false) (ts : List Terminal)
    {id : ObjectId} {o : BoardObject α} (ho : b.content.store.get? id = some o)
    {e : ObjectId × ObjectId} (he : e ∈ ConnectionIndex.anchorsOf o) :
    let s := b.content.store.mark { set := .found, clear := .none } (b.connected settings ts)
    isDoomed s e.1 → isDoomed s id := by
  intro s hdoomed
  have hmem : o ∈ b.content.store.toList := Store.mem_toList_iff.2 ⟨id, ho⟩
  have hid := hb.grounded.id_eq ho
  rw [isDoomed_mark] at hdoomed ⊢
  obtain ⟨p, hp, hfound⟩ := (Option.any_eq_true _ _).1 hdoomed
  rw [hclear p (Store.mem_toList_iff.2 ⟨e.1, hp⟩), Bool.or_false, Bool.and_eq_true,
    decide_eq_true_iff] at hfound
  obtain ⟨q, hq, hqid⟩ := hb.anchors o hmem e he
  have hpq := hb.grounded.get?_of_copper hq
  rw [hqid, hp] at hpq
  obtain rfl := Option.some.inj hpq
  obtain ⟨l, hl⟩ : ∃ l, o.shape = .rat l := by
    cases hs : o.shape with
    | rat l => exact ⟨l, rfl⟩
    | _ => simp [ConnectionIndex.anchorsOf, hs] at he
  have hends : l.anchor1 = e.1 ∨ l.anchor2 = e.1 := by
    rcases (mem_anchorsOf_iff hl).1 he with rfl | rfl
    · exact .inl rfl
    · exact .inr rfl
  -- The crawl that has come to the object goes on to the rat line.
  have hjoin : Adjacent b.content (Extraction.rules settings) b.content.store e.1 id :=
    ⟨.rat, hid ▸ .toRat hp (Content.not_isRat_of_isCopper (Content.mem_copper_iff.1 hq).2) rfl
      hmem hl hends⟩
  have hconnected : id ∈ objectsOf (b.connected settings ts) :=
    (ConnectionIndex.mem_crawlAll_of_adjacent (fun _ h => absurd h List.not_mem_nil) hfound.2
      hjoin (Store.contains_of_get? ho)).resolve_left List.not_mem_nil
  have horphan : o.part = none := hb.orphans o hmem (by rw [BoardObject.isRat, hl]; rfl)
  rw [ho, Option.any_some, horphan, decide_eq_true hconnected]
  rfl

namespace Sound

theorem markNet (h : b.Sound) {set clear : Flags} {n : ℕ}
    (hrun : b.markNet settings name set clear = .ok (n, b')) : b'.Sound := by
  cases hnet : b.content.net name with
  | error e =>
    rw [Board.markNet, hnet] at hrun
    cases hrun
  | ok net =>
    rw [Board.markNet, hnet] at hrun
    cases hrun
    exact h.updateStore (Store.unmarked_mark ..)

/-- What no part owns of the objects connected to a net is taken away. -/
theorem ripUpConnected (h : b.Sound)
    (hclear : ∀ o ∈ b.content.store.toList, o.hasFlags .found = false) (ts : List Terminal) :
    let b' := b.updateStore (·.mark { set := .found, clear := .none } (b.connected settings ts))
    (((b'.content.store.objects.keys.filter (isDoomed b'.content.store)).foldl Board.ripUpOne
      (b'.begin "Rip up net")).commit).Sound := by
  intro b'
  have h' : b'.Sound := h.updateStore (Store.unmarked_mark ..)
  obtain ⟨hunderway, hwithout⟩ := underway_foldl (fun _ id hb => hb.ripUpOne id) without_ripUpOne
    (h'.begin "Rip up net") (b'.content.store.objects.keys.filter (isDoomed b'.content.store))
  refine hunderway.commit (h'.wellFormed.without hwithout fun id o ho e he hmem => ?_)
  have hback : (b.content.store.get? id).map (·.unmarked) = some o.unmarked := by
    rw [← Store.get?_unmarked, ← Store.unmarked_mark, Store.get?_unmarked]
    exact congrArg (Option.map (·.unmarked)) ho
  obtain ⟨p, hp, heq⟩ := Option.map_eq_some_iff.1 hback
  have hdoomed := (List.mem_filter.1 hmem).2
  exact List.mem_filter.2 ⟨SortedMap.mem_keys_iff.2 (Store.contains_of_get? ho),
    isDoomed_of_anchor h.wellFormed hclear ts hp (ConnectionIndex.anchorsOf_congr heq ▸ he)
      hdoomed⟩

theorem ripUp (h : b.Sound) {n : ℕ} (hrun : b.ripUp settings name = .ok (n, b')) : b'.Sound := by
  have hcleared : (b.updateStore (·.clearFlags .found)).Sound :=
    h.updateStore (f := (·.clearFlags .found)) (b.content.store.unmarked_clearFlags .found)
  have hclear : ∀ o ∈ (b.updateStore (·.clearFlags .found)).content.store.toList,
      o.hasFlags .found = false := by
    intro o ho
    obtain ⟨id, hid⟩ := Store.mem_toList_iff.1 ho
    obtain ⟨p, -, rfl⟩ := Option.map_eq_some_iff.1
      ((b.content.store.get?_clearFlags .found id).symm.trans hid)
    exact Flags.contains_change_clear p.flags .found
  cases hnet : b.content.net name with
  | error e =>
    rw [ripUp_eq, hnet] at hrun
    cases hrun
  | ok net =>
    rw [ripUp_eq, hnet] at hrun
    cases hrun
    exact (hcleared.ripUpConnected hclear net.terminals).updateStore (f := (·.clearFlags .found))
      (Store.unmarked_clearFlags ..)

end Sound

end Board

end Ratsnest
