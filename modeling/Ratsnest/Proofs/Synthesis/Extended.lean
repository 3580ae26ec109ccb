import Ratsnest.Proofs.Subnet
import Ratsnest.Proofs.Synthesis.Drawn

/-!
# Boards with rat lines drawn

A regular board stays regular when rat lines between copper objects are drawn under unused ids
(`Regular.withRats`), and the only new joins are those between a new rat line and its ends
(`Placeable.of_adjacent_withRats`).  So the components that the new lines join become one, and the
others stay what they are.
-/

namespace Ratsnest

variable {α : Type} [AngularScalar α]

/-- The board with rat lines along links placed under new ids. -/
def Content.withRats (c : Content α) (ls : List (Link α)) : Content α :=
  { c with store := c.store.addRats ls }

/-- Whether `id` is given to the rat line along `l`. -/
def NewRat (c : Content α) (ls : List (Link α)) (id : ObjectId) (l : Link α) : Prop :=
  (id, l) ∈ (freshIds c.store.nextId ls.length).zip ls

omit [AngularScalar α] in
/-- Every link gets a rat line. -/
theorem exists_newRat (c : Content α) {ls : List (Link α)} {l : Link α} (hl : l ∈ ls) :
    ∃ id, NewRat c ls id l := by
  obtain ⟨k, hk, rfl⟩ := List.mem_iff_getElem.1 hl
  refine ⟨(freshIds c.store.nextId ls.length).get ⟨k, by rwa [length_freshIds]⟩,
    List.mem_iff_getElem.2 ⟨k, by simpa using hk, ?_⟩⟩
  exact List.getElem_zip

omit [AngularScalar α] in
/-- Every new id is given to one. -/
theorem exists_link_of_mem_freshIds {next id : ObjectId} {ls : List (Link α)}
    (hid : id ∈ freshIds next ls.length) : ∃ l, (id, l) ∈ (freshIds next ls.length).zip ls := by
  obtain ⟨k, hk, rfl⟩ := List.mem_iff_getElem.1 hid
  have hk' : k < ls.length := by rwa [length_freshIds] at hk
  exact ⟨ls[k], List.mem_iff_getElem.2 ⟨k, by simpa using hk', List.getElem_zip⟩⟩

/-- Links whose rat lines get unused ids. -/
structure Placeable (c : Content α) (ls : List (Link α)) : Prop where
  length_le : ls.length ≤ UInt64.size
  unused : ∀ id ∈ freshIds c.store.nextId ls.length, c.store.get? id = none

/-- Links that can be drawn: their ids are unused, and they end on copper. -/
structure Drawable (c : Content α) (ls : List (Link α)) : Prop where
  length_le : ls.length ≤ UInt64.size
  unused : ∀ id ∈ freshIds c.store.nextId ls.length, c.store.get? id = none
  ends : ∀ l ∈ ls, (∃ p ∈ c.copper, p.id = l.source) ∧ ∃ p ∈ c.copper, p.id = l.target

omit [AngularScalar α] in
/-- Ids from the counter on are unused if it is beyond all ids and does not wrap around. -/
theorem Store.get?_freshIds {s : Store α} (hbelow : ∀ e ∈ s.objects.entries, e.1 < s.nextId)
    {n : ℕ} (hn : s.nextId.toNat + n ≤ UInt64.size) : ∀ id ∈ freshIds s.nextId n, s.get? id = none := by
  intro id hid
  apply Option.eq_none_iff_forall_ne_some.2
  intro o ho
  have hlt : id < s.nextId := hbelow (id, o) (SortedMap.mem_entries_iff.2 ho)
  have hsub := (mem_freshIds_iff (by omega)).1 hid
  have hid64 := id.toNat_lt
  rw [UInt64.lt_iff_toNat_lt] at hlt
  rw [UInt64.toNat_sub] at hsub
  rw [UInt64.size] at hn
  omega

omit [AngularScalar α] in
theorem Store.get?_nextId {s : Store α} (hbelow : ∀ e ∈ s.objects.entries, e.1 < s.nextId) :
    s.get? s.nextId = none :=
  get?_freshIds hbelow (n := 1) s.nextId.toNat_lt _ List.mem_cons_self

omit [AngularScalar α] in
/-- So lines can be placed if there are ids enough. -/
theorem Placeable.of_below {c : Content α} {ls : List (Link α)}
    (hbelow : ∀ e ∈ c.store.objects.entries, e.1 < c.store.nextId)
    (hroom : c.store.nextId.toNat + ls.length ≤ UInt64.size) : Placeable c ls :=
  ⟨by omega, Store.get?_freshIds hbelow hroom⟩

section Store

variable {s : Store α} {id : ObjectId} {o : BoardObject α}

/-- Drawing leaves what was there, and adds the rat lines. -/
theorem Store.get?_addRats_iff {ls : List (Link α)} (hls : ls.length ≤ UInt64.size)
    (hunused : ∀ id ∈ freshIds s.nextId ls.length, s.get? id = none) :
    (s.addRats ls).get? id = some o ↔ s.get? id = some o ∨
      ∃ l, (id, l) ∈ (freshIds s.nextId ls.length).zip ls ∧ o = { id, shape := .rat l.toRat } := by
  have hdrawn (id : ObjectId) (l : Link α)
      (hl : (id, l) ∈ (freshIds s.nextId ls.length).zip ls) :
      (s.addRats ls).get? id = some { id, shape := .rat l.toRat } :=
    (List.forall₂_iff_zip.1 (s.get?_addRats hls)).2 hl
  by_cases hid : id ∈ freshIds s.nextId ls.length
  · rw [hunused id hid]
    obtain ⟨l, hl⟩ := exists_link_of_mem_freshIds hid
    constructor
    · intro h
      rw [hdrawn id l hl] at h
      exact .inr ⟨l, hl, (Option.some.inj h).symm⟩
    · rintro (h | ⟨m, hm, rfl⟩)
      · cases h
      · exact hdrawn id m hm
  · rw [get?_addRats_of_notMem ls s hid]
    refine ⟨.inl, ?_⟩
    rintro (h | ⟨l, hl, -⟩)
    · exact h
    · exact absurd (List.of_mem_zip hl).1 hid

end Store

theorem not_isRat_of_touches {r : JoinRules α} {s t : Shape α} (h : r.touches s t) :
    t.isRat = false := by
  simp only [JoinRules.touches, Bool.and_eq_true, Bool.not_eq_true'] at h
  exact h.1.1.1.2

namespace Placeable

variable {c : Content α} {r : JoinRules α} {ls : List (Link α)} {x y id : ObjectId}
  {o : BoardObject α} {l : Link α}

theorem get?_withRats_iff (h : Placeable c ls) : (c.withRats ls).store.get? id = some o ↔
    c.store.get? id = some o ∨ ∃ l, NewRat c ls id l ∧ o = { id, shape := .rat l.toRat } :=
  Store.get?_addRats_iff h.length_le h.unused

theorem get?_of_newRat (h : Placeable c ls) (hl : NewRat c ls id l) :
    (c.withRats ls).store.get? id = some { id, shape := .rat l.toRat } :=
  h.get?_withRats_iff.2 (.inr ⟨l, hl, rfl⟩)

omit [AngularScalar α] in
theorem get?_eq_none (h : Placeable c ls) (hl : NewRat c ls id l) : c.store.get? id = none :=
  h.unused id (List.of_mem_zip hl).1

/-- What is no rat line was there before. -/
theorem get?_of_not_isRat (h : Placeable c ls) (hrat : o.isRat = false)
    (ho : (c.withRats ls).store.get? id = some o) : c.store.get? id = some o := by
  rcases h.get?_withRats_iff.1 ho with ho | ⟨l, -, rfl⟩
  · exact ho
  · cases hrat

theorem mem_copper_withRats_iff (h : Placeable c ls) :
    o ∈ (c.withRats ls).copper ↔ o ∈ c.copper := by
  rw [Content.mem_copper_iff, Content.mem_copper_iff]
  refine and_congr_left fun hcopper => exists_congr fun id => ?_
  have hcopper : c.isCopper o := hcopper
  refine ⟨h.get?_of_not_isRat (Content.not_isRat_of_isCopper hcopper), fun ho => ?_⟩
  exact h.get?_withRats_iff.2 (.inl ho)

/-- What was joined stays joined. -/
theorem adjacent_withRats (h : Placeable c ls) (hxy : Adjacent c r c.store x y) :
    Adjacent (c.withRats ls) r (c.withRats ls).store x y := by
  have hold {id : ObjectId} {o : BoardObject α} (ho : c.store.get? id = some o) :
      (c.withRats ls).store.get? id = some o := h.get?_withRats_iff.2 (.inl ho)
  obtain ⟨k, hxy⟩ := hxy
  cases hxy with
  | copper ho hrat hj =>
    obtain ⟨hne, ⟨p, hp, hid, hmeet⟩, q, hq, ht⟩ := copperJoined_iff.1 hj
    exact ⟨_, .copper (hold ho) hrat (copperJoined_iff.2
      ⟨hne, ⟨p, h.mem_copper_withRats_iff.2 hp, hid, hmeet⟩, q, hold hq, ht⟩)⟩
  | internal ho hrat hj =>
    obtain ⟨part, pin, hpart, hpin, p, hp, hrest⟩ := hj.pad
    exact ⟨_, .internal (hold ho) hrat
      ⟨hj.ne, part, pin, hpart, hpin, p, h.mem_copper_withRats_iff.2 hp, hrest⟩⟩
  | toRat ho hrat hr hp hl hx =>
    obtain ⟨id, hid⟩ := Store.mem_toList_iff.1 hp
    exact ⟨_, .toRat (hold ho) hrat hr (Store.mem_toList_iff.2 ⟨id, hold hid⟩) hl hx⟩
  | toAnchor ho hl hr hy => exact ⟨_, .toAnchor (hold ho) hl hr hy⟩

theorem wired_withRats (h : Placeable c ls) (hxy : Wired c r x y) :
    Wired (c.withRats ls) r x y :=
  Relation.ReflTransGen.mono (fun _ _ => h.adjacent_withRats) _ _ hxy

/-- The new joins are those between a new rat line and its ends. -/
theorem of_adjacent_withRats (h : Placeable c ls)
    (hxy : Adjacent (c.withRats ls) r (c.withRats ls).store x y) : Adjacent c r c.store x y ∨
      (∃ l, NewRat c ls x l ∧ (y = l.source ∨ y = l.target)) ∨
      ∃ l, NewRat c ls y l ∧ (x = l.source ∨ x = l.target) := by
  obtain ⟨k, hxy⟩ := hxy
  cases hxy with
  | copper ho hrat hj =>
    obtain ⟨hne, ⟨p, hp, hid, hmeet⟩, q, hq, ht⟩ := copperJoined_iff.1 hj
    exact .inl ⟨_, .copper (h.get?_of_not_isRat hrat ho) hrat (copperJoined_iff.2
      ⟨hne, ⟨p, h.mem_copper_withRats_iff.1 hp, hid, hmeet⟩, q,
        h.get?_of_not_isRat (not_isRat_of_touches ht) hq, ht⟩)⟩
  | internal ho hrat hj =>
    obtain ⟨part, pin, hpart, hpin, p, hp, hrest⟩ := hj.pad
    exact .inl ⟨_, .internal (h.get?_of_not_isRat hrat ho) hrat
      ⟨hj.ne, part, pin, hpart, hpin, p, h.mem_copper_withRats_iff.1 hp, hrest⟩⟩
  | toRat ho hrat hr hp hl hx =>
    obtain ⟨id, hid⟩ := Store.mem_toList_iff.1 hp
    rcases h.get?_withRats_iff.1 hid with hid | ⟨m, hm, rfl⟩
    · exact .inl ⟨_, .toRat (h.get?_of_not_isRat hrat ho) hrat hr
        (Store.mem_toList_iff.2 ⟨id, hid⟩) hl hx⟩
    · obtain rfl := Shape.rat.inj hl
      exact .inr (.inr ⟨m, hm, hx.imp Eq.symm Eq.symm⟩)
  | toAnchor ho hl hr hy =>
    rcases h.get?_withRats_iff.1 ho with ho | ⟨m, hm, rfl⟩
    · exact .inl ⟨_, .toAnchor ho hl hr hy⟩
    · obtain rfl := Shape.rat.inj hl
      exact .inr (.inl ⟨m, hm, hy⟩)

end Placeable

omit [AngularScalar α] in
theorem Drawable.placeable {c : Content α} {ls : List (Link α)} (h : Drawable c ls) :
    Placeable c ls := ⟨h.length_le, h.unused⟩

namespace Drawable

variable {c : Content α} {ls : List (Link α)} {id : ObjectId} {o : BoardObject α} {l : Link α}

theorem isNode (h : Drawable c ls) {x : ObjectId} (hx : IsNode c x) :
    IsNode (c.withRats ls) x := by
  obtain ⟨o, ho, hkind⟩ := hx
  exact ⟨o, h.placeable.get?_withRats_iff.2 (.inl ho), hkind⟩

theorem holds_withRats (h : Drawable c ls) (id : ObjectId) :
    (c.withRats ls).store.holds id = c.store.holds id := by
  rw [Bool.eq_iff_iff]
  simp only [Store.holds, Option.any_eq_true, Bool.not_eq_true']
  constructor
  · rintro ⟨o, ho, hrat⟩
    exact ⟨o, h.placeable.get?_of_not_isRat hrat ho, hrat⟩
  · rintro ⟨o, ho, hrat⟩
    exact ⟨o, h.placeable.get?_withRats_iff.2 (.inl ho), hrat⟩

end Drawable

variable {c : Content α} {r : JoinRules α} {ls : List (Link α)} {x y : ObjectId}

/-- Drawing keeps a board regular. -/
theorem Regular.withRats (hc : Regular c r) (h : Drawable c ls) : Regular (c.withRats ls) r where
  keyed e he := by
    obtain ⟨id, o⟩ := e
    rcases h.placeable.get?_withRats_iff.1 (SortedMap.mem_entries_iff.1 he) with ho | ⟨l, -, rfl⟩
    · exact hc.grounded.id_eq ho
    · rfl
  pads o ho hrat hpin := by
    obtain ⟨id, ho⟩ := Store.mem_toList_iff.1 ho
    have hparts : (c.withRats ls).store.pinOf? o = c.store.pinOf? o := by
      simp only [Store.pinOf?, Store.part?, Content.withRats, Store.parts_addRats]
    rw [hparts] at hpin
    exact hc.pads o (Store.mem_toList_iff.2 ⟨id, h.placeable.get?_of_not_isRat hrat ho⟩) hrat hpin
  anchors o ho e he := by
    obtain ⟨id, ho⟩ := Store.mem_toList_iff.1 ho
    suffices ∃ p ∈ c.copper, p.id = e.1 by
      obtain ⟨p, hp, hpe⟩ := this
      exact ⟨p, h.placeable.mem_copper_withRats_iff.2 hp, hpe⟩
    rcases h.placeable.get?_withRats_iff.1 ho with ho | ⟨l, hl, rfl⟩
    · exact hc.anchors o (Store.mem_toList_iff.2 ⟨id, ho⟩) e he
    · obtain ⟨hsource, htarget⟩ := h.ends l (List.of_mem_zip hl).2
      rcases (mem_anchorsOf_iff rfl).1 he with rfl | rfl
      · exact hsource
      · exact htarget
  touches_symm o ho p hp :=
    hc.touches_symm o (h.placeable.mem_copper_withRats_iff.1 ho) p
      (h.placeable.mem_copper_withRats_iff.1 hp)
  boxes_symm o ho p hp :=
    hc.boxes_symm o (h.placeable.mem_copper_withRats_iff.1 ho) p
      (h.placeable.mem_copper_withRats_iff.1 hp)

namespace Drawable

/-- A new rat line joins the ends of its link. -/
theorem wired_ends (hc : Regular c r) (hr : r.followRats) (h : Drawable c ls) {l : Link α}
    (hl : l ∈ ls) : Wired (c.withRats ls) r l.source l.target := by
  obtain ⟨id, hid⟩ := exists_newRat c hl
  obtain ⟨⟨p, hp, hps⟩, -⟩ := h.ends l hl
  have hsource : (c.withRats ls).store.get? l.source = some p :=
    h.placeable.get?_withRats_iff.2 (.inl (hps ▸ hc.grounded.get?_of_copper hp))
  have hrat := Content.not_isRat_of_isCopper (Content.mem_copper_iff.1 hp).2
  have hfirst : Adjacent (c.withRats ls) r (c.withRats ls).store l.source id :=
    ⟨_, .toRat hsource hrat hr (Store.mem_toList_iff.2 ⟨id, h.placeable.get?_of_newRat hid⟩) rfl
      (.inl rfl)⟩
  have hsecond : Adjacent (c.withRats ls) r (c.withRats ls).store id l.target :=
    ⟨_, .toAnchor (h.placeable.get?_of_newRat hid) rfl hr (.inr rfl)⟩
  exact .tail (.single hfirst) hsecond

end Drawable

/-! ## The merged component -/

/-- Whether drawing along `ls` merges the components in `U` into that of `x₀`. -/
structure Merges (c : Content α) (r : JoinRules α) (ls : List (Link α)) (U : Set ObjectId)
    (x₀ : ObjectId) : Prop where
  /-- `U` is made of whole components. -/
  closed : ∀ x ∈ U, ∀ y, Adjacent c r c.store x y → y ∈ U
  /-- The links end in `U`. -/
  ends : ∀ l ∈ ls, l.source ∈ U ∧ l.target ∈ U
  start : x₀ ∈ U
  /-- The new rat lines join all of `U`. -/
  joined : ∀ x ∈ U, Wired (c.withRats ls) r x₀ x

namespace Merges

variable {U : Set ObjectId} {x₀ : ObjectId}

/-- From `U` the joins lead only to `U` and to the new rat lines. -/
theorem mem_of_wired (hU : Merges c r ls U x₀) (h : Drawable c ls) (hx : x ∈ U)
    (hxy : Wired (c.withRats ls) r x y) : y ∈ U ∨ ∃ l, NewRat c ls y l := by
  induction hxy with
  | refl => exact .inl hx
  | @tail y z _ hyz ih =>
    rcases h.placeable.of_adjacent_withRats hyz with hyz | ⟨l, hl, hz⟩ | ⟨l, hl, -⟩
    · rcases ih with hy | ⟨l, hl⟩
      · exact .inl (hU.closed y hy z hyz)
      · obtain ⟨o, ho⟩ := exists_of_adjacent hyz
        rw [h.placeable.get?_eq_none hl] at ho
        cases ho
    · obtain ⟨hsource, htarget⟩ := hU.ends l (List.of_mem_zip hl).2
      rcases hz with rfl | rfl
      · exact .inl hsource
      · exact .inl htarget
    · exact .inr ⟨l, hl⟩

theorem mem_of_wired_of_isNode (hU : Merges c r ls U x₀) (h : Drawable c ls) (hx : x ∈ U)
    (hy : IsNode c y) (hxy : Wired (c.withRats ls) r x y) : y ∈ U := by
  rcases hU.mem_of_wired h hx hxy with hy' | ⟨l, hl⟩
  · exact hy'
  · obtain ⟨o, ho, -⟩ := hy
    rw [h.placeable.get?_eq_none hl] at ho
    cases ho

/-- From elsewhere the new joins lead nowhere that the old ones do not. -/
theorem wired_of_notMem (hU : Merges c r ls U x₀) (hc : Regular c r) (h : Drawable c ls)
    (hnode : IsNode c x) (hx : x ∉ U) (hxy : Wired (c.withRats ls) r x y) : Wired c r x y := by
  suffices Wired c r x y ∧ y ∉ U from this.1
  induction hxy with
  | refl => exact ⟨.refl, hx⟩
  | @tail y z _ hyz ih =>
    obtain ⟨hxy, hy⟩ := ih
    have hynode := hc.grounded.isNode_of_wired hnode hxy
    rcases h.placeable.of_adjacent_withRats hyz with hyz | ⟨l, hl, -⟩ | ⟨l, hl, hz⟩
    · exact ⟨.tail hxy hyz, fun hz => hy (hU.closed z hz y (hc.adjacent_symm hynode hyz))⟩
    · obtain ⟨o, ho, -⟩ := hynode
      rw [h.placeable.get?_eq_none hl] at ho
      cases ho
    · obtain ⟨hsource, htarget⟩ := hU.ends l (List.of_mem_zip hl).2
      rcases hz with rfl | rfl
      · exact absurd hsource hy
      · exact absurd htarget hy

/-- The component of `x₀` has become `U` with the new rat lines. -/
theorem wired_start_iff (hU : Merges c r ls U x₀) (h : Drawable c ls) :
    Wired (c.withRats ls) r x₀ y ∧ (c.withRats ls).store.holds y ↔ y ∈ U ∧ c.store.holds y := by
  rw [h.holds_withRats]
  refine and_congr_left fun hy => ⟨fun hxy => ?_, hU.joined y⟩
  rcases hU.mem_of_wired h hU.start hxy with hy' | ⟨l, hl⟩
  · exact hy'
  · rw [Store.holds, h.placeable.get?_eq_none hl] at hy
    cases hy

/-- The other components are what they were. -/
theorem wired_iff_of_notMem (hU : Merges c r ls U x₀) (hc : Regular c r) (h : Drawable c ls)
    (hnode : IsNode c x) (hx : x ∉ U) :
    Wired (c.withRats ls) r x y ∧ (c.withRats ls).store.holds y ↔
      Wired c r x y ∧ c.store.holds y := by
  rw [h.holds_withRats]
  exact and_congr_left fun _ => ⟨hU.wired_of_notMem hc h hnode hx, h.placeable.wired_withRats⟩

open Classical in
/-- Of objects in different components, `x₀` first, those are left as first ones that are not
merged with it. -/
theorem firsts_eq (hU : Merges c r ls U x₀) (hc : Regular c r) (h : Drawable c ls)
    {xs : List ObjectId} (hnode : ∀ x ∈ x₀ :: xs, IsNode c x)
    (hxs : (x₀ :: xs).Pairwise fun y x => ¬Wired c r y x) :
    firsts (Wired (c.withRats ls) r) [] (x₀ :: xs) = x₀ :: xs.filter fun x => !decide (x ∈ U) := by
  have hnode' : ∀ x ∈ xs, IsNode c x := fun x hx => hnode x (List.mem_cons_of_mem x₀ hx)
  rw [firsts_cons_of_not_related (by simp)]
  refine congrArg (x₀ :: ·) (firsts_eq_filter (fun x => decide (x ∈ U)) ?_ ?_ ?_)
  · intro x _ hx
    exact ⟨x₀, List.mem_cons_self, hU.joined x (of_decide_eq_true hx)⟩
  · intro x hx hxU y hy hyx
    obtain rfl := List.mem_singleton.1 hy
    exact hxU (decide_eq_true (hU.mem_of_wired_of_isNode h hU.start (hnode' x hx) hyx))
  · refine (List.pairwise_cons.1 hxs).2.imp_of_mem fun {y x} hy hx hyx hxU hyx' => hyx ?_
    have hxy := (hc.withRats h).wired_symm (h.isNode (hnode' y hy)) hyx'
    exact hc.wired_symm (hnode' x hx)
      (hU.wired_of_notMem hc h (hnode' x hx) (fun h => hxU (decide_eq_true h)) hxy)

end Merges

end Ratsnest
