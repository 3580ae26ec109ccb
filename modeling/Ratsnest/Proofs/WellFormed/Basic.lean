import Ratsnest.Proofs.Journal.Unmarked
import Ratsnest.Proofs.NetList.Owners
import Ratsnest.Proofs.Synthesis.Appended

/-!
# Well-formed boards

What is expected of every board (`Content.WellFormed`), and the changes that keep it: changes of
marks, objects taken away with the rat lines that end on them (`Content.WellFormed.restrict`), a rat
line between copper objects (`Content.WellFormed.addRat`), and a pin listed on the only net that
lists it (`Content.WellFormed.addTerminal`).
-/

namespace Ratsnest

variable {α : Type}

/-! ## What is left of a board -/

/-- Objects that differ in marks alone end on the same objects. -/
theorem ConnectionIndex.anchorsOf_congr {o p : BoardObject α} (h : o.unmarked = p.unmarked) :
    anchorsOf o = anchorsOf p :=
  (congrArg anchorsOf h :)

/-- Whether a board is what is left of another one when objects are taken away, marks apart. -/
structure Content.Restricts (c d : Content α) : Prop where
  layers : d.layers = c.layers
  parts : d.store.parts = c.store.parts
  netlist : d.netlist = c.netlist
  nextId : c.store.nextId ≤ d.store.nextId
  objects : ∀ id o, d.store.get? id = some o →
    ∃ p, c.store.get? id = some p ∧ o.unmarked = p.unmarked

namespace Content.Restricts

variable {c d : Content α} {o p : BoardObject α}

theorem exists_of_mem (h : c.Restricts d) (ho : o ∈ d.store.toList) :
    ∃ p ∈ c.store.toList, o.unmarked = p.unmarked := by
  obtain ⟨id, hid⟩ := Store.mem_toList_iff.1 ho
  obtain ⟨p, hp, heq⟩ := h.objects id o hid
  exact ⟨p, Store.mem_toList_iff.2 ⟨id, hp⟩, heq⟩

theorem isCopper_eq (h : c.Restricts d) (heq : o.unmarked = p.unmarked) :
    d.isCopper o = c.isCopper p := by
  have hshape : o.shape = p.shape := (congrArg BoardObject.shape heq :)
  rw [isCopper, isCopper, BoardObject.isRat, BoardObject.isRat, hshape, h.layers]

theorem pinOf?_eq (h : c.Restricts d) (heq : o.unmarked = p.unmarked) :
    d.store.pinOf? o = c.store.pinOf? p := by
  have hpin : o.pin = p.pin := (congrArg BoardObject.pin heq :)
  have hpart : o.part = p.part := (congrArg BoardObject.part heq :)
  simp only [Store.pinOf?, Store.part?, hpin, hpart, h.parts]

/-- Copper that is left is still copper. -/
theorem mem_copper (h : c.Restricts d) (hc : Grounded c) {id : ObjectId}
    (hleft : d.store.contains id) (hid : ∃ p ∈ c.copper, p.id = id) :
    ∃ p ∈ d.copper, p.id = id := by
  obtain ⟨o, ho⟩ := Store.contains_iff.1 hleft
  obtain ⟨p, hp, heq⟩ := h.objects id o ho
  obtain ⟨q, hq, rfl⟩ := hid
  obtain rfl : q = p := Option.some.inj ((hc.get?_of_copper hq).symm.trans hp)
  refine ⟨o, mem_copper_iff.2 ⟨⟨q.id, ho⟩, ?_⟩, (congrArg BoardObject.id heq :)⟩
  rw [h.isCopper_eq heq]
  exact (mem_copper_iff.1 hq).2

end Content.Restricts

/-! ## What is expected of a board -/

/-- What is expected of every board. -/
structure Content.WellFormed (c : Content α) : Prop where
  /-- Objects are kept under their own ids. -/
  keyed : c.store.Keyed
  /-- Nets are kept under their own names. -/
  named : c.netlist.Named
  /-- The counter is beyond all ids. -/
  below : ∀ e ∈ c.store.objects.entries, e.1 < c.store.nextId
  /-- Only copper stands for pins. -/
  pads : ∀ o ∈ c.store.toList, o.isRat = false → (c.store.pinOf? o).isSome → c.isCopper o
  /-- No part owns a rat line. -/
  orphans : ∀ o ∈ c.store.toList, o.isRat → o.part = none
  /-- Rat lines end on copper. -/
  anchors : ∀ o ∈ c.store.toList, ∀ e ∈ ConnectionIndex.anchorsOf o, ∃ p ∈ c.copper, p.id = e.1
  /-- No two nets list the same pin. -/
  unshared : c.netlist.Unshared

namespace Content

instance (c : Content α) : Decidable c.WellFormed :=
  -- Only the anchors themselves are gone through, not all pairs of ids.
  have (o : BoardObject α) :
      Decidable (∀ e ∈ ConnectionIndex.anchorsOf o, ∃ p ∈ c.copper, p.id = e.1) :=
    List.decidableBAll (fun e : ObjectId × ObjectId => ∃ p ∈ c.copper, p.id = e.1) _
  decidable_of_iff
    (c.store.Keyed ∧ c.netlist.Named ∧ (∀ e ∈ c.store.objects.entries, e.1 < c.store.nextId) ∧
      (∀ o ∈ c.store.toList, o.isRat = false → (c.store.pinOf? o).isSome → c.isCopper o) ∧
      (∀ o ∈ c.store.toList, o.isRat → o.part = none) ∧
      (∀ o ∈ c.store.toList, ∀ e ∈ ConnectionIndex.anchorsOf o, ∃ p ∈ c.copper, p.id = e.1) ∧
      c.netlist.Unshared)
    ⟨fun ⟨keyed, named, below, pads, orphans, anchors, unshared⟩ =>
        ⟨keyed, named, below, pads, orphans, anchors, unshared⟩,
      fun ⟨keyed, named, below, pads, orphans, anchors, unshared⟩ =>
        ⟨keyed, named, below, pads, orphans, anchors, unshared⟩⟩

namespace WellFormed

variable {c d : Content α}

theorem grounded (h : c.WellFormed) : Grounded c := ⟨h.keyed, h.pads, h.anchors⟩

theorem get?_nextId (h : c.WellFormed) : c.store.get? c.store.nextId = none :=
  Store.get?_nextId h.below

/-! ## Objects taken away or marked -/

/-- A board stays well-formed when objects are taken away or marked, as long as the ends of the rat
lines that are left are left too. -/
theorem restrict (h : c.WellFormed) (hd : c.Restricts d)
    (hends : ∀ id o, d.store.get? id = some o → ∀ e ∈ ConnectionIndex.anchorsOf o,
      d.store.contains e.1) : d.WellFormed := by
  refine ⟨Store.keyed_iff.2 fun id o ho => ?keyed, hd.netlist ▸ h.named, fun e he => ?below,
    fun o ho hrat hpin => ?pads, fun o ho hrat => ?orphans, fun o ho e he => ?anchors,
    hd.netlist ▸ h.unshared⟩
  case keyed =>
    obtain ⟨p, hp, heq⟩ := hd.objects id o ho
    exact (congrArg BoardObject.id heq).trans (Store.keyed_iff.1 h.keyed id p hp)
  case below =>
    obtain ⟨p, hp, -⟩ := hd.objects e.1 e.2 (SortedMap.mem_entries_iff.1 he)
    exact UInt64.lt_of_lt_of_le (h.below (e.1, p) (SortedMap.mem_entries_iff.2 hp)) hd.nextId
  case pads =>
    obtain ⟨p, hp, heq⟩ := hd.exists_of_mem ho
    rw [hd.isCopper_eq heq]
    exact h.pads p hp ((congrArg BoardObject.isRat heq).symm.trans hrat) (hd.pinOf?_eq heq ▸ hpin)
  case orphans =>
    obtain ⟨p, hp, heq⟩ := hd.exists_of_mem ho
    exact (congrArg BoardObject.part heq).trans
      (h.orphans p hp ((congrArg BoardObject.isRat heq).symm.trans hrat))
  case anchors =>
    obtain ⟨id, hid⟩ := Store.mem_toList_iff.1 ho
    obtain ⟨p, hp, heq⟩ := hd.objects id o hid
    exact hd.mem_copper h.grounded (hends id o hid e he)
      (h.anchors p (Store.mem_toList_iff.2 ⟨id, hp⟩) e (ConnectionIndex.anchorsOf_congr heq ▸ he))

/-- Marks do not matter, and neither does how far the counter is beyond all ids. -/
theorem of_layout (h : c.WellFormed) (hlayers : d.layers = c.layers)
    (hnext : c.store.nextId ≤ d.store.nextId) (hlayout : d.unmarked.layout = c.unmarked.layout) :
    d.WellFormed := by
  obtain ⟨hobjects, hparts, hnetlist⟩ := layout_eq_iff.1 hlayout
  have hget (id : ObjectId) :
      (d.store.get? id).map (·.unmarked) = (c.store.get? id).map (·.unmarked) := by
    rw [← Store.get?_unmarked, ← Store.get?_unmarked]
    exact congrArg (SortedMap.get? · id) hobjects
  have hfrom (id : ObjectId) (o : BoardObject α) (ho : d.store.get? id = some o) :
      ∃ p, c.store.get? id = some p ∧ o.unmarked = p.unmarked := by
    have h := hget id
    rw [ho, Option.map_some] at h
    obtain ⟨p, hp, heq⟩ := Option.map_eq_some_iff.1 h.symm
    exact ⟨p, hp, heq.symm⟩
  refine h.restrict ⟨hlayers, hparts, hnetlist, hnext, hfrom⟩ fun id o ho e he => ?_
  obtain ⟨p, hp, heq⟩ := hfrom id o ho
  obtain ⟨q, hq, hqid⟩ := h.anchors p (Store.mem_toList_iff.2 ⟨id, hp⟩) e
    (ConnectionIndex.anchorsOf_congr heq ▸ he)
  have hback := hget e.1
  rw [← hqid, h.grounded.get?_of_copper hq, Option.map_some] at hback
  obtain ⟨r, hr, -⟩ := Option.map_eq_some_iff.1 hback
  rw [← hqid]
  exact Store.contains_of_get? hr

theorem unmarked (h : c.WellFormed) : c.unmarked.WellFormed :=
  h.of_layout rfl (UInt64.le_refl _) (by rw [unmarked_unmarked])

/-! ## A rat line more -/

/-- What is copper stays so when a rat line is placed. -/
theorem mem_copper_addRat (h : c.WellFormed) (l : RatLine α) {x : ObjectId}
    (hx : ∃ p ∈ c.copper, p.id = x) :
    ∃ p ∈ { c with store := (c.store.add (.rat l) none none).2, changed := true }.copper,
      p.id = x := by
  obtain ⟨p, hp, rfl⟩ := hx
  have hget := h.grounded.get?_of_copper hp
  refine ⟨p, mem_copper_iff.2 ⟨⟨p.id, ?_⟩, (mem_copper_iff.1 hp).2⟩, rfl⟩
  refine (Store.get?_add ..).trans ?_
  rw [if_neg, hget]
  intro hid
  rw [hid, h.get?_nextId] at hget
  cases hget

/-- A rat line may be placed between copper objects, as long as ids do not run out. -/
theorem addRat (h : c.WellFormed) {l : RatLine α} (hroom : c.store.nextId.toNat + 1 < UInt64.size)
    (hsource : ∃ p ∈ c.copper, p.id = l.anchor1) (htarget : ∃ p ∈ c.copper, p.id = l.anchor2) :
    { c with
      store := (c.store.add (.rat l) none none).2
      changed := true : Content α }.WellFormed := by
  have hmem {o : BoardObject α} (ho : o ∈ (c.store.add (.rat l) none none).2.toList) :
      o = { id := c.store.nextId, shape := .rat l } ∨ o ∈ c.store.toList := by
    rw [Store.toList_add h.below, List.mem_append, List.mem_singleton] at ho
    exact ho.symm
  refine ⟨h.keyed.insert _, h.named, Store.below_add h.below hroom _, fun o ho hrat hpin => ?pads,
    fun o ho hrat => ?orphans, fun o ho e he => h.mem_copper_addRat l ?anchors, h.unshared⟩
  case pads =>
    rcases hmem ho with rfl | ho
    · cases hrat
    · exact h.pads o ho hrat hpin
  case orphans =>
    rcases hmem ho with rfl | ho
    · rfl
    · exact h.orphans o ho hrat
  case anchors =>
    rcases hmem ho with rfl | ho
    · rcases (mem_anchorsOf_iff rfl).1 he with rfl | rfl
      · exact hsource
      · exact htarget
    · exact h.anchors o ho e he

/-! ## A listing more -/

/-- A terminal may be added to a net when no other net lists its pin. -/
theorem addTerminal (h : c.WellFormed) {net : String} {t : Terminal}
    (ht : ∀ other, c.netlist.Lists other t.key → other = net) :
    { c with netlist := c.netlist.addTerminal net t, changed := true : Content α }.WellFormed :=
  ⟨h.keyed, h.named.addTerminal net t, h.below, h.pads, h.orphans, h.anchors,
    h.unshared.addTerminal h.named ht⟩

end WellFormed

end Content

end Ratsnest
