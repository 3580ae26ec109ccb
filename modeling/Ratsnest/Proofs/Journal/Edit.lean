import Ratsnest.Journal
import Ratsnest.Proofs.Store

/-!
# Taking edits back

Edits change the layout of a board: its objects, parts and nets.  An edit that has just been
applied remembers enough for its taking back to restore the layout (`Edit.revert_apply`), and so
do edits applied one after the other (`Edit.revertAll_applyAll`).  What they remember plays no part
when they are applied again (`Edit.applyAll_eq_of_forget`).
-/

namespace Ratsnest

universe u

variable {α : Type u}

/-- What edits change: the objects, parts and nets of a board. -/
structure BoardLayout (α : Type u) where
  objects : SortedMap ObjectId (BoardObject α)
  parts : SortedMap Uuid Part
  netlist : NetList

/-- The layout of a board. -/
def Content.layout (c : Content α) : BoardLayout α := ⟨c.store.objects, c.store.parts, c.netlist⟩

theorem Content.layout_eq_iff {c d : Content α} : c.layout = d.layout ↔
    c.store.objects = d.store.objects ∧ c.store.parts = d.store.parts ∧ c.netlist = d.netlist := by
  simp only [layout, BoardLayout.mk.injEq]

/-! ## Objects under their ids -/

namespace Store

/-- Whether objects are kept under their own ids. -/
def Keyed (s : Store α) : Prop := ∀ e ∈ s.objects.entries, e.2.id = e.1

instance (s : Store α) : Decidable s.Keyed := List.decidableBAll _ _

theorem keyed_iff {s : Store α} : s.Keyed ↔ ∀ id o, s.get? id = some o → o.id = id :=
  ⟨fun h id o ho => h (id, o) (SortedMap.mem_entries_iff.2 ho),
    fun h e he => h e.1 e.2 (SortedMap.mem_entries_iff.1 he)⟩

theorem Keyed.insert {s : Store α} (h : s.Keyed) (o : BoardObject α) : (s.insert o).Keyed := by
  refine keyed_iff.2 fun id p hp => ?_
  rw [get?_insert] at hp
  split at hp
  · rename_i hid
    rw [← Option.some.inj hp, hid]
  · exact keyed_iff.1 h id p hp

theorem Keyed.remove {s : Store α} (h : s.Keyed) (i : ObjectId) : (s.remove i).Keyed := by
  refine keyed_iff.2 fun id p hp => ?_
  rw [get?_remove] at hp
  split at hp
  · cases hp
  · exact keyed_iff.1 h id p hp

/-- An object placed under an unused id and taken away again leaves the others. -/
theorem objects_remove_insert {s : Store α} {o : BoardObject α} (h : s.get? o.id = none) :
    ((s.insert o).remove o.id).objects = s.objects := by
  refine SortedMap.ext_get? fun id => ?_
  change ((s.insert o).remove o.id).get? id = s.get? id
  rw [get?_remove, get?_insert]
  split
  · rename_i hid
    rw [hid, h]
  · rfl

/-- An object taken away and placed again is where it was. -/
theorem objects_insert_remove {s : Store α} {o : BoardObject α} (h : s.get? o.id = some o) :
    ((s.remove o.id).insert o).objects = s.objects := by
  refine SortedMap.ext_get? fun id => ?_
  change ((s.remove o.id).insert o).get? id = s.get? id
  rw [get?_insert, get?_remove]
  split
  · rename_i hid
    rw [hid, h]
  · rfl

/-- Taking away what is not there changes nothing. -/
theorem objects_remove_of_absent {s : Store α} {i : ObjectId} (h : s.get? i = none) :
    (s.remove i).objects = s.objects := by
  refine SortedMap.ext_get? fun id => ?_
  change (s.remove i).get? id = s.get? id
  rw [get?_remove]
  split
  · rename_i hid
    rw [hid, h]
  · rfl

end Store

/-! ## Terminals of nets -/

theorem Net.remove_add {n : Net} {t : Terminal} (h : n.contains t = false) :
    (n.add t).remove t = n := by
  have hnone : ∀ u ∈ n.terminals, ¬t.same u := by
    intro u hu hs
    rw [contains, List.any_eq_false] at h
    exact h u hu hs
  have hself : t.same t = true := beq_self_eq_true t.key
  rw [add, h, if_neg Bool.false_ne_true, remove, List.eraseP_append_right _ hnone,
    List.eraseP_cons_of_pos hself, List.append_nil]

namespace NetList

theorem ext_get? {l m : NetList} (h : ∀ name, l.get? name = m.get? name) : l = m := by
  cases l
  cases m
  exact congrArg NetList.mk (SortedMap.ext_get? h)

variable {l m : NetList} {name : String} {t : Terminal} {n : Net}

/-- Dropping a net that was created takes back all that became of it. -/
theorem remove_of_absent (h : l.get? name = none)
    (hm : ∀ other, other ≠ name → m.get? other = l.get? other) : m.remove name = l := by
  refine ext_get? fun other => ?_
  rw [get?_remove]
  split
  · rename_i ho
    rw [ho, h]
  · rename_i ho
    exact hm other ho

theorem get?_addTerminal_of_ne {other : String} (h : other ≠ name) :
    (l.addTerminal name t).get? other = l.get? other := by
  rw [addTerminal, get?_update, if_neg h]

theorem getOrNew_of_get? (h : l.get? name = some n) : l.getOrNew name = n := by
  rw [getOrNew, h, Option.getD_some]

/-- Listing a terminal that the net lists already changes nothing. -/
theorem addTerminal_of_contains (h : l.get? name = some n) (ht : n.contains t = true) :
    l.addTerminal name t = l := by
  refine ext_get? fun other => ?_
  rw [addTerminal, get?_update, getOrNew_of_get? h, Net.add, if_pos ht]
  split
  · rename_i ho
    rw [ho, h]
  · rfl

/-- A terminal listed last and dropped again leaves the net as it was. -/
theorem removeTerminal_addTerminal (h : l.get? name = some n) (ht : n.contains t = false) :
    (l.addTerminal name t).removeTerminal name t = l := by
  refine ext_get? fun other => ?_
  rw [removeTerminal, get?_modify, addTerminal, get?_update, getOrNew_of_get? h]
  split
  · rename_i ho
    rw [ho, h, Option.map_some, Net.remove_add ht]
  · rfl

end NetList

namespace Edit

/-! ## One edit -/

/-- Whether an edit may be made on a board: an object is placed under an unused id only. -/
def Fits (e : Edit α) (c : Content α) : Prop :=
  match e with
  | addObject o => c.store.get? o.id = none
  | removeObject _ _ | addTerminal _ _ _ _ => True

/-- The edit without what it remembers. -/
def forget : Edit α → Edit α
  | addObject o => addObject o
  | removeObject id _ => remove id
  | addTerminal net t _ _ => list net t

theorem apply_forget (e : Edit α) (c : Content α) : e.forget.apply c = e.apply c := by
  cases e <;> rfl

theorem apply_eq_of_forget {e f : Edit α} (h : e.forget = f.forget) (c : Content α) :
    e.apply c = f.apply c := by
  rw [← apply_forget e, h, apply_forget]

theorem fits_iff_of_forget {e f : Edit α} (h : e.forget = f.forget) (c : Content α) :
    e.Fits c ↔ f.Fits c := by
  have key (g : Edit α) : g.forget.Fits c ↔ g.Fits c := by cases g <;> rfl
  rw [← key e, h, key]

theorem forget_apply (e : Edit α) (c : Content α) : (e.apply c).1.forget = e.forget := by
  cases e <;> rfl

theorem forget_revert (e : Edit α) (c : Content α) : (e.revert c).1.forget = e.forget := by
  cases e with
  | addObject o => rfl
  | removeObject id removed => cases removed <;> rfl
  | addTerminal net t created added => rfl

variable {c d : Content α}

/-- What an edit does depends on the layout alone. -/
theorem apply_congr (h : c.layout = d.layout) (e : Edit α) :
    (e.apply c).1 = (e.apply d).1 ∧ (e.apply c).2.layout = (e.apply d).2.layout := by
  obtain ⟨ho, hp, hn⟩ := Content.layout_eq_iff.1 h
  cases e with
  | addObject o => simp [apply, Content.layout, Store.insert, ho, hp, hn]
  | removeObject id removed => simp [apply, Content.layout, Store.remove, Store.get?, ho, hp, hn]
  | addTerminal net t created added => simp [apply, Content.layout, ho, hp, hn]

theorem revert_congr (h : c.layout = d.layout) (e : Edit α) :
    (e.revert c).1 = (e.revert d).1 ∧ (e.revert c).2.layout = (e.revert d).2.layout := by
  obtain ⟨ho, hp, hn⟩ := Content.layout_eq_iff.1 h
  cases e with
  | addObject o => simp [revert, Content.layout, Store.remove, ho, hp, hn]
  | removeObject id removed =>
    cases removed with
    | none => exact ⟨rfl, h⟩
    | some o => simp [revert, Content.layout, Store.insert, ho, hp, hn]
  | addTerminal net t created added => simp [revert, Content.layout, ho, hp, hn]

theorem fits_congr (h : c.layout = d.layout) (e : Edit α) : e.Fits c ↔ e.Fits d := by
  obtain ⟨ho, -⟩ := Content.layout_eq_iff.1 h
  cases e with
  | addObject o => rw [Fits, Fits, Store.get?, Store.get?, ho]
  | _ => rfl

theorem keyed_apply (hc : c.store.Keyed) (e : Edit α) : (e.apply c).2.store.Keyed := by
  cases e with
  | addObject o => exact hc.insert o
  | removeObject id removed => exact hc.remove id
  | addTerminal net t created added => exact hc

/-- Taking an edit back restores the layout it was applied to. -/
theorem revert_apply (hc : c.store.Keyed) {e : Edit α} (he : e.Fits c) :
    ((e.apply c).1.revert (e.apply c).2).2.layout = c.layout := by
  refine Content.layout_eq_iff.2 ?_
  cases e with
  | addObject o => exact ⟨Store.objects_remove_insert he, rfl, rfl⟩
  | removeObject id removed =>
    simp only [apply]
    cases hget : c.store.get? id with
    | none => exact ⟨Store.objects_remove_of_absent hget, rfl, rfl⟩
    | some o =>
      obtain rfl := Store.keyed_iff.1 hc id o hget
      exact ⟨Store.objects_insert_remove hget, rfl, rfl⟩
  | addTerminal net t created added =>
    refine ⟨rfl, rfl, ?_⟩
    cases hget : c.netlist.get? net with
    | none =>
      have hcreated : c.netlist.contains net = false := by
        rw [NetList.contains, SortedMap.contains, ← NetList.get?, hget, Option.isSome_none]
      simp only [apply, revert, hcreated, Bool.not_false, if_true]
      refine NetList.remove_of_absent hget fun other ho => ?_
      split
      · rw [NetList.removeTerminal, NetList.get?_modify, if_neg ho,
          NetList.get?_addTerminal_of_ne ho]
      · exact NetList.get?_addTerminal_of_ne ho
    | some n =>
      have hcreated : c.netlist.contains net = true := by
        rw [NetList.contains, SortedMap.contains, ← NetList.get?, hget, Option.isSome_some]
      simp only [apply, revert, hcreated, NetList.getOrNew_of_get? hget, Bool.not_true,
        Bool.false_eq_true, if_false]
      cases hcontains : n.contains t with
      | true => exact NetList.addTerminal_of_contains hget hcontains
      | false => exact NetList.removeTerminal_addTerminal hget hcontains

/-! ## Edits one after the other -/

/-- Whether edits may be made one after the other. -/
def FitsAll : List (Edit α) → Content α → Prop
  | [], _ => True
  | e :: es, c => e.Fits c ∧ FitsAll es (e.apply c).2

theorem applyAll_cons (e : Edit α) (es : List (Edit α)) (c : Content α) :
    applyAll (e :: es) c =
      ((e.apply c).1 :: (applyAll es (e.apply c).2).1, (applyAll es (e.apply c).2).2) := rfl

theorem revertAll_cons (e : Edit α) (es : List (Edit α)) (c : Content α) :
    revertAll (e :: es) c =
      ((e.revert (revertAll es c).2).1 :: (revertAll es c).1, (e.revert (revertAll es c).2).2) := rfl

theorem applyAll_append (es fs : List (Edit α)) (c : Content α) :
    applyAll (es ++ fs) c =
      ((applyAll es c).1 ++ (applyAll fs (applyAll es c).2).1,
        (applyAll fs (applyAll es c).2).2) := by
  induction es generalizing c with
  | nil => rfl
  | cons e es ih => rw [List.cons_append, applyAll_cons, ih, applyAll_cons, List.cons_append]

theorem fitsAll_append {es fs : List (Edit α)} :
    FitsAll (es ++ fs) c ↔ FitsAll es c ∧ FitsAll fs (applyAll es c).2 := by
  induction es generalizing c with
  | nil => exact (true_and _).symm ▸ Iff.rfl
  | cons e es ih => rw [List.cons_append, FitsAll, ih, FitsAll, applyAll_cons, and_assoc]

theorem applyAll_congr (h : c.layout = d.layout) (es : List (Edit α)) :
    (applyAll es c).1 = (applyAll es d).1 ∧
      (applyAll es c).2.layout = (applyAll es d).2.layout := by
  induction es generalizing c d with
  | nil => exact ⟨rfl, h⟩
  | cons e es ih =>
    obtain ⟨he, hlayout⟩ := apply_congr h e
    obtain ⟨hes, hrest⟩ := ih hlayout
    rw [applyAll_cons, applyAll_cons, he, hes]
    exact ⟨rfl, hrest⟩

theorem revertAll_congr (h : c.layout = d.layout) (es : List (Edit α)) :
    (revertAll es c).1 = (revertAll es d).1 ∧
      (revertAll es c).2.layout = (revertAll es d).2.layout := by
  induction es with
  | nil => exact ⟨rfl, h⟩
  | cons e es ih =>
    obtain ⟨hes, hlayout⟩ := ih
    obtain ⟨he, hrest⟩ := revert_congr hlayout e
    rw [revertAll_cons, revertAll_cons, he, hes]
    exact ⟨rfl, hrest⟩

/-- What edits remember plays no part when they are applied. -/
theorem applyAll_eq_of_forget {es fs : List (Edit α)} (h : es.map forget = fs.map forget)
    (c : Content α) : applyAll es c = applyAll fs c := by
  induction es generalizing fs c with
  | nil =>
    obtain rfl := List.map_eq_nil_iff.1 h.symm
    rfl
  | cons e es ih =>
    obtain ⟨f, fs, rfl, hf, hfs⟩ := List.map_eq_cons_iff.1 h.symm
    rw [applyAll_cons, applyAll_cons, apply_eq_of_forget hf.symm, ih hfs.symm]

theorem fitsAll_iff_of_forget {es fs : List (Edit α)} (h : es.map forget = fs.map forget)
    (c : Content α) : FitsAll es c ↔ FitsAll fs c := by
  induction es generalizing fs c with
  | nil =>
    obtain rfl := List.map_eq_nil_iff.1 h.symm
    rfl
  | cons e es ih =>
    obtain ⟨f, fs, rfl, hf, hfs⟩ := List.map_eq_cons_iff.1 h.symm
    rw [FitsAll, FitsAll, fits_iff_of_forget hf.symm, apply_eq_of_forget hf.symm, ih hfs.symm]

theorem forget_applyAll (es : List (Edit α)) (c : Content α) :
    (applyAll es c).1.map forget = es.map forget := by
  induction es generalizing c with
  | nil => rfl
  | cons e es ih => rw [applyAll_cons, List.map_cons, List.map_cons, forget_apply, ih]

theorem forget_revertAll (es : List (Edit α)) (c : Content α) :
    (revertAll es c).1.map forget = es.map forget := by
  induction es with
  | nil => rfl
  | cons e es ih => rw [revertAll_cons, List.map_cons, List.map_cons, forget_revert, ih]

theorem keyed_applyAll (hc : c.store.Keyed) (es : List (Edit α)) :
    (applyAll es c).2.store.Keyed := by
  induction es generalizing c with
  | nil => exact hc
  | cons e es ih => exact ih (keyed_apply hc e)

/-- Taking edits back, the last first, restores the layout they were applied to. -/
theorem revertAll_applyAll {es : List (Edit α)} (hc : c.store.Keyed) (hes : FitsAll es c) :
    (revertAll (applyAll es c).1 (applyAll es c).2).2.layout = c.layout := by
  induction es generalizing c with
  | nil => rfl
  | cons e es ih =>
    have hrest := ih (keyed_apply hc e) hes.2
    rw [applyAll_cons, revertAll_cons, (revert_congr hrest _).2, revert_apply hc hes.1]

end Edit

end Ratsnest
