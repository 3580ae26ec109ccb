import Ratsnest.Proofs.Journal.Edit
import Ratsnest.Proofs.Marks

/-!
# Boards with other marks

Changes the marks of every object of a board, those that its history remembers included.  No call
looks at marks: each does the same on the board with the marks changed (`Board.execute_remark`,
`Board.undo?_remark` and so on).  Marking objects changes the result as little as the change of
marks tells apart (`Store.remark_mark`).
-/

namespace Ratsnest

universe u

variable {α : Type u} (g : Flags → Flags)

/-- The object with its marks changed. -/
def BoardObject.remark (o : BoardObject α) : BoardObject α := { o with flags := g o.flags }

/-! ## Stores -/

namespace Store

/-- The store with the marks of all objects changed. -/
def remark (s : Store α) : Store α := { s with objects := s.objects.map (·.remark g) }

@[simp] theorem get?_remark (s : Store α) (id : ObjectId) :
    (s.remark g).get? id = (s.get? id).map (·.remark g) := SortedMap.get?_map _ _ _

@[simp] theorem toList_remark (s : Store α) : (s.remark g).toList = s.toList.map (·.remark g) := by
  simp [remark, toList, SortedMap.values, SortedMap.map]

@[simp] theorem unmarked_remark (s : Store α) : (s.remark g).unmarked = s.unmarked := by
  refine unmarked_eq rfl rfl fun id => ?_
  rw [get?_remark, Option.map_map]
  rfl

theorem remark_insert (s : Store α) (o : BoardObject α) :
    (s.insert o).remark g = (s.remark g).insert (o.remark g) := by
  simp only [insert, remark, SortedMap.map_insert]
  rfl

theorem remark_remove (s : Store α) (id : ObjectId) :
    (s.remove id).remark g = (s.remark g).remove id := by
  simp only [remove, remark, SortedMap.map_erase]

theorem Keyed.remark {s : Store α} (h : s.Keyed) : (s.remark g).Keyed := by
  refine keyed_iff.2 fun id o ho => ?_
  rw [get?_remark] at ho
  obtain ⟨p, hp, rfl⟩ := Option.map_eq_some_iff.1 ho
  exact keyed_iff.1 h id p hp

variable {g}

/-- Stores whose objects are the same once their marks are changed, and which agree on all else. -/
theorem remark_eq {s t : Store α} (hparts : s.parts = t.parts) (hnext : s.nextId = t.nextId)
    (h : ∀ id, (s.get? id).map (·.remark g) = (t.get? id).map (·.remark g)) :
    s.remark g = t.remark g := by
  have hobjects : s.objects.map (·.remark g) = t.objects.map (·.remark g) :=
    SortedMap.ext_get? fun id => by
      rw [SortedMap.get?_map, SortedMap.get?_map]
      exact h id
  rw [remark, remark, hobjects, hparts, hnext]

/-- A change of marks after which another one cannot be told is the same with or without that. -/
theorem remark_changeFlags {set clear : Flags} (h : ∀ f : Flags, g (f.change set clear) = g f)
    (s : Store α) (id : ObjectId) : (s.changeFlags id set clear).remark g = s.remark g := by
  refine remark_eq rfl rfl fun other => ?_
  rw [changeFlags, get?_modify]
  split
  · rw [Option.map_map]
    refine congrArg (Option.map · (s.get? other)) (funext fun o => ?_)
    exact congrArg (fun f => { o with flags := f }) (h o.flags)
  · rfl

theorem remark_mark {m : Marking} (h : ∀ f : Flags, g (f.change m.set m.clear) = g f)
    (s : Store α) (ds : List Discovery) : (s.mark m ds).remark g = s.remark g := by
  rw [mark]
  induction ds generalizing s with
  | nil => rfl
  | cons d ds ih =>
    rw [List.foldl_cons, ih]
    split
    · exact remark_changeFlags h s d.object
    · rfl

theorem remark_clearFlags {f : Flags} (h : ∀ k : Flags, g (k.change .none f) = g k)
    (s : Store α) : (s.clearFlags f).remark g = s.remark g := by
  refine remark_eq rfl rfl fun id => ?_
  rw [get?_clearFlags, Option.map_map]
  refine congrArg (Option.map · (s.get? id)) (funext fun o => ?_)
  exact congrArg (fun f => { o with flags := f }) (h o.flags)

section Congr

variable {s t : Store α} (hst : s.remark g = t.remark g)
include hst

theorem map_remark_congr (id : ObjectId) :
    (s.get? id).map (·.remark g) = (t.get? id).map (·.remark g) := by
  rw [← get?_remark, hst, get?_remark]

theorem any_isRat_congr (id : ObjectId) :
    (s.get? id).any (·.isRat) = (t.get? id).any (·.isRat) := by
  have key (s : Store α) :
      (s.get? id).any (·.isRat) = ((s.get? id).map (·.remark g)).any (·.isRat) := by
    rw [Option.any_map]
    rfl
  rw [key s, map_remark_congr hst, ← key]

variable {set clear : Flags} (h : ∀ f : Flags, g ((g f).change set clear) = g (f.change set clear))
include h

/-- Changes of marks keep stores alike that another one does not tell apart. -/
theorem map_changeFlags_congr (id : ObjectId) :
    ((s.get? id).map (·.changeFlags set clear)).map (·.remark g) =
      ((t.get? id).map (·.changeFlags set clear)).map (·.remark g) := by
  have key (s : Store α) : ((s.get? id).map (·.changeFlags set clear)).map (·.remark g) =
      ((s.get? id).map (·.remark g)).map fun o => (o.changeFlags set clear).remark g := by
    rw [Option.map_map, Option.map_map]
    refine congrArg (Option.map · (s.get? id)) (funext fun o => ?_)
    exact congrArg (fun f => { o with flags := f }) (h o.flags).symm
  rw [key s, map_remark_congr hst, ← key]

theorem changeFlags_congr (id : ObjectId) :
    (s.changeFlags id set clear).remark g = (t.changeFlags id set clear).remark g := by
  refine remark_eq (congrArg Store.parts hst :) (congrArg Store.nextId hst :) fun other => ?_
  rw [changeFlags, changeFlags, get?_modify, get?_modify]
  split
  · exact map_changeFlags_congr hst h other
  · exact map_remark_congr hst other

theorem mark_congr (ratsOnly : Bool) (ds : List Discovery) :
    (s.mark ⟨set, clear, ratsOnly⟩ ds).remark g = (t.mark ⟨set, clear, ratsOnly⟩ ds).remark g := by
  rw [mark, mark]
  induction ds generalizing s t with
  | nil => exact hst
  | cons d ds ih =>
    rw [List.foldl_cons, List.foldl_cons]
    refine ih ?_
    dsimp only
    rw [any_isRat_congr hst]
    split
    · exact changeFlags_congr hst h d.object
    · exact hst

end Congr

end Store

/-- The content with the marks of all objects changed. -/
def Content.remark (c : Content α) : Content α := { c with store := c.store.remark g }

/-! ## Edits -/

namespace Edit

/-- The edit with the marks of the objects in it changed. -/
def remark : Edit α → Edit α
  | addObject o => addObject (o.remark g)
  | removeObject id removed => removeObject id (removed.map (·.remark g))
  | addTerminal net t created added => addTerminal net t created added

theorem apply_remark (e : Edit α) (c : Content α) :
    (e.remark g).apply (c.remark g) = ((e.apply c).1.remark g, (e.apply c).2.remark g) := by
  cases e with
  | addObject o => simp only [remark, apply, Content.remark, Store.remark_insert]
  | removeObject id removed =>
    simp only [remark, apply, Content.remark, Store.remark_remove, Store.get?_remark,
      Option.isSome_map]
  | addTerminal net t created added => rfl

theorem revert_remark (e : Edit α) (c : Content α) :
    (e.remark g).revert (c.remark g) = ((e.revert c).1.remark g, (e.revert c).2.remark g) := by
  cases e with
  | addObject o =>
    simp only [remark, revert, Content.remark, Store.remark_remove]
    rfl
  | removeObject id removed =>
    cases removed with
    | none => rfl
    | some o => simp only [remark, Option.map_some, Option.map_none, revert, Content.remark,
        Store.remark_insert]
  | addTerminal net t created added => rfl

theorem applyAll_remark (es : List (Edit α)) (c : Content α) :
    applyAll (es.map (remark g)) (c.remark g) =
      ((applyAll es c).1.map (remark g), (applyAll es c).2.remark g) := by
  induction es generalizing c with
  | nil => rfl
  | cons e es ih =>
    rw [List.map_cons, applyAll_cons, apply_remark, ih, applyAll_cons, List.map_cons]

theorem revertAll_remark (es : List (Edit α)) (c : Content α) :
    revertAll (es.map (remark g)) (c.remark g) =
      ((revertAll es c).1.map (remark g), (revertAll es c).2.remark g) := by
  induction es with
  | nil => rfl
  | cons e es ih =>
    rw [List.map_cons, revertAll_cons, ih, revert_remark, revertAll_cons, List.map_cons]

end Edit

/-! ## Boards -/

/-- The step with the marks of the objects in it changed. -/
def EditStep.remark (step : EditStep α) : EditStep α :=
  { step with edits := step.edits.map (Edit.remark g) }

/-- The history with the marks of the objects in it changed. -/
def Journal.remark (j : Journal α) : Journal α where
  done := j.done.map (EditStep.remark g)
  undone := j.undone.map (EditStep.remark g)
  current := j.current.map fun open? => (open?.1.remark g, open?.2)

namespace Board

/-- The board with the marks of all objects changed. -/
def remark (b : Board α) : Board α := ⟨b.content.remark g, b.journal.remark g⟩

theorem begin_remark (b : Board α) (description : String) :
    (b.remark g).begin description = (b.begin description).remark g := by
  obtain ⟨content, done, undone, current⟩ := b
  cases current <;> rfl

theorem commit_remark (b : Board α) : (b.remark g).commit = b.commit.remark g := by
  obtain ⟨content, done, undone, current⟩ := b
  cases current with
  | none => rfl
  | some open? =>
    obtain ⟨⟨description, edits⟩, depth⟩ := open?
    cases depth with
    | succ n => rfl
    | zero => cases edits <;> rfl

theorem execute_remark (b : Board α) (e : Edit α) :
    (b.remark g).execute (e.remark g) = (b.execute e).remark g := by
  obtain ⟨content, done, undone, current⟩ := b
  simp only [execute, remark, Edit.apply_remark, mk.injEq, true_and]
  cases current with
  | none =>
    have hdescription : ((e.apply content).1.remark g).description =
        (e.apply content).1.description := by
      cases e <;> rfl
    simp only [Journal.record, Journal.remark, Option.map_none, hdescription]
    rfl
  | some open? => simp [Journal.record, Journal.remark, EditStep.remark]

theorem undo?_remark (b : Board α) : (b.remark g).undo? = b.undo?.map (remark g) := by
  obtain ⟨content, done, undone, current⟩ := b
  cases done with
  | nil => rfl
  | cons step rest =>
    simp only [undo?, remark, Journal.remark, List.map_cons, EditStep.remark,
      Edit.revertAll_remark, Option.map_some]

theorem redo?_remark (b : Board α) : (b.remark g).redo? = b.redo?.map (remark g) := by
  obtain ⟨content, done, undone, current⟩ := b
  cases undone with
  | nil => rfl
  | cons step rest =>
    simp only [redo?, remark, Journal.remark, List.map_cons, EditStep.remark,
      Edit.applyAll_remark, Option.map_some]

end Board

end Ratsnest
