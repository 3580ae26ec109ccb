import Ratsnest.Proofs.Journal.Remarked
import Ratsnest.Proofs.Journal.Timeline

/-!
# Histories without marks

Marks are changed outside the history, so the edits of a step may remember objects with marks that
are out of date by the time the step is undone.  Each call does the same on the board without marks,
its history included (`Board.execute_unmarked`, `Board.undo?_unmarked` and so on).
-/

namespace Ratsnest

universe u

variable {α : Type u}

namespace Store

@[simp] theorem unmarked_unmarked (s : Store α) : s.unmarked.unmarked = s.unmarked := by
  refine unmarked_eq rfl rfl fun id => ?_
  rw [get?_unmarked, Option.map_map]
  rfl

end Store

/-- The content without marks. -/
def Content.unmarked (c : Content α) : Content α := { c with store := c.store.unmarked }

@[simp] theorem Content.unmarked_store (c : Content α) : c.unmarked.store = c.store.unmarked := rfl

@[simp] theorem Content.unmarked_layers (c : Content α) : c.unmarked.layers = c.layers := rfl

@[simp] theorem Content.unmarked_netlist (c : Content α) : c.unmarked.netlist = c.netlist := rfl

@[simp] theorem Content.unmarked_unmarked (c : Content α) : c.unmarked.unmarked = c.unmarked := by
  rw [unmarked, unmarked_store, Store.unmarked_unmarked]
  rfl

theorem Content.layout_unmarked_congr {c d : Content α} (h : c.layout = d.layout) :
    c.unmarked.layout = d.unmarked.layout := by
  obtain ⟨hobjects, hparts, hnetlist⟩ := layout_eq_iff.1 h
  exact layout_eq_iff.2 ⟨congrArg (SortedMap.map · BoardObject.unmarked) hobjects, hparts, hnetlist⟩

/-! ## Edits -/

namespace Edit

/-- The edit with the objects in it unmarked. -/
def unmarked : Edit α → Edit α
  | addObject o => addObject o.unmarked
  | removeObject id removed => removeObject id (removed.map (·.unmarked))
  | addTerminal net t created added => addTerminal net t created added

theorem fits_unmarked_iff (e : Edit α) (c : Content α) : e.unmarked.Fits c.unmarked ↔ e.Fits c := by
  cases e with
  | addObject o =>
    simp only [unmarked, Fits, Content.unmarked_store, Store.get?_unmarked, BoardObject.unmarked_id,
      Option.map_eq_none_iff]
  | removeObject id removed => exact Iff.rfl
  | addTerminal net t created added => exact Iff.rfl

end Edit

/-! ## Boards -/

/-- The step with the objects in it unmarked. -/
def EditStep.unmarked (step : EditStep α) : EditStep α :=
  { step with edits := step.edits.map Edit.unmarked }

/-- The history with the objects in it unmarked. -/
def Journal.unmarked (j : Journal α) : Journal α where
  done := j.done.map EditStep.unmarked
  undone := j.undone.map EditStep.unmarked
  current := j.current.map fun open? => (open?.1.unmarked, open?.2)

namespace Board

/-- The board without marks. -/
def unmarked (b : Board α) : Board α := ⟨b.content.unmarked, b.journal.unmarked⟩

theorem begin_unmarked (b : Board α) (description : String) :
    b.unmarked.begin description = (b.begin description).unmarked :=
  begin_remark (fun _ => .none) b description

theorem commit_unmarked (b : Board α) : b.unmarked.commit = b.commit.unmarked :=
  commit_remark (fun _ => .none) b

theorem execute_unmarked (b : Board α) (e : Edit α) :
    b.unmarked.execute e.unmarked = (b.execute e).unmarked :=
  execute_remark (fun _ => .none) b e

theorem undo?_unmarked (b : Board α) : b.unmarked.undo? = b.undo?.map unmarked :=
  undo?_remark (fun _ => .none) b

theorem redo?_unmarked (b : Board α) : b.unmarked.redo? = b.redo?.map unmarked :=
  redo?_remark (fun _ => .none) b

end Board

/-! ## Following a timeline -/

/-- Whether a board follows a timeline depends on its layout and its history alone. -/
theorem Follows.congr {c : Content α} {b b' : Board α} {t : Timeline α} (h : Follows c b t)
    (hlayout : b'.content.layout = b.content.layout) (hjournal : b'.journal = b.journal) :
    Follows c b' t := by
  obtain ⟨past, present, future⟩ := h
  rw [← hjournal] at past present future
  obtain ⟨tdone, tundone, tcurrent⟩ := t
  cases hcurrent : b'.journal.current with
  | none =>
    rw [hcurrent] at present
    cases present
    exact ⟨past.congr hlayout, hcurrent ▸ .closed, future.congr hlayout⟩
  | some open? =>
    rw [hcurrent] at present
    cases present with
    | opened took hedited =>
      exact ⟨past, hcurrent ▸ .opened (took.congr hlayout.symm) hedited, future.congr hlayout⟩

end Ratsnest
