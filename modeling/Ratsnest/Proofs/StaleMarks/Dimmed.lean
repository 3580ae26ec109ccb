import Ratsnest.Proofs.Flags
import Ratsnest.Proofs.Journal.Remarked
import Ratsnest.Proofs.Short
import Ratsnest.Proofs.Synthesis.Aside
import Ratsnest.Synthesis

/-!
# Boards without stale marks

What is found and what is part of a short circuit is marked for the user, and no operation clears
all these marks before it begins.  A board is dimmed when they are cleared everywhere, in its
history as well.  Drawing rat lines does the same on the dimmed board (`Session.addRatsFor_dimmed`):
crawls do not look at marks, and links ask for selected objects alone.
-/

namespace Ratsnest

variable {α : Type}

/-! ## Marks -/

namespace Flags

/-- The marks other than those of discovery and of short circuits. -/
def dim (f : Flags) : Flags := f.change .none (.union .found .warn)

theorem bit_dim (f : Flags) (i : Nat) :
    f.dim.bit i = (f.bit i && !(bit .found i || bit .warn i)) := by
  rw [dim, bit_change, bit_union, bit_none, Bool.or_false]

/-- Marks are the same when they are dimmed if they differ in discovery and short circuits alone. -/
theorem dim_eq_iff {f k : Flags} : f.dim = k.dim ↔
    ∀ i, bit .found i = false → bit .warn i = false → f.bit i = k.bit i := by
  constructor
  · intro h i hfound hwarn
    simpa [bit_dim, hfound, hwarn] using congrArg (bit · i) h
  · refine fun h => ext_bit fun i => ?_
    rw [bit_dim, bit_dim]
    cases hfound : bit .found i
    · cases hwarn : bit .warn i
      · rw [h i hfound hwarn]
      · simp
    · simp

theorem dim_none : none.dim = none := by decide

/-- A change makes no difference between marks that are the same when they are dimmed. -/
theorem dim_change_dim (f set clear : Flags) :
    (f.dim.change set clear).dim = (f.change set clear).dim := by
  refine dim_eq_iff.2 fun i hfound hwarn => ?_
  rw [bit_change, bit_change, bit_dim, hfound, hwarn, Bool.or_false, Bool.not_false, Bool.and_true]

theorem dim_change_warn (f : Flags) : (f.change .warn .none).dim = f.dim := by
  refine dim_eq_iff.2 fun i _ hwarn => ?_
  rw [bit_change, hwarn, bit_none, Bool.not_false, Bool.and_true, Bool.or_false]

theorem dim_clear_found (f : Flags) : (f.change .none .found).dim = f.dim := by
  refine dim_eq_iff.2 fun i hfound _ => ?_
  rw [bit_change, hfound, bit_none, Bool.not_false, Bool.and_true, Bool.or_false]

/-- Dimming does not change what is selected. -/
theorem contains_selected_dim (f : Flags) : f.dim.contains .selected = f.contains .selected :=
  contains_change_of_disjoint rfl rfl f

end Flags

/-! ## Boards -/

namespace Store

@[simp] theorem terminalOf?_remark (g : Flags → Flags) (s : Store α) (id : ObjectId) :
    (s.remark g).terminalOf? id = s.terminalOf? id := by
  rw [← terminalOf?_unmarked, unmarked_remark, terminalOf?_unmarked]

end Store

/-- The board without marks of discovery and of short circuits. -/
def Board.dimmed (b : Board α) : Board α := b.remark .dim

/-- The session on the dimmed board. -/
def Session.dimmed (s : Session α) : Session α := { s with board := s.board.dimmed }

theorem Session.dimmed_eq_iff {s t : Session α} :
    s.dimmed = t.dimmed ↔ s.board.dimmed = t.board.dimmed ∧ s.calls = t.calls := by
  rw [dimmed, dimmed, mk.injEq]

/-- An object without marks is placed on the dimmed board as on the board. -/
theorem Board.execute_addObject_dimmed (b : Board α) (id : ObjectId) (shape : Shape α) :
    b.dimmed.execute (.addObject { id, shape }) =
      (b.execute (.addObject { id, shape })).dimmed := by
  have hadd : (Edit.addObject { id, shape } : Edit α).remark .dim = .addObject { id, shape } := by
    rw [Edit.remark, BoardObject.remark, Flags.dim_none]
  rw [dimmed, dimmed, ← execute_remark, hadd]

/-! ## Drawing -/

namespace ShortWatch

/-- Looking at discoveries asks for nothing but the pins of their objects. -/
theorem checkAll_congr {s t : Store α} (h : ∀ id, s.terminalOf? id = t.terminalOf? id)
    (host : Host) (w : ShortWatch) (calls : List HostCall) (ds : List Discovery) :
    w.checkAll host s calls ds = w.checkAll host t calls ds := by
  simp only [checkAll, check, offense?, h]

/-- The end of a run sets no mark that is left when the board is dimmed. -/
theorem remark_finish (w : ShortWatch) (c : Content α) (calls : List HostCall) :
    (w.finish c calls).1.remark .dim =
      { c.remark .dim with changed := c.changed || decide (w.count ≠ 0) } := by
  have hstore (ids : List ObjectId) (s : Store α) :
      (ids.foldl (fun s id => s.changeFlags id .warn .none) s).remark .dim = s.remark .dim := by
    induction ids generalizing s with
    | nil => rfl
    | cons id ids ih =>
      rw [List.foldl_cons, ih, Store.remark_changeFlags Flags.dim_change_warn]
  rw [finish]
  split
  · rename_i hcount
    simp [Content.remark, hstore, hcount]
  · rename_i hcount
    simp [Content.remark, hstore, hcount]

theorem calls_finish_congr (w : ShortWatch) (c d : Content α) (calls : List HostCall) :
    (w.finish c calls).2 = (w.finish d calls).2 := by
  rw [finish, finish]
  split <;> rfl

end ShortWatch

namespace Session

variable [AngularScalar α] [ShownScalar α]

theorem drawRat_dimmed (s : Session α) (policy : Policy) (l : Link α) :
    s.dimmed.drawRat policy l = ((s.drawRat policy l).1, (s.drawRat policy l).2.dimmed) := by
  have hboard := s.board.allocate.2.execute_addObject_dimmed s.board.allocate.1 (.rat l.toRat)
  rw [drawRat, drawRat]
  cases policy.info
  · exact congrArg (fun b => (s.board.allocate.1, (⟨b, s.calls⟩ : Session α))) hboard
  · exact congrArg (fun b => (s.board.allocate.1,
      (⟨b, (s.message .info (ratText l.toRat)).calls⟩ : Session α))) hboard

theorem drawRats_dimmed (s : Session α) (policy : Policy) (ls : List (Link α)) :
    s.dimmed.drawRats policy ls = ((s.drawRats policy ls).1, (s.drawRats policy ls).2.dimmed) := by
  induction ls generalizing s with
  | nil => rfl
  | cons l ls ih => simp only [drawRats, drawRat_dimmed, ih]

variable (settings : Settings α) (policy : Policy)

theorem connect_dimmed (s : Session α) (subnets : List Subnet) :
    s.dimmed.connect settings policy subnets =
      ((s.connect settings policy subnets).1, (s.connect settings policy subnets).2.dimmed) := by
  have hlinks : LinkTable.ofSubnets s.dimmed.board.content.store policy subnets =
      LinkTable.ofSubnets s.board.content.store policy subnets :=
    LinkTable.ofSubnets_congr fun _ _ id _ =>
      Store.linkable_remark Flags.contains_selected_dim s.board.content.store id
  match subnets with
  | [] | [_] => rfl
  | a :: b :: rest =>
    have hbegin : s.dimmed.update (·.begin "Add rat lines") =
        (s.update (·.begin "Add rat lines")).dimmed :=
      congrArg (Session.mk · s.calls) (s.board.begin_remark .dim "Add rat lines")
    have hcommit (s : Session α) : s.dimmed.update (·.commit) = (s.update (·.commit)).dimmed :=
      congrArg (Session.mk · s.calls) (s.board.commit_remark .dim)
    simp only [connect]
    split
    · rfl
    · simp only [hlinks, hbegin, drawRats_dimmed, hcommit]

/-- Drawing what a net needs does the same on the dimmed board. -/
theorem addRatsFor_dimmed (host : Host) (w : ShortWatch) (s : Session α) (ts : List Terminal) :
    s.dimmed.addRatsFor host settings policy w ts =
      ((s.addRatsFor host settings policy w ts).1, (s.addRatsFor host settings policy w ts).2.1,
        (s.addRatsFor host settings policy w ts).2.2.dimmed) := by
  have hpieces : Extraction.ofTerminals settings s.dimmed.board.content ts =
      Extraction.ofTerminals settings s.board.content ts :=
    Extraction.ofTerminals_congr settings (c := s.dimmed.board.content) (d := s.board.content) rfl
      (s.board.content.store.unmarked_remark .dim) ts
  have hcheck (ds : List Discovery) :
      w.checkAll host s.dimmed.board.content.store s.dimmed.calls ds =
        w.checkAll host s.board.content.store s.calls ds :=
    ShortWatch.checkAll_congr (s.board.content.store.terminalOf?_remark .dim) host w s.calls ds
  have hcalls (calls : List HostCall) :
      ({ s.dimmed with calls } : Session α) = ({ s with calls } : Session α).dimmed := rfl
  simp only [addRatsFor, hpieces, hcheck, hcalls, connect_dimmed]

theorem addRatsForOne_dimmed (host : Host) (selection : Option (List Pin))
    (run : Totals × ShortWatch × Session α) (net : Net) :
    addRatsForOne host settings policy selection (run.map id (.map id dimmed)) net =
      (addRatsForOne host settings policy selection run net).map id (.map id dimmed) := by
  obtain ⟨totals, w, s⟩ := run
  dsimp only [Prod.map, id_eq]
  rw [addRatsForOne, addRatsForOne]
  split
  · rfl
  split
  · rw [addRatsFor_dimmed]
  · rfl

/-- So does drawing what several nets need, one after the other. -/
theorem foldl_addRatsForOne_dimmed (host : Host) (selection : Option (List Pin))
    (run : Totals × ShortWatch × Session α) (nets : List Net) :
    nets.foldl (addRatsForOne host settings policy selection) (run.map id (.map id dimmed)) =
      (nets.foldl (addRatsForOne host settings policy selection) run).map id (.map id dimmed) :=
  List.foldl_hom _ (addRatsForOne_dimmed settings policy host selection)

/-! ## Sessions that are the same when they are dimmed -/

section Congr

variable {s t : Session α} (h : s.dimmed = t.dimmed)
include h

omit [AngularScalar α] [ShownScalar α] in
theorem finishWatch_congr {v w : ShortWatch} (hw : v = w) :
    (s.finishWatch v).dimmed = (t.finishWatch w).dimmed := by
  obtain ⟨⟨c, j⟩, calls⟩ := s
  obtain ⟨⟨d, k⟩, calls'⟩ := t
  simp only [dimmed, Board.dimmed, Board.remark, mk.injEq, Board.mk.injEq] at h
  obtain ⟨⟨hcontent, hjournal⟩, rfl⟩ := h
  have hchanged : c.changed = d.changed := (congrArg Content.changed hcontent :)
  simp only [dimmed, Board.dimmed, Board.remark, finishWatch, ShortWatch.remark_finish, hcontent,
    hjournal, hchanged, hw, w.calls_finish_congr c d calls]

omit [AngularScalar α] [ShownScalar α] in
theorem message_congr (level : MessageLevel) (text : String) :
    (s.message level text).dimmed = (t.message level text).dimmed :=
  congrArg (·.message level text) h

theorem addRatsFor_congr (host : Host) (w : ShortWatch) (ts : List Terminal) :
    (s.addRatsFor host settings policy w ts).1 = (t.addRatsFor host settings policy w ts).1 ∧
      (s.addRatsFor host settings policy w ts).2.1 =
        (t.addRatsFor host settings policy w ts).2.1 ∧
      (s.addRatsFor host settings policy w ts).2.2.dimmed =
        (t.addRatsFor host settings policy w ts).2.2.dimmed := by
  have hs := s.addRatsFor_dimmed settings policy host w ts
  rw [h, addRatsFor_dimmed] at hs
  simpa only [Prod.mk.injEq] using hs.symm

/-- Drawing what one net needs comes to the same. -/
theorem addRatsForNet_congr (host : Host) (name : String) :
    (s.addRatsForNet host settings policy name).map (fun r => (r.1, r.2.dimmed)) =
      (t.addRatsForNet host settings policy name).map fun r => (r.1, r.2.dimmed) := by
  have hnetlist : s.board.content.netlist = t.board.content.netlist :=
    (congrArg (·.board.content.netlist) h :)
  rw [addRatsForNet, addRatsForNet, Content.net, Content.net, hnetlist]
  cases t.board.content.netlist.find? name with
  | none => rfl
  | some net =>
    obtain ⟨hresult, hwatch, hleft⟩ := addRatsFor_congr settings policy h host
      (ShortWatch.start net.name t.board.content.netlist) net.terminals
    exact congrArg Except.ok (Prod.ext hresult (finishWatch_congr hleft hwatch))

theorem foldl_addRatsForOne_congr (host : Host) (selection : Option (List Pin)) (totals : Totals)
    (w : ShortWatch) (nets : List Net) :
    (nets.foldl (addRatsForOne host settings policy selection) (totals, w, s)).map id
        (Prod.map id dimmed) =
      (nets.foldl (addRatsForOne host settings policy selection) (totals, w, t)).map id
        (Prod.map id dimmed) := by
  rw [← foldl_addRatsForOne_dimmed, ← foldl_addRatsForOne_dimmed, Prod.map, Prod.map, Prod.map,
    Prod.map, h]

/-- Drawing what all nets need comes to the same. -/
theorem addRatsForAll_congr (host : Host) (selection : Option (List Pin)) :
    (s.addRatsForAll host settings policy selection).map id (Prod.map id dimmed) =
      (t.addRatsForAll host settings policy selection).map id (Prod.map id dimmed) := by
  have hnetlist : s.board.content.netlist = t.board.content.netlist :=
    (congrArg (·.board.content.netlist) h :)
  have hruns := foldl_addRatsForOne_congr settings policy h host selection {}
    (.start "" t.board.content.netlist) t.board.content.netlist.toList
  rw [addRatsForAll, addRatsForAll, hnetlist]
  generalize t.board.content.netlist.toList.foldl _ (_, _, s) = run at hruns ⊢
  generalize t.board.content.netlist.toList.foldl _ (_, _, t) = run' at hruns ⊢
  obtain ⟨totals, v, s'⟩ := run
  obtain ⟨totals', w, t'⟩ := run'
  obtain ⟨rfl, rfl, hleft⟩ : totals = totals' ∧ v = w ∧ s'.dimmed = t'.dimmed := by
    simpa using hruns
  exact Prod.ext rfl (Prod.ext rfl (message_congr (finishWatch_congr hleft rfl) _ _))

end Congr

end Session

end Ratsnest
