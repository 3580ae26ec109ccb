import Ratsnest.Proofs.RipUp.Loose
import Ratsnest.Proofs.StaleMarks.Manual
import Ratsnest.Proofs.WellFormed.Runs

/-!
# Stale marks do not show

Two boards that are the same when they are dimmed answer every operation in the same way, with the
same calls to the host, and are left the same when they are dimmed (`Session.respond_congr`).  So
what has been marked as found, or as part of a short circuit, before a run of operations has no
effect on it (`Session.respondAll_congr`).  Ripping up takes away what is marked as found; but it
clears these marks first, also on the objects that it leaves to the history.
-/

namespace Ratsnest

variable {α : Type}

/-- Runs that come to the same on the dimmed board are both refused, or both return the same. -/
theorem cases_of_map_eq {β γ δ : Type} {r r' : Except Error (β × γ)} {f : γ → δ}
    (h : r.map (fun x => (x.1, f x.2)) = r'.map fun x => (x.1, f x.2)) :
    (∃ e, r = .error e ∧ r' = .error e) ∨
      ∃ x y y', r = .ok (x, y) ∧ r' = .ok (x, y') ∧ f y = f y' := by
  rcases r with e | ⟨x, y⟩ <;> rcases r' with e' | ⟨x', y'⟩
  · exact .inl ⟨e, rfl, congrArg Except.error (Except.error.inj h).symm⟩
  · cases h
  · cases h
  · obtain ⟨rfl, hy⟩ := Prod.mk.inj (Except.ok.inj h)
    exact .inr ⟨_, y, y', rfl, rfl, hy⟩

/-! ## Boards -/

namespace Board

/-- Taking objects away does the same on the board with other marks. -/
theorem removeAll_remark (g : Flags → Flags) (b : Board α) (description : String)
    (ids : List ObjectId) :
    (b.remark g).removeAll description ids = (b.removeAll description ids).remark g := by
  have hfold (b : Board α) : ids.foldl (fun b id => b.execute (.remove id)) (b.remark g) =
      (ids.foldl (fun b id => b.execute (.remove id)) b).remark g :=
    List.foldl_hom (remark g) fun b id => b.execute_remark g (.remove id)
  rw [removeAll, begin_remark, hfold, commit_remark]
  rfl

/-- Rat lines are taken away from the dimmed board as from the board. -/
theorem deleteRats_dimmed (b : Board α) (selectedOnly : Bool) :
    b.dimmed.deleteRats selectedOnly =
      ((b.deleteRats selectedOnly).1, (b.deleteRats selectedOnly).2.dimmed) := by
  have hselected (o : BoardObject α) :
      (o.remark .dim).hasFlags .selected = o.hasFlags .selected := o.flags.contains_selected_dim
  have hdoomed :
      (b.dimmed.content.store.rats.filter fun o => !selectedOnly || o.hasFlags .selected) =
        (b.content.store.rats.filter fun o => !selectedOnly || o.hasFlags .selected).map
          (·.remark .dim) := by
    rw [Store.rats, Store.rats, show b.dimmed.content.store.toList = _ from
      b.content.store.toList_remark .dim, List.filter_map, List.filter_map]
    simp only [Function.comp_def, hselected]
    rfl
  rw [deleteRats, deleteRats, hdoomed, List.length_map, List.map_map, dimmed, removeAll_remark]
  rfl

/-- Clearing the marks of discovery is not seen when the board is dimmed. -/
theorem dimmed_unfound (b : Board α) : b.unfound.dimmed = b.dimmed := by
  simp only [dimmed, remark, Content.remark, unfound, updateStore, update,
    Store.remark_clearFlags Flags.dim_clear_found]

variable [AngularScalar α]

theorem connected_remark (g : Flags → Flags) (b : Board α) (settings : Settings α)
    (ts : List Terminal) : (b.remark g).connected settings ts = b.connected settings ts :=
  connected_congr (b.remark g) b settings rfl (b.content.store.unmarked_remark g) ts

theorem loose_remark (g : Flags → Flags) (b : Board α) (settings : Settings α) (m : Net) :
    (b.remark g).loose settings m = b.loose settings m := by
  have hkeys : (b.remark g).content.store.objects.keys = b.content.store.objects.keys :=
    SortedMap.keys_map ..
  have hpart (id : ObjectId) : ((b.remark g).content.store.get? id).any (·.part.isNone) =
      (b.content.store.get? id).any (·.part.isNone) := by
    rw [remark, Content.remark, Store.get?_remark, Option.any_map]
    rfl
  simp only [loose, hkeys, hpart, connected_remark]

section Congr

variable {b b' : Board α} (h : b.dimmed = b'.dimmed) (settings : Settings α) (name : String)
include h

omit [AngularScalar α] in
theorem dimmed_updateStore_congr {f f' : Store α → Store α}
    (hf : (f b.content.store).remark .dim = (f' b'.content.store).remark .dim) :
    (b.updateStore f).dimmed = (b'.updateStore f').dimmed := by
  obtain ⟨c, j⟩ := b
  obtain ⟨d, k⟩ := b'
  simp only [dimmed, remark, Content.remark, mk.injEq, Content.mk.injEq] at h
  simp only [dimmed, remark, Content.remark, updateStore, update, hf, h]

/-- Marking a net comes to the same, whatever is set and cleared. -/
theorem markNet_congr (set clear : Flags) :
    (b.markNet settings name set clear).map (fun r => (r.1, r.2.dimmed)) =
      (b'.markNet settings name set clear).map fun r => (r.1, r.2.dimmed) := by
  have hnetlist : b.content.netlist = b'.content.netlist := (congrArg (·.content.netlist) h :)
  have hconnected (ts : List Terminal) : b.connected settings ts = b'.connected settings ts := by
    rw [← connected_remark .dim, ← connected_remark .dim b']
    exact congrArg (·.connected settings ts) h
  rw [markNet, markNet, Content.net, Content.net, hnetlist]
  cases b'.content.netlist.find? name with
  -- Both sides are evaluated: what would be marked must not be compared.
  | none => exact Eq.trans (b := .error (.unknownNet name)) rfl rfl
  | some net =>
    have hmark (ds : List Discovery) :
        (b.updateStore (·.mark { set, clear } ds)).dimmed =
          (b'.updateStore (·.mark { set, clear } ds)).dimmed :=
      dimmed_updateStore_congr h (Store.mark_congr (congrArg (·.content.store) h)
        (fun f => f.dim_change_dim set clear) false ds)
    simp only [hconnected]
    exact congrArg (fun d => Except.ok ((b'.connected settings net.terminals).length, d)) (hmark _)

/-- Ripping up a net comes to the same: what is loose does not depend on marks. -/
theorem ripUp_congr : (b.ripUp settings name).map (fun r => (r.1, r.2.dimmed)) =
    (b'.ripUp settings name).map fun r => (r.1, r.2.dimmed) := by
  have hnetlist : b.content.netlist = b'.content.netlist := (congrArg (·.content.netlist) h :)
  have hnet : b.content.net name = b'.content.net name := by
    rw [Content.net, Content.net, hnetlist]
  have hloose (m : Net) : b.loose settings m = b'.loose settings m := by
    rw [← loose_remark .dim, ← loose_remark .dim b']
    exact congrArg (·.loose settings m) h
  have hunfound : b.unfound.dimmed = b'.unfound.dimmed := by
    rw [dimmed_unfound, dimmed_unfound, h]
  have hleft (b : Board α) (ids : List ObjectId) : (b.removeAll "Rip up net" ids).dimmed =
      b.dimmed.removeAll "Rip up net" ids := (b.removeAll_remark .dim "Rip up net" ids).symm
  cases hm : b'.content.net name with
  | error e =>
    rw [ripUp, ripUp, hnet, hm]
    exact Eq.trans (b := .error e) rfl rfl
  | ok m =>
    rw [ripUp_eq_removeAll b settings (hnet.trans hm), ripUp_eq_removeAll b' settings hm, hloose]
    simp only [Except.map, hleft, hunfound]

omit [AngularScalar α] in
/-- Going back or forth in the history comes to the same, as it does on the dimmed board. -/
theorem getD_congr {f : Board α → Option (Board α)} (hf : ∀ b, f b.dimmed = (f b).map dimmed) :
    (f b).isSome = (f b').isSome ∧ ((f b).getD b).dimmed = ((f b').getD b').dimmed := by
  have hmap : (f b).map dimmed = (f b').map dimmed := by
    rw [← hf, ← hf, h]
  cases hb : f b with
  | none =>
    obtain hb' : f b' = none := by simpa [hb] using hmap.symm
    rw [hb']
    exact ⟨rfl, h⟩
  | some c =>
    obtain ⟨c', hc', heq⟩ : ∃ c', f b' = some c' ∧ c'.dimmed = c.dimmed := by
      simpa [hb, eq_comm] using hmap.symm
    rw [hc']
    exact ⟨rfl, heq.symm⟩

end Congr

end Board

/-! ## Operations -/

/-- A manual connection that is refused leaves the board alone. -/
theorem Effects.board_of_connectByHand_eq_error [AngularScalar α] {host : Host}
    {settings : Settings α} {interactive : Bool} {a b : Point α} {s t : Session α} {e : Error}
    (h : connectByHand host settings interactive a b s = .error e t) : t.board = s.board := by
  have haside : Aside (plan host settings interactive a b) := aside_plan a b
  have hplanned := (haside s).board
  rw [connectByHand, bind_eq] at h
  cases hplan : plan host settings interactive a b s with
  | error e' t' =>
    rw [hplan] at h hplanned
    cases h
    exact hplanned
  | ok p t' =>
    rw [hplan] at h
    obtain ⟨added, u, hadded, -⟩ :=
      exists_joinNets p.net p.pins (t'.update (·.begin "Add rat line"))
    cases (carryOut_eq_ok hadded).symm.trans h

/-- What an operation returns. -/
inductive Answer where
  | net (result : Except Error NetResult)
  | allNets (totals : Totals) (outcome : Outcome)
  | rat (result : Except Error ManualRat)
  | count (result : Except Error Nat)
  | done (done : Bool)

/-- Whether an operation tells how many objects had the marks that it clears. -/
def Operation.countsMarks : Operation α → Bool
  | .clearFlags _ => true
  | _ => false

namespace Session

/-- What an operation on the board returns, and the session after it. -/
def counted (s : Session α) (r : Except Error (Nat × Board α)) : Answer × Session α :=
  (.count (r.map (·.1)), s.takeOver r)

variable [AngularScalar α] [ShownScalar α]

/-- Performs an operation and returns its answer.  The calls made to the host before a refusal
stay. -/
def respond (s : Session α) : Operation α → Answer × Session α
  | .addRatsForNet host settings policy name =>
    match s.addRatsForNet host settings policy name with
    | .ok (r, s) => (.net (.ok r), s)
    | .error e => (.net (.error e), s)
  | .addRatsForAll host settings policy selection =>
    let (totals, outcome, s) := s.addRatsForAll host settings policy selection
    (.allNets totals outcome, s)
  | .connectByHand host settings interactive a b =>
    let r := Effects.connectByHand host settings interactive a b s
    (.rat ((Effects.outcome r).map (·.1)), Effects.left r)
  | .ripUp settings name => s.counted (s.board.ripUp settings name)
  | .deleteRats selectedOnly => s.counted (.ok (s.board.deleteRats selectedOnly))
  | .markNet settings name set clear => s.counted (s.board.markNet settings name set clear)
  | .clearFlags f => s.counted (.ok (s.board.clearFlags f))
  | .undo => (.done s.board.undo?.isSome, s.update fun b => b.undo?.getD b)
  | .redo => (.done s.board.redo?.isSome, s.update fun b => b.redo?.getD b)

/-- Performs operations one after the other, and returns their answers. -/
def respondAll (s : Session α) : List (Operation α) → List Answer × Session α
  | [] => ([], s)
  | op :: ops =>
    let (answer, s) := s.respond op
    let (answers, s) := s.respondAll ops
    (answer :: answers, s)

/-- The answer apart, this is performing the operation. -/
theorem board_respond (s : Session α) (op : Operation α) :
    (s.respond op).2.board = (s.perform op).2.board := by
  cases op with
  | addRatsForNet host settings policy name =>
    rw [respond, perform]
    cases s.addRatsForNet host settings policy name <;> rfl
  | connectByHand host settings interactive a b =>
    rw [respond, perform, ← Effects.outcome_connectByHand]
    cases hrun : Effects.connectByHand host settings interactive a b s with
    | error e t => exact Effects.board_of_connectByHand_eq_error hrun
    | ok r t => rfl
  | _ => rfl

section Congr

variable {s t : Session α} (h : s.dimmed = t.dimmed)
include h

omit [AngularScalar α] [ShownScalar α] in
theorem counted_congr {r r' : Except Error (Nat × Board α)}
    (hr : r.map (fun x => (x.1, x.2.dimmed)) = r'.map fun x => (x.1, x.2.dimmed)) :
    (s.counted r).1 = (t.counted r').1 ∧ (s.counted r).2.dimmed = (t.counted r').2.dimmed := by
  rcases cases_of_map_eq hr with ⟨e, rfl, rfl⟩ | ⟨n, b, b', rfl, rfl, hleft⟩
  · exact ⟨rfl, h⟩
  · exact ⟨rfl, dimmed_eq_iff.2 ⟨hleft, (dimmed_eq_iff.1 h).2⟩⟩

/-- An operation that does not count marks has the same answer in sessions that are the same when
they are dimmed, and leaves such sessions. -/
theorem respond_congr {op : Operation α} (hop : op.countsMarks = false) :
    (s.respond op).1 = (t.respond op).1 ∧ (s.respond op).2.dimmed = (t.respond op).2.dimmed := by
  obtain ⟨hboard, hcalls⟩ := dimmed_eq_iff.1 h
  cases op with
  | addRatsForNet host settings policy name =>
    rw [respond, respond]
    rcases cases_of_map_eq (addRatsForNet_congr settings policy h host name) with
      ⟨e, hs, ht⟩ | ⟨r, s', t', hs, ht, hleft⟩
    · rw [hs, ht]
      exact ⟨rfl, h⟩
    · rw [hs, ht]
      exact ⟨rfl, hleft⟩
  | addRatsForAll host settings policy selection =>
    have hrun := addRatsForAll_congr settings policy h host selection
    simp only [Prod.map, id_eq, Prod.mk.injEq] at hrun
    obtain ⟨htotals, houtcome, hleft⟩ := hrun
    exact ⟨congrArg₂ Answer.allNets htotals houtcome, hleft⟩
  | connectByHand host settings interactive a b =>
    have hrun := Effects.blind_connectByHand host settings interactive a b s
    rw [h, Effects.blind_connectByHand] at hrun
    rw [respond, respond]
    constructor
    · rw [← Effects.outcome_dimmedResult, ← hrun, Effects.outcome_dimmedResult]
    · rw [← Effects.left_dimmedResult, ← hrun, Effects.left_dimmedResult]
  | ripUp settings name => exact counted_congr h (Board.ripUp_congr hboard settings name)
  | deleteRats selectedOnly =>
    have hrun := s.board.deleteRats_dimmed selectedOnly
    rw [hboard, Board.deleteRats_dimmed] at hrun
    exact counted_congr h (congrArg Except.ok hrun.symm)
  | markNet settings name set clear =>
    exact counted_congr h (Board.markNet_congr hboard settings name set clear)
  | clearFlags f => cases hop
  | undo =>
    obtain ⟨hdone, hleft⟩ := Board.getD_congr hboard (fun b => b.undo?_remark .dim)
    exact ⟨congrArg Answer.done hdone, dimmed_eq_iff.2 ⟨hleft, hcalls⟩⟩
  | redo =>
    obtain ⟨hdone, hleft⟩ := Board.getD_congr hboard (fun b => b.redo?_remark .dim)
    exact ⟨congrArg Answer.done hdone, dimmed_eq_iff.2 ⟨hleft, hcalls⟩⟩

end Congr

/-- On boards that differ in marks of discovery and of short circuits alone, a run of operations that
do not count marks has the same answers and makes the same calls to the host, and it leaves boards
that again differ in these marks alone. -/
theorem respondAll_congr {s t : Session α} (hboard : s.board.dimmed = t.board.dimmed)
    (hcalls : s.calls = t.calls) {ops : List (Operation α)}
    (hops : ∀ op ∈ ops, op.countsMarks = false) :
    (s.respondAll ops).1 = (t.respondAll ops).1 ∧
      (s.respondAll ops).2.calls = (t.respondAll ops).2.calls ∧
      (s.respondAll ops).2.board.dimmed = (t.respondAll ops).2.board.dimmed := by
  induction ops generalizing s t with
  | nil => exact ⟨rfl, hcalls, hboard⟩
  | cons op ops ih =>
    obtain ⟨hop, hops⟩ := List.forall_mem_cons.1 hops
    obtain ⟨hanswer, hleft⟩ := respond_congr (dimmed_eq_iff.2 ⟨hboard, hcalls⟩) hop
    obtain ⟨hboard, hcalls⟩ := dimmed_eq_iff.1 hleft
    obtain ⟨hanswers, hrest⟩ := ih hboard hcalls hops
    exact ⟨congrArg₂ List.cons hanswer hanswers, hrest⟩

/-- The trace has been marked, as found and as part of a short circuit. -/
def staleTrace : Session Float :=
  tracedPads.update (·.updateStore (·.changeFlags 3 (.union .found .warn) .none))

/-- Every operation that does not count marks, on the net that the trace belongs to. -/
def everyOperation : List (Operation Float) :=
  [.addRatsForNet .silent .standard .precise "N",
    .connectByHand .silent .standard true ⟨0, 0⟩ ⟨200, 0⟩,
    .addRatsForAll .silent .standard .precise none,
    .markNet .standard "N" .selected .found,
    .deleteRats true,
    .undo,
    .redo,
    .ripUp .standard "N",
    .undo]

/-- The trace is ripped up either way.  Brought back, it is part of a short circuit as before, or is
not. -/
theorem respondAll_congr_staleTrace :
    tracedPads.board.dimmed = staleTrace.board.dimmed ∧
      (∀ op ∈ everyOperation, op.countsMarks = false) ∧
      (tracedPads.respondAll everyOperation).1 = (staleTrace.respondAll everyOperation).1 ∧
      (tracedPads.respondAll everyOperation).2.calls =
        (staleTrace.respondAll everyOperation).2.calls ∧
      (tracedPads.respondAll everyOperation).2.board.dimmed =
        (staleTrace.respondAll everyOperation).2.board.dimmed ∧
      (tracedPads.respondAll everyOperation).2.board ≠
        (staleTrace.respondAll everyOperation).2.board := by
  have hboard : tracedPads.board.dimmed = staleTrace.board.dimmed := by decide +kernel
  have hops : ∀ op ∈ everyOperation, op.countsMarks = false := by decide
  obtain ⟨hanswers, hcalls, hleft⟩ := respondAll_congr hboard rfl hops
  exact ⟨hboard, hops, hanswers, hcalls, hleft, by decide +kernel⟩

end Session

end Ratsnest
