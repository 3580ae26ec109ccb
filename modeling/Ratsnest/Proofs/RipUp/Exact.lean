import Ratsnest.Proofs.RipUp.Loose
import Ratsnest.Proofs.WellFormed.Runs

/-!
# Ripping up exactly

Ripping up takes away just the loose objects of a net, as one step of the history
(`Board.ripUp_exact`).  What edits do while a step is open is one run of them
(`Board.foldl_execute`), so taking objects away is one step (`Board.removeAll_eq`), and undoing it
brings them back (`Board.exists_undo?_removeAll`).
-/

namespace Ratsnest

variable {α : Type}

namespace Board

variable {b : Board α} {ids : List ObjectId} {description : String}

/-! ## Taking objects away as one step -/

/-- What edits do while a step is open. -/
theorem foldl_execute {step : EditStep α} {depth : ℕ}
    (hopen : b.journal.current = some (step, depth)) (es : List (Edit α)) :
    es.foldl execute b = ⟨(Edit.applyAll es b.content).2, { b.journal with
      current := some ({ step with edits := step.edits ++ (Edit.applyAll es b.content).1 }, depth)
      undone := if es.isEmpty then b.journal.undone else [] }⟩ := by
  induction es generalizing b step with
  | nil =>
    obtain ⟨content, done, undone, current⟩ := b
    obtain rfl : current = some (step, depth) := hopen
    simp [Edit.applyAll]
  | cons e es ih =>
    have hnext : (b.execute e).journal = { b.journal with
        current := some ({ step with edits := step.edits ++ [(e.apply b.content).1] }, depth)
        undone := [] } := by
      simp only [execute, Journal.record, hopen]
    rw [List.foldl_cons, ih (congrArg Journal.current hnext), hnext, Edit.applyAll_cons]
    simp [execute]

/-- What taking objects away does on a board without an open step: it is one step, unless there is
nothing to take away. -/
theorem removeAll_eq (hidle : b.journal.current = none) (description : String)
    (ids : List ObjectId) : b.removeAll description ids =
      ⟨(Edit.applyAll (ids.map .remove) b.content).2,
        if ids.isEmpty then b.journal else
          ⟨⟨description, (Edit.applyAll (ids.map .remove) b.content).1⟩ :: b.journal.done, [],
            none⟩⟩ := by
  obtain ⟨content, done, undone, current⟩ := b
  obtain rfl : current = none := hidle
  have hopen : ((⟨content, done, undone, none⟩ : Board α).begin description).journal.current =
      some (⟨description, []⟩, 0) := rfl
  have hrun := foldl_execute hopen (ids.map .remove)
  rw [List.foldl_map] at hrun
  rw [removeAll, hrun]
  cases ids with
  | nil => rfl
  | cons id ids => rfl

theorem fitsAll_remove (ids : List ObjectId) (c : Content α) :
    Edit.FitsAll (ids.map .remove) c := by
  induction ids generalizing c with
  | nil => trivial
  | cons id ids ih => exact ⟨trivial, ih _⟩

/-- Undoing the step brings the objects back. -/
theorem exists_undo?_removeAll (hkeyed : b.content.store.Keyed) (hidle : b.journal.current = none)
    (hne : ids ≠ []) : ∃ b', (b.removeAll description ids).undo? = some b' ∧
      b'.content.layout = b.content.layout ∧ b'.journal.done = b.journal.done := by
  rw [removeAll_eq hidle, if_neg (by simpa using hne)]
  exact ⟨_, rfl, Edit.revertAll_applyAll hkeyed (fitsAll_remove ids b.content), rfl⟩

/-! ## The loose objects of a net -/

/-- What ripping up leaves of a board: objects are taken away as one step of the history, none is
marked as found, and undoing the step brings the objects back. -/
structure RipsUp (b : Board α) (ids : List ObjectId) (b' : Board α) : Prop where
  content : b.unfound.content.Without ids b'.content
  clear : ∀ o ∈ b'.content.store.toList, o.hasFlags .found = false
  kept : ids = [] → b'.journal = b.journal
  step : ids ≠ [] → ∃ edits, b'.journal = ⟨⟨"Rip up net", edits⟩ :: b.journal.done, [], none⟩
  undo : ids ≠ [] → ∃ u, b'.undo? = some u ∧ u.content.layout = b.unfound.content.layout ∧
    u.journal.done = b.journal.done

theorem ripsUp_removeAll (hkeyed : b.content.store.Keyed) (hidle : b.journal.current = none)
    (ids : List ObjectId) : b.RipsUp ids (b.unfound.removeAll "Rip up net" ids) where
  content := without_removeAll b.unfound "Rip up net" ids
  clear := by
    intro o ho
    obtain ⟨id, hid⟩ := Store.mem_toList_iff.1 ho
    rw [(without_removeAll b.unfound "Rip up net" ids).get?] at hid
    split at hid
    · cases hid
    · obtain ⟨p, -, rfl⟩ := Option.map_eq_some_iff.1
        ((b.content.store.get?_clearFlags .found id).symm.trans hid)
      exact Flags.contains_change_clear p.flags .found
  kept h := by
    rw [removeAll_eq (show b.unfound.journal.current = none from hidle), h]
    rfl
  step h := by
    rw [removeAll_eq (show b.unfound.journal.current = none from hidle), if_neg (by simpa using h)]
    exact ⟨_, rfl⟩
  undo h := exists_undo?_removeAll (hkeyed.remark (·.change .none .found)) hidle h

section Exact

variable [AngularScalar α] {settings : Settings α} {m : Net} {id : ObjectId}

/-- Whether a crawl that follows rat lines comes to an object from a located terminal of a net. -/
def Reaches (b : Board α) (settings : Settings α) (m : Net) (id : ObjectId) : Prop :=
  ∃ x ∈ b.content.store.located m.terminals, id ∈ objectsOf
    ((ConnectionIndex.ofContent b.content).crawl (Extraction.rules settings) b.content.store [] x)

/-- What is connected to a net is what crawls come to, each on its own. -/
theorem mem_connected_iff (hkeyed : b.content.store.Keyed) (hid : b.content.store.contains id) :
    id ∈ objectsOf (b.connected settings m.terminals) ↔ b.Reaches settings m id := by
  have hcontains : ∀ x ∈ b.content.store.located m.terminals, b.content.store.contains x := by
    intro x hx
    obtain ⟨t, -, ht⟩ := List.mem_filterMap.1 hx
    exact (hkeyed.of_find? ht).1
  constructor
  · intro h
    obtain ⟨x, hx, hwired⟩ := ConnectionIndex.exists_wired_of_mem_crawlAll h
    exact ⟨x, hx, mem_crawl_of_wired hwired (hcontains x hx) hid⟩
  · rintro ⟨x, hx, h⟩
    exact ConnectionIndex.mem_crawlAll_of_wired hx (hcontains x hx) (wired_of_mem_crawl h) hid

theorem isLoose_iff (hkeyed : b.content.store.Keyed) : b.IsLoose settings m id ↔
    (∃ o, b.content.store.get? id = some o ∧ o.part = none) ∧ b.Reaches settings m id := by
  have hfree : (b.content.store.get? id).any (·.part.isNone) = true ↔
      ∃ o, b.content.store.get? id = some o ∧ o.part = none := by
    rw [Option.any_eq_true]
    simp only [Option.isNone_iff_eq_none]
  rw [IsLoose, hfree]
  refine and_congr_right fun h => ?_
  obtain ⟨o, ho, -⟩ := h
  exact mem_connected_iff hkeyed (Store.contains_of_get? ho)

/-- Ripping up a net takes away, and counts, the objects that no part owns and that a crawl from a
located terminal of the net discovers.  Where the name stands for no net it fails and leaves the
board as it is. -/
theorem ripUp_exact (b : Board α) (settings : Settings α) (name : String)
    (hkeyed : b.content.store.Keyed) (hidle : b.journal.current = none) :
    (∀ m, b.content.net name = .ok m → ∃ ids b', b.ripUp settings name = .ok (ids.length, b') ∧
      ids.Nodup ∧ (∀ id, id ∈ ids ↔
        (∃ o, b.content.store.get? id = some o ∧ o.part = none) ∧ b.Reaches settings m id) ∧
      b.RipsUp ids b') ∧
    ∀ e, b.content.net name = .error e → b.ripUp settings name = .error e ∧
      ∀ calls, (⟨b, calls⟩ : Session α).takeOver (b.ripUp settings name) = ⟨b, calls⟩ := by
  constructor
  · intro m hnet
    exact ⟨b.loose settings m, _, b.ripUp_eq_removeAll settings hnet, b.nodup_loose settings m,
      fun id => mem_loose_iff.trans (isLoose_iff hkeyed), ripsUp_removeAll hkeyed hidle _⟩
  · intro e hnet
    have hrun : b.ripUp settings name = .error e := by
      rw [ripUp, hnet]
      rfl
    refine ⟨hrun, fun calls => ?_⟩
    rw [hrun]
    rfl

/-- A trace that leads away from one of two pads goes, and comes back.  There is no net of another
name. -/
theorem ripUp_exact_tracedPads :
    Session.tracedPads.board.content.store.Keyed ∧
      Session.tracedPads.board.journal.current = none ∧
      ((Session.tracedPads.board.ripUp .standard "N").toOption.map (·.1) = some 1) ∧
      (∀ m, Session.tracedPads.board.content.net "N" = .ok m → ∃ ids b',
        Session.tracedPads.board.ripUp .standard "N" = .ok (ids.length, b') ∧ ids.Nodup ∧
        (∀ id, id ∈ ids ↔
          (∃ o, Session.tracedPads.board.content.store.get? id = some o ∧ o.part = none) ∧
            Session.tracedPads.board.Reaches .standard m id) ∧
        Session.tracedPads.board.RipsUp ids b') ∧
      ∀ e, Session.tracedPads.board.content.net "M" = .error e →
        Session.tracedPads.board.ripUp .standard "M" = .error e ∧
        ∀ calls, (⟨Session.tracedPads.board, calls⟩ : Session Float).takeOver
          (Session.tracedPads.board.ripUp .standard "M") = ⟨Session.tracedPads.board, calls⟩ := by
  have hkeyed : Session.tracedPads.board.content.store.Keyed := by decide +kernel
  have hidle : Session.tracedPads.board.journal.current = none := rfl
  exact ⟨hkeyed, hidle, by decide +kernel, (ripUp_exact _ .standard "N" hkeyed hidle).1,
    (ripUp_exact _ .standard "M" hkeyed hidle).2⟩

end Exact

end Board

end Ratsnest
