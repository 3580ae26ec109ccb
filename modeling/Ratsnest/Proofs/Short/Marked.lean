import Ratsnest.Proofs.Flags
import Ratsnest.Proofs.Short.Ledger

/-!
# What a run marks

The objects that a run marks in the end are the ends of those short circuits that it has offered to
the host in vain, and no others (`ShortWatch.Booked.mem_pending_iff`).  Marking sets a warning on
each of them and leaves the other objects alone (`ShortWatch.get?_finish`).  A board with short
circuits counts as changed (`Session.changed_finishWatch`).
-/

namespace Ratsnest

universe u

variable {α : Type u}

/-- Marks are set once and for all. -/
theorem Flags.change_set_set (f g : Flags) :
    (f.change g .none).change g .none = f.change g .none := by
  refine ext_bit fun i => ?_
  simp only [bit_change, bit_none]
  cases g.bit i <;> simp

namespace Store

theorem get?_changeFlags (s : Store α) (i id : ObjectId) (set clear : Flags) :
    (s.changeFlags i set clear).get? id =
      if id = i then (s.get? id).map (·.changeFlags set clear) else s.get? id := get?_modify ..

/-- Marking objects sets the marks on each of them, and on these alone. -/
theorem get?_foldl_changeFlags (s : Store α) (f : Flags) (ids : List ObjectId) (id : ObjectId) :
    (ids.foldl (fun s i => s.changeFlags i f .none) s).get? id =
      if id ∈ ids then (s.get? id).map (·.changeFlags f .none) else s.get? id := by
  induction ids generalizing s with
  | nil => rfl
  | cons i ids ih =>
    have htwice (o : BoardObject α) :
        (o.changeFlags f .none).changeFlags f .none = o.changeFlags f .none := by
      rw [BoardObject.changeFlags, BoardObject.changeFlags, Flags.change_set_set]
    rw [List.foldl_cons, ih, get?_changeFlags]
    by_cases hi : id = i
    · simp only [if_pos hi, Option.map_map, Function.comp_def, htwice, ite_self,
        if_pos (List.mem_cons.2 (.inl hi))]
    · simp only [hi, if_false, List.mem_cons, false_or]

/-- Marking objects changes objects alone. -/
theorem foldl_changeFlags_eq (s : Store α) (f : Flags) (ids : List ObjectId) :
    ids.foldl (fun s i => s.changeFlags i f .none) s =
      { s with objects := (ids.foldl (fun s i => s.changeFlags i f .none) s).objects } := by
  induction ids generalizing s with
  | nil => rfl
  | cons i ids ih => exact ih (s.changeFlags i f .none)

end Store

namespace ShortWatch

/-- Whether an object is an end of a short circuit that one of the calls `pass`, made after
`before`, offers to the host in vain. -/
def Unhandled (host : Host) (before pass : List HostCall) (id : ObjectId) : Prop :=
  ∃ pre n, pre ++ [.short n] <+: pass ∧ host.handlesShort (before ++ pre) n = false ∧ id ∈ n.objects

variable {host : Host} {before pass : List HostCall} {w : ShortWatch} {id : ObjectId}

theorem Unhandled.append (h : Unhandled host before pass id) (more : List HostCall) :
    Unhandled host before (pass ++ more) id := by
  obtain ⟨pre, n, hpre, hhost, hid⟩ := h
  exact ⟨pre, n, hpre.trans (List.prefix_append pass more), hhost, hid⟩

/-- What a look adds to the objects to mark are the ends of a short circuit offered in vain. -/
theorem unhandled_of_check (s : Store α) (d : Discovery)
    (h : ∀ id ∈ w.pending, Unhandled host before pass id) {pass' : List HostCall}
    (hcalls : (w.check host s (before ++ pass) d).2 = before ++ pass') :
    ∀ id ∈ (w.check host s (before ++ pass) d).1.pending, Unhandled host before pass' id := by
  rw [check] at hcalls ⊢
  cases hoffense : w.offense? s d with
  | none =>
    simp only [hoffense] at hcalls
    obtain rfl := List.append_cancel_left hcalls
    exact h
  | some o =>
    obtain ⟨pin, net⟩ := o
    simp only [hoffense] at hcalls
    dsimp only
    split at hcalls
    · rename_i hreported
      obtain rfl := List.append_cancel_left hcalls
      rw [if_pos hreported]
      exact h
    · rename_i hreported
      simp only [List.append_assoc] at hcalls
      obtain rfl := List.append_cancel_left hcalls
      rw [if_neg hreported]
      intro id hid
      rcases List.mem_append.1 hid with hid | hid
      · exact (h id hid).append _
      split at hid
      · cases hid
      · rename_i hhost
        rw [List.append_assoc] at hhost
        refine ⟨pass ++ [_], _, ?_, Bool.eq_false_iff.2 hhost, hid⟩
        rw [List.append_assoc]

theorem unhandled_of_checkAll (s : Store α) (ds : List Discovery)
    (hbooked : Booked host before pass w) (h : ∀ id ∈ w.pending, Unhandled host before pass id)
    {pass' : List HostCall} (hcalls : (w.checkAll host s (before ++ pass) ds).2 = before ++ pass') :
    ∀ id ∈ (w.checkAll host s (before ++ pass) ds).1.pending, Unhandled host before pass' id := by
  induction ds generalizing w pass with
  | nil =>
    obtain rfl := List.append_cancel_left hcalls
    exact h
  | cons d ds ih =>
    obtain ⟨mid, hmid, hbooked'⟩ := hbooked.check s d
    rw [checkAll_cons, hmid] at hcalls ⊢
    exact ih hbooked' (unhandled_of_check s d h hmid) hcalls

/-- So a watch marks just the ends of the short circuits that are offered in vain. -/
theorem Booked.mem_pending_iff (hbooked : Booked host before pass w)
    (h : ∀ id ∈ w.pending, Unhandled host before pass id) :
    id ∈ w.pending ↔ Unhandled host before pass id := by
  refine ⟨h id, ?_⟩
  rintro ⟨pre, n, hpre, hhost, hid⟩
  exact hbooked.pending pre n hpre hhost hid

/-- Calls that offer no short circuit offer none in vain. -/
theorem unhandled_append_iff {more : List HostCall} (hmore : HostCall.notices more = []) :
    Unhandled host before (pass ++ more) id ↔ Unhandled host before pass id := by
  simp only [Unhandled, HostCall.short_prefix_append_iff hmore]

/-- The end of a run sets a warning on what is to be marked, and on nothing else. -/
theorem get?_finish (w : ShortWatch) (c : Content α) (calls : List HostCall) (id : ObjectId) :
    (w.finish c calls).1.store.get? id = if id ∈ w.pending
      then (c.store.get? id).map (·.changeFlags .warn .none) else c.store.get? id := by
  rw [← Store.get?_foldl_changeFlags, finish]
  split <;> rfl

/-- At the end of a run every object that is on the board and owed a mark has one. -/
theorem warned_finish (w : ShortWatch) (c : Content α) (calls : List HostCall) {id : ObjectId}
    (hid : id ∈ w.pending) (hc : c.store.contains id) :
    ((w.finish c calls).1.store.get? id).any (·.hasFlags .warn) := by
  obtain ⟨o, ho⟩ := Store.contains_iff.1 hc
  have hset : (o.changeFlags .warn .none).hasFlags .warn := Flags.contains_change_set ..
  rw [get?_finish, if_pos hid, ho]
  exact hset

/-- The end of a run changes objects alone, and a board with short circuits counts as changed. -/
theorem content_finish (w : ShortWatch) (c : Content α) (calls : List HostCall) :
    (w.finish c calls).1 = { c with
      store := { c.store with objects := (w.finish c calls).1.store.objects }
      changed := c.changed || decide (0 < w.count) } := by
  have hstore := c.store.foldl_changeFlags_eq .warn w.pending
  rw [finish]
  by_cases hcount : w.count = 0
  · simp only [hcount, if_true, Nat.lt_irrefl, decide_false, Bool.or_false, ← hstore]
  · simp only [hcount, if_false, Nat.pos_of_ne_zero hcount, decide_true, Bool.or_true, ← hstore]

end ShortWatch

theorem Session.changed_finishWatch {α : Type} (w : ShortWatch) (s : Session α) :
    (s.finishWatch w).board.content.changed =
      (s.board.content.changed || decide (0 < w.count)) :=
  congrArg Content.changed (w.content_finish s.board.content s.calls)

end Ratsnest
