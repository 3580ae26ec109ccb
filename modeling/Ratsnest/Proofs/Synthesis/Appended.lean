import Ratsnest.Proofs.Synthesis.Idempotent

/-!
# Rat lines behind all objects

As long as ids do not run out, new rat lines come behind all objects of the board
(`Store.toList_addRats`).  So runs that follow one another draw the lines of each behind those of
the runs before (`Session.Drew.trans`, `Session.Drew.ratLines`).
-/

namespace Ratsnest

variable {α : Type}

/-- The rat line that a shape is. -/
def Shape.ratLine? : Shape α → Option (RatLine α)
  | rat l => some l
  | line _ | arc _ | polygon _ | padstack _ => none

namespace Store

/-- The rat lines in the order of their ids. -/
def ratLines (s : Store α) : List (RatLine α) := s.toList.filterMap (·.shape.ratLine?)

@[simp] theorem ratLines_unmarked (s : Store α) : s.unmarked.ratLines = s.ratLines := by
  rw [ratLines, toList_unmarked, List.filterMap_map]
  rfl

/-! ## One object -/

theorem unmarked_add (s : Store α) (shape : Shape α) :
    (s.add shape none none).2.unmarked = (s.unmarked.add shape none none).2 := by
  simp only [add, allocate, insert, unmarked, SortedMap.map_insert]
  rfl

theorem toList_add {s : Store α} (hbelow : ∀ e ∈ s.objects.entries, e.1 < s.nextId)
    (shape : Shape α) :
    (s.add shape none none).2.toList = s.toList ++ [{ id := s.nextId, shape }] := by
  have hentries := SortedMap.entries_insert_of_lt
    (fun e he => Std.compare_eq_lt.2 (hbelow e he)) ({ id := s.nextId, shape } : BoardObject α)
  change ((s.objects.insert s.nextId { id := s.nextId, shape }).entries).map (·.2) = _
  rw [hentries, List.map_append]
  rfl

/-- The counter stays beyond all ids unless it wraps around. -/
theorem below_add {s : Store α} (hbelow : ∀ e ∈ s.objects.entries, e.1 < s.nextId)
    (hroom : s.nextId.toNat + 1 < UInt64.size) (shape : Shape α) :
    ∀ e ∈ (s.add shape none none).2.objects.entries,
      e.1 < (s.add shape none none).2.nextId := by
  rintro ⟨id, o⟩ he
  have hget : (s.add shape none none).2.get? id = some o := SortedMap.mem_entries_iff.1 he
  have hnext : (s.nextId + 1).toNat = s.nextId.toNat + 1 := by
    rw [UInt64.toNat_add, UInt64.toNat_one]
    exact Nat.mod_eq_of_lt hroom
  rw [nextId_add, UInt64.lt_iff_toNat_lt, hnext]
  rw [get?_add] at hget
  split at hget
  · rename_i hid
    exact hid ▸ Nat.lt_succ_self _
  · have hlt : id < s.nextId := hbelow (id, o) (SortedMap.mem_entries_iff.2 hget)
    exact Nat.lt_succ_of_lt (UInt64.lt_iff_toNat_lt.1 hlt)

/-! ## Rat lines along links -/

variable [Scalar α]

theorem addRats_append (s : Store α) (ls ks : List (Link α)) :
    s.addRats (ls ++ ks) = (s.addRats ls).addRats ks := by
  induction ls generalizing s with
  | nil => rfl
  | cons l ls ih => exact ih _

theorem unmarked_addRats (s : Store α) (ls : List (Link α)) :
    (s.addRats ls).unmarked = s.unmarked.addRats ls := by
  induction ls generalizing s with
  | nil => rfl
  | cons l ls ih => rw [addRats, addRats, ih, unmarked_add]

/-- What is selected does not depend on other marks after drawing either. -/
theorem selected_addRats {s t : Store α} (hnext : s.nextId = t.nextId)
    (h : ∀ id, (s.get? id).map (·.hasFlags .selected) = (t.get? id).map (·.hasFlags .selected))
    (ls : List (Link α)) (id : ObjectId) :
    ((s.addRats ls).get? id).map (·.hasFlags .selected) =
      ((t.addRats ls).get? id).map (·.hasFlags .selected) := by
  induction ls generalizing s t with
  | nil => exact h id
  | cons l ls ih =>
    refine ih (by rw [nextId_add, nextId_add, hnext]) fun i => ?_
    rw [get?_add, get?_add, hnext]
    split
    · rfl
    · exact h i

/-- New rat lines come behind all objects. -/
theorem toList_addRats {s : Store α} (hbelow : ∀ e ∈ s.objects.entries, e.1 < s.nextId)
    {ls : List (Link α)} (hroom : s.nextId.toNat + ls.length ≤ UInt64.size) :
    (s.addRats ls).toList = s.toList ++
      (freshIds s.nextId ls.length).zipWith (fun id l => { id, shape := .rat l.toRat }) ls := by
  induction ls generalizing s with
  | nil => exact (List.append_nil _).symm
  | cons l ls ih =>
    rw [addRats, List.length_cons, freshIds, List.zipWith_cons_cons]
    cases ls with
    | nil => exact toList_add hbelow _
    | cons m ls =>
      simp only [List.length_cons] at hroom
      have hnext : (s.nextId + 1).toNat = s.nextId.toNat + 1 := by
        rw [UInt64.toNat_add, UInt64.toNat_one]
        exact Nat.mod_eq_of_lt (by rw [UInt64.size] at hroom; omega)
      rw [ih (below_add hbelow (by omega) _)
        (by rw [nextId_add, hnext, List.length_cons]; omega), toList_add hbelow, nextId_add,
        List.append_assoc]
      rfl

theorem ratLines_addRats {s : Store α} (hbelow : ∀ e ∈ s.objects.entries, e.1 < s.nextId)
    {ls : List (Link α)} (hroom : s.nextId.toNat + ls.length ≤ UInt64.size) :
    (s.addRats ls).ratLines = s.ratLines ++ ls.map Link.toRat := by
  have hnew (ids : List ObjectId) (h : ids.length = ls.length) :
      (ids.zipWith (fun id (l : Link α) =>
        ({ id, shape := .rat l.toRat } : BoardObject α)) ls).filterMap (·.shape.ratLine?) =
          ls.map Link.toRat := by
    clear hroom
    induction ls generalizing ids with
    | nil => rw [List.zipWith_nil_right]; rfl
    | cons l ls ih =>
      obtain ⟨id, ids, rfl⟩ := List.exists_cons_of_length_eq_add_one h
      exact congrArg (l.toRat :: ·) (ih ids (Nat.succ.inj h))
  rw [ratLines, toList_addRats hbelow hroom, List.filterMap_append, hnew _ (length_freshIds _ _)]
  rfl

end Store

namespace Session

variable [AngularScalar α] {c d e : Content α} {ls ks : List (Link α)}

theorem Drew.refl (c : Content α) : Drew c [] c := ⟨rfl, rfl, rfl, fun _ => rfl⟩

/-- Runs one after the other draw the lines of both. -/
theorem Drew.trans (h : Drew c ls d) (h' : Drew d ks e) : Drew c (ls ++ ks) e := by
  have hstore : (c.withRats (ls ++ ks)).store = (c.withRats ls).store.addRats ks :=
    c.store.addRats_append ls ks
  have hnext : d.store.nextId = (c.withRats ls).store.nextId := by
    change d.store.unmarked.nextId = _
    rw [h.marks]
    rfl
  refine ⟨h'.layers.trans h.layers, h'.netlist.trans h.netlist, ?_, fun id => ?_⟩
  · rw [h'.marks, hstore, Store.unmarked_addRats, ← h.marks, ← Store.unmarked_addRats]
    rfl
  · rw [h'.selected, hstore]
    exact Store.selected_addRats hnext h.selected ks id

/-- The end of a run only sets warnings. -/
theorem Drew.finishWatch {s : Session α} (h : Drew c ls s.board.content) (w : ShortWatch) :
    Drew c ls (s.finishWatch w).board.content := by
  obtain ⟨hlayers, hnetlist, hmarks, hselected⟩ := w.finish_spec s.board.content s.calls
  exact ⟨hlayers.trans h.layers, hnetlist.trans h.netlist, hmarks.trans h.marks,
    fun id => (hselected id).trans (h.selected id)⟩

theorem Drew.ratLines (h : Drew c ls d)
    (hbelow : ∀ e ∈ c.store.objects.entries, e.1 < c.store.nextId)
    (hroom : c.store.nextId.toNat + ls.length ≤ UInt64.size) :
    d.store.ratLines = c.store.ratLines ++ ls.map Link.toRat := by
  rw [← Store.ratLines_unmarked, h.marks, Store.ratLines_unmarked]
  exact Store.ratLines_addRats hbelow hroom

end Session

end Ratsnest
