import Mathlib.Data.List.Forall2
import Mathlib.Data.List.Nodup
import Ratsnest.Synthesis

/-!
# Drawing rat lines

What drawing rat lines along links does to the board: each one is placed under a new id, and
nothing else changes.  The ids follow one another from the counter of the store on, wrapping
around at its end, so up to `UInt64.size` of them are distinct.
-/

namespace Ratsnest

/-- The ids that `n` allocations give out from `next` on. -/
def freshIds (next : ObjectId) : ℕ → List ObjectId
  | 0 => []
  | n + 1 => next :: freshIds (next + 1) n

@[simp] theorem length_freshIds (next : ObjectId) (n : ℕ) : (freshIds next n).length = n := by
  induction n generalizing next with
  | zero => rfl
  | succ n ih => rw [freshIds, List.length_cons, ih]

theorem toNat_sub_succ {next id : ObjectId} (h : id ≠ next) :
    (id - next).toNat = (id - (next + 1)).toNat + 1 := by
  have hne : id.toNat ≠ next.toNat := fun heq => h (UInt64.toNat_inj.1 heq)
  have hid := id.toNat_lt
  have hnext := next.toNat_lt
  rw [UInt64.toNat_sub, UInt64.toNat_sub, UInt64.toNat_add, UInt64.toNat_one]
  omega

theorem toNat_self_sub_succ (next : ObjectId) : (next - (next + 1)).toNat = UInt64.size - 1 := by
  have hnext := next.toNat_lt
  rw [UInt64.toNat_sub, UInt64.toNat_add, UInt64.toNat_one, UInt64.size]
  omega

theorem mem_freshIds_iff {next id : ObjectId} {n : ℕ} (hn : n ≤ UInt64.size) :
    id ∈ freshIds next n ↔ (id - next).toNat < n := by
  induction n generalizing next with
  | zero => simp [freshIds]
  | succ n ih =>
    rw [freshIds, List.mem_cons, ih (by omega)]
    by_cases h : id = next
    · simp [h]
    · rw [toNat_sub_succ h, Nat.succ_lt_succ_iff]
      exact or_iff_right h

theorem nodup_freshIds {n : ℕ} (hn : n ≤ UInt64.size) (next : ObjectId) : (freshIds next n).Nodup := by
  induction n generalizing next with
  | zero => exact List.nodup_nil
  | succ n ih =>
    refine List.nodup_cons.2 ⟨fun hmem => ?_, ih (by omega) (next + 1)⟩
    have hlt := (mem_freshIds_iff (by omega)).1 hmem
    rw [toNat_self_sub_succ] at hlt
    omega

namespace Store

variable {α : Type} [Scalar α]

/-- The store with rat lines along links placed under new ids. -/
def addRats (s : Store α) : List (Link α) → Store α
  | [] => s
  | l :: ls => (s.add (.rat l.toRat) none none).2.addRats ls

omit [Scalar α] in
@[simp] theorem nextId_add (s : Store α) (shape : Shape α) (part : Option Uuid)
    (pin : Option String) : (s.add shape part pin).2.nextId = s.nextId + 1 := by
  simp [add, allocate, insert]

omit [Scalar α] in
theorem get?_add (s : Store α) (shape : Shape α) (part : Option Uuid) (pin : Option String)
    (id : ObjectId) : (s.add shape part pin).2.get? id =
      if id = s.nextId then some { id := s.nextId, shape, part, pin } else s.get? id :=
  get?_insert ..

theorem get?_addRats_of_notMem {id : ObjectId} (ls : List (Link α)) (s : Store α)
    (h : id ∉ freshIds s.nextId ls.length) : (s.addRats ls).get? id = s.get? id := by
  induction ls generalizing s with
  | nil => rfl
  | cons l ls ih =>
    rw [List.length_cons, freshIds, List.mem_cons, not_or] at h
    rw [addRats, ih _ (by rw [nextId_add]; exact h.2), get?_add, if_neg h.1]

/-- Each rat line is under its id in the end. -/
theorem get?_addRats {ls : List (Link α)} (hls : ls.length ≤ UInt64.size) (s : Store α) :
    List.Forall₂ (fun id l => (s.addRats ls).get? id = some { id, shape := .rat l.toRat })
      (freshIds s.nextId ls.length) ls := by
  induction ls generalizing s with
  | nil => exact .nil
  | cons l ls ih =>
    have hnodup := nodup_freshIds hls s.nextId
    rw [List.length_cons, freshIds, List.nodup_cons] at hnodup
    have htail := ih (by rw [List.length_cons] at hls; omega) (s.add (.rat l.toRat) none none).2
    rw [nextId_add] at htail
    refine .cons ?_ htail
    rw [addRats, get?_addRats_of_notMem _ _ (by rw [nextId_add]; exact hnodup.1), get?_add,
      if_pos rfl]

@[simp] theorem parts_addRats (s : Store α) (ls : List (Link α)) :
    (s.addRats ls).parts = s.parts := by
  induction ls generalizing s with
  | nil => rfl
  | cons l ls ih => exact ih _

end Store

namespace Session

variable {α : Type} [AngularScalar α] [ShownScalar α] (policy : Policy) (s : Session α)

theorem drawRat_eq (l : Link α) : (s.drawRat policy l).1 = s.board.content.store.nextId ∧
    (s.drawRat policy l).2.board.content =
      { s.board.content with
        store := (s.board.content.store.add (.rat l.toRat) none none).2, changed := true } := by
  cases hinfo : policy.info
  · simp only [drawRat, hinfo]
    exact ⟨rfl, rfl⟩
  · simp only [drawRat, hinfo]
    exact ⟨rfl, rfl⟩

/-- Drawing gives out the next ids and places the rat lines under them. -/
theorem drawRats_eq (ls : List (Link α)) :
    (s.drawRats policy ls).1 = freshIds s.board.content.store.nextId ls.length ∧
      (s.drawRats policy ls).2.board.content =
        { s.board.content with
          store := s.board.content.store.addRats ls
          changed := s.board.content.changed || !ls.isEmpty } := by
  induction ls generalizing s with
  | nil => simp [drawRats, freshIds, Store.addRats]
  | cons l ls ih =>
    obtain ⟨hid, hcontent⟩ := s.drawRat_eq policy l
    obtain ⟨hids, hrest⟩ := ih (s.drawRat policy l).2
    simp only [drawRats]
    rw [hids, hrest, hid, hcontent]
    simp [freshIds, Store.addRats]

end Session

end Ratsnest
