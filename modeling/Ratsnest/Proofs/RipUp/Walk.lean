import Ratsnest.Proofs.Store
import Ratsnest.RipUp

/-!
# The walk that rips up

Ripping up walks along the ids while it takes objects away.  What is taken away is behind the
cursor, so the walk passes the ids that were there when it began, and it takes away what was doomed
then (`Board.ripUpFrom_eq`).
-/

namespace Ratsnest

namespace SortedMap

universe u v

variable {κ : Type u} {ν : Type v} [Ord κ] {m : SortedMap κ ν} {k : κ} {ks ls : List κ}

theorem keys_map {μ : Type v} (m : SortedMap κ ν) (f : ν → μ) : (m.map f).keys = m.keys := by
  simp [keys, map]

theorem keys_eq_of_map {μ : Type v} {m n : SortedMap κ ν} {f : ν → μ} (h : m.map f = n.map f) :
    m.keys = n.keys := by
  rw [← keys_map m f, h, keys_map]

theorem keys_modify (m : SortedMap κ ν) (k : κ) (f : ν → ν) : (m.modify k f).keys = m.keys := by
  simp [keys, modify]

theorem keys_erase (m : SortedMap κ ν) (k : κ) :
    (m.erase k).keys = m.keys.filter fun l => compare k l != .eq := by
  simp only [keys, erase, List.filter_map]
  rfl

theorem pairwise_keys (m : SortedMap κ ν) : m.keys.Pairwise fun k l => compare k l = .lt :=
  List.pairwise_map.2 m.ascending

section Split

variable (h : m.keys = ks ++ k :: ls)
include h

theorem lt_of_mem_before {l : κ} (hl : l ∈ ks) : compare l k = .lt :=
  (List.pairwise_append.1 (h ▸ m.pairwise_keys)).2.2 l hl k List.mem_cons_self

theorem lt_of_mem_after {l : κ} (hl : l ∈ ls) : compare k l = .lt :=
  (List.pairwise_cons.1 (List.pairwise_append.1 (h ▸ m.pairwise_keys)).2.1).1 l hl

variable [Std.LawfulEqOrd κ] [Std.TransOrd κ]

/-- The next key comes next in the list of keys. -/
theorem nextKey?_eq : m.nextKey? k = ls.head? := by
  have hbefore : ks.find? (fun l => compare k l = .lt) = none := by
    refine List.find?_eq_none.2 fun l hl => ?_
    simp [Std.OrientedCmp.gt_of_lt (lt_of_mem_before h hl)]
  rw [nextKey?, h, List.find?_append, hbefore, Option.none_or,
    List.find?_cons_of_neg (by simp [Std.ReflOrd.compare_self])]
  cases ls with
  | nil => rfl
  | cons l ls =>
    rw [List.find?_cons_of_pos (by simp [lt_of_mem_after h List.mem_cons_self])]
    rfl

/-- Taking a key away leaves those before and behind it. -/
theorem keys_erase_eq : (m.erase k).keys = ks ++ ls := by
  rw [keys_erase, h, List.filter_append, List.filter_cons_of_neg (by simp)]
  congr 1
  · exact List.filter_eq_self.2 fun l hl => by
      simp [Std.OrientedCmp.gt_of_lt (lt_of_mem_before h hl)]
  · exact List.filter_eq_self.2 fun l hl => by simp [lt_of_mem_after h hl]

end Split

end SortedMap

namespace Board

variable {α : Type} {b : Board α} {id other : ObjectId} {ks ls : List ObjectId}

/-- Whether the mark of an object is cleared before it is taken away does not matter. -/
theorem get?_ripUpOne (b : Board α) (id other : ObjectId) :
    (b.ripUpOne id).content.store.get? other =
      if other = id then none else b.content.store.get? other := by
  refine ((b.content.store.changeFlags id .none .found).get?_remove id other).trans ?_
  split
  · rfl
  · rename_i hother
    rw [Store.changeFlags, Store.get?_modify, if_neg hother]

theorem isDoomed_ripUpOne (h : other ≠ id) :
    isDoomed (b.ripUpOne id).content.store other = isDoomed b.content.store other := by
  rw [isDoomed, isDoomed, get?_ripUpOne, if_neg h]

theorem keys_ripUpOne (h : b.content.store.objects.keys = ks ++ id :: ls) :
    (b.ripUpOne id).content.store.objects.keys = ks ++ ls :=
  SortedMap.keys_erase_eq ((SortedMap.keys_modify ..).trans h)

/-- The walk from one of the ids on takes away what is doomed from there on. -/
theorem ripUpFrom_head? (h : b.content.store.objects.keys = ks ++ ls) :
    b.ripUpFrom ls.head? = ((ls.filter (isDoomed b.content.store)).length,
      (ls.filter (isDoomed b.content.store)).foldl ripUpOne b) := by
  induction ls generalizing b ks with
  | nil => rw [List.head?_nil, ripUpFrom, List.filter_nil, List.length_nil, List.foldl_nil]
  | cons id ls ih =>
    have hnext : b.content.store.nextId? id = ls.head? := SortedMap.nextKey?_eq h
    rw [List.head?_cons, ripUpFrom, hnext]
    by_cases hdoomed : isDoomed b.content.store id = true
    · -- The ids behind the cursor and what is under them stay.
      have hfilter : ls.filter (isDoomed (b.ripUpOne id).content.store) =
          ls.filter (isDoomed b.content.store) := by
        refine List.filter_congr fun other hother => isDoomed_ripUpOne ?_
        rintro rfl
        have hlt := SortedMap.lt_of_mem_after h hother
        rw [Std.ReflOrd.compare_self] at hlt
        cases hlt
      rw [if_pos hdoomed, ih (keys_ripUpOne h), hfilter, List.filter_cons_of_pos hdoomed]
      rfl
    · have hkeys : b.content.store.objects.keys = (ks ++ [id]) ++ ls := by
        rw [h, List.append_assoc, List.singleton_append]
      rw [if_neg hdoomed, ih hkeys, List.filter_cons_of_neg hdoomed]

/-- The whole walk takes away what is doomed when it begins. -/
theorem ripUpFrom_eq (b : Board α) : b.ripUpFrom b.content.store.firstId? =
    ((b.content.store.objects.keys.filter (isDoomed b.content.store)).length,
      (b.content.store.objects.keys.filter (isDoomed b.content.store)).foldl ripUpOne b) :=
  ripUpFrom_head? (List.nil_append b.content.store.objects.keys).symm

/-- What ripping up does, all at once. -/
theorem ripUp_eq [AngularScalar α] (b : Board α) (settings : Settings α) (name : String) :
    b.ripUp settings name = (do
      let net ← b.content.net name
      let b := b.updateStore (·.clearFlags .found)
      let found := b.connected settings net.terminals
      let b := b.updateStore (·.mark { set := .found, clear := .none } found)
      let doomed := b.content.store.objects.keys.filter (isDoomed b.content.store)
      let b := (doomed.foldl ripUpOne (b.begin "Rip up net")).commit
      return (doomed.length, b.updateStore (·.clearFlags .found))) := by
  rw [ripUp]
  congr 1
  funext net
  dsimp only
  exact congrArg (fun r : ℕ × Board α => Except.ok (r.1, r.2.commit.updateStore (·.clearFlags .found)))
    (ripUpFrom_eq _)

end Board

end Ratsnest
