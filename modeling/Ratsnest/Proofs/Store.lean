import Mathlib.Data.List.Nodup
import Mathlib.Data.Finset.Card
import Ratsnest.Store

/-!
# What a store holds

The ids of a store, as a list without repetitions and as a finite set, what membership in its
lists says about its look-ups, and that its counter does not go back when an object is placed.
-/

namespace Ratsnest

universe u v

namespace SortedMap

variable {κ : Type u} {ν : Type v} [Ord κ] [Std.LawfulEqOrd κ]

theorem nodup_keys (m : SortedMap κ ν) : m.keys.Nodup := by
  refine List.pairwise_map.2 (m.ascending.imp fun {e f} h heq => ?_)
  rw [heq, Std.ReflOrd.compare_self] at h
  cases h

theorem mem_keys_iff {m : SortedMap κ ν} {k : κ} : k ∈ m.keys ↔ m.contains k := by
  simp only [keys, contains, Option.isSome_iff_exists, List.mem_map, ← mem_entries_iff]
  constructor
  · rintro ⟨⟨l, x⟩, h, rfl⟩
    exact ⟨x, h⟩
  · rintro ⟨x, h⟩
    exact ⟨(k, x), h, rfl⟩

theorem mem_values_iff {m : SortedMap κ ν} {x : ν} : x ∈ m.values ↔ ∃ k, m.get? k = some x := by
  simp only [values, List.mem_map, ← mem_entries_iff]
  constructor
  · rintro ⟨⟨k, y⟩, h, rfl⟩
    exact ⟨k, h⟩
  · rintro ⟨k, h⟩
    exact ⟨(k, x), h, rfl⟩

section Map

variable {μ : Type v} [Std.TransOrd κ] [DecidableEq κ] (m : SortedMap κ ν) (f : ν → μ)

theorem map_insert (k : κ) (x : ν) : (m.insert k x).map f = (m.map f).insert k (f x) := by
  refine ext_get? fun l => ?_
  rw [get?_map, get?_insert, get?_insert, get?_map]
  split <;> rfl

theorem map_erase (k : κ) : (m.erase k).map f = (m.map f).erase k := by
  refine ext_get? fun l => ?_
  rw [get?_map, get?_erase, get?_erase, get?_map]
  split <;> rfl

end Map

/-- What is put under a key behind all others comes last. -/
theorem entries_insert_of_lt [Std.TransOrd κ] {m : SortedMap κ ν} {k : κ}
    (h : ∀ e ∈ m.entries, compare e.1 k = .lt) (x : ν) :
    (m.insert k x).entries = m.entries ++ [(k, x)] := by
  obtain ⟨es, hes⟩ := m
  rw [insert]
  dsimp only at h ⊢
  clear hes
  induction es with
  | nil => rfl
  | cons e es ih =>
    have hgt : compare k e.1 = .gt := Std.OrientedCmp.gt_of_lt (h e List.mem_cons_self)
    rw [insertEntry, hgt]
    exact congrArg (e :: ·) (ih fun f hf => h f (List.mem_cons_of_mem e hf))

end SortedMap

namespace Store

variable {α : Type u}

theorem mem_toList_iff {s : Store α} {o : BoardObject α} :
    o ∈ s.toList ↔ ∃ id, s.get? id = some o := SortedMap.mem_values_iff

theorem contains_iff {s : Store α} {id : ObjectId} : s.contains id ↔ ∃ o, s.get? id = some o :=
  Option.isSome_iff_exists

theorem contains_of_get? {s : Store α} {id : ObjectId} {o : BoardObject α}
    (h : s.get? id = some o) : s.contains id := contains_iff.2 ⟨o, h⟩

/-- The ids of a store. -/
def ids (s : Store α) : Finset ObjectId := ⟨s.objects.keys, s.objects.nodup_keys⟩

@[simp] theorem mem_ids {s : Store α} {id : ObjectId} : id ∈ s.ids ↔ s.contains id :=
  SortedMap.mem_keys_iff

theorem card_ids (s : Store α) : s.ids.card = s.size := by
  simp [ids, size, SortedMap.size, SortedMap.keys]

theorem nextId_le_insert (s : Store α) (o : BoardObject α) : s.nextId ≤ (s.insert o).nextId := by
  rw [insert]
  dsimp only
  split
  · rename_i h
    exact UInt64.le_of_lt h
  · exact UInt64.le_refl _

end Store

end Ratsnest
