/-!
# Sorted maps

A finite map is kept as its list of entries in strictly ascending key order.  The order is
part of the type, so iteration is in key order and two maps with the same look-ups are equal
(`SortedMap.ext_get?`).  Each operation is pinned down by one equation on `get?`.
-/

namespace Ratsnest

universe u v w

/-- A finite map as its entries in strictly ascending key order. -/
structure SortedMap (κ : Type u) (ν : Type v) [Ord κ] where
  entries : List (κ × ν)
  ascending : entries.Pairwise fun e f => compare e.1 f.1 = .lt

namespace SortedMap

variable {κ : Type u} {ν : Type v} [Ord κ]

/-! ## Entry lists -/

/-- The value listed under `k`. -/
def lookupEntry (k : κ) : List (κ × ν) → Option ν
  | [] => none
  | (l, x) :: es => if compare k l = .eq then some x else lookupEntry k es

/-- Puts `x` under `k`, in key order, in place of what was there. -/
def insertEntry (k : κ) (x : ν) : List (κ × ν) → List (κ × ν)
  | [] => [(k, x)]
  | (l, y) :: es =>
    match compare k l with
    | .lt => (k, x) :: (l, y) :: es
    | .eq => (k, x) :: es
    | .gt => (l, y) :: insertEntry k x es

theorem mem_insertEntry {k : κ} {x : ν} {es : List (κ × ν)} {e : κ × ν}
    (h : e ∈ insertEntry k x es) : e = (k, x) ∨ e ∈ es := by
  induction es with
  | nil => simpa [insertEntry] using h
  | cons f es ih =>
    obtain ⟨l, y⟩ := f
    simp only [insertEntry] at h
    split at h
    · simpa using h
    · rcases List.mem_cons.1 h with h | h
      · exact .inl h
      · exact .inr (List.mem_cons_of_mem _ h)
    · rcases List.mem_cons.1 h with h | h
      · exact .inr (h ▸ List.mem_cons_self)
      · exact (ih h).imp_right (List.mem_cons_of_mem _)

section Lawful

variable [Std.TransOrd κ] [Std.LawfulEqOrd κ]

theorem ascending_insertEntry {k : κ} {x : ν} {es : List (κ × ν)}
    (h : es.Pairwise fun e f => compare e.1 f.1 = .lt) :
    (insertEntry k x es).Pairwise fun e f => compare e.1 f.1 = .lt := by
  induction es with
  | nil => simp [insertEntry]
  | cons f es ih =>
    obtain ⟨l, y⟩ := f
    rw [List.pairwise_cons] at h
    simp only [insertEntry]
    split
    · rename_i hk
      refine List.pairwise_cons.2 ⟨fun e he => ?_, List.pairwise_cons.2 h⟩
      rcases List.mem_cons.1 he with rfl | he
      · exact hk
      · exact Std.TransCmp.lt_trans hk (h.1 e he)
    · rename_i hk
      have hkl : k = l := Std.LawfulEqOrd.eq_of_compare hk
      exact List.pairwise_cons.2 ⟨fun e he => hkl ▸ h.1 e he, h.2⟩
    · rename_i hk
      refine List.pairwise_cons.2 ⟨fun e he => ?_, ih h.2⟩
      rcases mem_insertEntry he with rfl | he
      · exact Std.OrientedCmp.lt_of_gt hk
      · exact h.1 e he

end Lawful

/-! ## Operations -/

/-- The map without entries. -/
def empty : SortedMap κ ν := ⟨[], .nil⟩

instance : EmptyCollection (SortedMap κ ν) := ⟨empty⟩

instance : Inhabited (SortedMap κ ν) := ⟨empty⟩

instance [DecidableEq κ] [DecidableEq ν] : DecidableEq (SortedMap κ ν) := fun m n =>
  decidable_of_iff (m.entries = n.entries)
    ⟨fun h => by cases m; cases n; simp_all, fun h => h ▸ rfl⟩

/-- The value under `k`, if there is one. -/
def get? (m : SortedMap κ ν) (k : κ) : Option ν := lookupEntry k m.entries

/-- Whether some value is under `k`. -/
def contains (m : SortedMap κ ν) (k : κ) : Bool := (m.get? k).isSome

/-- The keys, ascending. -/
def keys (m : SortedMap κ ν) : List κ := m.entries.map (·.1)

/-- The values in key order. -/
def values (m : SortedMap κ ν) : List ν := m.entries.map (·.2)

/-- The number of entries. -/
def size (m : SortedMap κ ν) : Nat := m.entries.length

/-- Whether there are no entries. -/
def isEmpty (m : SortedMap κ ν) : Bool := m.entries.isEmpty

/-- Puts `x` under `k`, in place of what was there. -/
def insert [Std.TransOrd κ] [Std.LawfulEqOrd κ] (m : SortedMap κ ν) (k : κ) (x : ν) :
    SortedMap κ ν :=
  ⟨insertEntry k x m.entries, ascending_insertEntry m.ascending⟩

/-- Drops the entry under `k`. -/
def erase (m : SortedMap κ ν) (k : κ) : SortedMap κ ν :=
  ⟨m.entries.filter fun e => compare k e.1 != .eq, m.ascending.filter _⟩

/-- Applies `f` to every value. -/
def map {μ : Type w} (m : SortedMap κ ν) (f : ν → μ) : SortedMap κ μ :=
  ⟨m.entries.map fun e => (e.1, f e.2), List.pairwise_map.2 m.ascending⟩

/-- Applies `f` to the value under `k`. -/
def modify (m : SortedMap κ ν) (k : κ) (f : ν → ν) : SortedMap κ ν :=
  ⟨m.entries.map fun e => (e.1, if compare k e.1 = .eq then f e.2 else e.2),
    List.pairwise_map.2 m.ascending⟩

/-- The map of a list of entries; of two entries with one key the later counts. -/
def ofList [Std.TransOrd κ] [Std.LawfulEqOrd κ] (es : List (κ × ν)) : SortedMap κ ν :=
  es.foldl (fun m e => m.insert e.1 e.2) empty

/-- The least key. -/
def firstKey? (m : SortedMap κ ν) : Option κ := m.keys.head?

/-- The least key above `k`, whether or not `k` is a key itself. -/
def nextKey? (m : SortedMap κ ν) (k : κ) : Option κ :=
  m.keys.find? fun l => compare k l = .lt

theorem lt_of_nextKey? {m : SortedMap κ ν} {k l : κ} (h : m.nextKey? k = some l) :
    compare k l = .lt := by
  have hfound := List.find?_some h
  exact of_decide_eq_true hfound

/-! ## Look-ups -/

@[simp] theorem get?_empty (k : κ) : (empty : SortedMap κ ν).get? k = none := rfl

theorem lookupEntry_eq_none {k : κ} {es : List (κ × ν)}
    (h : ∀ e ∈ es, compare k e.1 ≠ .eq) : lookupEntry k es = none := by
  induction es with
  | nil => rfl
  | cons e es ih =>
    rw [lookupEntry, if_neg (h e List.mem_cons_self)]
    exact ih fun f hf => h f (List.mem_cons_of_mem _ hf)

section Lawful

variable [Std.LawfulEqOrd κ]

theorem lookupEntry_insertEntry [Std.TransOrd κ] (k l : κ) (x : ν) (es : List (κ × ν)) :
    lookupEntry l (insertEntry k x es) =
      if compare l k = .eq then some x else lookupEntry l es := by
  induction es with
  | nil => rfl
  | cons f es ih =>
    obtain ⟨j, y⟩ := f
    simp only [insertEntry]
    split
    · simp only [lookupEntry]
    · rename_i hk
      have hkj : k = j := Std.LawfulEqOrd.eq_of_compare hk
      subst hkj
      simp only [lookupEntry]
      split <;> rfl
    · rename_i hk
      simp only [lookupEntry, ih]
      split
      · rename_i hl
        have hlj : l = j := Std.LawfulEqOrd.eq_of_compare hl
        subst hlj
        rw [if_neg]
        intro h
        rw [Std.OrientedCmp.eq_comm, hk] at h
        cases h
      · rfl

theorem get?_insert [Std.TransOrd κ] [DecidableEq κ] (m : SortedMap κ ν) (k l : κ) (x : ν) :
    (m.insert k x).get? l = if l = k then some x else m.get? l := by
  simp only [get?, insert, lookupEntry_insertEntry, Std.LawfulEqOrd.compare_eq_iff_eq]

theorem mem_entries_iff {m : SortedMap κ ν} {k : κ} {x : ν} :
    (k, x) ∈ m.entries ↔ m.get? k = some x := by
  obtain ⟨es, h⟩ := m
  simp only [get?]
  induction es with
  | nil => simp [lookupEntry]
  | cons e es ih =>
    obtain ⟨l, y⟩ := e
    rw [List.pairwise_cons] at h
    simp only [List.mem_cons, lookupEntry, ih h.2]
    split
    · rename_i hk
      have hkl : k = l := Std.LawfulEqOrd.eq_of_compare hk
      subst hkl
      have : lookupEntry k es = none := lookupEntry_eq_none fun f hf hc => by
        rw [h.1 f hf] at hc
        cases hc
      simp [this, eq_comm]
    · rename_i hk
      have : k ≠ l := fun h => hk (h ▸ Std.ReflOrd.compare_self)
      simp [this]

theorem get?_erase [DecidableEq κ] (m : SortedMap κ ν) (k l : κ) :
    (m.erase k).get? l = if l = k then none else m.get? l := by
  have key (x : ν) : (m.erase k).get? l = some x ↔ l ≠ k ∧ m.get? l = some x := by
    rw [← mem_entries_iff, ← mem_entries_iff, erase]
    simp only [List.mem_filter, bne_iff_ne, ne_eq, Std.LawfulEqOrd.compare_eq_iff_eq]
    exact ⟨fun ⟨h, n⟩ => ⟨fun e => n e.symm, h⟩, fun ⟨n, h⟩ => ⟨h, fun e => n e.symm⟩⟩
  split
  · rename_i h
    exact Option.eq_none_iff_forall_ne_some.2 fun x hx => ((key x).1 hx).1 h
  · rename_i h
    exact Option.ext fun x => (key x).trans ⟨And.right, fun hx => ⟨h, hx⟩⟩

theorem lookupEntry_map_value {μ : Type w} (f : κ → ν → μ) (l : κ) (es : List (κ × ν)) :
    lookupEntry l (es.map fun e => (e.1, f e.1 e.2)) = (lookupEntry l es).map (f l) := by
  induction es with
  | nil => rfl
  | cons e es ih =>
    simp only [List.map_cons, lookupEntry, ih]
    split
    · rename_i h
      rw [Std.LawfulEqOrd.eq_of_compare h]
      rfl
    · rfl

theorem get?_modify [DecidableEq κ] (m : SortedMap κ ν) (k l : κ) (f : ν → ν) :
    (m.modify k f).get? l = if l = k then (m.get? l).map f else m.get? l := by
  rw [get?, modify, lookupEntry_map_value fun j x => if compare k j = .eq then f x else x]
  simp only [Std.LawfulEqOrd.compare_eq_iff_eq, get?]
  by_cases h : l = k
  · simp [h]
  · simp [h, Ne.symm h]

theorem get?_map {μ : Type w} (m : SortedMap κ ν) (f : ν → μ) (l : κ) :
    (m.map f).get? l = (m.get? l).map f :=
  lookupEntry_map_value (fun _ x => f x) l m.entries

/-- Entry lists in ascending order with the same members are equal. -/
theorem entries_ext [Std.TransOrd κ] {es fs : List (κ × ν)}
    (he : es.Pairwise fun e f => compare e.1 f.1 = .lt)
    (hf : fs.Pairwise fun e f => compare e.1 f.1 = .lt)
    (h : ∀ e, e ∈ es ↔ e ∈ fs) : es = fs := by
  induction es generalizing fs with
  | nil =>
    cases fs with
    | nil => rfl
    | cons f fs => exact absurd ((h f).2 List.mem_cons_self) List.not_mem_nil
  | cons e es ih =>
    cases fs with
    | nil => exact absurd ((h e).1 List.mem_cons_self) List.not_mem_nil
    | cons f fs =>
      rw [List.pairwise_cons] at he hf
      have irrefl (a : κ × ν) : compare a.1 a.1 ≠ .lt := by
        rw [Std.ReflOrd.compare_self]
        decide
      have hef : e = f := by
        rcases List.mem_cons.1 ((h e).1 List.mem_cons_self) with hm | hm
        · exact hm
        · rcases List.mem_cons.1 ((h f).2 List.mem_cons_self) with hn | hn
          · exact hn.symm
          · exact absurd (Std.TransCmp.lt_trans (he.1 f hn) (hf.1 e hm)) (irrefl e)
      subst hef
      congr 1
      refine ih he.2 hf.2 fun g => ?_
      have hg := h g
      simp only [List.mem_cons] at hg
      constructor
      · intro hm
        rcases hg.1 (.inr hm) with rfl | hn
        · exact absurd (he.1 g hm) (irrefl g)
        · exact hn
      · intro hm
        rcases hg.2 (.inr hm) with rfl | hn
        · exact absurd (hf.1 g hm) (irrefl g)
        · exact hn

/-- Two maps with the same look-ups are equal. -/
theorem ext_get? [Std.TransOrd κ] {m n : SortedMap κ ν} (h : ∀ k, m.get? k = n.get? k) : m = n := by
  have : m.entries = n.entries := entries_ext m.ascending n.ascending fun e => by
    rw [← Prod.eta e, mem_entries_iff, mem_entries_iff, h]
  cases m
  cases n
  simp_all

end Lawful

end SortedMap

end Ratsnest
