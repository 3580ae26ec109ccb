import Mathlib.Data.Nat.Find
import Mathlib.Data.PFun
import Ratsnest.NetList.Lookup
import Ratsnest.Proofs.Store

/-!
# Unused names

Different numbers make different names (`NetList.numberedName_injective`), so the numbers whose
names are taken are no more than there are nets, whatever the nets are called.  Hence counting up
from 1 comes to a free name though nothing bounds it, and the name that is made up is the one it
comes to (`NetList.unusedName_least`).
-/

namespace Ratsnest

namespace NetList

variable {l : NetList} {start : String} {m n : ℕ}

/-! ## Numbered names -/

theorem toList_numberedName (start : String) (n : ℕ) :
    (numberedName start n).toList = start.toList ++ Nat.toDigits 10 n := by
  rw [numberedName, String.toList_append, Nat.toString_eq_ofList_toDigits, String.toList_ofList]

theorem numberedName_injective (start : String) : Function.Injective (numberedName start) := by
  intro m n h
  have hdigits : Nat.toDigits 10 m = Nat.toDigits 10 n := by
    have htexts := congrArg String.toList h
    rw [toList_numberedName, toList_numberedName] at htexts
    exact List.append_cancel_left htexts
  -- The digits give the number back.
  have hvalue (k : ℕ) : Nat.ofDigitChars 10 (Nat.toDigits 10 k) 0 = k :=
    Nat.ofDigitChars_toDigits (by decide) le_rfl
  rw [← hvalue m, hdigits, hvalue n]

theorem numberedName_ne (start : String) (n : ℕ) : numberedName start n ≠ start := by
  intro h
  have htexts := congrArg String.toList h
  rw [toList_numberedName, List.append_right_eq_self] at htexts
  exact Nat.toDigits_ne_nil htexts

/-- Where the names of all numbers up to `m` are taken there are at least `m` nets. -/
theorem le_size_of_taken
    (h : ∀ k, 1 ≤ k → k ≤ m → l.contains (numberedName start k)) : m ≤ l.nets.size := by
  have hnodup : ((List.range' 1 m).map (numberedName start)).Nodup :=
    List.Nodup.map (numberedName_injective start) List.nodup_range'
  have hkeys : (List.range' 1 m).map (numberedName start) ⊆ l.nets.keys := by
    intro name hname
    obtain ⟨k, hk, rfl⟩ := List.mem_map.1 hname
    rw [List.mem_range'_1] at hk
    exact SortedMap.mem_keys_iff.2 (h k hk.1 (by omega))
  calc m
    _ = ((List.range' 1 m).map (numberedName start)).length := by
      rw [List.length_map, List.length_range']
    _ ≤ l.nets.keys.length := hnodup.length_le_of_subset hkeys
    _ = l.nets.size := List.length_map _

/-! ## The least number -/

/-- A number from 1 on whose name is free, while the names of all smaller ones are taken. -/
structure LeastFree (l : NetList) (start : String) (n : ℕ) : Prop where
  pos : 1 ≤ n
  free : ¬l.contains (numberedName start n)
  taken : ∀ k, 1 ≤ k → k < n → l.contains (numberedName start k)

theorem exists_leastFree (l : NetList) (start : String) : ∃ n, l.LeastFree start n := by
  have hfree : ∃ n, 1 ≤ n ∧ ¬l.contains (numberedName start n) := by
    by_contra hnone
    have hle : l.nets.size + 1 ≤ l.nets.size :=
      le_size_of_taken fun k hk _ => by_contra fun hk' => hnone ⟨k, hk, hk'⟩
    exact Nat.not_succ_le_self _ hle
  obtain ⟨hpos, hspec⟩ := Nat.find_spec hfree
  exact ⟨Nat.find hfree, hpos, hspec,
    fun k hk hlt => by_contra fun hk' => Nat.find_min hfree hlt ⟨hk, hk'⟩⟩

theorem LeastFree.le_size_add_one (h : l.LeastFree start n) : n ≤ l.nets.size + 1 := by
  have hle : n - 1 ≤ l.nets.size :=
    le_size_of_taken fun k hk hlast => h.taken k hk (by omega)
  omega

/-- The numbers that are tried reach to the least free one, so the bare text is not needed. -/
theorem LeastFree.unusedName_eq (h : l.LeastFree start n) :
    l.unusedName start = numberedName start n := by
  have hpos := h.pos
  have hle := h.le_size_add_one
  have hfind : (((List.range (l.nets.size + 1)).map (· + 1)).map (numberedName start)).find?
      (fun name => !l.contains name) = some (numberedName start n) := by
    refine List.find?_eq_some_iff_getElem.2 ⟨by simpa using h.free, n - 1, ?_, ?_, ?_⟩
    · simp only [List.length_map, List.length_range]
      omega
    · simp only [List.getElem_map, List.getElem_range]
      rw [Nat.sub_add_cancel hpos]
    · intro k hk
      simp only [List.getElem_map, List.getElem_range, Bool.not_not]
      exact h.taken (k + 1) (by omega) (by omega)
  rw [unusedName, hfind, Option.getD_some]

/-! ## Counting without a bound -/

/-- One step of counting: it ends at a number whose name is free and goes on behind a taken one. -/
def tryNumber (l : NetList) (start : String) (n : ℕ) : ℕ ⊕ ℕ :=
  if l.contains (numberedName start n) then .inr (n + 1) else .inl n

/-- Counts up from a number to the first one whose name is free.  Nothing bounds the counting, so
it has no value where it goes on for ever. -/
def countToFree (l : NetList) (start : String) : ℕ →. ℕ := PFun.fix (PFun.lift (l.tryNumber start))

theorem countToFree_of_taken (h : l.contains (numberedName start n)) :
    l.countToFree start n = l.countToFree start (n + 1) := by
  refine PFun.fix_fwd_eq ?_
  rw [PFun.lift, tryNumber, if_pos h]
  exact Part.mem_some _

theorem countToFree_of_free (h : ¬l.contains (numberedName start n)) :
    l.countToFree start n = Part.some n := by
  refine Part.eq_some_iff.2 (PFun.fix_stop ?_)
  rw [PFun.lift, tryNumber, if_neg h]
  exact Part.mem_some _

/-- From any number up to it, the counting comes to the least free number. -/
theorem LeastFree.countToFree_eq (h : l.LeastFree start n) (hm : 1 ≤ m) (hle : m ≤ n) :
    l.countToFree start m = Part.some n := by
  induction hle using Nat.decreasingInduction with
  | self => exact countToFree_of_free h.free
  | of_succ k hk ih =>
    rw [countToFree_of_taken (h.taken k hm hk)]
    exact ih (Nat.le_add_left 1 k)

/-- Counting up from 1 comes to a number that is at most one more than there are nets.  The name
that is made up is the one with this number: it is free, the names of all smaller numbers are
taken, and it is never the bare text that the names start with. -/
theorem unusedName_least (l : NetList) (start : String) :
    ∃ n, l.countToFree start 1 = Part.some n ∧ l.unusedName start = numberedName start n ∧
      1 ≤ n ∧ n ≤ l.nets.size + 1 ∧ ¬l.contains (numberedName start n) ∧
      (∀ k, 1 ≤ k → k < n → l.contains (numberedName start k)) ∧
      l.unusedName start ≠ start := by
  obtain ⟨n, h⟩ := exists_leastFree l start
  have hname := h.unusedName_eq
  refine ⟨n, h.countToFree_eq le_rfl h.pos, hname, h.pos, h.le_size_add_one, h.free, h.taken, ?_⟩
  rw [hname]
  exact numberedName_ne start n

-- Names with leading zeros or further digits do not take a number.
example :
    (["n1", "n02", "n12", "n"].foldl (fun l name => l.update name id) empty).unusedName "n" =
      "n2" := by
  decide +kernel

end NetList

end Ratsnest
