import Ratsnest.Document.Board
import Ratsnest.Proofs.Json.Record
import Mathlib.Tactic.Ring

/-!
# Identifiers and object keys are read back

An identifier is read back from its 32 hexadecimal digits in groups, and an object id from the
decimal digits that it is kept under.
-/

namespace Ratsnest

open Json

/-! ## Identifiers -/

namespace Uuid

theorem length_hexDigits (count n : ℕ) : (hexDigits count n).length = count := by
  simp [hexDigits]

theorem foldl_hexDigits (count n init : ℕ) :
    ((List.range count).reverse.map fun i => n / Nat.pow 16 i % 16).foldl
      (fun m d => 16 * m + d) init = 16 ^ count * init + n % 16 ^ count := by
  induction count generalizing init with
  | zero => simp [Nat.mod_one]
  | succ count ih =>
    rw [List.range_succ, List.reverse_append, List.reverse_singleton, List.singleton_append,
      List.map_cons, List.foldl_cons, ih, Nat.mod_pow_succ, Nat.pow_succ]
    have : Nat.pow 16 count = 16 ^ count := rfl
    rw [this]
    ring

/-- The last digits of a number have its remainder as their value. -/
theorem hexNumber?_hexDigits (count n : ℕ) :
    Text.hexNumber? (hexDigits count n) = some (n % 16 ^ count) := by
  have hvalues : (hexDigits count n).mapM Text.hexValue? =
      some ((List.range count).reverse.map fun i => n / Nat.pow 16 i % 16) := by
    rw [hexDigits, List.mapM_map]
    exact mapM_eq_some_map fun i _ => Text.hexValue?_hexDigit _ (Nat.mod_lt _ (by decide))
  rw [Text.hexNumber?, hvalues, Option.map_some, foldl_hexDigits, Nat.mul_zero, Nat.zero_add]

theorem length_hyphenate {sizes : List ℕ} {cs : List Char} (h : cs.length = sizes.sum) :
    (hyphenate sizes cs).length = cs.length + (sizes.length - 1) := by
  fun_induction hyphenate sizes cs with
  | case1 cs => rfl
  | case2 cs n => simp_all
  | case3 n ns cs hns ih =>
    rw [List.sum_cons] at h
    have hdrop : (cs.drop n).length = ns.sum := by simp [h]
    have hpos : 0 < ns.length := List.length_pos_iff.2 hns
    simp [ih hdrop, h]
    omega

/-- The dashes are taken out again. -/
theorem unhyphenate?_hyphenate {sizes : List ℕ} {cs : List Char} (h : cs.length = sizes.sum) :
    unhyphenate? sizes (hyphenate sizes cs) = some cs := by
  fun_induction hyphenate sizes cs with
  | case1 cs =>
    obtain rfl := List.eq_nil_of_length_eq_zero h
    rfl
  | case2 n cs =>
    obtain rfl : n = cs.length := by simpa using h.symm
    simp [unhyphenate?]
  | case3 n ns cs hns ih =>
    rw [List.sum_cons] at h
    obtain ⟨m, ns, rfl⟩ := List.exists_cons_of_ne_nil hns
    have hdrop : (cs.drop n).length = (m :: ns).sum := by simp [h]
    have htake : (cs.take n).length = n := by simp [h]
    rw [unhyphenate?.eq_3 _ _ _ hns, List.drop_left' htake]
    simp only [ih hdrop, Option.map_some, List.take_left' htake, List.take_append_drop]

/-- No prefix stands before the digits of an identifier. -/
theorem unwrap_hexDigit {n : ℕ} (h : n < 16) (cs : List Char) :
    unwrap (Text.hexDigit n :: cs) = Text.hexDigit n :: cs := by
  have hfirst : ∀ n < 16, Text.hexDigit n ≠ '{' ∧ (Text.hexDigit n).toLower ≠ 'u' := by decide
  obtain ⟨hbrace, hscheme⟩ := hfirst n h
  unfold unwrap
  split
  · rename_i heq
    exact absurd (List.cons.inj heq).1 hbrace
  · refine if_neg fun heq => hscheme ?_
    exact (List.cons.inj heq).1

/-- An identifier is read back from its text. -/
theorem ofText?_eq_some (u : Uuid) : ofText? (text u) = some u := by
  have hlength : (hexDigits 32 u.toNat).length = groups.sum := length_hexDigits 32 u.toNat
  have htext : (hyphenate groups (hexDigits 32 u.toNat)).length = 36 := by
    rw [length_hyphenate hlength, length_hexDigits]
    rfl
  have hunwrap : unwrap (hyphenate groups (hexDigits 32 u.toNat)) =
      hyphenate groups (hexDigits 32 u.toNat) :=
    unwrap_hexDigit (n := u.toNat / Nat.pow 16 31 % 16) (Nat.mod_lt _ (by decide)) _
  have hlt : u.toNat < 16 ^ 32 := lt_of_lt_of_eq u.isLt (by norm_num)
  have hdigits : ofDigits? (hexDigits 32 u.toNat) = some u := by
    rw [ofDigits?, if_pos (length_hexDigits _ _), hexNumber?_hexDigits, Option.map_some,
      Nat.mod_eq_of_lt hlt, BitVec.ofNat_toNat, BitVec.setWidth_eq]
  rw [ofText?, text, String.toList_ofList]
  simp only [htext, hunwrap, unhyphenate?_hyphenate hlength]
  exact hdigits

theorem reads (u : Uuid) : Reads Uuid.ofJson? u.toJson u where
  written := .ofString _
  read_eq := by
    rw [Uuid.ofJson?, Uuid.toJson, (reads_ofString _).read_eq]
    exact ofText?_eq_some u

end Uuid

/-! ## Object keys -/

namespace Json.Quoted

/-- A digit is written as it is. -/
theorem encodeChar_of_isDigit {c : Char} (h : c.isDigit) : encodeChar c = [c] := by
  unfold encodeChar
  split
  iterate 7 exact absurd h (by decide)
  refine if_neg fun hlt => ?_
  simp only [Char.isDigit, ge_iff_le, Bool.and_eq_true, decide_eq_true_eq,
    UInt32.le_iff_toNat_le] at h
  have hlow : 48 ≤ c.toNat := h.1
  omega

/-- Digits are written as they are. -/
theorem raw_ofString_of_isDigit {cs : List Char} (h : ∀ c ∈ cs, c.isDigit) :
    (ofString (String.ofList cs)).raw = cs := by
  rw [ofString, String.toList_ofList]
  induction cs with
  | nil => rfl
  | cons c cs ih =>
    have hcs := ih fun d hd => h d (List.mem_cons_of_mem c hd)
    rw [List.flatMap_cons, encodeChar_of_isDigit (h c List.mem_cons_self), List.singleton_append]
    exact congrArg (c :: ·) hcs

end Json.Quoted

/-- An object id is read back from its key. -/
theorem ObjectId.ofKey?_key (id : ObjectId) : ofKey? (.ofString (key id)) = some id := by
  have hraw : (Quoted.ofString (key id)).raw = Decimal.digitChars id.toNat := by
    rw [key, Nat.toString_eq_ofList_toDigits]
    exact Quoted.raw_ofString_of_isDigit fun _ => Decimal.isDigit_of_mem_digitChars
  have hdigits : (Decimal.digitChars id.toNat).all Char.isDigit :=
    List.all_eq_true.2 fun _ => Decimal.isDigit_of_mem_digitChars
  have hzero : (Decimal.digitChars id.toNat).head? = some '0' →
      Decimal.digitChars id.toNat = ['0'] := fun h => by
    obtain ⟨c, hc⟩ := List.length_eq_one_iff.1 (Decimal.length_digitChars_of_head? h)
    rw [hc] at h ⊢
    exact congrArg (fun c => [c]) (Option.some.inj h)
  rw [ofKey?, hraw, if_neg, Decimal.digitsValue_digitChars]
  · simp [id.toNat_lt_size]
  · simpa [hdigits, Decimal.digitChars_ne_nil] using hzero

end Ratsnest
