import Ratsnest.Json.Token
import Ratsnest.Decimal.Text
import Mathlib.Data.List.TakeDrop
import Mathlib.Tactic.IntervalCases

/-!
# Numerals and their characters

A numeral is read back from its characters when its fraction has no more digits than places and
the text goes on with no further part of a numeral.  The numerals of natural numbers and of
floating-point numbers are such.
-/

namespace Ratsnest

open Json

/-! ## Digits -/

namespace Decimal

theorem isDigit_of_mem_digitChars {n : ℕ} {c : Char} (h : c ∈ digitChars n) : c.isDigit :=
  Nat.isDigit_of_mem_toDigits (by decide) (by decide) h

theorem digitChars_ne_nil (n : ℕ) : digitChars n ≠ [] := Nat.toDigits_ne_nil

/-- The value of the digits of a number is that number. -/
theorem digitsValue_digitChars (n : ℕ) : Token.digitsValue (digitChars n) = n := by
  rw [Token.digitsValue, ← Nat.ofDigitChars_eq_foldl, digitChars, Nat.ofDigitChars_ten_toDigits]

/-- No zero leads the digits of a positive number. -/
theorem head?_digitChars {n : ℕ} (h : 0 < n) : (digitChars n).head? ≠ some '0' := by
  induction n using Nat.strongRecOn with
  | ind n ih =>
    rw [digitChars, Nat.toDigits_eq_if (by decide)]
    split
    · rename_i hn
      interval_cases n <;> decide
    · rename_i hn
      rw [List.head?_append, Option.or_of_isSome (by simp [Nat.toDigits_ne_nil])]
      exact ih (n / 10) (Nat.div_lt_self h (by decide)) (by omega)

/-- Digits that a zero leads are that zero alone. -/
theorem length_digitChars_of_head? {n : ℕ} (h : (digitChars n).head? = some '0') :
    (digitChars n).length = 1 := by
  obtain rfl | hn := Nat.eq_zero_or_pos n
  · rfl
  · exact absurd h (head?_digitChars hn)

end Decimal

namespace Numeral

theorem isDigit_of_mem_paddedDigits {w n : ℕ} {c : Char} (h : c ∈ paddedDigits w n) :
    c.isDigit := by
  rcases List.mem_append.1 h with h | h
  · rw [List.eq_of_mem_replicate h]
    rfl
  · exact Decimal.isDigit_of_mem_digitChars h

theorem digitsValue_paddedDigits (w n : ℕ) : Token.digitsValue (paddedDigits w n) = n := by
  rw [Token.digitsValue, ← Nat.ofDigitChars_eq_foldl, paddedDigits, Nat.ofDigitChars_append,
    Nat.ofDigitChars_replicate_zero, Nat.mul_zero, Decimal.digitChars,
    Nat.ofDigitChars_ten_toDigits]

theorem length_paddedDigits {w n : ℕ} (hw : 0 < w) (h : n < 10 ^ w) :
    (paddedDigits w n).length = w := by
  have hlen : (Decimal.digitChars n).length ≤ w :=
    (Nat.length_toDigits_le_iff (by decide) hw).2 h
  rw [paddedDigits, List.length_append, List.length_replicate, Nat.sub_add_cancel hlen]

end Numeral

/-! ## Reading back -/

namespace Json.Token

/-- Whether a numeral that ends where the text begins goes no further. -/
def Stops (cs : List Char) : Prop :=
  ∀ c ∈ cs.head?, c.isDigit = false ∧ c ≠ '.' ∧ c ≠ 'e' ∧ c ≠ 'E'

theorem stops_nil : Stops [] := nofun

/-- A run of digits is taken as a whole. -/
theorem digits_append {ds cs : List Char} (hds : ∀ c ∈ ds, c.isDigit)
    (hcs : ∀ c ∈ cs.head?, c.isDigit = false) : digits (ds ++ cs) = (ds, cs) := by
  rw [digits, List.span_eq_takeWhile_dropWhile, List.takeWhile_append_of_pos hds,
    List.dropWhile_append_of_pos hds]
  cases cs with
  | nil => simp
  | cons c cs => simp [hcs c rfl]

/-- The digits of a number are taken as a whole. -/
theorem digits_digitChars (n : ℕ) {cs : List Char} (hcs : ∀ c ∈ cs.head?, c.isDigit = false) :
    digits (Decimal.digitChars n ++ cs) = (Decimal.digitChars n, cs) :=
  digits_append (fun _ => Decimal.isDigit_of_mem_digitChars) hcs

/-- The sign of a number is read off in front of its digits. -/
theorem sign_digitChars (negative : Bool) (n : ℕ) (cs : List Char) :
    sign ((if negative then ['-'] else []) ++ (Decimal.digitChars n ++ cs)) =
      (negative, Decimal.digitChars n ++ cs) := by
  cases negative with
  | true => rfl
  | false =>
    obtain ⟨d, ds, hd⟩ := List.exists_cons_of_ne_nil (Decimal.digitChars_ne_nil n)
    have hdigit : d.isDigit := Decimal.isDigit_of_mem_digitChars (hd ▸ List.mem_cons_self)
    have hminus : d ≠ '-' := by
      rintro rfl
      exact absurd hdigit (by decide)
    rw [hd]
    exact sign.eq_2 _ fun _ h => hminus (List.cons.inj h).1

theorem whole?_digitChars (n : ℕ) {cs : List Char} (hcs : ∀ c ∈ cs.head?, c.isDigit = false) :
    whole? (Decimal.digitChars n ++ cs) = some (Decimal.digitChars n, cs) := by
  rw [whole?, digits_digitChars n hcs]
  have hlength := Decimal.length_digitChars_of_head? (n := n)
  simp_all [Decimal.digitChars_ne_nil]

/-- The digits behind a point are read back, with how many there are. -/
theorem fraction?_fractionChars {places fraction : ℕ} (hfits : fraction < 10 ^ places)
    {cs : List Char} (hcs : ∀ c ∈ cs.head?, c.isDigit = false ∧ c ≠ '.') :
    ∃ ds, fraction? (Numeral.fractionChars places fraction ++ cs) = some (ds, cs) ∧
      ds.length = places ∧ digitsValue ds = fraction := by
  obtain rfl | hplaces := Nat.eq_zero_or_pos places
  · obtain rfl : fraction = 0 := by simpa using hfits
    refine ⟨[], fraction?.eq_2 cs fun ds hds => ?_, rfl, rfl⟩
    exact (hcs '.' (by simp [hds])).2 rfl
  · have hlength := Numeral.length_paddedDigits hplaces hfits
    refine ⟨_, ?_, hlength, Numeral.digitsValue_paddedDigits places fraction⟩
    rw [Numeral.fractionChars, if_neg hplaces.ne', List.cons_append, fraction?,
      digits_append (fun _ => Numeral.isDigit_of_mem_paddedDigits) fun c hc => (hcs c hc).1]
    split
    · rename_i heq
      rw [(Prod.mk.inj heq).1] at hlength
      exact absurd hlength hplaces.ne
    · rename_i heq
      cases heq
      rfl

/-- The sign of an exponent is read off in front of its digits. -/
theorem exponentSign_exponentChars (e : ℤ) (cs : List Char) :
    exponentSign (Numeral.exponentChars ['+'] e ++ cs) =
      (decide (e < 0), Decimal.digitChars e.natAbs ++ cs) := by
  unfold Numeral.exponentChars
  split <;> rename_i he
  · simp [exponentSign, he]
  · rw [decide_eq_true (not_le.1 he)]
    rfl

/-- An exponent is read back. -/
theorem exponent?_exponentChars (e : ℤ) {cs : List Char}
    (hcs : ∀ c ∈ cs.head?, c.isDigit = false) :
    exponent? (Numeral.exponentChars ['+'] e ++ cs) = some (e, cs) := by
  rw [exponent?, exponentSign_exponentChars]
  simp only [digits_digitChars e.natAbs hcs]
  split
  · rename_i heq
    exact absurd (Prod.mk.inj heq).1 (Decimal.digitChars_ne_nil _)
  · rename_i heq
    cases heq
    rw [Decimal.digitsValue_digitChars]
    obtain he | he := lt_or_ge e 0
    · simp [he, abs_of_neg he]
    · simp [he.not_gt, abs_of_nonneg he]

/-- An optional exponent is read back. -/
theorem suffix?_suffixChars (exponent : Option ℤ) {cs : List Char} (hcs : Stops cs) :
    suffix? (Numeral.suffixChars ['+'] exponent ++ cs) = some (exponent, cs) := by
  cases exponent with
  | none =>
    cases cs with
    | nil => rfl
    | cons c cs =>
      obtain ⟨-, -, he, hE⟩ := hcs c rfl
      simp [Numeral.suffixChars, suffix?, he, hE]
  | some e =>
    rw [Numeral.suffixChars, List.cons_append, suffix?,
      exponent?_exponentChars e fun c hc => (hcs c hc).1]
    rfl

/-- Neither digits nor a point begin an optional exponent. -/
theorem head?_suffixChars (exponent : Option ℤ) {cs : List Char} (hcs : Stops cs) :
    ∀ c ∈ (Numeral.suffixChars ['+'] exponent ++ cs).head?, c.isDigit = false ∧ c ≠ '.' := by
  cases exponent with
  | none => exact fun c hc => ⟨(hcs c hc).1, (hcs c hc).2.1⟩
  | some e =>
    rintro c ⟨⟩
    decide

/-- No digit follows the digits before the point. -/
theorem head?_fractionChars (places fraction : ℕ) {cs : List Char}
    (hcs : ∀ c ∈ cs.head?, c.isDigit = false) :
    ∀ c ∈ (Numeral.fractionChars places fraction ++ cs).head?, c.isDigit = false := by
  unfold Numeral.fractionChars
  split
  · exact hcs
  · rintro c ⟨⟩
    decide

/-- A numeral is read back from its characters. -/
theorem numeral?_chars {n : Numeral} (hn : n.fraction < 10 ^ n.places) {cs : List Char}
    (hcs : Stops cs) : numeral? (n.chars ['+'] ++ cs) = some (n, cs) := by
  have hsuffix := head?_suffixChars n.exponent hcs
  obtain ⟨ds, hds, hlength, hvalue⟩ := fraction?_fractionChars hn hsuffix
  have hfraction := head?_fractionChars n.places n.fraction fun c hc => (hsuffix c hc).1
  simp only [numeral?, Numeral.chars, List.append_assoc, sign_digitChars,
    whole?_digitChars n.whole hfraction, hds, suffix?_suffixChars n.exponent hcs, hlength, hvalue,
    Decimal.digitsValue_digitChars, Option.bind_eq_bind, Option.bind_some]

end Json.Token

/-! ## The numerals of numbers -/

namespace Numeral

theorem fraction_plain_lt (d : Decimal) : (plain d).fraction < 10 ^ (plain d).places := by
  unfold plain
  split
  · exact Nat.pow_pos (by decide)
  · exact Nat.mod_lt _ (Nat.pow_pos (by decide))

/-- The numeral of a decimal has as many digits behind the point as it has places. -/
theorem fraction_ofDecimal_lt (l : Layout) (d : Decimal) :
    (ofDecimal l d).fraction < 10 ^ (ofDecimal l d).places := by
  unfold ofDecimal
  split
  · exact Nat.pow_pos (by decide)
  · split
    · exact fraction_plain_lt d
    · exact Nat.mod_lt _ (Nat.pow_pos (by decide))

end Numeral

end Ratsnest
