import Ratsnest.Json.Lemmas
import Ratsnest.Json.Record
import Ratsnest.Proofs.Json.Numeral

/-!
# Values and their indented text

The indented text of a value is split into the tokens of the value, so the value is read back from
it.  This holds of the values whose strings are written from text and whose numerals have as many
digits behind the point as places.
-/

namespace Ratsnest

namespace Json

/-! ## Splitting a text -/

namespace Token

/-- The text is split into the tokens. -/
def Scans (cs : List Char) (ts : List Token) : Prop := ∀ n, cs.length ≤ n → scan n cs = some ts

namespace Scans

variable {c : Char} {cs rest : List Char} {t : Token} {ts : List Token}

theorem nil : Scans [] [] := fun n _ => by cases n <;> rfl

theorem ofChars? (h : Scans cs ts) : Token.ofChars? cs = some ts := h cs.length le_rfl

/-- A blank is skipped. -/
theorem blank (hc : isBlank c) (h : Scans cs ts) : Scans (c :: cs) ts
  | n + 1, hn => by
    rw [scan, if_pos hc]
    exact h n (Nat.le_of_succ_le_succ hn)

/-- A first token is split off. -/
theorem cons (hc : isBlank c = false) (hfirst : first? (c :: cs) = some (t, rest))
    (hlength : rest.length ≤ cs.length) (h : Scans rest ts) : Scans (c :: cs) (t :: ts)
  | n + 1, hn => by
    rw [scan, if_neg (by simp [hc]), hfirst]
    have hrest : scan n rest = some ts := h n (hlength.trans (Nat.le_of_succ_le_succ hn))
    exact congrArg (Option.map (t :: ·)) hrest

/-- The beginning of a line is skipped. -/
theorem newLine (depth : ℕ) (h : Scans cs ts) : Scans (newLine depth ++ cs) ts := by
  refine blank rfl ?_
  induction 2 * depth with
  | zero => exact h
  | succ n ih => exact blank rfl ih

theorem openArray (h : Scans cs ts) : Scans ('[' :: cs) (.openArray :: ts) := cons rfl rfl le_rfl h

theorem closeArray (h : Scans cs ts) : Scans (']' :: cs) (.closeArray :: ts) :=
  cons rfl rfl le_rfl h

theorem openObject (h : Scans cs ts) : Scans ('{' :: cs) (.openObject :: ts) :=
  cons rfl rfl le_rfl h

theorem closeObject (h : Scans cs ts) : Scans ('}' :: cs) (.closeObject :: ts) :=
  cons rfl rfl le_rfl h

theorem comma (h : Scans cs ts) : Scans (',' :: cs) (.comma :: ts) := cons rfl rfl le_rfl h

theorem colon (h : Scans cs ts) : Scans (':' :: cs) (.colon :: ts) := cons rfl rfl le_rfl h

/-- Written text is split off as one token. -/
theorem quoted (s : String) (h : Scans cs ts) :
    Scans (quotedChars (.ofString s) ++ cs) (.string (.ofString s) :: ts) := by
  rw [quotedChars, List.append_assoc, List.cons_append]
  refine cons rfl ?_ (by simp; omega) h
  rw [first?, List.singleton_append, Quoted.scan_ofString]
  rfl

end Scans

/-- A text that begins with a digit or a minus sign begins with a numeral. -/
theorem first?_eq_numeral? {c : Char} (hc : c.isDigit ∨ c = '-') (cs : List Char) :
    first? (c :: cs) = (numeral? (c :: cs)).map fun (n, rest) => (number n, rest) := by
  unfold first?
  split
  all_goals first | rfl | skip
  all_goals
    rename_i heq
    obtain ⟨rfl, -⟩ := List.cons.inj heq
    exact absurd hc (by decide)

/-- A numeral begins with a digit or a minus sign. -/
theorem exists_chars_eq_cons (n : Numeral) :
    ∃ c cs, n.chars ['+'] = c :: cs ∧ (c.isDigit ∨ c = '-') := by
  obtain ⟨d, ds, hd⟩ := List.exists_cons_of_ne_nil (Decimal.digitChars_ne_nil n.whole)
  rw [Numeral.chars, hd]
  split
  · exact ⟨_, _, rfl, .inr rfl⟩
  · exact ⟨_, _, rfl, .inl (Decimal.isDigit_of_mem_digitChars (hd ▸ List.mem_cons_self))⟩

/-- A numeral is split off as one token. -/
theorem Scans.numeral {n : Numeral} (hn : n.fraction < 10 ^ n.places) {cs : List Char}
    {ts : List Token} (hcs : Stops cs) (h : Scans cs ts) :
    Scans (n.chars ['+'] ++ cs) (.number n :: ts) := by
  have hread := numeral?_chars hn hcs
  obtain ⟨c, ds, hds, hc⟩ := exists_chars_eq_cons n
  rw [hds, List.cons_append] at hread ⊢
  refine cons ?_ ?_ ?_ h
  · obtain hc | rfl := hc
    · unfold isBlank
      rw [Bool.eq_false_iff]
      rintro hblank
      simp only [Bool.or_eq_true, beq_iff_eq] at hblank
      obtain ((rfl | rfl) | rfl) | rfl := hblank <;> exact absurd hc (by decide)
    · rfl
  · rw [first?_eq_numeral? hc, hread]
    rfl
  · simp

end Token

/-! ## Values as they are written -/

/-- Whether the strings of a value are written from text, and its numerals have as many digits
behind the point as places. -/
inductive Written : Json → Prop where
  | null : Written null
  | bool (b : Bool) : Written (bool b)
  | number {n : Numeral} (hn : n.fraction < 10 ^ n.places) : Written (number n)
  | ofString (s : String) : Written (ofString s)
  | array {js : List Json} (hjs : ∀ j ∈ js, Written j) : Written (array js)
  | record {fs : List (String × Json)} (hfs : ∀ f ∈ fs, Written f.2) : Written (record fs)

open Token

theorem stops_newLine (depth : ℕ) (cs : List Char) : Stops (newLine depth ++ cs) := by
  rintro c ⟨⟩
  decide

theorem stops_prettyItems (depth : ℕ) (js : List Json) {cs : List Char} (hcs : Stops cs) :
    Stops (prettyItems depth js ++ cs) := by
  cases js with
  | nil => exact hcs
  | cons j js =>
    rintro c ⟨⟩
    decide

theorem stops_prettyFields (depth : ℕ) (fs : List (Quoted × Json)) {cs : List Char}
    (hcs : Stops cs) : Stops (prettyFields depth fs ++ cs) := by
  cases fs with
  | nil => exact hcs
  | cons f fs =>
    rintro c ⟨⟩
    decide

section Text

variable {cs : List Char} {ts : List Token}

theorem scans_prettyItems {js : List Json} (depth : ℕ) (hcs : Stops cs)
    (hjs : ∀ j ∈ js, ∀ {cs ts}, Stops cs → Scans cs ts →
      Scans (prettyChars depth j ++ cs) (j.tokens ++ ts)) (h : Scans cs ts) :
    Scans (prettyItems depth js ++ cs) (itemTokens js ++ ts) := by
  induction js with
  | nil => exact h
  | cons j js ih =>
    rw [prettyItems, itemTokens]
    simp only [List.cons_append, List.append_assoc]
    refine (Scans.newLine depth ?_).comma
    exact hjs j List.mem_cons_self (stops_prettyItems depth js hcs)
      (ih fun k hk => hjs k (List.mem_cons_of_mem j hk))

theorem scans_prettyFields {fs : List (String × Json)} (depth : ℕ) (hcs : Stops cs)
    (hfs : ∀ f ∈ fs, ∀ {cs ts}, Stops cs → Scans cs ts →
      Scans (prettyChars depth f.2 ++ cs) (f.2.tokens ++ ts)) (h : Scans cs ts) :
    Scans (prettyFields depth (fs.map fun (k, j) => (.ofString k, j)) ++ cs)
      (fieldTokens (fs.map fun (k, j) => (.ofString k, j)) ++ ts) := by
  induction fs with
  | nil => exact h
  | cons f fs ih =>
    obtain ⟨k, j⟩ := f
    rw [List.map_cons, prettyFields, fieldTokens]
    simp only [List.cons_append, List.append_assoc]
    refine (Scans.newLine depth (Scans.quoted k (Scans.blank rfl ?_).colon)).comma
    exact hfs _ List.mem_cons_self (stops_prettyFields depth _ hcs)
      (ih fun g hg => hfs g (List.mem_cons_of_mem _ hg))

/-- The indented text of a value is split into its tokens. -/
theorem scans_prettyChars {j : Json} (hj : j.Written) (depth : ℕ) (hcs : Stops cs)
    (h : Scans cs ts) : Scans (prettyChars depth j ++ cs) (j.tokens ++ ts) := by
  induction hj generalizing depth cs ts with
  | null => exact .cons rfl rfl (Nat.le_add_right _ 3) h
  | bool b =>
    cases b with
    | true => exact .cons rfl rfl (Nat.le_add_right _ 3) h
    | false => exact .cons rfl rfl (Nat.le_add_right _ 4) h
  | number hn => exact .numeral hn hcs h
  | ofString s => exact .quoted s h
  | @array js hjs ih =>
    cases js with
    | nil => exact h.closeArray.openArray
    | cons j js =>
      have hend := Scans.newLine depth h.closeArray
      have hitems := scans_prettyItems (depth + 1) (stops_newLine depth _)
        (fun k hk _ _ => ih k (List.mem_cons_of_mem j hk) (depth + 1)) hend
      have hfirst := ih j List.mem_cons_self (depth + 1)
        (stops_prettyItems (depth + 1) js (stops_newLine depth _)) hitems
      simpa [prettyChars, tokens] using (hfirst.newLine (depth + 1)).openArray
  | @record fs hfs ih =>
    cases fs with
    | nil => exact h.closeObject.openObject
    | cons f fs =>
      obtain ⟨k, j⟩ := f
      have hend := Scans.newLine depth h.closeObject
      have hfields := scans_prettyFields (depth + 1) (stops_newLine depth _)
        (fun k hk _ _ => ih k (List.mem_cons_of_mem _ hk) (depth + 1)) hend
      have hfirst := ih _ List.mem_cons_self (depth + 1)
        (stops_prettyFields (depth + 1) _ (stops_newLine depth _)) hfields
      have hkey := Scans.quoted k (hfirst.blank (c := ' ') rfl).colon
      simpa [Json.record, prettyChars, tokens] using (hkey.newLine (depth + 1)).openObject

end Text

/-- A value is read back from its indented text. -/
theorem parse?_pretty {j : Json} (hj : j.Written) : parse? j.pretty = some j := by
  have h := scans_prettyChars hj 0 stops_nil .nil
  simp only [List.append_nil] at h
  rw [parse?, pretty, String.toList_ofList, h.ofChars?]
  exact ofTokens?_tokens j

end Json

end Ratsnest
