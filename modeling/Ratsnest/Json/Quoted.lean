import Ratsnest.Text.Hex

/-!
# Quoted text

The characters between the quotes of a JSON string.  Text is kept as it is written, escapes
included, because a string that nobody reads may hold escapes that name no character.

* `Quoted.ofString` writes text with the escapes that JSON demands.
* `Quoted.decode?` reads the text, and fails at half of a surrogate pair.
* `Quoted.scan` finds the closing quote.

Written text is read back, by `decode?_ofString`, and its closing quote found, by `scan_ofString`.
-/

namespace Ratsnest

namespace Json

/-- The characters between the quotes of a string. -/
structure Quoted where
  raw : List Char
  deriving DecidableEq, Repr

namespace Quoted

/-- The number that four hexadecimal digits stand for. -/
def unit? (a b c d : Char) : Option Nat := Text.hexNumber? [a, b, c, d]

/-- The character that a backslash and `c` stand for. -/
def shortEscape? (c : Char) : Option Char :=
  match c with
  | '"' => some '"'
  | '\\' => some '\\'
  | '/' => some '/'
  | 'b' => some '\x08'
  | 'f' => some '\x0c'
  | 'n' => some '\n'
  | 'r' => some '\r'
  | 't' => some '\t'
  | _ => none

/-- A character as it is written: quotes, backslashes and control characters are escaped. -/
def encodeChar (c : Char) : List Char :=
  match c with
  | '"' => ['\\', '"']
  | '\\' => ['\\', '\\']
  | '\x08' => ['\\', 'b']
  | '\x0c' => ['\\', 'f']
  | '\n' => ['\\', 'n']
  | '\r' => ['\\', 'r']
  | '\t' => ['\\', 't']
  | c =>
    if c.toNat < 0x20 then
      ['\\', 'u', '0', '0', Text.hexDigit (c.toNat / 16), Text.hexDigit (c.toNat % 16)]
    else [c]

/-- Text as it is written. -/
def ofString (s : String) : Quoted := ⟨s.toList.flatMap encodeChar⟩

/-- Whether a code unit is the first half of a surrogate pair. -/
def isHighSurrogate (u : Nat) : Bool := 0xD800 ≤ u && u < 0xDC00

/-- Whether a code unit is the second half of a surrogate pair. -/
def isLowSurrogate (u : Nat) : Bool := 0xDC00 ≤ u && u < 0xE000

/-- The characters that written text stands for. -/
def decodeChars? : List Char → Option (List Char)
  | [] => some []
  | '\\' :: 'u' :: a :: b :: c :: d :: cs =>
    match unit? a b c d with
    | none => none
    | some u =>
      if isHighSurrogate u then
        match cs with
        | '\\' :: 'u' :: e :: f :: g :: h :: ds =>
          match unit? e f g h with
          | none => none
          | some v =>
            if isLowSurrogate v then
              (decodeChars? ds).map
                (Char.ofNat (0x10000 + (u - 0xD800) * 0x400 + (v - 0xDC00)) :: ·)
            else none
        | _ => none
      else if isLowSurrogate u then none
      else (decodeChars? cs).map (Char.ofNat u :: ·)
  | '\\' :: c :: cs =>
    match shortEscape? c with
    | none => none
    | some x => (decodeChars? cs).map (x :: ·)
  | c :: cs => (decodeChars? cs).map (c :: ·)

/-- The text, if every escape names a character. -/
def decode? (q : Quoted) : Option String := (decodeChars? q.raw).map String.ofList

/-- The characters up to the closing quote, and those after it.  Control characters and
backslashes that begin no escape are refused. -/
def scan : List Char → Option (List Char × List Char)
  | [] => none
  | '"' :: cs => some ([], cs)
  | '\\' :: 'u' :: a :: b :: c :: d :: cs =>
    if (unit? a b c d).isSome then
      (scan cs).map fun (raw, rest) => ('\\' :: 'u' :: a :: b :: c :: d :: raw, rest)
    else none
  | '\\' :: c :: cs =>
    if (shortEscape? c).isSome then
      (scan cs).map fun (raw, rest) => ('\\' :: c :: raw, rest)
    else none
  | c :: cs =>
    if c.toNat < 0x20 || c == '\\' then none
    else (scan cs).map fun (raw, rest) => (c :: raw, rest)

/-! ## Written text -/

theorem unit?_hexDigit {n : Nat} (h : n < 0x20) :
    unit? '0' '0' (Text.hexDigit (n / 16)) (Text.hexDigit (n % 16)) = some n := by
  have low := Text.hexValue?_hexDigit (n % 16) (Nat.mod_lt _ (by decide))
  have high := Text.hexValue?_hexDigit (n / 16) (by omega)
  have zero : Text.hexValue? '0' = some 0 := by decide
  simp only [unit?, Text.hexNumber?, List.mapM_cons, List.mapM_nil, zero, low, high]
  simp
  omega

theorem decodeChars?_encodeChar (c : Char) (cs : List Char) :
    decodeChars? (encodeChar c ++ cs) = (decodeChars? cs).map (c :: ·) := by
  unfold encodeChar
  split
  iterate 7 rfl
  split
  · rename_i h
    have hc : Char.ofNat c.toNat = c := Char.ofNat_toNat c
    simp only [List.cons_append, List.nil_append, decodeChars?, unit?_hexDigit h]
    have h1 : isHighSurrogate c.toNat = false := by simp [isHighSurrogate]; omega
    have h2 : isLowSurrogate c.toNat = false := by simp [isLowSurrogate]; omega
    simp [h1, h2, hc]
  · rw [List.singleton_append, decodeChars?]
    all_goals simp_all

/-- Text is read back as it was written. -/
theorem decode?_ofString (s : String) : (ofString s).decode? = some s := by
  have h : ∀ cs, decodeChars? (cs.flatMap encodeChar) = some cs := by
    intro cs
    induction cs with
    | nil => rfl
    | cons c cs ih => rw [List.flatMap_cons, decodeChars?_encodeChar, ih, Option.map_some]
  rw [decode?, ofString, h, Option.map_some, String.ofList_toList]

theorem scan_encodeChar (c : Char) (cs : List Char) :
    scan (encodeChar c ++ cs) = (scan cs).map fun (raw, rest) => (encodeChar c ++ raw, rest) := by
  unfold encodeChar
  split
  iterate 7 rfl
  split
  · rename_i h
    simp only [List.cons_append, List.nil_append, scan, unit?_hexDigit h]
    simp
  · rename_i h
    have plain : (decide (c.toNat < 0x20) || c == '\\') = false := by simp_all
    rw [List.singleton_append, scan, plain]
    · rfl
    all_goals simp_all

/-- The closing quote is found behind written text. -/
theorem scan_ofString (s : String) (rest : List Char) :
    scan ((ofString s).raw ++ '"' :: rest) = some ((ofString s).raw, rest) := by
  have h : ∀ cs : List Char,
      scan (cs.flatMap encodeChar ++ '"' :: rest) = some (cs.flatMap encodeChar, rest) := by
    intro cs
    induction cs with
    | nil => rfl
    | cons c cs ih =>
      simp only [List.flatMap_cons, List.append_assoc, scan_encodeChar, ih, Option.map_some]
  exact h s.toList

end Quoted

end Json

end Ratsnest
