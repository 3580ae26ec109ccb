import Ratsnest.Json.Basic

/-!
# Values and their tokens

The automaton reads the tokens of a value as that value, whatever follows them.  So a value is
read back from its tokens.
-/

namespace Ratsnest

namespace Json

/-- A first item is read as any value is. -/
theorem run_firstItem (j : Json) (stack : List Frame) (rest : List Token) :
    (State.firstItem stack).run (j.tokens ++ rest) =
      (State.value (.array [] :: stack)).run (j.tokens ++ rest) := by
  match j with
  | null | bool _ | number _ | string _ | array [] | array (_ :: _) | object []
  | object (_ :: _) => rfl

mutual

/-- The tokens of a value are read as that value, whatever follows them. -/
theorem run_tokens (j : Json) (stack : List Frame) (rest : List Token) :
    (State.value stack).run (j.tokens ++ rest) = (State.deliver j stack).run rest := by
  match j with
  | null | bool _ | number _ | string _ | array [] | object [] => rfl
  | array (j :: js) =>
    rw [tokens, List.append_assoc, List.append_assoc]
    show (State.firstItem stack).run (j.tokens ++ (itemTokens js ++ (.closeArray :: rest))) = _
    rw [run_firstItem, run_tokens j]
    exact run_itemTokens js [j] stack rest
  | object ((k, j) :: fs) =>
    rw [tokens, List.append_assoc, List.append_assoc]
    show (State.value (.object [] k :: stack)).run
      (j.tokens ++ (fieldTokens fs ++ (.closeObject :: rest))) = _
    rw [run_tokens j]
    exact run_fieldTokens fs [(k, j)] stack rest

/-- Further items are read up to the end of the array. -/
theorem run_itemTokens (js done : List Json) (stack : List Frame) (rest : List Token) :
    (State.afterItem done stack).run (itemTokens js ++ (.closeArray :: rest)) =
      (State.deliver (.array (done.reverse ++ js)) stack).run rest := by
  match js with
  | [] =>
    rw [List.append_nil]
    rfl
  | j :: js =>
    rw [itemTokens, List.append_assoc]
    show (State.value (.array done :: stack)).run
      (j.tokens ++ (itemTokens js ++ (.closeArray :: rest))) = _
    rw [run_tokens j]
    exact (run_itemTokens js (j :: done) stack rest).trans (by simp)

/-- Further fields are read up to the end of the object. -/
theorem run_fieldTokens (fs done : List (Quoted × Json)) (stack : List Frame)
    (rest : List Token) :
    (State.afterField done stack).run (fieldTokens fs ++ (.closeObject :: rest)) =
      (State.deliver (.object (done.reverse ++ fs)) stack).run rest := by
  match fs with
  | [] =>
    rw [List.append_nil]
    rfl
  | (k, j) :: fs =>
    rw [fieldTokens, List.append_assoc]
    show (State.value (.object done k :: stack)).run
      (j.tokens ++ (fieldTokens fs ++ (.closeObject :: rest))) = _
    rw [run_tokens j]
    exact (run_fieldTokens fs ((k, j) :: done) stack rest).trans (by simp)

end

/-- A value is read back from its tokens. -/
theorem ofTokens?_tokens (j : Json) : ofTokens? j.tokens = some j := by
  have h := run_tokens j [] []
  rw [List.append_nil] at h
  rw [ofTokens?, h]
  rfl

end Json

end Ratsnest
