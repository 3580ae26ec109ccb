import Ratsnest.Json.Token

/-!
# JSON values

A JSON value as a tree whose leaves are kept as they are written.  `Json.tokens` writes a value as
tokens; `Json.ofTokens?` reads one with an automaton whose stack holds the arrays and objects that
are still open, so that any depth of nesting is read.
-/

namespace Ratsnest

/-- A JSON value.  Fields are in the order written, and a key may occur more than once. -/
inductive Json where
  | null
  | bool (b : Bool)
  | number (n : Numeral)
  | string (q : Json.Quoted)
  | array (items : List Json)
  | object (fields : List (Json.Quoted × Json))
  deriving Repr

namespace Json

/-! ## Writing tokens -/

mutual

/-- The tokens of a value. -/
def tokens : Json → List Token
  | null => [.null]
  | bool b => [.bool b]
  | number n => [.number n]
  | string q => [.string q]
  | array [] => [.openArray, .closeArray]
  | array (j :: js) => .openArray :: j.tokens ++ itemTokens js ++ [.closeArray]
  | object [] => [.openObject, .closeObject]
  | object ((k, j) :: fs) =>
    .openObject :: .string k :: .colon :: j.tokens ++ fieldTokens fs ++ [.closeObject]

/-- The tokens of the further items of an array. -/
def itemTokens : List Json → List Token
  | [] => []
  | j :: js => .comma :: j.tokens ++ itemTokens js

/-- The tokens of the further fields of an object. -/
def fieldTokens : List (Quoted × Json) → List Token
  | [] => []
  | (k, j) :: fs => .comma :: .string k :: .colon :: j.tokens ++ fieldTokens fs

end

/-! ## Reading tokens -/

/-- An array or object that is still open, with what it holds so far, the last first. -/
inductive Frame where
  | array (done : List Json)
  | object (done : List (Quoted × Json)) (key : Quoted)

/-- What the automaton waits for. -/
inductive State where
  /-- A value. -/
  | value (stack : List Frame)
  /-- A first item, or the end of the array. -/
  | firstItem (stack : List Frame)
  /-- A comma, or the end of the array. -/
  | afterItem (done : List Json) (stack : List Frame)
  /-- A first key, or the end of the object. -/
  | firstKey (stack : List Frame)
  /-- A key. -/
  | key (done : List (Quoted × Json)) (stack : List Frame)
  /-- The colon behind a key. -/
  | colon (done : List (Quoted × Json)) (key : Quoted) (stack : List Frame)
  /-- A comma, or the end of the object. -/
  | afterField (done : List (Quoted × Json)) (stack : List Frame)
  /-- Nothing more. -/
  | finished (j : Json)

/-- The state once the value `j` is complete. -/
def State.deliver (j : Json) : List Frame → State
  | [] => .finished j
  | .array done :: stack => .afterItem (j :: done) stack
  | .object done k :: stack => .afterField ((k, j) :: done) stack

/-- The state after the first token of a value. -/
def State.begin (stack : List Frame) : Token → Option State
  | .null => some (.deliver .null stack)
  | .bool b => some (.deliver (.bool b) stack)
  | .number n => some (.deliver (.number n) stack)
  | .string q => some (.deliver (.string q) stack)
  | .openArray => some (.firstItem stack)
  | .openObject => some (.firstKey stack)
  | _ => none

/-- The state after one more token, if that token may come. -/
def State.step : State → Token → Option State
  | .value stack, t => State.begin stack t
  | .firstItem stack, .closeArray => some (.deliver (.array []) stack)
  | .firstItem stack, t => State.begin (.array [] :: stack) t
  | .afterItem done stack, .comma => some (.value (.array done :: stack))
  | .afterItem done stack, .closeArray => some (.deliver (.array done.reverse) stack)
  | .firstKey stack, .closeObject => some (.deliver (.object []) stack)
  | .firstKey stack, .string q => some (.colon [] q stack)
  | .key done stack, .string q => some (.colon done q stack)
  | .colon done q stack, .colon => some (.value (.object done q :: stack))
  | .afterField done stack, .comma => some (.key done stack)
  | .afterField done stack, .closeObject => some (.deliver (.object done.reverse) stack)
  | _, _ => none

/-- The state after a run of tokens. -/
def State.run (s : State) (ts : List Token) : Option State := ts.foldlM State.step s

/-- The value that the tokens write, if they write exactly one. -/
def ofTokens? (ts : List Token) : Option Json :=
  match State.run (.value []) ts with
  | some (.finished j) => some j
  | _ => none

/-- The value that a text writes, if it writes exactly one. -/
def parse? (s : String) : Option Json := (Token.ofChars? s.toList).bind ofTokens?

/-! ## Indented text -/

/-- A new line, indented by two blanks for every level. -/
def newLine (depth : Nat) : List Char := '\n' :: List.replicate (2 * depth) ' '

/-- A string as it is written. -/
def quotedChars (q : Quoted) : List Char := '"' :: q.raw ++ ['"']

mutual

/-- The text of a value whose items and fields stand on lines of their own. -/
def prettyChars (depth : Nat) : Json → List Char
  | null => ['n', 'u', 'l', 'l']
  | bool true => ['t', 'r', 'u', 'e']
  | bool false => ['f', 'a', 'l', 's', 'e']
  | number n => n.chars ['+']
  | string q => quotedChars q
  | array [] => ['[', ']']
  | array (j :: js) =>
    '[' :: newLine (depth + 1) ++ prettyChars (depth + 1) j ++ prettyItems (depth + 1) js ++
      newLine depth ++ [']']
  | object [] => ['{', '}']
  | object ((k, j) :: fs) =>
    '{' :: newLine (depth + 1) ++ quotedChars k ++ ':' :: ' ' :: prettyChars (depth + 1) j ++
      prettyFields (depth + 1) fs ++ newLine depth ++ ['}']

/-- The text of the further items of an array. -/
def prettyItems (depth : Nat) : List Json → List Char
  | [] => []
  | j :: js => ',' :: newLine depth ++ prettyChars depth j ++ prettyItems depth js

/-- The text of the further fields of an object. -/
def prettyFields (depth : Nat) : List (Quoted × Json) → List Char
  | [] => []
  | (k, j) :: fs =>
    ',' :: newLine depth ++ quotedChars k ++ ':' :: ' ' :: prettyChars depth j ++
      prettyFields depth fs

end

/-- The text of a value, indented by two blanks for every level. -/
def pretty (j : Json) : String := String.ofList (j.prettyChars 0)

end Json

end Ratsnest
