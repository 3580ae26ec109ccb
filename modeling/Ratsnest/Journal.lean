import Ratsnest.Content

/-!
# Edits and their history

An edit is a change of the board content that can be taken back.  Edits are recorded in steps, and
steps are undone and redone as a whole, the last first.  A step holds every edit between the
outermost `begin` and its `commit`; an edit outside is a step of its own.

Some edits remember what they did when they were last applied, because taking them back depends
on it.
-/

namespace Ratsnest

universe u

/-- A change of the board content. -/
inductive Edit (α : Type u) where
  /-- Places an object under its own id. -/
  | addObject (o : BoardObject α)
  /-- Takes an object away; `removed` is what the last application took. -/
  | removeObject (id : ObjectId) (removed : Option (BoardObject α))
  /-- Lists a terminal on a net.  The last application created the net, and it added the terminal,
  where the two flags say so. -/
  | addTerminal (net : String) (t : Terminal) (created added : Bool)
  deriving DecidableEq

namespace Edit

variable {α : Type u}

/-- An edit that takes an object away. -/
def remove (id : ObjectId) : Edit α := removeObject id none

/-- An edit that lists a terminal on a net. -/
def list (net : String) (t : Terminal) : Edit α := addTerminal net t false false

/-- What an edit is called when it is a step of its own. -/
def description : Edit α → String
  | addObject _ => "Add object"
  | removeObject _ _ => "Remove object"
  | addTerminal _ _ _ _ => "Add terminal to net"

/-- Applies an edit.  The edit returned remembers what was done. -/
def apply (e : Edit α) (c : Content α) : Edit α × Content α :=
  match e with
  | addObject o => (e, { c with store := c.store.insert o, changed := true })
  | removeObject id _ =>
    let removed := c.store.get? id
    (removeObject id removed,
      { c with store := c.store.remove id, changed := c.changed || removed.isSome })
  | addTerminal net t _ _ =>
    let created := !c.netlist.contains net
    let added := !(c.netlist.getOrNew net).contains t
    (addTerminal net t created added,
      { c with netlist := c.netlist.addTerminal net t, changed := true })

/-- Takes back what the last application did. -/
def revert (e : Edit α) (c : Content α) : Edit α × Content α :=
  match e with
  | addObject o => (e, { c with store := c.store.remove o.id, changed := true })
  | removeObject _ none => (e, c)
  | removeObject id (some o) =>
    (removeObject id none, { c with store := c.store.insert o, changed := true })
  | addTerminal net t created added =>
    let netlist := if added then c.netlist.removeTerminal net t else c.netlist
    let netlist := if created then netlist.remove net else netlist
    (e, { c with netlist, changed := true })

/-- Applies edits in order. -/
def applyAll : List (Edit α) → Content α → List (Edit α) × Content α
  | [], c => ([], c)
  | e :: es, c =>
    let (e, c) := e.apply c
    let (es, c) := applyAll es c
    (e :: es, c)

/-- Takes edits back, the last first. -/
def revertAll : List (Edit α) → Content α → List (Edit α) × Content α
  | [], c => ([], c)
  | e :: es, c =>
    let (es, c) := revertAll es c
    let (e, c) := e.revert c
    (e :: es, c)

end Edit

/-- Edits that are undone and redone together. -/
structure EditStep (α : Type u) where
  description : String
  edits : List (Edit α)
  deriving DecidableEq

/-- The history of edits. -/
structure Journal (α : Type u) where
  /-- The steps that can be undone, the last first. -/
  done : List (EditStep α)
  /-- The steps that can be redone, the next first. -/
  undone : List (EditStep α)
  /-- The step under way, with the number of brackets open inside the outermost one. -/
  current : Option (EditStep α × Nat)
  deriving DecidableEq

namespace Journal

variable {α : Type u}

/-- The history without steps. -/
def empty : Journal α := ⟨[], [], none⟩

/-- Opens a step; inside an open one this only opens another bracket. -/
def begin (j : Journal α) (description : String) : Journal α :=
  { j with current := match j.current with
    | none => some (⟨description, []⟩, 0)
    | some (step, depth) => some (step, depth + 1) }

/-- Closes the last bracket.  With the outermost one the step is done; a step without edits is
dropped. -/
def commit (j : Journal α) : Journal α :=
  match j.current with
  | none => j
  | some (step, depth + 1) => { j with current := some (step, depth) }
  | some (step, 0) =>
    { j with current := none, done := if step.edits.isEmpty then j.done else step :: j.done }

/-- Records an edit that has just been applied.  What was undone before can no longer be redone. -/
def record (j : Journal α) (e : Edit α) : Journal α :=
  match j.current with
  | none => { j with done := ⟨e.description, [e]⟩ :: j.done, undone := [] }
  | some (step, depth) =>
    { j with current := some ({ step with edits := step.edits ++ [e] }, depth), undone := [] }

end Journal

/-- A board: its content and the history of the edits on it. -/
structure Board (α : Type u) where
  content : Content α
  journal : Journal α
  deriving DecidableEq

namespace Board

variable {α : Type u}

/-- A board with the given content and no history. -/
def ofContent (c : Content α) : Board α := ⟨c, .empty⟩

/-- Changes the content outside the history. -/
def update (b : Board α) (f : Content α → Content α) : Board α := { b with content := f b.content }

/-- Changes the store outside the history. -/
def updateStore (b : Board α) (f : Store α → Store α) : Board α :=
  b.update fun c => { c with store := f c.store }

/-- Gives out a new object id. -/
def allocate (b : Board α) : ObjectId × Board α :=
  let (id, store) := b.content.store.allocate
  (id, b.updateStore fun _ => store)

/-- Opens a step. -/
def begin (b : Board α) (description : String) : Board α :=
  { b with journal := b.journal.begin description }

/-- Closes the last open bracket. -/
def commit (b : Board α) : Board α := { b with journal := b.journal.commit }

/-- Applies an edit and records it. -/
def execute (b : Board α) (e : Edit α) : Board α :=
  let (e, content) := e.apply b.content
  ⟨content, b.journal.record e⟩

/-- Undoes the last step, if there is one. -/
def undo? (b : Board α) : Option (Board α) :=
  match b.journal.done with
  | [] => none
  | step :: rest =>
    let (edits, content) := Edit.revertAll step.edits b.content
    let undone := { step with edits } :: b.journal.undone
    some ⟨content, { b.journal with done := rest, undone }⟩

/-- Redoes the step undone last, if there is one. -/
def redo? (b : Board α) : Option (Board α) :=
  match b.journal.undone with
  | [] => none
  | step :: rest =>
    let (edits, content) := Edit.applyAll step.edits b.content
    let done := { step with edits } :: b.journal.done
    some ⟨content, { b.journal with undone := rest, done }⟩

/-- What undoing would undo. -/
def undoDescription? (b : Board α) : Option String := b.journal.done.head?.map (·.description)

end Board

end Ratsnest
