import Ratsnest.Proofs.Short.Once
import Ratsnest.Proofs.WellFormed.Manual
import Ratsnest.Proofs.WellFormed.Removal

/-!
# Runs of operations

Every operation of the editor leaves a sound board (`Session.sound_perform`), so a board that is
well-formed when it is loaded stays so whatever is done to it, undone and redone, as long as ids do
not run out (`Session.wellFormed_performAll`).
-/

namespace Ratsnest

/-- What can be done to a board.  The host and the settings may be others each time. -/
inductive Operation (α : Type) where
  /-- Draw the rat lines that one net still needs. -/
  | addRatsForNet (host : Host) (settings : Settings α) (policy : Policy) (name : String)
  /-- Draw the rat lines that all nets, or those in a selection, still need. -/
  | addRatsForAll (host : Host) (settings : Settings α) (policy : Policy)
    (selection : Option (List Pin))
  /-- Join the terminals under two points. -/
  | connectByHand (host : Host) (settings : Settings α) (interactive : Bool) (a b : Point α)
  /-- Take away what is connected to a net. -/
  | ripUp (settings : Settings α) (name : String)
  /-- Take the rat lines away. -/
  | deleteRats (selectedOnly : Bool)
  /-- Mark what is connected to a net. -/
  | markNet (settings : Settings α) (name : String) (set clear : Flags)
  /-- Clear marks on every object. -/
  | clearFlags (f : Flags)
  | undo
  | redo

namespace Session

variable {α : Type}

/-- Takes over the board that an operation leaves, unless it fails. -/
def takeOver (s : Session α) (r : Except Error (Nat × Board α)) : Session α :=
  match r with
  | .ok (_, board) => { s with board }
  | .error _ => s

theorem sound_takeOver {s : Session α} (h : s.board.Sound) {r : Except Error (Nat × Board α)}
    (hr : ∀ n b, r = .ok (n, b) → b.Sound) : (s.takeOver r).board.Sound := by
  cases r with
  | error e => exact h
  | ok result => exact hr result.1 result.2 rfl

variable [AngularScalar α] [ShownScalar α]

/-- Performs an operation, and returns how many ids it has given out.  One that fails, and undoing
or redoing where there is nothing to undo or redo, does nothing. -/
def perform (s : Session α) : Operation α → Nat × Session α
  | .addRatsForNet host settings policy name =>
    match s.addRatsForNet host settings policy name with
    | .ok (r, s) => (r.drawn, s)
    | .error _ => (0, s)
  | .addRatsForAll host settings policy selection =>
    let (totals, _, s) := s.addRatsForAll host settings policy selection
    (totals.drawn, s)
  | .connectByHand host settings interactive a b =>
    match s.connectByHand host settings interactive a b with
    | .ok (_, s) => (1, s)
    | .error _ => (0, s)
  | .ripUp settings name => (0, s.takeOver (s.board.ripUp settings name))
  | .deleteRats selectedOnly => (0, s.update fun b => (b.deleteRats selectedOnly).2)
  | .markNet settings name set clear => (0, s.takeOver (s.board.markNet settings name set clear))
  | .clearFlags f => (0, s.update fun b => (b.clearFlags f).2)
  | .undo => (0, s.update fun b => b.undo?.getD b)
  | .redo => (0, s.update fun b => b.redo?.getD b)

/-- Performs operations one after the other. -/
def performAll (s : Session α) : List (Operation α) → Session α
  | [] => s
  | op :: ops => (s.perform op).2.performAll ops

/-- Whether the counter does not reach its end while operations are performed. -/
def HasRoom (s : Session α) : List (Operation α) → Prop
  | [] => True
  | op :: ops => s.board.content.store.nextId.toNat + (s.perform op).1 < UInt64.size ∧
      (s.perform op).2.HasRoom ops

instance decidableHasRoom (s : Session α) : (ops : List (Operation α)) → Decidable (s.HasRoom ops)
  | [] => inferInstanceAs (Decidable True)
  | op :: ops =>
    have := (s.perform op).2.decidableHasRoom ops
    inferInstanceAs (Decidable (_ ∧ _))

variable [OrderedScalar α] {s : Session α}

/-- Every operation leaves a sound board. -/
theorem sound_perform (h : s.board.Sound) (op : Operation α)
    (hroom : s.board.content.store.nextId.toNat + (s.perform op).1 < UInt64.size) :
    (s.perform op).2.board.Sound := by
  cases op with
  | addRatsForNet host settings policy name =>
    rw [perform] at hroom ⊢
    cases hrun : s.addRatsForNet host settings policy name with
    | error e => exact h
    | ok result =>
      rw [hrun] at hroom
      exact (leaves_addRatsForNet h hrun hroom).sound
  | addRatsForAll host settings policy selection =>
    exact (leaves_addRatsForAll selection h hroom).sound
  | connectByHand host settings interactive a b =>
    rw [perform] at hroom ⊢
    cases hrun : s.connectByHand host settings interactive a b with
    | error e => exact h
    | ok result =>
      rw [hrun] at hroom
      exact h.connectByHand hrun hroom
  | ripUp settings name => exact sound_takeOver h fun _ _ hrun => h.ripUp hrun
  | deleteRats selectedOnly => exact h.deleteRats selectedOnly
  | markNet settings name set clear => exact sound_takeOver h fun _ _ hrun => h.markNet hrun
  | clearFlags f => exact h.clearFlags f
  | undo =>
    rw [perform, update]
    cases hundo : s.board.undo? with
    | none => exact h
    | some b => exact h.undo hundo
  | redo =>
    rw [perform, update]
    cases hredo : s.board.redo? with
    | none => exact h
    | some b => exact h.redo hredo

/-- So does every run of operations. -/
theorem sound_performAll (h : s.board.Sound) {ops : List (Operation α)} (hroom : s.HasRoom ops) :
    (s.performAll ops).board.Sound := by
  induction ops generalizing s with
  | nil => exact h
  | cons op ops ih => exact ih (sound_perform h op hroom.1) hroom.2

/-- A well-formed board without a history stays well-formed, whatever is done to it. -/
theorem wellFormed_performAll (hs : s.board.content.WellFormed)
    (hjournal : s.board.journal = .empty) {ops : List (Operation α)} (hroom : s.HasRoom ops) :
    (s.performAll ops).board.content.WellFormed := by
  have hsound : s.board.Sound := by
    obtain ⟨⟨content, journal⟩, calls⟩ := s
    obtain rfl : journal = .empty := hjournal
    exact .ofContent hs
  exact (sound_performAll hsound hroom).wellFormed

/-- A net of two pads apart, a trace that leaves the first of them, and a pad on no net. -/
def tracedPads : Session Float :=
  let content := (padsOnNets [("A", "N", 0), ("B", "N", 100)]).board.content
  let trace : Shape Float :=
    .line { layer := 0, segment := ⟨⟨0, 0⟩, ⟨50, 0⟩⟩, thickness := 4, clearance := 0 }
  let store := (content.store.addPart ⟨(2 : Nat), "C"⟩).insert
    { roundPad 2 200 with part := some (2 : Nat), pin := some "1" }
  ⟨.ofContent { content with store := store.insert { id := 3, shape := trace } }, []⟩

/-- The net is drawn, joined with the third pad, and ripped up with its trace.  Undone, redone and
undone once more, that leaves the trace and both rat lines. -/
def rippedUpAndBack : List (Operation Float) :=
  [.addRatsForAll .silent .standard .precise none,
    .connectByHand .silent .standard true ⟨0, 0⟩ ⟨200, 0⟩,
    .markNet .standard "N" .selected .none,
    .ripUp .standard "N",
    .undo,
    .clearFlags .selected,
    .redo,
    .undo]

/-- The third pad has come to the net, and all is where it was. -/
theorem wellFormed_performAll_tracedPads :
    tracedPads.board.content.WellFormed ∧ tracedPads.board.journal = .empty ∧
      tracedPads.HasRoom rippedUpAndBack ∧
      (tracedPads.performAll (rippedUpAndBack.take 4)).board.content.store.toList.map (·.id) =
        [0, 1, 2] ∧
      (tracedPads.performAll rippedUpAndBack).board.content.store.toList.map (·.id) =
        [0, 1, 2, 3, 4, 5] ∧
      (tracedPads.performAll rippedUpAndBack).board.content.WellFormed := by
  have hs : tracedPads.board.content.WellFormed := by decide +kernel
  have hroom : tracedPads.HasRoom rippedUpAndBack := by decide +kernel
  exact ⟨hs, rfl, hroom, by decide +kernel, by decide +kernel,
    wellFormed_performAll hs rfl hroom⟩

end Session

end Ratsnest
