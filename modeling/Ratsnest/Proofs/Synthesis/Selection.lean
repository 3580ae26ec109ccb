import Ratsnest.Proofs.Synthesis.Accounts

/-!
# The verdict that nothing is selected

A run over a selection tells that no selected terminal is on a net exactly when the nets that list
one are all inhibited (`Session.addRatsForAll_noSelectedTerminal_iff`).  Inhibited nets are passed
by before the selection is looked at, so a selected terminal on one of them does not count
(`Session.addRatsForAll_selected_inhibited`).
-/

namespace Ratsnest

theorem Outcome.ofTotals_eq_noSelectedTerminal_iff {t : Totals} {selective : Bool} :
    ofTotals t selective = noSelectedTerminal ↔ t.drawn = 0 ∧ selective ∧ t.nets = 0 := by
  rw [ofTotals]
  by_cases hdrawn : t.drawn = 0
  · by_cases hnets : selective ∧ t.nets = 0
    · simp [hdrawn, hnets]
    · rw [if_neg (by omega), if_neg (by simpa using hnets)]
      refine iff_of_false ?_ fun h => hnets h.2
      split
      · exact Outcome.noConfusion
      · exact Outcome.noConfusion
  · rw [if_pos (Nat.pos_of_ne_zero hdrawn)]
    exact iff_of_false Outcome.noConfusion fun h => hdrawn h.1

namespace Session

variable {α : Type} [AngularScalar α] [ShownScalar α]

theorem skips_some_iff {pins : List Pin} {m : Net} : skips (some pins) m ↔
    m.inhibited ∨ ∀ t ∈ m.terminals, t.key ∉ pins := by
  simp [skips, inSelection]

variable (host : Host) (settings : Settings α) (policy : Policy) (s : Session α)

/-- A run goes through no net exactly when it passes all of them by. -/
theorem nets_addRatsForAll_eq_zero_iff (selection : Option (List Pin)) :
    (s.addRatsForAll host settings policy selection).1.nets = 0 ↔
      ∀ m ∈ s.board.content.netlist.toList, skips selection m := by
  obtain ⟨-, hcount⟩ := counts_foldl host settings policy selection
    ({}, .start "" s.board.content.netlist, s) s.board.content.netlist.toList
  rw [← List.countP_eq_length]
  rw [addRatsForAll]
  dsimp only at hcount ⊢
  omega

/-- A run that goes through no net draws nothing. -/
theorem drawn_addRatsForAll_of_nets_eq_zero {selection : Option (List Pin)}
    (h : (s.addRatsForAll host settings policy selection).1.nets = 0) :
    (s.addRatsForAll host settings policy selection).1.drawn = 0 := by
  obtain ⟨pass, hrun⟩ := (balanced_start host s).foldl settings policy selection
    s.board.content.netlist.toList
  have hnone := List.length_eq_zero_iff.1 (hrun.nets.trans h)
  have hdrawn := hrun.drawn
  rw [hnone] at hdrawn
  exact hdrawn.symm

/-- A run over a selection says that no selected terminal is on a net exactly when every net that
is not inhibited lists none. -/
theorem addRatsForAll_noSelectedTerminal_iff (pins : List Pin) :
    (s.addRatsForAll host settings policy (some pins)).2.1 = .noSelectedTerminal ↔
      ∀ m ∈ s.board.content.netlist.toList, m.inhibited = false →
        ∀ t ∈ m.terminals, t.key ∉ pins := by
  have hverdict : (s.addRatsForAll host settings policy (some pins)).2.1 =
      .ofTotals (s.addRatsForAll host settings policy (some pins)).1 true := rfl
  have hpassed : (∀ m ∈ s.board.content.netlist.toList, skips (some pins) m) ↔
      ∀ m ∈ s.board.content.netlist.toList, m.inhibited = false →
        ∀ t ∈ m.terminals, t.key ∉ pins := by
    simp only [skips_some_iff, ← Bool.not_eq_true, imp_iff_not_or, not_not]
  rw [hverdict, Outcome.ofTotals_eq_noSelectedTerminal_iff, ← hpassed,
    ← nets_addRatsForAll_eq_zero_iff host settings policy]
  exact ⟨fun h => h.2.2, fun h =>
    ⟨drawn_addRatsForAll_of_nets_eq_zero host settings policy s h, rfl, h⟩⟩

/-- A pad on a net that is inhibited. -/
def inhibitedPad : Session Float :=
  let c := (padsOnNets [("A", "N", 0)]).board.content
  ⟨.ofContent { c with netlist := c.netlist.modify "N" ({ · with inhibited := true }) }, []⟩

/-- The selected terminal is on a net, and the verdict says that it is on none. -/
theorem addRatsForAll_selected_inhibited :
    (∃ m ∈ inhibitedPad.board.content.netlist.toList, ∃ t ∈ m.terminals,
        t.key ∈ [Pin.mk "A" "1"]) ∧
      (inhibitedPad.addRatsForAll .silent .standard .precise (some [⟨"A", "1"⟩])).1 =
        { disabled := 1 } ∧
      (inhibitedPad.addRatsForAll .silent .standard .precise (some [⟨"A", "1"⟩])).2.1 =
        .noSelectedTerminal := by
  refine ⟨?_, ?_, ?_⟩ <;> decide +kernel

end Session

end Ratsnest
