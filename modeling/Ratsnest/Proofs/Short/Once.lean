import Ratsnest.Proofs.Short.Pass

/-!
# Short circuits reported once

In a run over all nets the host hears of a pair of nets at most once, and only when the crawl of
one of them has met a pin of the other.  It does hear of every such pair with a name of its own;
of several pairs with the same name it hears of one (`Session.addRatsForAll_reports_once`).
-/

namespace Ratsnest

open HostCall

variable {α : Type} [AngularScalar α]

/-- Whether the crawl of a net discovers an object that stands for a pin of net `b`. -/
def Content.Reaches (settings : Settings α) (c : Content α) (m : Net) (b : String) : Prop :=
  ∃ d ∈ (Extraction.ofTerminals settings c m.terminals).discoveries,
    ∃ p, c.store.terminalOf? d.object = some p ∧ c.netlist.Lists b p

instance (settings : Settings α) (c : Content α) (m : Net) (b : String) :
    Decidable (c.Reaches settings m b) :=
  decidable_of_iff (∃ d ∈ (Extraction.ofTerminals settings c m.terminals).discoveries,
      (c.store.terminalOf? d.object).any fun p => c.netlist.Lists b p) <| by
    simp only [Content.Reaches, Option.any_eq_true, decide_eq_true_eq]

/-- Where no pin is on two nets, a crawl finds what it reaches of other nets. -/
theorem Content.exists_finds_iff {settings : Settings α} {c : Content α} {m : Net} {a b : String}
    (hl : c.netlist.Unshared) :
    (∃ n, c.Finds settings m n ∧ n.net = a ∧ n.offenderNet = b) ↔
      m.name = a ∧ a ≠ b ∧ c.Reaches settings m b := by
  constructor
  · rintro ⟨n, ⟨hnet, hother, ⟨d, hd, hobject, -⟩, p, hp, howner⟩, rfl, rfl⟩
    rw [← hobject] at hp
    exact ⟨hnet.symm, hnet ▸ hother.symm, d, hd, p, hp, hl.owners_iff.1 howner⟩
  · rintro ⟨rfl, hne, d, hd, p, hp, hlists⟩
    exact ⟨⟨m.name, b, d.object, d.arrivedFrom⟩, ⟨rfl, hne.symm, ⟨d, hd, rfl, rfl⟩, p, hp,
      hl.owners_iff.2 hlists⟩, rfl, rfl⟩

namespace Session

variable [ShownScalar α] (host : Host) (settings : Settings α) (policy : Policy)

/-- Whether, in the run over all nets, the crawl of net `a`, which is not inhibited, discovers an
object that stands for a pin of net `b`. -/
def Meets (s : Session α) (a b : String) : Prop :=
  ∃ pre m post, s.board.content.netlist.toList = pre ++ m :: post ∧ m.inhibited = false ∧
    m.name = a ∧ (s.passOver host settings policy none pre).2.2.board.content.Reaches settings m b

/-- Whether, in the run over all nets, the crawl of one of two nets discovers an object that
stands for a pin of the other one. -/
def Shorted (s : Session α) (a b : String) : Prop :=
  a ≠ b ∧ (s.Meets host settings policy a b ∨ s.Meets host settings policy b a)

variable {host settings policy} in
/-- The pairs that the crawls of a run find are those that are shorted. -/
theorem shorted_iff {s : Session α} (hl : s.board.content.netlist.Unshared) {a b : String} :
    (∃ n, s.Finds host settings policy none s.board.content.netlist.toList n ∧
      n.pair = s(a, b)) ↔ s.Shorted host settings policy a b := by
  have hmeets (a b : String) : (∃ n, s.Finds host settings policy none
      s.board.content.netlist.toList n ∧ n.net = a ∧ n.offenderNet = b) ↔
        a ≠ b ∧ s.Meets host settings policy a b := by
    have hpre (pre : List Net) : (s.passOver host settings policy none
        pre).2.2.board.content.netlist.Unshared := by
      rw [(told_passOver host settings policy none s pre).2.2]
      exact hl
    constructor
    · rintro ⟨n, ⟨pre, m, post, heq, ⟨hm, -⟩, hfinds⟩, hab⟩
      obtain ⟨hname, hne, hreach⟩ := (Content.exists_finds_iff (hpre pre)).1 ⟨n, hfinds, hab⟩
      exact ⟨hne, pre, m, post, heq, hm, hname, hreach⟩
    · rintro ⟨hne, pre, m, post, heq, hm, hname, hreach⟩
      obtain ⟨n, hfinds, hab⟩ := (Content.exists_finds_iff (hpre pre)).2 ⟨hname, hne, hreach⟩
      exact ⟨n, ⟨pre, m, post, heq, ⟨hm, rfl⟩, hfinds⟩, hab⟩
  rw [Shorted, and_or_left, ← hmeets, ne_comm, ← hmeets, ← exists_or]
  refine exists_congr fun n => ?_
  rw [ShortNotice.pair, Sym2.eq_iff, and_or_left]

/-- Where no pin is on two nets, a run over all nets reports every pair of shorted nets exactly
once, and no other one, as long as no other pair of shorted nets has the same name. -/
theorem addRatsForAll_reports_once {s : Session α} (hl : s.board.content.netlist.Unshared) :
    ∃ new, notices (s.addRatsForAll host settings policy none).2.2.calls =
        notices s.calls ++ new ∧
      ReportsOnce (s.Shorted host settings policy) new := by
  obtain ⟨w, htold⟩ := told_addRatsForAll host settings policy none s
  obtain ⟨new, hnew, hreports⟩ := htold.reportsOnce
  simp only [shorted_iff hl] at hreports
  exact ⟨new, hnew, hreports⟩

/-- A board with round pads in a row, each one the only pin of a part.  Given are the part and the
net of each pad and where it is. -/
def padsOnNets (pads : List (String × String × Float)) : Session Float :=
  let content := pads.zipIdx.foldl (fun c ((refdes, net, x), i) => { c with
      store := (c.store.addPart ⟨i, refdes⟩).insert
        { roundPad (.ofNat i) x with part := some i, pin := some "1" }
      netlist := c.netlist.addTerminal net ⟨refdes, "1", ∅⟩ })
    (Content.empty (0 : Nat) "pads")
  ⟨.ofContent content, []⟩

/-- Two pairs of nets are shorted whose names are the same. -/
def dashedNets : Session Float :=
  padsOnNets [("A", "a", 0), ("B", "b-c", 4), ("C", "a-b", 100), ("D", "c", 104)]

/-- Nets with dashes in their names: the second one of two shorted pairs is not reported. -/
theorem addRatsForAll_skips_short :
    dashedNets.board.content.netlist.Unshared ∧
      dashedNets.Shorted .silent .standard .precise "a" "b-c" ∧
      dashedNets.Shorted .silent .standard .precise "a-b" "c" ∧
      notices (dashedNets.addRatsForAll .silent .standard .precise none).2.2.calls =
        [⟨"a", "b-c", 1, some 0⟩] := by
  refine ⟨?_, ⟨?_, .inl ⟨[], ⟨"a", [⟨"A", "1", ∅⟩], false, ∅⟩,
    dashedNets.board.content.netlist.toList.drop 1, ?_⟩⟩, ⟨?_, .inl
    ⟨dashedNets.board.content.netlist.toList.take 1, ⟨"a-b", [⟨"C", "1", ∅⟩], false, ∅⟩,
      dashedNets.board.content.netlist.toList.drop 2, ?_⟩⟩, ?_⟩
  all_goals decide +kernel

/-- Two nets, shorted by touching pads. -/
def touchingNets : Session Float := padsOnNets [("U", "A", 0), ("V", "B", 4)]

/-- The one pair of nets is reported once, though the crawls of both meet the other one. -/
theorem addRatsForAll_reports_once_touchingNets :
    touchingNets.board.content.netlist.Unshared ∧
      ∃ new, notices (touchingNets.addRatsForAll .silent .standard .precise none).2.2.calls =
          notices touchingNets.calls ++ new ∧
        ReportsOnce (touchingNets.Shorted .silent .standard .precise) new ∧
        new = [⟨"A", "B", 1, some 0⟩] := by
  have hl : touchingNets.board.content.netlist.Unshared := by decide +kernel
  obtain ⟨new, hnew, hreports⟩ :=
    addRatsForAll_reports_once .silent .standard .precise (s := touchingNets) hl
  have hcalls : notices (touchingNets.addRatsForAll .silent .standard .precise none).2.2.calls =
      [⟨"A", "B", 1, some 0⟩] := by decide +kernel
  have hbefore : notices touchingNets.calls = [] := rfl
  refine ⟨hl, new, hnew, hreports, ?_⟩
  rw [hcalls, hbefore, List.nil_append] at hnew
  exact hnew.symm

end Session

end Ratsnest
