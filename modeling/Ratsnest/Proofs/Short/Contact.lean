import Ratsnest.Proofs.Crawl.Contact
import Ratsnest.Proofs.Short.Once

/-!
# Short circuits and contacts

A short circuit that is reported between two nets is a contact between them, unless the way from
one to the other leads over a rat line (`Session.reported_contact`).  The crawl goes on along rat
lines, and what it meets behind them is reported as well.
-/

namespace Ratsnest

open HostCall

variable {α : Type} [AngularScalar α]

/-- What has to be there for a notice from the crawl of a net. -/
structure Content.Shorts (settings : Settings α) (c : Content α) (m : Net) (n : ShortNotice) :
    Prop where
  net : n.net = m.name
  other : n.offenderNet ≠ n.net
  /-- The object reported stands for a pin of the other net. -/
  listed : ∃ p, c.store.terminalOf? n.offender = some p ∧ c.netlist.Lists n.offenderNet p
  /-- Contacts lead to it from an object that stands for a terminal of the crawled net, unless they
  lead to a rat line first. -/
  joined : ∃ x ∈ c.store.located m.terminals, Contact c (Extraction.rules settings) x n.offender ∨
    ∃ z, Contact c (Extraction.rules settings) x z ∧ AtRat c z ∧
      Wired c (Extraction.rules settings) z n.offender

theorem Content.Finds.shorts {settings : Settings α} {c : Content α} {m : Net} {n : ShortNotice}
    (h : c.Finds settings m n) : c.Shorts settings m n := by
  obtain ⟨d, hd, hobject, -⟩ := h.discovered
  obtain ⟨p, hp, howner⟩ := h.listed
  obtain ⟨e, he, hnet⟩ := Option.map_eq_some_iff.1 howner
  have hid : n.offender ∈ objectsOf (Extraction.ofTerminals settings c m.terminals).discoveries :=
    hobject ▸ List.mem_map_of_mem hd
  obtain ⟨x, hx, hwired⟩ := Extraction.exists_wired hid
  exact ⟨h.net, h.net ▸ h.other, ⟨p, hp, hnet ▸ NetList.lists_of_get?_owners he⟩, x, hx,
    hwired.contact_or⟩

namespace Session

variable [ShownScalar α]

/-- Every short circuit that a run reports is a contact of the crawled net, on the board as it is
then, unless contacts lead from this net to a rat line, and joins from there to the object
reported. -/
theorem reported_contact (host : Host) (settings : Settings α) (policy : Policy)
    (s : Session α) :
    (∀ name m, s.board.content.net name = .ok m →
      ∃ r t new, s.addRatsForNet host settings policy name = .ok (r, t) ∧
        notices t.calls = notices s.calls ++ new ∧
        ∀ n ∈ new, s.board.content.Shorts settings m n) ∧
    ∀ selection, ∃ new,
      notices (s.addRatsForAll host settings policy selection).2.2.calls =
        notices s.calls ++ new ∧
      ∀ n ∈ new, ∃ pre m post, s.board.content.netlist.toList = pre ++ m :: post ∧
        (s.passOver host settings policy selection pre).2.2.board.content.Shorts settings m n := by
  constructor
  · intro name m hm
    obtain ⟨r, t, w, hrun, htold⟩ := s.told_addRatsForNet host settings policy hm
    obtain ⟨new, hnew, -, hfinds⟩ := htold.told
    exact ⟨r, t, new, hrun, hnew, fun n hn => (hfinds n hn).shorts⟩
  · intro selection
    obtain ⟨w, htold⟩ := told_addRatsForAll host settings policy selection s
    obtain ⟨new, hnew, -, hfinds⟩ := htold.told
    refine ⟨new, hnew, fun n hn => ?_⟩
    obtain ⟨pre, m, post, heq, -, hfound⟩ := hfinds n hn
    exact ⟨pre, m, post, heq, hfound.shorts⟩

/-- The one short circuit between two touching pads is a contact. -/
theorem reported_contact_touchingNets :
    ∃ m r t, touchingNets.board.content.net "A" = .ok m ∧
      touchingNets.addRatsForNet .silent .standard .precise "A" = .ok (r, t) ∧
      notices t.calls = [⟨"A", "B", 1, some 0⟩] ∧
      touchingNets.board.content.Shorts .standard m ⟨"A", "B", 1, some 0⟩ := by
  have hnet : touchingNets.board.content.net "A" =
      .ok ⟨"A", [⟨"U", "1", ∅⟩], false, ∅⟩ := by decide +kernel
  obtain ⟨r, t, new, hrun, hnew, hshorts⟩ :=
    (reported_contact .silent .standard .precise touchingNets).1 "A" _ hnet
  have hcalls : (touchingNets.addRatsForNet .silent .standard .precise "A").toOption.map
      (fun run => notices run.2.calls) = some [⟨"A", "B", 1, some 0⟩] := by decide +kernel
  have hbefore : notices touchingNets.calls = [] := rfl
  rw [hrun] at hcalls
  have htold : notices t.calls = [⟨"A", "B", 1, some 0⟩] := Option.some.inj hcalls
  rw [htold, hbefore, List.nil_append] at hnew
  subst hnew
  exact ⟨_, r, t, hnet, hrun, htold, hshorts _ List.mem_cons_self⟩

/-- Two pads of net `A` far apart, one of them touched by net `B` and the other one by net `C`. -/
def touchedPads : Session Float :=
  padsOnNets [("U", "A", 0), ("V", "B", 4), ("X", "A", 100), ("Y", "C", 104)]

/-- The rat line of net `A` leads the crawl of net `B` to net `C`: these two are reported as
shorted, though no contacts lead from one to the other. -/
theorem reported_without_contact :
    touchedPads.board.content.netlist.Unshared ∧
      notices (touchedPads.addRatsForAll .silent .standard .precise none).2.2.calls =
        [⟨"A", "B", 1, some 0⟩, ⟨"A", "C", 3, some 2⟩, ⟨"B", "C", 3, some 2⟩] ∧
      ¬Contact (touchedPads.addRatsForAll .silent .standard .precise none).2.2.board.content
        (Extraction.rules .standard) 1 3 := by
  refine ⟨by decide +kernel, by decide +kernel, fun h => ?_⟩
  have hc : Regular (touchedPads.addRatsForAll .silent .standard .precise none).2.2.board.content
      (Extraction.rules .standard).withoutRats := by decide +kernel
  have hpad : (1 : ObjectId) ∈ (touchedPads.addRatsForAll .silent .standard .precise
      none).2.2.board.content.store.located [⟨"V", "1", ∅⟩] := by decide +kernel
  have hcrawl := (hc.contact_iff (hc.isNode_of_located hpad)).1 h
  exact absurd hcrawl (by decide +kernel)

end Session

end Ratsnest
