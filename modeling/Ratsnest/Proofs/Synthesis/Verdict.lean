import Ratsnest.Proofs.Short.Contact

/-!
# The verdict that everything is connected

When a run over all nets calls the board complete, it has changed nothing, and each net is finished
on the board as it is (`Session.addRatsForAll_complete`): its terminals are there, joins lead from
the first of them to all others, and no crawl meets a pin of another net.  The joins may lead over
rat lines that earlier runs have drawn, since the verdict counts those of this run alone
(`Session.addRatsForAll_complete_over_rat`).
-/

namespace Ratsnest

universe u

theorem Outcome.ofTotals_eq_complete_iff {t : Totals} : ofTotals t false = complete ↔
    t.drawn = 0 ∧ t.missing = 0 ∧ t.disabled = 0 ∧ t.shorts = 0 := by
  by_cases hdrawn : t.drawn = 0
  · simp [ofTotals, hdrawn, and_assoc]
  · simp [ofTotals, hdrawn, Nat.pos_of_ne_zero]

/-! ## Watches that see nothing -/

namespace ShortWatch

variable {α : Type u}

/-- A look counts one more short circuit, or there is nothing to see. -/
theorem check_eq_or (host : Host) (s : Store α) (w : ShortWatch) (calls : List HostCall)
    (d : Discovery) : (w.check host s calls d).1.count = w.count + 1 ∨
      w.check host s calls d = (w, calls) ∧
        (w.reported = [] → w.offense? s d = none) := by
  rw [check]
  cases w.offense? s d with
  | none => exact .inr ⟨rfl, fun _ => rfl⟩
  | some o =>
    obtain ⟨pin, net⟩ := o
    dsimp only
    split
    · rename_i hmem
      refine .inr ⟨rfl, fun h => ?_⟩
      rw [h] at hmem
      cases hmem
    · exact .inl rfl

theorem checkAll_cons (host : Host) (s : Store α) (w : ShortWatch) (calls : List HostCall)
    (d : Discovery) (ds : List Discovery) : w.checkAll host s calls (d :: ds) =
      (w.check host s calls d).1.checkAll host s (w.check host s calls d).2 ds := rfl

theorem count_le_checkAll (host : Host) (s : Store α) (w : ShortWatch) (calls : List HostCall)
    (ds : List Discovery) : w.count ≤ (w.checkAll host s calls ds).1.count := by
  induction ds generalizing w calls with
  | nil => exact Nat.le_refl _
  | cons d ds ih =>
    rw [checkAll_cons]
    refine Nat.le_trans ?_ (ih (w.check host s calls d).1 (w.check host s calls d).2)
    rcases w.check_eq_or host s calls d with h | ⟨h, -⟩
    · exact h ▸ Nat.le_succ _
    · rw [h]

/-- A watch that counts nothing is as it was, and none of the discoveries is a short circuit. -/
theorem checkAll_eq_of_count_eq_zero {host : Host} {s : Store α} {w : ShortWatch}
    {calls : List HostCall} {ds : List Discovery}
    (h : (w.checkAll host s calls ds).1.count = 0) :
    w.checkAll host s calls ds = (w, calls) ∧ ∀ d ∈ ds, w.offense? s d = none := by
  induction ds with
  | nil => exact ⟨rfl, nofun⟩
  | cons d ds ih =>
    have hle := count_le_checkAll host s (w.check host s calls d).1 (w.check host s calls d).2 ds
    rw [checkAll_cons] at h ⊢
    rcases w.check_eq_or host s calls d with hcount | ⟨hsame, hnone⟩
    · omega
    · rw [hsame] at h hle ⊢
      have hreported : w.reported = [] :=
        List.length_eq_zero_iff.1 (Nat.le_zero.1 (hle.trans_eq h))
      obtain ⟨hrest, hall⟩ := ih h
      exact ⟨hrest, List.forall_mem_cons.2 ⟨hnone hreported, hall⟩⟩

end ShortWatch

/-! ## Pieces of finished nets -/

namespace Extraction

variable {α : Type u} [AngularScalar α] {i : ConnectionIndex α} {r : JoinRules α} {s : Store α}
  {visited : List ObjectId} {ts : List Terminal} {x : ObjectId}

/-- With no terminal missing each one has an object. -/
theorem exists_find?_of_missing (h : (run i r s visited ts).missing = 0) :
    ∀ t ∈ ts, ∃ x, s.find? t.key = some x := by
  induction ts generalizing visited with
  | nil => nofun
  | cons t ts ih =>
    rw [run] at h
    cases ht : s.find? t.key with
    | none =>
      rw [ht] at h
      cases h
    | some seed =>
      refine List.forall_mem_cons.2 ⟨⟨seed, ht⟩, ?_⟩
      simp only [ht] at h
      split at h
      · exact ih h
      · exact ih h

/-- Where there is no piece all terminals have been visited before. -/
theorem mem_visited_of_subnets (h : (run i r s visited ts).subnets = []) :
    ∀ x ∈ s.located ts, x ∈ visited := by
  induction ts with
  | nil => nofun
  | cons t ts ih =>
    rw [run] at h
    cases ht : s.find? t.key with
    | none =>
      have hlocated : s.located (t :: ts) = s.located ts := List.filterMap_cons_none ht
      rw [ht] at h
      rw [hlocated]
      exact ih h
    | some seed =>
      rw [Store.located_cons ht]
      simp only [ht] at h
      split at h
      · rename_i hv
        exact List.forall_mem_cons.2 ⟨List.contains_iff_mem.1 hv, ih h⟩
      · cases h

/-- In a single piece the crawl from the first terminal finds all others. -/
theorem mem_crawl_of_single (h : (run i r s [] ts).subnets.length ≤ 1)
    (hx : (s.located ts).head? = some x) :
    ∀ y ∈ s.located ts, y = x ∨ y ∈ objectsOf (i.crawl r s [] x) := by
  induction ts with
  | nil => cases hx
  | cons t ts ih =>
    rw [run] at h
    cases ht : s.find? t.key with
    | none =>
      have hlocated : s.located (t :: ts) = s.located ts := List.filterMap_cons_none ht
      rw [ht] at h
      rw [hlocated] at hx ⊢
      exact ih h hx
    | some seed =>
      rw [Store.located_cons ht] at hx ⊢
      obtain rfl := Option.some.inj hx
      simp only [ht] at h
      rw [if_neg (by simp), List.length_cons] at h
      have hrest := mem_visited_of_subnets (List.length_eq_zero_iff.1 (Nat.le_zero.1
        (Nat.le_of_succ_le_succ h)))
      exact List.forall_mem_cons.2 ⟨.inl rfl, fun y hy => .inr (hrest y hy)⟩

/-- The objects of terminals are discovered, unless they have been visited before. -/
theorem mem_discoveries_of_located (hx : x ∈ s.located ts) (hs : s.contains x)
    (hv : x ∉ visited) : x ∈ objectsOf (run i r s visited ts).discoveries := by
  induction ts generalizing visited with
  | nil => cases hx
  | cons t ts ih =>
    rw [run]
    cases ht : s.find? t.key with
    | none =>
      have hlocated : s.located (t :: ts) = s.located ts := List.filterMap_cons_none ht
      rw [hlocated] at hx
      exact ih hx hv
    | some seed =>
      rw [Store.located_cons ht] at hx
      dsimp only
      split
      · rename_i hseed
        rcases List.mem_cons.1 hx with rfl | hx
        · exact absurd (List.contains_iff_mem.1 hseed) hv
        · exact ih hx hv
      · rw [objectsOf_append, List.mem_append]
        by_cases hfound : x ∈ objectsOf (i.crawl r s visited seed)
        · exact .inl hfound
        · rcases List.mem_cons.1 hx with rfl | hx
          · refine absurd ?_ hfound
            rw [ConnectionIndex.crawl_of_fresh hs hv, objectsOf_cons]
            exact List.mem_cons_self
          · refine .inr (ih hx fun h => ?_)
            rcases List.mem_append.1 h with h | h
            · exact hv h
            · exact hfound h

end Extraction

/-! ## Finished nets -/

variable {α : Type} [AngularScalar α]

/-- Whether a run has nothing to do for a net and nothing to report. -/
structure Content.Quiet (settings : Settings α) (c : Content α) (m : Net) : Prop where
  enabled : m.inhibited = false
  missing : (Extraction.ofTerminals settings c m.terminals).missing = 0
  single : (Extraction.ofTerminals settings c m.terminals).subnets.length ≤ 1
  /-- What the crawl discovers stands for no pin that another net owns. -/
  owned : ∀ d ∈ (Extraction.ofTerminals settings c m.terminals).discoveries, ∀ p e,
    c.store.terminalOf? d.object = some p → c.netlist.owners.get? p = some e → e.2 = m.name

/-- What the verdict that everything is connected says of a net. -/
structure Content.Finished (settings : Settings α) (c : Content α) (m : Net) : Prop where
  enabled : m.inhibited = false
  /-- Every terminal is on the board. -/
  located : ∀ t ∈ m.terminals, ∃ x, c.store.find? t.key = some x
  /-- Contacts lead from the object of the first terminal to those of all others, unless they lead
  to a rat line and joins go on from there. -/
  joined : ∀ x, (c.store.located m.terminals).head? = some x →
    ∀ y ∈ c.store.located m.terminals, Contact c (Extraction.rules settings) x y ∨
      ∃ z, Contact c (Extraction.rules settings) x z ∧ AtRat c z ∧
        Wired c (Extraction.rules settings) z y
  /-- The crawl meets no pin of another net. -/
  unshorted : ∀ b, b ≠ m.name → ¬c.Reaches settings m b

/-- Where a run has nothing to do and nothing to report, all nets are finished. -/
theorem Content.finished_of_quiet {settings : Settings α} {c : Content α} (hk : c.store.Keyed)
    (h : ∀ m ∈ c.netlist.toList, c.Quiet settings m) :
    ∀ m ∈ c.netlist.toList, c.Finished settings m := by
  intro m hm
  have hlocated {n : Net} (hn : n ∈ c.netlist.toList) :=
    Extraction.exists_find?_of_missing (h n hn).missing
  refine ⟨(h m hm).enabled, hlocated hm, fun x hx y hy => ?_, ?_⟩
  · rcases Extraction.mem_crawl_of_single (h m hm).single hx y hy with rfl | hcrawl
    · exact .inl .refl
    · exact (wired_of_mem_crawl hcrawl).contact_or
  · rintro b hb ⟨d, hd, p, hp, n, hn, rfl, t, ht, rfl⟩
    -- The crawl of the net that lists the pin meets it too, so its owner is either net.
    obtain ⟨x, hx⟩ := hlocated hn t ht
    obtain ⟨hcontains, hpin⟩ := hk.of_find? hx
    have hdiscovered := Extraction.mem_discoveries_of_located
      (i := .ofContent c) (r := Extraction.rules settings)
      (List.mem_filterMap.2 ⟨t, ht, hx⟩) hcontains List.not_mem_nil
    obtain ⟨d', hd', rfl⟩ := List.mem_map.1 hdiscovered
    obtain ⟨e, he⟩ : ∃ e, c.netlist.owners.get? t.key = some e := by
      rw [NetList.get?_owners, ← Option.isSome_iff_exists, List.find?_isSome]
      exact ⟨(t, n.name), List.mem_flatMap.2 ⟨n, hn, List.mem_map.2 ⟨t, ht, rfl⟩⟩,
        beq_self_eq_true _⟩
    have hother := (h n hn).owned d' hd' _ e hpin he
    exact hb (hother.symm.trans ((h m hm).owned d hd _ e hp he))

namespace Session

variable [ShownScalar α] {host : Host} {settings : Settings α} {policy : Policy}

/-- A net for which nothing is drawn, missing or counted is quiet, and the run goes on as it
was. -/
theorem addRatsFor_quiet {w : ShortWatch} {s : Session α} {m : Net} (hnet : w.net = m.name)
    (howners : w.owners = s.board.content.netlist.owners) (henabled : m.inhibited = false)
    (hdrawn : (s.addRatsFor host settings policy w m.terminals).1.drawn = 0)
    (hmissing : (s.addRatsFor host settings policy w m.terminals).1.missing = 0)
    (hcount : (s.addRatsFor host settings policy w m.terminals).2.1.count = 0) :
    s.board.content.Quiet settings m ∧
      (s.addRatsFor host settings policy w m.terminals).2 = (w, s) := by
  obtain ⟨hdrawn', hmissing', -⟩ := s.addRatsFor_spec settings policy host w m.terminals
  rw [hdrawn] at hdrawn'
  rw [hmissing, ← hdrawn'] at hmissing'
  have hsingle : (Extraction.ofTerminals settings s.board.content m.terminals).subnets.length ≤
      1 := by
    by_contra hmany
    rw [if_neg (by omega)] at hmissing'
    omega
  obtain ⟨hsame, hoffense⟩ := ShortWatch.checkAll_eq_of_count_eq_zero hcount
  refine ⟨⟨henabled, by omega, hsingle, fun d hd p e hp he => ?_⟩, ?_⟩
  · have hnone := hoffense d hd
    simp only [ShortWatch.offense?, howners, hp, he, Option.bind_eq_bind, Option.bind_some,
      ite_eq_left_iff, reduceCtorEq, imp_false, not_not, beq_iff_eq] at hnone
    exact hnone.trans hnet
  · rw [addRatsFor, hsame]
    generalize (Extraction.ofTerminals settings s.board.content m.terminals).subnets = subnets
      at hsingle
    rcases subnets with - | ⟨a, - | ⟨b, rest⟩⟩
    · rfl
    · rfl
    · simp at hsingle

/-- Whether a run over nets has nothing to show for it. -/
structure Idle (run : Totals × ShortWatch × Session α) : Prop where
  drawn : run.1.drawn = 0
  missing : run.1.missing = 0
  disabled : run.1.disabled = 0
  count : run.2.1.count = 0

/-- One more net leaves a run idle only if it is quiet and the run has been idle before. -/
theorem idle_addRatsForOne {run : Totals × ShortWatch × Session α} {m : Net}
    (howners : run.2.1.owners = run.2.2.board.content.netlist.owners)
    (h : Idle (addRatsForOne host settings policy none run m)) :
    Idle run ∧ run.2.2.board.content.Quiet settings m ∧
      (addRatsForOne host settings policy none run m).2 = (run.2.1.setNet m.name, run.2.2) := by
  obtain ⟨totals, w, s⟩ := run
  obtain ⟨hdrawn, hmissing, hdisabled, hcount⟩ := h
  rw [addRatsForOne] at hdrawn hmissing hdisabled hcount ⊢
  by_cases hm : m.inhibited
  · simp [hm] at hdisabled
  · have hsel : inSelection none m := rfl
    simp only [hm, hsel, Bool.false_eq_true, if_true, if_false, Totals.add, Nat.add_eq_zero_iff]
      at hdrawn hmissing hdisabled hcount ⊢
    obtain ⟨hquiet, hsame⟩ := addRatsFor_quiet (w := w.setNet m.name) rfl howners
      (Bool.eq_false_iff.2 hm) hdrawn.2 hmissing.2 hcount
    refine ⟨⟨hdrawn.1, hmissing.1, hdisabled, ?_⟩, hquiet, hsame⟩
    have hwatch : (s.addRatsFor host settings policy (w.setNet m.name) m.terminals).2.1 =
        w.setNet m.name := congrArg Prod.fst hsame
    rw [hwatch] at hcount
    exact hcount

/-- After an idle run over some nets all of them are quiet, and all is as it was. -/
theorem quiet_of_idle (s : Session α) (ms : List Net)
    (h : Idle (s.passOver host settings policy none ms)) :
    (∀ m ∈ ms, s.board.content.Quiet settings m) ∧
      (s.passOver host settings policy none ms).2.2 = s ∧
      (s.passOver host settings policy none ms).2.1.owners = s.board.content.netlist.owners ∧
      (s.passOver host settings policy none ms).2.1.pending = [] := by
  induction ms using List.reverseRecOn with
  | nil => exact ⟨nofun, rfl, rfl, rfl⟩
  | append_singleton ms m ih =>
    have howners := (told_passOver host settings policy none s ms).2
    rw [passOver_concat] at h ⊢
    obtain ⟨hidle, hquiet, hsame⟩ :=
      idle_addRatsForOne (howners.1.trans (congrArg NetList.owners howners.2.symm)) h
    obtain ⟨hall, hs, howners, hpending⟩ := ih hidle
    rw [hs] at hquiet
    rw [hsame]
    exact ⟨fun n hn => (List.mem_append.1 hn).elim (hall n)
      fun hn => List.mem_singleton.1 hn ▸ hquiet, hs, howners, hpending⟩

/-- When a run over all nets calls the board complete it has not changed it, and each net is
finished. -/
theorem addRatsForAll_complete {s : Session α} (hk : s.board.content.store.Keyed)
    (h : (s.addRatsForAll host settings policy none).2.1 = .complete) :
    (s.addRatsForAll host settings policy none).2.2.board = s.board ∧
      ∀ m ∈ s.board.content.netlist.toList, s.board.content.Finished settings m := by
  have hzero := Outcome.ofTotals_eq_complete_iff.1 h
  have hidle : Idle (s.passOver host settings policy none s.board.content.netlist.toList) :=
    ⟨hzero.1, hzero.2.1, hzero.2.2.1, hzero.2.2.2⟩
  obtain ⟨hquiet, hs, -, hpending⟩ := quiet_of_idle s _ hidle
  refine ⟨?_, Content.finished_of_quiet hk hquiet⟩
  rw [passOver] at hs hpending
  simp only [addRatsForAll, message, call, finishWatch, ShortWatch.finish, hpending,
    List.foldl_nil, if_pos hzero.2.2.2]
  rw [hs]

/-- A net of two pads far apart, with the rat line that a run has drawn between them. -/
def linkedPads : Session Float :=
  ((padsOnNets [("A", "N", 0), ("B", "N", 100)]).addRatsForAll .silent .standard .precise
    none).2.2

/-- A second run calls the board complete, though no contacts lead from one pad to the other. -/
theorem addRatsForAll_complete_over_rat :
    linkedPads.board.content.store.Keyed ∧
      (linkedPads.addRatsForAll .silent .standard .precise none).2.1 = .complete ∧
      linkedPads.board.content.netlist.toList =
        [⟨"N", [⟨"A", "1", ∅⟩, ⟨"B", "1", ∅⟩], false, ∅⟩] ∧
      linkedPads.board.content.store.located [⟨"A", "1", ∅⟩, ⟨"B", "1", ∅⟩] = [0, 1] ∧
      ¬Contact linkedPads.board.content (Extraction.rules .standard) 0 1 := by
  refine ⟨by decide +kernel, by decide +kernel, by decide +kernel, by decide +kernel, fun h => ?_⟩
  have hc : Regular linkedPads.board.content (Extraction.rules .standard).withoutRats := by
    decide +kernel
  have hpad : (0 : ObjectId) ∈ linkedPads.board.content.store.located [⟨"A", "1", ∅⟩] := by
    decide +kernel
  exact absurd ((hc.contact_iff (hc.isNode_of_located hpad)).1 h) (by decide +kernel)

/-- A net of two touching pads. -/
def joinedPads : Session Float := padsOnNets [("A", "N", 0), ("B", "N", 4)]

/-- The net of two touching pads is finished. -/
theorem addRatsForAll_complete_joinedPads :
    joinedPads.board.content.store.Keyed ∧
      (joinedPads.addRatsForAll .silent .standard .precise none).2.1 = .complete ∧
      (joinedPads.addRatsForAll .silent .standard .precise none).2.2.board = joinedPads.board ∧
      joinedPads.board.content.Finished .standard
        ⟨"N", [⟨"A", "1", ∅⟩, ⟨"B", "1", ∅⟩], false, ∅⟩ := by
  have hk : joinedPads.board.content.store.Keyed := by decide +kernel
  have h : (joinedPads.addRatsForAll .silent .standard .precise none).2.1 = .complete := by
    decide +kernel
  obtain ⟨hboard, hfinished⟩ := addRatsForAll_complete hk h
  exact ⟨hk, h, hboard, hfinished _ (by decide +kernel)⟩

end Session

end Ratsnest
