import Ratsnest.Proofs.Short.Notices
import Ratsnest.Proofs.Synthesis.Idempotent

/-!
# Short circuits in a run

What a run tells the host of short circuits: the notices that the crawls of its nets find, each
crawl on the board that the nets before have left (`Session.told_addRatsForNet`,
`Session.told_addRatsForAll`).
-/

namespace Ratsnest

open HostCall

variable {α : Type} [AngularScalar α]

/-- Whether the crawl of a net finds what a notice says: an object that stands for a pin of
another net. -/
structure Content.Finds (settings : Settings α) (c : Content α) (m : Net) (n : ShortNotice) :
    Prop where
  net : n.net = m.name
  other : n.offenderNet ≠ m.name
  discovered : ∃ d ∈ (Extraction.ofTerminals settings c m.terminals).discoveries,
    d.object = n.offender ∧ d.arrivedFrom = n.arrivedFrom
  listed : ∃ p, c.store.terminalOf? n.offender = some p ∧
    (c.netlist.owners.get? p).map (·.2) = some n.offenderNet

/-- A watch on the crawl of a net gives the notices of what the crawl finds. -/
theorem Content.finds_iff {settings : Settings α} {c : Content α} {m : Net} {n : ShortNotice}
    {w : ShortWatch} (hnet : w.net = m.name) (howners : w.owners = c.netlist.owners) :
    (∃ d ∈ (Extraction.ofTerminals settings c m.terminals).discoveries,
      w.noticeOf? c.store d = some n) ↔ c.Finds settings m n := by
  have hnotice (d : Discovery) : w.noticeOf? c.store d = some n ↔
      ∃ p net, (c.store.terminalOf? d.object = some p ∧
        (∃ e, c.netlist.owners.get? p = some e ∧ e.2 = net) ∧ net ≠ m.name) ∧
        (⟨m.name, net, d.object, d.arrivedFrom⟩ : ShortNotice) = n := by
    simp only [ShortWatch.noticeOf?, ShortWatch.offense?, hnet, howners, Option.bind_eq_bind,
      Option.map_eq_some_iff, Option.bind_eq_some_iff, Option.ite_none_left_eq_some,
      Option.some.injEq, beq_iff_eq]
    constructor
    · rintro ⟨_, ⟨p, hp, e, he, hne, rfl⟩, rfl⟩
      exact ⟨p, e.2, ⟨hp, ⟨e, he, rfl⟩, hne⟩, rfl⟩
    · rintro ⟨p, _, ⟨hp, ⟨e, he, rfl⟩, hne⟩, rfl⟩
      exact ⟨(p, e.2), ⟨p, hp, e, he, hne, rfl⟩, rfl⟩
  simp only [hnotice]
  constructor
  · rintro ⟨d, hd, p, net, ⟨hp, ⟨e, he, rfl⟩, hne⟩, rfl⟩
    exact ⟨rfl, hne, ⟨d, hd, rfl, rfl⟩, p, hp, Option.map_eq_some_iff.2 ⟨e, he, rfl⟩⟩
  · rintro ⟨hn, hne, ⟨d, hd, hobject, hfrom⟩, p, hp, howner⟩
    rw [← hobject] at hp
    refine ⟨d, hd, p, n.offenderNet, ⟨hp, Option.map_eq_some_iff.1 howner, hne⟩, ?_⟩
    rw [← hn, hobject, hfrom]

namespace Session

variable [ShownScalar α]

/-! ## Calls that are no notices -/

theorem notices_drawRats (policy : Policy) (s : Session α) (ls : List (Link α)) :
    notices (s.drawRats policy ls).2.calls = notices s.calls := by
  induction ls generalizing s with
  | nil => rfl
  | cons l ls ih =>
    have hdraw : notices (s.drawRat policy l).2.calls = notices s.calls := by
      cases hinfo : policy.info <;> simp [drawRat, hinfo, message, call]
    exact (ih (s.drawRat policy l).2).trans hdraw

theorem notices_connect (settings : Settings α) (policy : Policy) (s : Session α)
    (subnets : List Subnet) :
    notices (s.connect settings policy subnets).2.calls = notices s.calls := by
  match subnets with
  | [] | [_] => rfl
  | a :: b :: rest =>
    rw [connect]
    · split
      · simp [message, call]
      · exact notices_drawRats policy (s.update (·.begin "Add rat lines")) _
    · simp

omit [AngularScalar α] [ShownScalar α] in
theorem notices_finishWatch (w : ShortWatch) (s : Session α) :
    notices (s.finishWatch w).calls = notices s.calls := by
  simp only [finishWatch, ShortWatch.finish]
  split <;> simp

/-! ## One net -/

variable (host : Host) (settings : Settings α) (policy : Policy) {before : List ShortNotice}
  {found : ShortNotice → Prop}

/-- The crawl of one net adds the notices of what it finds. -/
theorem told_addRatsFor {w : ShortWatch} {s : Session α} {m : Net} (hnet : w.net = m.name)
    (howners : w.owners = s.board.content.netlist.owners)
    (h : ShortWatch.Told before found w s.calls) :
    let run := s.addRatsFor host settings policy w m.terminals
    ShortWatch.Told before (fun n => found n ∨ s.board.content.Finds settings m n) run.2.1
        run.2.2.calls ∧
      run.2.1.owners = w.owners ∧ run.2.2.board.content.netlist = s.board.content.netlist := by
  obtain ⟨htold, howners'⟩ := h.checkAll host s.board.content.store
    (Extraction.ofTerminals settings s.board.content m.terminals).discoveries
  obtain ⟨-, -, -, -, -, hnetlist, -⟩ := s.addRatsFor_spec settings policy host w m.terminals
  refine ⟨?_, howners', hnetlist⟩
  exact (htold.congr fun n => or_congr_right (Content.finds_iff hnet howners)).of_notices
    (notices_connect ..)

/-- A run over one net tells the host of what its crawl finds. -/
theorem told_addRatsForNet (s : Session α) {name : String} {m : Net}
    (hm : s.board.content.net name = .ok m) :
    ∃ r t w, s.addRatsForNet host settings policy name = .ok (r, t) ∧
      ShortWatch.Told (notices s.calls) (s.board.content.Finds settings m) w t.calls := by
  have hstart := ShortWatch.told_start m.name s.board.content.netlist s.calls
  obtain ⟨htold, -⟩ := told_addRatsFor host settings policy rfl rfl hstart
  exact ⟨_, _, _, s.addRatsForNet_eq settings policy host hm,
    (htold.congr fun n => (false_or _).to_iff).of_notices (notices_finishWatch ..)⟩

/-! ## The nets in order -/

/-- The run over all nets as it stands after some of them. -/
def passOver (selection : Option (List Pin)) (s : Session α) (ms : List Net) :
    Totals × ShortWatch × Session α :=
  ms.foldl (addRatsForOne host settings policy selection)
    ({}, .start "" s.board.content.netlist, s)

/-- Whether, in the run over some nets, the crawl of one finds what a notice says. -/
def Finds (selection : Option (List Pin)) (s : Session α) (ms : List Net) (n : ShortNotice) :
    Prop :=
  ∃ pre m post, ms = pre ++ m :: post ∧ (m.inhibited = false ∧ inSelection selection m) ∧
    (s.passOver host settings policy selection pre).2.2.board.content.Finds settings m n

variable {selection : Option (List Pin)} {s : Session α} {ms : List Net} {m : Net}
  {n : ShortNotice}

variable {host settings policy} in
theorem passOver_concat : s.passOver host settings policy selection (ms ++ [m]) =
    addRatsForOne host settings policy selection
      (s.passOver host settings policy selection ms) m :=
  List.foldl_concat ..

variable {host settings policy} in
theorem finds_concat_iff : s.Finds host settings policy selection (ms ++ [m]) n ↔
    s.Finds host settings policy selection ms n ∨ (m.inhibited = false ∧ inSelection selection m) ∧
      (s.passOver host settings policy selection ms).2.2.board.content.Finds settings m n := by
  constructor
  · rintro ⟨pre, k, post, heq, hk⟩
    rcases List.eq_nil_or_concat post with rfl | ⟨post, l, rfl⟩
    · obtain ⟨rfl, hm⟩ := List.append_inj' heq rfl
      obtain rfl := List.singleton_inj.1 hm
      exact .inr hk
    · rw [List.concat_eq_append, ← List.cons_append, ← List.append_assoc] at heq
      exact .inl ⟨pre, k, post, List.append_inj_left' heq rfl, hk⟩
  · rintro (⟨pre, k, post, rfl, hk⟩ | hm)
    · exact ⟨pre, k, post ++ [m], by simp, hk⟩
    · exact ⟨ms, m, [], rfl, hm⟩

/-- One net adds what its crawl finds, unless it is inhibited or not selected. -/
theorem told_addRatsForOne (selection : Option (List Pin)) {run : Totals × ShortWatch × Session α}
    (howners : run.2.1.owners = run.2.2.board.content.netlist.owners)
    (h : ShortWatch.Told before found run.2.1 run.2.2.calls) (m : Net) :
    let next := addRatsForOne host settings policy selection run m
    ShortWatch.Told before (fun n => found n ∨ (m.inhibited = false ∧ inSelection selection m) ∧
        run.2.2.board.content.Finds settings m n) next.2.1 next.2.2.calls ∧
      next.2.1.owners = run.2.1.owners ∧
      next.2.2.board.content.netlist = run.2.2.board.content.netlist := by
  rw [addRatsForOne]
  by_cases hm : m.inhibited
  · rw [if_pos hm]
    exact ⟨h.congr fun n => by simp [hm], rfl, rfl⟩
  · rw [if_neg hm]
    by_cases hsel : inSelection selection m
    · rw [if_pos hsel]
      obtain ⟨htold, howners', hnetlist⟩ := told_addRatsFor host settings policy
        (w := run.2.1.setNet m.name) rfl howners (h.setNet m.name)
      exact ⟨htold.congr fun n => by simp [hm, hsel], howners', hnetlist⟩
    · rw [if_neg hsel]
      exact ⟨h.congr fun n => by simp [hsel], rfl, rfl⟩

/-- After any number of nets the host has been told of what their crawls found. -/
theorem told_passOver (selection : Option (List Pin)) (s : Session α) (ms : List Net) :
    let run := s.passOver host settings policy selection ms
    ShortWatch.Told (notices s.calls) (s.Finds host settings policy selection ms) run.2.1
        run.2.2.calls ∧
      run.2.1.owners = s.board.content.netlist.owners ∧
      run.2.2.board.content.netlist = s.board.content.netlist := by
  induction ms using List.reverseRecOn with
  | nil =>
    refine ⟨(ShortWatch.told_start "" s.board.content.netlist s.calls).congr fun n => ?_, rfl, rfl⟩
    simp [Finds]
  | append_singleton ms m ih =>
    obtain ⟨htold, howners, hnetlist⟩ := ih
    obtain ⟨htold', howners', hnetlist'⟩ := told_addRatsForOne host settings policy selection
      (howners.trans (congrArg NetList.owners hnetlist.symm)) htold m
    simp only [passOver_concat]
    refine ⟨htold'.congr fun n => ?_, howners'.trans howners, hnetlist'.trans hnetlist⟩
    exact finds_concat_iff.symm

/-- A run over all nets tells the host of what their crawls find. -/
theorem told_addRatsForAll (selection : Option (List Pin)) (s : Session α) :
    ∃ w, ShortWatch.Told (notices s.calls)
      (s.Finds host settings policy selection s.board.content.netlist.toList) w
      (s.addRatsForAll host settings policy selection).2.2.calls := by
  obtain ⟨htold, -⟩ := told_passOver host settings policy selection s
    s.board.content.netlist.toList
  refine ⟨_, htold.of_notices ?_⟩
  simp [addRatsForAll, message, call, notices_finishWatch, passOver]

end Session

end Ratsnest
