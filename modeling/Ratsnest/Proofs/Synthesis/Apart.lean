import Ratsnest.Proofs.Short.Contact
import Ratsnest.Proofs.Synthesis.Territory

/-!
# Nets that are apart

When the crawls of different nets do not meet, a run over all nets draws for each of them what a
run over this net alone draws, and the runs over single nets may come in any order
(`Session.addRatsForAll_adds_up`).  Only the ids must not run out: a rat line under the id of
another net's pad takes the place of that pad (`Session.addRatsForAll_wraps`).
-/

namespace Ratsnest

variable {α : Type}

/-- Boards whose objects and nets are kept under their own ids and names, and whose rat lines end
on objects. -/
structure Content.Orderly (c : Content α) : Prop where
  keyed : c.store.Keyed
  names : ∀ e ∈ c.netlist.nets.entries, e.2.name = e.1
  anchored : ∀ o ∈ c.store.toList, ∀ e ∈ ConnectionIndex.anchorsOf o, c.store.contains e.1
  /-- The counter is beyond all ids. -/
  below : ∀ e ∈ c.store.objects.entries, e.1 < c.store.nextId

instance (c : Content α) : Decidable c.Orderly :=
  -- Only the anchors themselves are gone through, not all pairs of ids.
  have (o : BoardObject α) :
      Decidable (∀ e ∈ ConnectionIndex.anchorsOf o, c.store.contains e.1) :=
    List.decidableBAll (fun e : ObjectId × ObjectId => c.store.contains e.1) _
  decidable_of_iff
    (c.store.Keyed ∧ (∀ e ∈ c.netlist.nets.entries, e.2.name = e.1) ∧
      (∀ o ∈ c.store.toList, ∀ e ∈ ConnectionIndex.anchorsOf o, c.store.contains e.1) ∧
      ∀ e ∈ c.store.objects.entries, e.1 < c.store.nextId)
    ⟨fun ⟨keyed, names, anchored, below⟩ => ⟨keyed, names, anchored, below⟩,
      fun ⟨keyed, names, anchored, below⟩ => ⟨keyed, names, anchored, below⟩⟩

/-- The net under a name is found by this name. -/
theorem Content.Orderly.net_name {c : Content α} (hc : c.Orderly) {m : Net}
    (hm : m ∈ c.netlist.toList) : c.net m.name = .ok m := by
  obtain ⟨name, hget⟩ := SortedMap.mem_values_iff.1 hm
  have hname : m.name = name := hc.names (name, m) (SortedMap.mem_entries_iff.2 hget)
  subst hname
  have hfind : c.netlist.get? m.name = some m := hget
  rw [Content.net, NetList.find?, hfind]
  rfl

/-- Orderly boards are tidy. -/
theorem Content.Orderly.tidy {c : Content α} (hc : c.Orderly) : c.Tidy :=
  ⟨hc.keyed, hc.anchored, hc.below⟩

variable [AngularScalar α]

namespace Content

variable (settings : Settings α) (policy : Policy) (c : Content α)

/-- Whether the crawls of two nets do not meet. -/
def Apart (m n : Net) : Prop := ∀ x ∈ c.territory settings m, x ∉ c.territory settings n

instance (m n : Net) : Decidable (c.Apart settings m n) :=
  List.decidableBAll (fun x => x ∉ c.territory settings n) _

variable {settings policy c} {m n : Net}

theorem Apart.symm (h : c.Apart settings m n) : c.Apart settings n m :=
  fun x hn hm => h x hm hn

/-- So they end outside the territories of nets that are apart from it. -/
theorem Apart.ends_linksFor [OrderedScalar α] (hc : c.Orderly) (h : c.Apart settings m n) :
    ∀ l ∈ c.linksFor settings policy m,
      l.source ∉ c.territory settings n ∧ l.target ∉ c.territory settings n := fun l hl =>
  (hc.tidy.mem_territory_of_linksFor hl).imp (h l.source) (h l.target)

end Content

namespace Session

open Content

variable {settings : Settings α} {policy : Policy} {host : Host} {c d : Content α} {m : Net}
  {ls : List (Link α)}

variable (policy) in
/-- A net is in the same pieces, with the same links between them, after rat lines have been drawn
outside its territory. -/
theorem Drew.same_pieces (hc : c.Orderly) (h : Drew c ls d)
    (hroom : c.store.nextId.toNat + ls.length ≤ UInt64.size)
    (hends : ∀ l ∈ ls, l.source ∉ c.territory settings m ∧ l.target ∉ c.territory settings m) :
    Extraction.ofTerminals settings d m.terminals =
        Extraction.ofTerminals settings c m.terminals ∧
      d.linksFor settings policy m = c.linksFor settings policy m := by
  have haside := hc.tidy.aside hroom hends
  have hpieces : Extraction.ofTerminals settings d m.terminals =
      Extraction.ofTerminals settings c m.terminals :=
    (Extraction.ofTerminals_congr settings h.layers h.marks _).trans
      (haside.ofTerminals_withRats fun _ hx => hc.tidy.mem_territory_of_located hx)
  refine ⟨hpieces, ?_⟩
  rw [linksFor, linksFor, hpieces]
  refine Extraction.linksOf_congr fun n hn id hid => ?_
  have hcontains := haside.present id (hc.tidy.mem_territory_of_subnets hn hid)
  rw [Store.linkable_congr h.marks (h.selected id), Store.linkable, Store.linkable,
    haside.get?_withRats hcontains]

variable [ShownScalar α]

variable (settings policy host) in
/-- What is drawn for one net in a run. -/
theorem drew_addRatsFor (w : ShortWatch) (s : Session α) (m : Net) :
    let run := s.addRatsFor host settings policy w m.terminals
    Drew s.board.content (s.board.content.linksFor settings policy m) run.2.2.board.content ∧
      run.1.drawn = (s.board.content.linksFor settings policy m).length ∧
      run.1.missing = s.board.content.missingFor settings policy m := by
  obtain ⟨hdrawn, hmissing, -, -, hlayers, hnetlist, hstore⟩ :=
    s.addRatsFor_spec settings policy host w m.terminals
  exact ⟨⟨hlayers, hnetlist, congrArg Store.unmarked hstore, fun id => by rw [hstore]; rfl⟩,
    hdrawn, hmissing⟩

variable (policy host) in
/-- A run over one net draws its links, whatever has been drawn before outside its territory. -/
theorem drew_addRatsForNet (hc : c.Orderly) (hm : m ∈ c.netlist.toList) {s : Session α}
    (h : Drew c ls s.board.content)
    (hroom : c.store.nextId.toNat + ls.length ≤ UInt64.size)
    (hends : ∀ l ∈ ls, l.source ∉ c.territory settings m ∧ l.target ∉ c.territory settings m) :
    ∃ r t, s.addRatsForNet host settings policy m.name = .ok (r, t) ∧
      Drew c (ls ++ c.linksFor settings policy m) t.board.content ∧
      r.drawn = (c.linksFor settings policy m).length ∧
      r.missing = c.missingFor settings policy m := by
  have hnet : s.board.content.net m.name = .ok m := by
    rw [Content.net, h.netlist]
    exact hc.net_name hm
  obtain ⟨hpieces, hlinks⟩ := h.same_pieces policy hc hroom hends
  obtain ⟨r, t, hrun, hdone⟩ := s.addRatsForNet_spec settings policy host hnet
  have hdrew := hdone.drew
  have hdrawn := hdone.drawn
  have hmissing := hdone.missing
  rw [← linksFor, hlinks] at hdrew hdrawn
  rw [hdone.subnets, hdrawn, hpieces] at hmissing
  exact ⟨r, t, hrun, h.trans hdrew, hdrawn, hmissing⟩

/-! ## The nets in order -/

/-- The nets that rat lines are drawn for. -/
def enabled (ms : List Net) : List Net := ms.filter fun m => !m.inhibited

variable (settings policy host) in
/-- Coming to more nets takes no rat lines away. -/
theorem drawn_passOver_le (s : Session α) (pre post : List Net) :
    (s.passOver host settings policy none pre).1.drawn ≤
      (s.passOver host settings policy none (pre ++ post)).1.drawn := by
  induction post using List.reverseRecOn with
  | nil => rw [List.append_nil]
  | append_singleton post m ih =>
    rw [← List.append_assoc, passOver_concat, addRatsForOne]
    split
    · exact ih
    · split
      · exact Nat.le_add_right_of_le ih
      · exact ih

/-- The run over all nets has drawn the links of the nets it has come to. -/
theorem drew_passOver [OrderedScalar α] {s : Session α} (hc : s.board.content.Orderly)
    {ms : List Net} (hapart : ms.Pairwise (s.board.content.Apart settings))
    (hroom : s.board.content.store.nextId.toNat +
      (s.passOver host settings policy none ms).1.drawn ≤ UInt64.size) :
    Drew s.board.content ((enabled ms).flatMap (s.board.content.linksFor settings policy))
        (s.passOver host settings policy none ms).2.2.board.content ∧
      (s.passOver host settings policy none ms).1.drawn =
        ((enabled ms).flatMap (s.board.content.linksFor settings policy)).length ∧
      (s.passOver host settings policy none ms).1.missing =
        ((enabled ms).map (s.board.content.missingFor settings policy)).sum := by
  induction ms using List.reverseRecOn with
  | nil => exact ⟨.refl _, rfl, rfl⟩
  | append_singleton ms m ih =>
    obtain ⟨hms, -, hm⟩ := List.pairwise_append.1 hapart
    rw [passOver_concat] at hroom ⊢
    generalize s.passOver host settings policy none ms = run at ih hroom ⊢
    obtain ⟨totals, w, t⟩ := run
    rw [enabled, List.filter_append, ← enabled, addRatsForOne] at *
    by_cases hinhibited : m.inhibited
    · simp only [hinhibited, if_true, List.filter_cons, List.filter_nil, Bool.not_true,
        Bool.false_eq_true, if_false, List.append_nil] at hroom ⊢
      exact ih hms hroom
    · have hsel : inSelection none m := rfl
      simp only [hinhibited, hsel, if_true, List.filter_cons, List.filter_nil, Bool.not_false,
        Bool.false_eq_true, if_false, Totals.add, List.flatMap_append, List.flatMap_cons,
        List.flatMap_nil, List.append_nil, List.map_append, List.map_cons, List.map_nil,
        List.sum_append, List.sum_cons, List.sum_nil, List.length_append, Nat.add_zero]
        at hroom ⊢
      obtain ⟨hdrew, hdrawn, hmissing⟩ := ih hms (by dsimp only; omega)
      dsimp only at hdrew hdrawn hmissing
      -- The links drawn so far end in the territories of the nets before.
      obtain ⟨hpieces, hlinks⟩ := hdrew.same_pieces policy hc (by omega)
        fun l hl => by
          obtain ⟨n, hn, hl⟩ := List.mem_flatMap.1 hl
          exact (hm n (List.mem_of_mem_filter hn) m (by simp)).ends_linksFor hc l hl
      obtain ⟨hnext, hdrawn', hmissing'⟩ := drew_addRatsFor settings policy host
        (w.setNet m.name) t m
      rw [hlinks] at hnext hdrawn'
      rw [missingFor, hlinks, hpieces, ← missingFor] at hmissing'
      exact ⟨hdrew.trans hnext, by rw [hdrawn, hdrawn'], by rw [hmissing, hmissing']⟩

/-! ## Runs over single nets -/

/-- Draws the rat lines of some nets, one net after the other. -/
def addRatsInTurn (host : Host) (settings : Settings α) (policy : Policy) (s : Session α) :
    List String → Except Error (Session α)
  | [] => .ok s
  | name :: names => do
    let (_, s) ← s.addRatsForNet host settings policy name
    addRatsInTurn host settings policy s names

variable (policy host) in
/-- Runs over single nets draw the links of each. -/
theorem drew_addRatsInTurn [OrderedScalar α] (hc : c.Orderly) {ms : List Net}
    (hms : ∀ m ∈ ms, m ∈ c.netlist.toList) (hapart : ms.Pairwise (c.Apart settings))
    {s : Session α} (h : Drew c ls s.board.content)
    (hroom : c.store.nextId.toNat +
      (ls ++ ms.flatMap (c.linksFor settings policy)).length ≤ UInt64.size)
    (hends : ∀ l ∈ ls, ∀ m ∈ ms,
      l.source ∉ c.territory settings m ∧ l.target ∉ c.territory settings m) :
    ∃ t, s.addRatsInTurn host settings policy (ms.map (·.name)) = .ok t ∧
      Drew c (ls ++ ms.flatMap (c.linksFor settings policy)) t.board.content := by
  induction ms generalizing ls s with
  | nil => exact ⟨s, rfl, by simpa using h⟩
  | cons m ms ih =>
    obtain ⟨hm, hms⟩ := List.forall_mem_cons.1 hms
    obtain ⟨hfirst, hapart⟩ := List.pairwise_cons.1 hapart
    rw [List.flatMap_cons, ← List.append_assoc] at hroom ⊢
    obtain ⟨r, t, hrun, hdrew, -⟩ := drew_addRatsForNet policy host hc hm h
      (by simp only [List.length_append] at hroom; omega)
      fun l hl => hends l hl m List.mem_cons_self
    obtain ⟨u, hturn, hdone⟩ := ih hms hapart hdrew hroom fun l hl n hn => by
      rcases List.mem_append.1 hl with hl | hl
      · exact hends l hl n (List.mem_cons_of_mem m hn)
      · exact (hfirst n hn).ends_linksFor hc l hl
    refine ⟨u, ?_, hdone⟩
    rw [List.map_cons, addRatsInTurn, hrun]
    exact hturn

/-! ## Both give the same -/

omit [AngularScalar α] [ShownScalar α] in
/-- The rat lines of the board. -/
def ratLines (s : Session α) : List (RatLine α) := s.board.content.store.ratLines

/-- What a run over all nets has to do where each net gets the given rat lines, and misses as much
as given, when it is run alone. -/
structure AddsUp (host : Host) (settings : Settings α) (policy : Policy) (s : Session α)
    (lines : Net → List (RatLine α)) (missing : Net → ℕ) : Prop where
  /-- This is what each net gets alone. -/
  alone : ∀ m ∈ enabled s.board.content.netlist.toList, ∃ r t,
    s.addRatsForNet host settings policy m.name = .ok (r, t) ∧
      t.ratLines = s.ratLines ++ lines m ∧ r.drawn = (lines m).length ∧ r.missing = missing m
  /-- This is what each net gets in the run over all nets. -/
  each : ∀ pre m post, s.board.content.netlist.toList = pre ++ m :: post → m.inhibited = false →
    (s.passOver host settings policy none (pre ++ [m])).2.2.ratLines =
      (s.passOver host settings policy none pre).2.2.ratLines ++ lines m
  /-- And no other rat lines are drawn. -/
  all : (s.addRatsForAll host settings policy none).2.2.ratLines =
    s.ratLines ++ (enabled s.board.content.netlist.toList).flatMap lines
  drawn : (s.addRatsForAll host settings policy none).1.drawn =
    ((enabled s.board.content.netlist.toList).map fun m => (lines m).length).sum
  missing_eq : (s.addRatsForAll host settings policy none).1.missing =
    ((enabled s.board.content.netlist.toList).map missing).sum
  /-- Runs over the nets one after the other give the same rat lines in any order. -/
  inTurn : ∀ ms : List Net, ms.Perm (enabled s.board.content.netlist.toList) →
    ∃ t, s.addRatsInTurn host settings policy (ms.map (·.name)) = .ok t ∧
      t.ratLines = s.ratLines ++ ms.flatMap lines ∧
      t.ratLines.Perm (s.addRatsForAll host settings policy none).2.2.ratLines

section Total

variable [OrderedScalar α] {s : Session α} (hc : s.board.content.Orderly)
  (hapart : s.board.content.netlist.toList.Pairwise (s.board.content.Apart settings))
  (hroom : s.board.content.store.nextId.toNat +
    (s.addRatsForAll host settings policy none).1.drawn ≤ UInt64.size)
include hc hapart hroom

/-- What a run over all nets has drawn, by the nets. -/
theorem drew_addRatsForAll : Drew s.board.content
    ((enabled s.board.content.netlist.toList).flatMap
      (s.board.content.linksFor settings policy))
    (s.addRatsForAll host settings policy none).2.2.board.content := by
  exact (drew_passOver hc hapart hroom).1.finishWatch _

/-- The run draws as much as the nets need, so there is room for all of it. -/
theorem drawn_addRatsForAll : (s.addRatsForAll host settings policy none).1.drawn =
    ((enabled s.board.content.netlist.toList).flatMap
      (s.board.content.linksFor settings policy)).length := (drew_passOver hc hapart hroom).2.1

/-- The rat lines after some of the nets. -/
theorem ratLines_passOver {pre post : List Net}
    (heq : s.board.content.netlist.toList = pre ++ post) :
    (s.passOver host settings policy none pre).2.2.ratLines =
      s.ratLines ++ (enabled pre).flatMap (s.board.content.linesFor settings policy) := by
  have hle := drawn_passOver_le settings policy host s pre post
  rw [← heq] at hle
  rw [heq] at hapart
  have hroom' := Nat.le_trans (Nat.add_le_add_left hle _) hroom
  obtain ⟨hdrew, hdrawn, -⟩ := drew_passOver hc (List.pairwise_append.1 hapart).1 hroom'
  rw [hdrawn] at hroom'
  have hlines := hdrew.ratLines hc.below hroom'
  rwa [List.map_flatMap] at hlines

end Total

variable (settings policy host) in
/-- Where the crawls of different nets do not meet and ids do not run out, a run over all nets
draws for each what a run over this net alone draws. -/
theorem addRatsForAll_adds_up [OrderedScalar α] {s : Session α} (hc : s.board.content.Orderly)
    (hapart : s.board.content.netlist.toList.Pairwise (s.board.content.Apart settings))
    (hroom : s.board.content.store.nextId.toNat +
      (s.addRatsForAll host settings policy none).1.drawn ≤ UInt64.size) :
    ∃ lines missing, AddsUp host settings policy s lines missing := by
  have hdrawn := drawn_addRatsForAll hc hapart hroom
  have hroom' := hdrawn ▸ hroom
  have hall := (drew_addRatsForAll hc hapart hroom).ratLines hc.below hroom'
  rw [List.map_flatMap] at hall
  refine ⟨s.board.content.linesFor settings policy, s.board.content.missingFor settings policy,
    ?alone, ?each, hall, ?drawn, (drew_passOver hc hapart hroom).2.2, ?inTurn⟩
  case alone =>
    intro m hm
    have hle : (s.board.content.linksFor settings policy m).length ≤
        ((enabled s.board.content.netlist.toList).flatMap
          (s.board.content.linksFor settings policy)).length := by
      rw [List.length_flatMap]
      exact List.le_sum_of_mem (List.mem_map_of_mem hm)
    obtain ⟨r, t, hrun, hnet, hrdrawn, hrmissing⟩ := drew_addRatsForNet policy host hc
      (List.mem_of_mem_filter hm) (.refl _) (by simp only [List.length_nil]; omega) nofun
    refine ⟨r, t, hrun, ?_, by rw [hrdrawn, linesFor, List.length_map], hrmissing⟩
    exact hnet.ratLines hc.below (by rw [List.nil_append]; omega)
  case each =>
    intro pre m post heq hm
    have heq' : s.board.content.netlist.toList = (pre ++ [m]) ++ post := by simpa using heq
    rw [ratLines_passOver hc hapart hroom heq, ratLines_passOver hc hapart hroom heq']
    simp [enabled, hm]
  case drawn =>
    rw [hdrawn, List.length_flatMap]
    simp only [linesFor, List.length_map]
  case inTurn =>
    intro ms hperm
    have hlinks := hperm.flatMap_right (s.board.content.linksFor settings policy)
    have hsymm (m n : Net) (h : s.board.content.Apart settings m n) := h.symm
    have hroom'' : s.board.content.store.nextId.toNat +
        ([] ++ ms.flatMap (s.board.content.linksFor settings policy)).length ≤ UInt64.size := by
      rwa [List.nil_append, hlinks.length_eq]
    obtain ⟨t, hturn, hdone⟩ := drew_addRatsInTurn policy host hc
      (fun m hm => List.mem_of_mem_filter (hperm.subset hm))
      ((hperm.pairwise_iff @hsymm).2 (hapart.sublist List.filter_sublist)) (.refl _) hroom'' nofun
    have hlines := hdone.ratLines hc.below hroom''
    rw [List.nil_append, List.map_flatMap] at hlines
    refine ⟨t, hturn, hlines, ?_⟩
    rw [ratLines, ratLines, hlines, hall]
    exact (hperm.flatMap_right _).append_left _

/-- Two nets, each one with two pads far apart. -/
def twoNets : Session Float := padsOnNets [("A", "M", 0), ("B", "M", 100), ("C", "N", 200),
  ("D", "N", 300)]

/-- Each net gets its rat line, in a run over both as in a run over it alone. -/
theorem addRatsForAll_adds_up_twoNets :
    twoNets.board.content.Orderly ∧
      twoNets.board.content.netlist.toList.Pairwise (twoNets.board.content.Apart .standard) ∧
      (twoNets.addRatsForAll .silent .standard .precise none).1.drawn = 2 ∧
      twoNets.board.content.store.nextId.toNat +
        (twoNets.addRatsForAll .silent .standard .precise none).1.drawn ≤ UInt64.size ∧
      ∃ lines missing, AddsUp .silent .standard .precise twoNets lines missing := by
  have hc : twoNets.board.content.Orderly := by decide +kernel
  have hapart : twoNets.board.content.netlist.toList.Pairwise
      (twoNets.board.content.Apart .standard) := by decide +kernel
  have hdrawn : (twoNets.addRatsForAll .silent .standard .precise none).1.drawn = 2 := by
    decide +kernel
  have hnext : twoNets.board.content.store.nextId.toNat = 4 := by decide +kernel
  have hroom : twoNets.board.content.store.nextId.toNat +
      (twoNets.addRatsForAll .silent .standard .precise none).1.drawn ≤ UInt64.size := by
    rw [hdrawn, hnext]
    decide
  exact ⟨hc, hapart, hdrawn, hroom,
    addRatsForAll_adds_up .standard .precise .silent hc hapart hroom⟩

/-- Three nets, each one with two pads far apart, and one id left after theirs. -/
def lastPads : Session Float :=
  let c := (padsOnNets [("A", "N", 0), ("B", "N", 100), ("C", "L", 200), ("D", "L", 300),
    ("E", "M", 400)]).board.content
  ⟨.ofContent { c with
    store := (c.store.addPart ⟨(5 : Nat), "F"⟩).insert
      { roundPad 18446744073709551614 500 with part := some (5 : Nat), pin := some "1" }
    netlist := c.netlist.addTerminal "M" ⟨"F", "1", ∅⟩ }, []⟩

/-- The second rat line takes the id of a pad of the third net, which then gets none, though a run
over this net alone draws one. -/
theorem addRatsForAll_wraps :
    lastPads.board.content.Orderly ∧
      lastPads.board.content.netlist.toList.Pairwise (lastPads.board.content.Apart .standard) ∧
      (lastPads.addRatsForAll .silent .standard .precise none).1 =
        { drawn := 2, missing := 1, nets := 3 } ∧
      ∀ name ∈ ["L", "M", "N"],
        (lastPads.addRatsForNet .silent .standard .precise name).toOption.map (·.1) =
          some ⟨1, 0, 0, 2⟩ := by
  refine ⟨?_, ?_, ?_, ?_⟩ <;> decide +kernel

end Session

end Ratsnest
