import Ratsnest.Manual
import Ratsnest.Proofs.WellFormed.Drawing

/-!
# Connecting sound boards by hand

Whatever the user points at and answers, both terminals come to the only net that lists either of
them, and the rat line between them ends on copper.  So the board is sound after that
(`Board.Sound.connectByHand`).
-/

namespace Ratsnest

variable {α : Type} [AngularScalar α]

/-- What is found under a point is copper. -/
theorem Content.mem_copper_of_terminalAt? {c : Content α} {p : Point α} {id : ObjectId}
    (h : c.terminalAt? p = some id) : ∃ o ∈ c.copper, o.id = id := by
  have hmem := List.mem_of_find?_eq_some h
  obtain ⟨d, hd, -⟩ := SpatialIndex.mem_meeting_iff.1 hmem
  obtain ⟨o, ho, hid, -⟩ := mem_copperIndex_iff.1 hd
  exact ⟨o, ho, hid⟩

omit [AngularScalar α] in
/-- Copper is found under its id. -/
theorem Grounded.exists_object {c : Content α} (hc : Grounded c) {id : ObjectId}
    (hid : ∃ o ∈ c.copper, o.id = id) : ∃ o, c.object id = .ok o := by
  obtain ⟨o, ho, rfl⟩ := hid
  exact ⟨o, by rw [Content.object, hc.get?_of_copper ho]⟩

namespace Session

variable {host : Host} {settings : Settings α} {interactive : Bool} {s t : Session α} {net : String}

omit [AngularScalar α] in
/-- Asking for a net name does not change the board. -/
theorem board_newNetName (h : s.newNetName host settings interactive = .ok (net, t)) :
    t.board = s.board := by
  simp only [newNetName] at h
  split at h
  · split at h
    · split at h
      · cases h
      · cases h
        rfl
    · cases h
  · cases h
    rfl

/-- The net that is chosen is the one that lists either terminal, if any does. -/
theorem eq_of_chooseNet {netA netB : Option String} {choice : NetChoice}
    (h : chooseNet netA netB = .ok choice) (hnet : ∀ n, choice = .existing n → n = net) :
    (∀ n, netA = some n → n = net) ∧ ∀ n, netB = some n → n = net := by
  cases netA <;> cases netB <;> cases h
  · exact ⟨nofun, nofun⟩
  · exact ⟨nofun, fun n hn => Option.some.inj hn ▸ hnet _ rfl⟩
  · exact ⟨fun n hn => Option.some.inj hn ▸ hnet _ rfl, nofun⟩

/-- Then no other net lists them. -/
theorem eq_of_lists_of_chooseNet {l : NetList} (hl : l.Unshared) {pinA pinB : Pin}
    {choice : NetChoice}
    (h : chooseNet (l.netOf? (.ofPin pinA)) (l.netOf? (.ofPin pinB)) = .ok choice)
    (hnet : ∀ n, choice = .existing n → n = net) :
    ∀ p ∈ [pinA, pinB], ∀ other, l.Lists other p → other = net := by
  obtain ⟨hnetA, hnetB⟩ := eq_of_chooseNet h hnet
  intro p hp other hother
  rcases List.mem_pair.1 hp with rfl | rfl
  · exact hl.eq_of_netOf? hnetA hother
  · exact hl.eq_of_netOf? hnetB hother

/-- A step in which pins are listed on a net, as long as it is under way. -/
def joinNets (net : String) (pins : List Pin) (s : Session α) : Session α :=
  (pins.foldl (joinNet net) ([], s.update (·.begin "Add rat line"))).2

omit [AngularScalar α] in
/-- Pins that only the given net may list are listed on it. -/
theorem underway_joinNet (pins : List Pin) (run : List Pin × Session α)
    (h : run.2.board.Underway) (hwell : run.2.board.content.WellFormed)
    (hlists : ∀ p ∈ pins, ∀ other, run.2.board.content.netlist.Lists other p → other = net) :
    let b := (pins.foldl (joinNet net) run).2.board
    b.Underway ∧ b.content.WellFormed ∧ b.content.store = run.2.board.content.store ∧
      b.content.copper = run.2.board.content.copper := by
  induction pins generalizing run with
  | nil => exact ⟨h, hwell, rfl, rfl⟩
  | cons pin pins ih =>
    obtain ⟨added, s⟩ := run
    rw [List.foldl_cons, joinNet]
    dsimp only at h hwell hlists ⊢
    have hrest : ∀ p ∈ pins, ∀ other, s.board.content.netlist.Lists other p → other = net :=
      fun p hp => hlists p (List.mem_cons_of_mem pin hp)
    split
    · exact ih _ h hwell hrest
    · refine ih _ (h.execute (e := .list net (.ofPin pin)) trivial)
        (hwell.addTerminal (hlists pin List.mem_cons_self)) fun p hp other hother => ?_
      rcases hwell.named.lists_of_addTerminal hother with hother | ⟨hother, -⟩
      · exact hrest p hp other hother
      · exact hother

/-- A connection is made only where there is a terminal under both points. -/
theorem exists_terminals {a b : Point α} {r : ManualRat}
    (hrun : s.connectByHand host settings interactive a b = .ok (r, t)) :
    ∃ idA idB pinA pinB, s.board.content.terminalAt? a = some idA ∧
      s.board.content.terminalAt? b = some idB ∧
      s.board.content.store.terminalOf? idA = some pinA ∧
      s.board.content.store.terminalOf? idB = some pinB := by
  rw [connectByHand] at hrun
  cases hA : s.board.content.terminalAt? a with
  | none => rw [hA] at hrun; cases hrun
  | some idA =>
  cases hB : s.board.content.terminalAt? b with
  | none => rw [hA, hB] at hrun; cases hrun
  | some idB =>
  cases hpinA : s.board.content.store.terminalOf? idA with
  | none => simp only [hA, hB, hpinA] at hrun; cases hrun
  | some pinA =>
  cases hpinB : s.board.content.store.terminalOf? idB with
  | none => simp only [hA, hB, hpinA, hpinB] at hrun; cases hrun
  | some pinB => exact ⟨idA, idB, pinA, pinB, rfl, rfl, hpinA, hpinB⟩

/-- What a connection made by hand is made of: the pins of copper under both points, listed on the
only net that may list them, and a rat line between these objects. -/
theorem exists_joinNets {a b : Point α} {r : ManualRat} (hs : s.board.content.WellFormed)
    (hrun : s.connectByHand host settings interactive a b = .ok (r, t)) :
    ∃ (s' : Session α) (net : String) (pinA pinB : Pin) (l : RatLine α), s'.board = s.board ∧
      t.board = ((s'.joinNets net [pinA, pinB]).board.addRat l).commit ∧
      (∀ p ∈ [pinA, pinB], ∀ other, s.board.content.netlist.Lists other p → other = net) ∧
      (∃ o ∈ s.board.content.copper, o.id = l.anchor1) ∧
      ∃ o ∈ s.board.content.copper, o.id = l.anchor2 := by
  obtain ⟨idA, idB, pinA, pinB, hA, hB, hpinA, hpinB⟩ := exists_terminals hrun
  have hcopperA := Content.mem_copper_of_terminalAt? hA
  have hcopperB := Content.mem_copper_of_terminalAt? hB
  obtain ⟨o, ho⟩ := hs.grounded.exists_object hcopperA
  obtain ⟨p, hp⟩ := hs.grounded.exists_object hcopperB
  simp only [connectByHand, hA, hB, hpinA, hpinB, ho, hp] at hrun
  split at hrun
  · cases hrun
  cases hchoice : chooseNet (s.board.content.netlist.netOf? (.ofPin pinA))
      (s.board.content.netlist.netOf? (.ofPin pinB)) with
  | error e => rw [hchoice] at hrun; cases hrun
  | ok choice =>
  have hlists {net : String} (hnet : ∀ n, choice = .existing n → n = net) :=
    eq_of_lists_of_chooseNet hs.unshared hchoice hnet
  rw [hchoice] at hrun
  cases choice with
  | existing net =>
    cases hrun
    exact ⟨s, net, pinA, pinB, _, rfl, rfl, hlists fun n hn => by cases hn; rfl, hcopperA, hcopperB⟩
  | fresh =>
    cases hname : s.newNetName host settings interactive with
    | error e =>
      simp only [hname, bind, Except.bind] at hrun
      cases hrun
    | ok named =>
      simp only [hname, bind, Except.bind] at hrun
      cases hrun
      exact ⟨named.2, named.1, pinA, pinB, _, board_newNetName hname, rfl, hlists nofun, hcopperA,
        hcopperB⟩

end Session

/-- A connection made by hand leaves a sound board. -/
theorem Board.Sound.connectByHand {host : Host} {settings : Settings α} {interactive : Bool}
    {s t : Session α} {a b : Point α} {r : ManualRat} (h : s.board.Sound)
    (hrun : s.connectByHand host settings interactive a b = .ok (r, t))
    (hroom : s.board.content.store.nextId.toNat + 1 < UInt64.size) : t.board.Sound := by
  obtain ⟨s', net, pinA, pinB, l, hs', hboard, hlists, hsource, htarget⟩ :=
    Session.exists_joinNets h.wellFormed hrun
  rw [← hs'] at h hlists hroom hsource htarget
  obtain ⟨hunderway, hwell, hstore, hcopper⟩ := Session.underway_joinNet [pinA, pinB]
    ([], s'.update (·.begin "Add rat line")) (h.begin "Add rat line") h.wellFormed hlists
  have hcounter : (s'.joinNets net [pinA, pinB]).board.content.store.nextId =
      s'.board.content.store.nextId := congrArg Store.nextId hstore
  obtain ⟨hdrawn, hdone, -⟩ := hunderway.addRat hwell (hcounter ▸ hroom) (hcopper ▸ hsource)
    (hcopper ▸ htarget)
  rw [hboard]
  exact hdrawn.commit hdone

end Ratsnest
