import Ratsnest.Proofs.WellFormed.Manual

/-!
# Manual connections, one effect after the other

`Session.connectByHand` yields a session only where it succeeds.  Here the same connection is made
on a session that is changed in place: every question to the host, every edit and every bracket of
the history takes effect when it is reached, and stays when the connection is refused later on.
Both do the same (`Effects.connectByHand_eq`), and so what is true of the one at every exit says
what a refused connection leaves behind.
-/

namespace Ratsnest

variable {α : Type} [AngularScalar α]

/-- A run that changes a session in place and may refuse at any point. -/
abbrev Effects (α : Type) : Type → Type := EStateM Error (Session α)

namespace Effects

/-- The object with a terminal under a point, which an end of a rat line is put on. -/
def terminalAt (ratEnd : RatEnd) (p : Point α) : Effects α ObjectId := do
  match (← get).board.content.terminalAt? p with
  | some id => return id
  | none => throw (.noTerminal ratEnd)

/-- The pin that the object under an id stands for. -/
def pinOf (id : ObjectId) : Effects α Pin := do
  match (← get).board.content.store.terminalOf? id with
  | some pin => return pin
  | none => throw (.noTerminal .first)

/-- The object under an id. -/
def object (id : ObjectId) : Effects α (BoardObject α) := do
  match (← get).board.content.object id with
  | .ok o => return o
  | .error e => throw e

/-- Asks the user for a net name. -/
def ask (host : Host) (suggested : String) : Effects α (Option String) := do
  let s ← get
  set (s.call (.askName suggested))
  return host.netName s.calls suggested

/-- The name for a new net.  The user has been asked even when the answer is not accepted. -/
def newNetName (host : Host) (settings : Settings α) (interactive : Bool) : Effects α String := do
  let suggested := (← get).board.content.netlist.unusedName settings.netPrefix
  if interactive then
    match ← ask host suggested with
    | some name =>
      let name := Text.trim name
      if name.isEmpty then throw .nameCancelled else return name
    | none => throw .nameCancelled
  else return suggested

/-- The net for two pins. -/
def netFor (host : Host) (settings : Settings α) (interactive : Bool) (pinA pinB : Pin) :
    Effects α String := do
  let nets := (← get).board.content.netlist
  match Session.chooseNet (nets.netOf? (.ofPin pinA)) (nets.netOf? (.ofPin pinB)) with
  | .ok (.existing net) => return net
  | .ok .fresh => newNetName host settings interactive
  | .error e => throw e

/-- Changes the board. -/
def update (f : Board α → Board α) : Effects α Unit := modify (·.update f)

/-- Lists a pin on a net and then tells the host.  Where the net lists it already, nothing is done
and no pin is returned. -/
def joinNet (net : String) (pin : Pin) : Effects α (List Pin) := do
  let s ← get
  if (s.board.content.netlist.get? net).any (·.contains (.ofPin pin)) then return []
  update (·.execute (.list net (.ofPin pin)))
  modify (·.call (.connected net pin))
  return [pin]

/-- Lists pins on a net, and returns those that it did not list before. -/
def joinNets (net : String) : List Pin → Effects α (List Pin)
  | [] => return []
  | pin :: pins => return (← joinNet net pin) ++ (← joinNets net pins)

/-- Places a rat line under a new id. -/
def addRat (l : RatLine α) : Effects α ObjectId := do
  let (id, board) := (← get).board.allocate
  update fun _ => board
  update (·.execute (.addObject { id, shape := .rat l }))
  return id

/-- What is to be done for a connection. -/
structure Plan (α : Type) where
  net : String
  pins : List Pin
  line : RatLine α

/-- Finds out what is to be done to join the terminals under two points. -/
def plan (host : Host) (settings : Settings α) (interactive : Bool) (a b : Point α) :
    Effects α (Plan α) := do
  let idA ← terminalAt .first a
  let idB ← terminalAt .second b
  let pinA ← pinOf idA
  let pinB ← pinOf idB
  if pinA = pinB then throw (.sameTerminal pinA)
  let net ← netFor host settings interactive pinA pinB
  return ⟨net, [pinA, pinB], Session.ratBetween a b idA idB (← object idA) (← object idB)⟩

/-- Makes a connection, as one step of the history. -/
def carryOut (p : Plan α) : Effects α ManualRat := do
  update (·.begin "Add rat line")
  let added ← joinNets p.net p.pins
  let rat ← addRat p.line
  update (·.commit)
  return ⟨p.net, rat, added⟩

/-- Joins the terminals under two points by a rat line. -/
def connectByHand (host : Host) (settings : Settings α) (interactive : Bool) (a b : Point α) :
    Effects α ManualRat := do
  carryOut (← plan host settings interactive a b)

/-! ## What comes of a run -/

/-- What comes of a run, without the session where it is refused. -/
def outcome {α β : Type} : EStateM.Result Error (Session α) β → Except Error (β × Session α)
  | .ok x s => .ok (x, s)
  | .error e _ => .error e

section Outcome

variable {β γ : Type} {s t : Session α} {host : Host} {settings : Settings α} {interactive : Bool}

omit [AngularScalar α] in
theorem outcome_bind (x : Effects α β) (f : β → Effects α γ) (s : Session α) :
    outcome ((x >>= f) s) = (outcome (x s)).bind fun y => outcome (f y.1 y.2) := by
  change outcome (EStateM.bind x f s) = _
  rw [EStateM.bind]
  cases x s <;> rfl

theorem outcome_terminalAt (ratEnd : RatEnd) (p : Point α) :
    outcome (terminalAt ratEnd p s) = match s.board.content.terminalAt? p with
      | some id => .ok (id, s)
      | none => .error (.noTerminal ratEnd) := by
  change outcome ((match s.board.content.terminalAt? p with
    | some id => pure id
    | none => throw (.noTerminal ratEnd) : Effects α ObjectId) s) = _
  cases s.board.content.terminalAt? p <;> rfl

omit [AngularScalar α] in
theorem outcome_pinOf (id : ObjectId) :
    outcome (pinOf id s) = match s.board.content.store.terminalOf? id with
      | some pin => .ok (pin, s)
      | none => .error (.noTerminal .first) := by
  change outcome ((match s.board.content.store.terminalOf? id with
    | some pin => pure pin
    | none => throw (.noTerminal .first) : Effects α Pin) s) = _
  cases s.board.content.store.terminalOf? id <;> rfl

omit [AngularScalar α] in
theorem outcome_object (id : ObjectId) :
    outcome (object id s) = (s.board.content.object id).map (·, s) := by
  change outcome ((match s.board.content.object id with
    | .ok o => pure o
    | .error e => throw e : Effects α (BoardObject α)) s) = _
  cases s.board.content.object id <;> rfl

omit [AngularScalar α] in
theorem outcome_newNetName :
    outcome (newNetName host settings interactive s) =
      s.newNetName host settings interactive := by
  cases interactive with
  | false => rfl
  | true =>
    rw [Session.newNetName, if_pos rfl]
    change outcome ((match host.netName s.calls _ with
      | some name =>
        if (Text.trim name).isEmpty then throw .nameCancelled else pure (Text.trim name)
      | none => throw .nameCancelled : Effects α String) _) = _
    cases host.netName s.calls (s.board.content.netlist.unusedName settings.netPrefix) with
    | none => rfl
    | some name =>
      dsimp only
      split <;> rfl

omit [AngularScalar α] in
theorem outcome_netFor (pinA pinB : Pin) :
    outcome (netFor host settings interactive pinA pinB s) =
      (Session.chooseNet (s.board.content.netlist.netOf? (.ofPin pinA))
        (s.board.content.netlist.netOf? (.ofPin pinB))).bind fun
        | .existing net => .ok (net, s)
        | .fresh => s.newNetName host settings interactive := by
  change outcome ((match Session.chooseNet (s.board.content.netlist.netOf? (.ofPin pinA))
        (s.board.content.netlist.netOf? (.ofPin pinB)) with
    | .ok (.existing net) => pure net
    | .ok .fresh => newNetName host settings interactive
    | .error e => throw e : Effects α String) s) = _
  rcases Session.chooseNet _ _ with e | net | _
  · rfl
  · rfl
  · exact outcome_newNetName

omit [AngularScalar α] in
theorem joinNet_of_listed {net : String} {pin : Pin}
    (h : (s.board.content.netlist.get? net).any (·.contains (.ofPin pin))) :
    joinNet net pin s = .ok [] s := by
  change (if (s.board.content.netlist.get? net).any (·.contains (.ofPin pin)) then pure [] else _ :
    Effects α (List Pin)) s = _
  rw [if_pos h]
  rfl

omit [AngularScalar α] in
theorem joinNet_of_unlisted {net : String} {pin : Pin}
    (h : ¬(s.board.content.netlist.get? net).any (·.contains (.ofPin pin))) :
    joinNet net pin s =
      .ok [pin] ((s.update (·.execute (.list net (.ofPin pin)))).call (.connected net pin)) := by
  change (if (s.board.content.netlist.get? net).any (·.contains (.ofPin pin)) then pure [] else _ :
    Effects α (List Pin)) s = _
  rw [if_neg h]
  rfl

omit [AngularScalar α] in
theorem joinNets_cons {net : String} {pin : Pin} {pins new added : List Pin} {s' : Session α}
    (hpin : joinNet net pin s = .ok new s') (hpins : joinNets net pins s' = .ok added t) :
    joinNets net (pin :: pins) s = .ok (new ++ added) t := by
  change EStateM.bind _ (fun new => EStateM.bind _ fun added => pure (new ++ added)) s = _
  rw [EStateM.bind, hpin]
  dsimp only
  rw [EStateM.bind, hpins]
  rfl

omit [AngularScalar α] in
/-- Listing pins is never refused, and does the same as a sweep over them. -/
theorem exists_joinNets (net : String) (pins : List Pin) (s : Session α) :
    ∃ added t, joinNets net pins s = .ok added t ∧
      ∀ before, pins.foldl (Session.joinNet net) (before, s) = (before ++ added, t) := by
  induction pins generalizing s with
  | nil => exact ⟨[], s, rfl, fun before => by rw [List.foldl_nil, List.append_nil]⟩
  | cons pin pins ih =>
    by_cases h : (s.board.content.netlist.get? net).any (·.contains (.ofPin pin))
    · obtain ⟨added, t, hrun, hfold⟩ := ih s
      refine ⟨added, t, joinNets_cons (joinNet_of_listed h) hrun, fun before => ?_⟩
      rw [List.foldl_cons, Session.joinNet, if_pos h, hfold]
    · obtain ⟨added, t, hrun, hfold⟩ :=
        ih ((s.update (·.execute (.list net (.ofPin pin)))).call (.connected net pin))
      refine ⟨pin :: added, t, joinNets_cons (joinNet_of_unlisted h) hrun, fun before => ?_⟩
      rw [List.foldl_cons, Session.joinNet, if_neg h, hfold, List.append_assoc,
        List.singleton_append]

omit [AngularScalar α] in
/-- Once the pins are listed, a plan is carried out without fail. -/
theorem carryOut_eq_ok {p : Plan α} {added : List Pin}
    (h : joinNets p.net p.pins (s.update (·.begin "Add rat line")) = .ok added t) :
    carryOut p s = .ok ⟨p.net, t.board.allocate.1, added⟩
      { t with board := (t.board.allocate.2.execute
          (.addObject { id := t.board.allocate.1, shape := .rat p.line })).commit } := by
  change EStateM.bind (joinNets p.net p.pins) _ (s.update (·.begin "Add rat line")) = _
  rw [EStateM.bind, h]
  rfl

/-- Once the net is known, the connection is made as a whole. -/
theorem outcome_carryOut (net : String) (pinA pinB : Pin) (idA idB : ObjectId) (a b : Point α) :
    (outcome ((do
      return ⟨net, [pinA, pinB],
        Session.ratBetween a b idA idB (← object idA) (← object idB)⟩ : Effects α (Plan α)) s)).bind
          (fun y => outcome (carryOut y.1 y.2)) = do
      let line := Session.ratBetween a b idA idB (← s.board.content.object idA)
        (← s.board.content.object idB)
      let (added, t) :=
        [pinA, pinB].foldl (Session.joinNet net) ([], s.update (·.begin "Add rat line"))
      let (id, board) := t.board.allocate
      let board := (board.execute (.addObject { id, shape := .rat line })).commit
      return (⟨net, id, added⟩, { t with board }) := by
  rw [outcome_bind, outcome_object]
  cases s.board.content.object idA with
  | error e => rfl
  | ok o =>
  dsimp only [Except.map, Except.bind]
  rw [outcome_bind, outcome_object]
  cases s.board.content.object idB with
  | error e => rfl
  | ok p =>
    obtain ⟨added, t, hadded, hfold⟩ :=
      exists_joinNets net [pinA, pinB] (s.update (·.begin "Add rat line"))
    refine (congrArg outcome (carryOut_eq_ok hadded)).trans ?_
    dsimp only [bind, Except.bind]
    rw [hfold []]
    rfl

/-- A connection made in place comes to the same as one made on a copy. -/
theorem outcome_connectByHand (host : Host) (settings : Settings α) (interactive : Bool)
    (a b : Point α) (s : Session α) :
    outcome (connectByHand host settings interactive a b s) =
      s.connectByHand host settings interactive a b := by
  rw [connectByHand, plan, Session.connectByHand, outcome_bind, outcome_bind, outcome_terminalAt]
  cases s.board.content.terminalAt? a with
  | none => rfl
  | some idA =>
  dsimp only [Except.bind]
  rw [outcome_bind, outcome_terminalAt]
  cases s.board.content.terminalAt? b with
  | none => rfl
  | some idB =>
  dsimp only [Except.bind]
  rw [outcome_bind, outcome_pinOf]
  cases s.board.content.store.terminalOf? idA with
  | none => rfl
  | some pinA =>
  dsimp only [Except.bind]
  rw [outcome_bind, outcome_pinOf]
  cases s.board.content.store.terminalOf? idB with
  | none => rfl
  | some pinB =>
  dsimp only [Except.bind]
  by_cases hpins : pinA = pinB
  · rw [if_pos hpins, if_pos hpins]
    rfl
  rw [if_neg hpins, if_neg hpins, outcome_bind, outcome_netFor]
  cases Session.chooseNet (s.board.content.netlist.netOf? (.ofPin pinA))
      (s.board.content.netlist.netOf? (.ofPin pinB)) with
  | error e => rfl
  | ok choice =>
  cases choice with
  | existing net => exact outcome_carryOut net pinA pinB idA idB a b
  | fresh =>
    dsimp only [Except.bind]
    cases hname : s.newNetName host settings interactive with
    | error e => rfl
    | ok named =>
      rw [← Session.board_newNetName hname]
      exact outcome_carryOut named.1 pinA pinB idA idB a b

end Outcome

end Effects

end Ratsnest
