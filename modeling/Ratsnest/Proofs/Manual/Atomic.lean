import Ratsnest.Proofs.Journal.Timeline
import Ratsnest.Proofs.Manual.Stepwise
import Ratsnest.Proofs.Short.Once

/-!
# Manual connections are made as a whole

A refused connection leaves the board and what the schematic has been told alone, whatever was
asked before.  A connection that is made adds one rat line and lists the pins that the net is
short of, all in one step of the history (`Session.connectByHand_atomic`).
-/

namespace Ratsnest

variable {α : Type}

/-! ## Steps of the history -/

namespace Board

/-- Whether edits have turned one board into another, in a step that has been opened between
them. -/
structure StepFrom (b₀ : Board α) (description : String) (es : List (Edit α)) (b : Board α) :
    Prop where
  done : b.journal.done = b₀.journal.done
  current : b.journal.current = some (⟨description, es⟩, 0)
  took : Edit.Took es b₀.content b.content

namespace StepFrom

variable {b₀ b : Board α} {description : String} {es : List (Edit α)}

theorem begin (h : b.journal.current = none) (description : String) :
    StepFrom b description [] (b.begin description) where
  done := rfl
  current := by
    rw [Board.begin, Journal.begin, h]
  took := .nil rfl

theorem execute (h : StepFrom b₀ description es b) {e : Edit α} (he : e.Fits b.content) :
    StepFrom b₀ description (es ++ [(e.apply b.content).1]) (b.execute e) := by
  obtain ⟨content, done, undone, current⟩ := b
  obtain ⟨hdone, hcurrent, htook⟩ := h
  obtain rfl := hcurrent
  exact ⟨hdone, rfl, htook.concat he⟩

theorem allocate (h : StepFrom b₀ description es b) :
    StepFrom b₀ description es b.allocate.2 :=
  ⟨h.done, h.current, h.took.congr rfl⟩

/-- Once the step is closed, undoing takes all of it back and nothing else. -/
theorem undo (h : StepFrom b₀ description es b) (hc : b₀.content.store.Keyed) (hes : es ≠ []) :
    ∃ u, b.commit.undo? = some u ∧ u.content.layout = b₀.content.layout ∧
      u.journal.done = b₀.journal.done := by
  obtain ⟨content, done, undone, current⟩ := b
  obtain ⟨hdone, hcurrent, htook⟩ := h
  obtain rfl := hcurrent
  have hcommit : (Board.commit ⟨content, done, undone, some (⟨description, es⟩, 0)⟩) =
      ⟨content, ⟨description, es⟩ :: done, undone, none⟩ := by
    rw [Board.commit, Journal.commit]
    dsimp only
    rw [List.isEmpty_eq_false_iff.2 hes, if_neg Bool.false_ne_true]
  rw [hcommit]
  exact ⟨_, rfl, (htook.revert hc).1, hdone⟩

end StepFrom

end Board

/-- A shape placed under a new id. -/
theorem Store.insert_allocate (s : Store α) (shape : Shape α) :
    s.allocate.2.insert { id := s.allocate.1, shape } =
      { s with objects := s.objects.insert s.nextId { id := s.nextId, shape }
               nextId := s.nextId + 1 } := by
  rw [insert, allocate, if_neg (UInt64.lt_irrefl _)]

/-! ## Pins listed on a net -/

theorem Terminal.same_ofPin {p q : Pin} : (Terminal.ofPin p).same (.ofPin q) = true ↔ p = q :=
  beq_iff_eq

namespace Net

theorem contains_add {n : Net} {t u : Terminal} :
    (n.add t).contains u = true ↔ n.contains u = true ∨ u.same t = true := by
  rw [add]
  split
  · rename_i h
    refine ⟨.inl, fun hu => hu.elim id fun hsame => ?_⟩
    rw [contains, List.any_eq_true] at h ⊢
    obtain ⟨v, hv, htv⟩ := h
    exact ⟨v, hv, beq_iff_eq.2 ((eq_of_beq hsame).trans (eq_of_beq htv))⟩
  · rw [contains, List.any_append, Bool.or_eq_true, List.any_cons, List.any_nil, Bool.or_false]
    rfl

/-- The pins of a list that a net is short of. -/
def lacking (n : Net) (pins : List Pin) : List Pin := pins.filter fun p => !n.contains (.ofPin p)

theorem lacking_cons (n : Net) (p : Pin) (pins : List Pin) :
    n.lacking (p :: pins) = n.lacking [p] ++ n.lacking pins :=
  List.filter_append [p] pins

theorem lacking_of_contains {n : Net} {p : Pin} (h : n.contains (.ofPin p) = true) :
    n.lacking [p] = [] := by
  rw [lacking, List.filter_cons, h]
  rfl

theorem lacking_of_not_contains {n : Net} {p : Pin} (h : ¬n.contains (.ofPin p) = true) :
    n.lacking [p] = [p] := by
  rw [lacking, List.filter_cons, Bool.eq_false_iff.2 h]
  rfl

/-- Listing a pin does not change which others are lacking. -/
theorem lacking_add {n : Net} {p : Pin} {pins : List Pin} (h : p ∉ pins) :
    (n.add (.ofPin p)).lacking pins = n.lacking pins := by
  refine List.filter_congr fun q hq => congrArg not (Bool.eq_iff_iff.2 ?_)
  rw [contains_add, Terminal.same_ofPin]
  exact or_iff_left fun hqp => h (hqp ▸ hq)

/-- A net with more pins at the end of its list. -/
def append (n : Net) (pins : List Pin) : Net :=
  { n with terminals := n.terminals ++ pins.map .ofPin }

/-- With the pins that are lacking at its end, a net lists all of them. -/
theorem contains_append_lacking {n : Net} {p : Pin} {pins : List Pin} (h : p ∈ pins) :
    (n.append (n.lacking pins)).contains (.ofPin p) = true := by
  rw [contains, append, List.any_append, Bool.or_eq_true]
  by_cases hcontains : n.contains (.ofPin p) = true
  · exact .inl hcontains
  · refine .inr (List.any_eq_true.2 ⟨.ofPin p, List.mem_map.2 ⟨p, ?_, rfl⟩, ?_⟩)
    · exact List.mem_filter.2 ⟨h, by rw [Bool.eq_false_iff.2 hcontains, Bool.not_false]⟩
    · exact Terminal.same_ofPin.2 rfl

/-- Listing pins appends those that are lacking. -/
theorem foldl_add {pins : List Pin} (h : pins.Nodup) (n : Net) :
    pins.foldl (fun n p => n.add (.ofPin p)) n = n.append (n.lacking pins) := by
  induction pins generalizing n with
  | nil => rw [List.foldl_nil, append, lacking, List.filter_nil, List.map_nil, List.append_nil]
  | cons p pins ih =>
    obtain ⟨hp, hpins⟩ := List.nodup_cons.1 h
    rw [List.foldl_cons, ih hpins, lacking_add hp, lacking_cons]
    by_cases hcontains : n.contains (.ofPin p) = true
    · rw [add, if_pos hcontains, lacking_of_contains hcontains, List.nil_append]
    · rw [add, if_neg hcontains, lacking_of_not_contains hcontains, append, append,
        List.map_append, List.append_assoc, List.map_singleton]

end Net

namespace NetList

theorem update_update (l : NetList) (name : String) (f g : Net → Net) :
    (l.update name f).update name g = l.update name fun n => g (f n) := by
  refine ext_get? fun other => ?_
  have hnew : (l.update name f).getOrNew name = f (l.getOrNew name) := by
    rw [getOrNew, get?_update, if_pos rfl, Option.getD_some]
  simp only [get?_update, hnew]
  split <;> rfl

theorem update_congr {l : NetList} {name : String} {f g : Net → Net}
    (h : f (l.getOrNew name) = g (l.getOrNew name)) : l.update name f = l.update name g := by
  rw [update, update, h]

/-- Listing pins one after the other changes one net alone. -/
theorem foldl_addTerminal (l : NetList) (name : String) (p : Pin) (pins : List Pin) :
    (p :: pins).foldl (fun l p => l.addTerminal name (.ofPin p)) l =
      l.update name fun n => (p :: pins).foldl (fun n p => n.add (.ofPin p)) n := by
  induction pins generalizing l p with
  | nil => rfl
  | cons q pins ih =>
    rw [List.foldl_cons, ih, addTerminal, update_update]
    rfl

theorem any_contains_get? {l : NetList} {name : String} {t : Terminal} :
    (l.get? name).any (·.contains t) = (l.getOrNew name).contains t := by
  rw [getOrNew]
  cases l.get? name <;> rfl

theorem getOrNew_addTerminal (l : NetList) (name : String) (t : Terminal) :
    (l.addTerminal name t).getOrNew name = (l.getOrNew name).add t := by
  rw [getOrNew, addTerminal, get?_update, if_pos rfl, Option.getD_some]

end NetList

/-! ## Runs that leave the board alone -/

namespace Session

/-- The connections that the schematic has been told of, in order. -/
def annotations (s : Session α) : List (String × Pin) :=
  s.calls.filterMap fun
    | .connected net pin => some (net, pin)
    | _ => none

/-- Whether one session has the board and the annotations of another. -/
structure Untouched (s t : Session α) : Prop where
  board : t.board = s.board
  annotations : t.annotations = s.annotations

theorem Untouched.refl (s : Session α) : s.Untouched s := ⟨rfl, rfl⟩

theorem Untouched.trans {s t u : Session α} (h : s.Untouched t) (h' : t.Untouched u) :
    s.Untouched u :=
  ⟨h'.board.trans h.board, h'.annotations.trans h.annotations⟩

end Session

namespace Effects

open Session

variable {β γ : Type} {s t : Session α}

/-- The session that a run leaves, whether or not it is refused. -/
def left : EStateM.Result Error (Session α) β → Session α
  | .ok _ t | .error _ t => t

/-- Whether a run leaves the board and the annotations alone, also when it is refused. -/
def Aside (x : Effects α β) : Prop := ∀ s : Session α, s.Untouched (left (x s))

theorem bind_eq (x : Effects α β) (f : β → Effects α γ) (s : Session α) :
    (x >>= f) s = match x s with
      | .ok y t => f y t
      | .error e t => .error e t := by
  change EStateM.bind x f s = _
  rw [EStateM.bind]
  cases x s <;> rfl

/-- A run that succeeds has done so bind by bind. -/
theorem exists_of_bind_eq_ok {x : Effects α β} {f : β → Effects α γ} {z : γ}
    (h : (x >>= f) s = .ok z t) : ∃ y s', x s = .ok y s' ∧ f y s' = .ok z t := by
  rw [bind_eq] at h
  split at h
  · rename_i y s' hx
    exact ⟨y, s', hx, h⟩
  · cases h

theorem Aside.pure (y : β) : Aside (pure y : Effects α β) := fun s => .refl s

theorem Aside.throw (e : Error) : Aside (throw e : Effects α β) := fun s => .refl s

theorem Aside.bind {x : Effects α β} {f : β → Effects α γ} (hx : Aside x) (hf : ∀ y, Aside (f y)) :
    Aside (x >>= f) := by
  intro s
  have hs := hx s
  rw [bind_eq]
  cases h : x s with
  | ok y t =>
    rw [h] at hs
    exact hs.trans (hf y t)
  | error e t =>
    rw [h] at hs
    exact hs

theorem Aside.get : Aside (get : Effects α (Session α)) := fun s => .refl s

section Plan

variable [AngularScalar α] {host : Host} {settings : Settings α} {interactive : Bool}

theorem aside_terminalAt (ratEnd : RatEnd) (p : Point α) : Aside (terminalAt ratEnd p) := by
  refine Aside.get.bind fun s => ?_
  cases s.board.content.terminalAt? p with
  | none => exact .throw _
  | some id => exact .pure id

omit [AngularScalar α] in
theorem aside_pinOf (id : ObjectId) : Aside (pinOf (α := α) id) := by
  refine Aside.get.bind fun s => ?_
  cases s.board.content.store.terminalOf? id with
  | none => exact .throw _
  | some pin => exact .pure pin

omit [AngularScalar α] in
theorem aside_object (id : ObjectId) : Aside (object (α := α) id) := by
  refine Aside.get.bind fun s => ?_
  cases s.board.content.object id with
  | error e => exact .throw e
  | ok o => exact .pure o

omit [AngularScalar α] in
/-- A question is no annotation. -/
theorem aside_ask (suggested : String) : Aside (ask (α := α) host suggested) := by
  refine fun s => ⟨rfl, ?_⟩
  change (s.call (.askName suggested)).annotations = s.annotations
  rw [annotations, annotations, call, List.filterMap_append]
  exact List.append_nil _

omit [AngularScalar α] in
theorem aside_newNetName : Aside (newNetName host settings interactive) := by
  refine Aside.get.bind fun s => ?_
  dsimp only
  split
  · refine (aside_ask _).bind fun answer => ?_
    split
    · split
      · exact .throw _
      · exact .pure _
    · exact .throw _
  · exact .pure _

omit [AngularScalar α] in
theorem aside_netFor (pinA pinB : Pin) : Aside (netFor host settings interactive pinA pinB) := by
  refine Aside.get.bind fun s => ?_
  dsimp only
  rcases Session.chooseNet _ _ with e | net | _
  · exact .throw e
  · exact .pure net
  · exact aside_newNetName

/-- Finding out what is to be done leaves the board and the annotations alone. -/
theorem aside_plan (a b : Point α) : Aside (plan host settings interactive a b) := by
  refine (aside_terminalAt _ a).bind fun idA => (aside_terminalAt _ b).bind fun idB =>
    (aside_pinOf idA).bind fun pinA => (aside_pinOf idB).bind fun pinB => ?_
  split
  · exact fun s => .refl s
  · exact (aside_netFor pinA pinB).bind fun net => (aside_object idA).bind fun o =>
      (aside_object idB).bind fun p => .pure _

/-- Whether a plan joins the terminals under two points of a board. -/
structure Planned (c : Content α) (a b : Point α) (p : Plan α) (pinA pinB : Pin) : Prop where
  start : p.line.p1 = a
  target : p.line.p2 = b
  anchor1 : c.terminalAt? a = some p.line.anchor1
  anchor2 : c.terminalAt? b = some p.line.anchor2
  pin1 : c.store.terminalOf? p.line.anchor1 = some pinA
  pin2 : c.store.terminalOf? p.line.anchor2 = some pinB
  pins : p.pins = [pinA, pinB]
  distinct : pinA ≠ pinB

theorem terminalAt_eq_ok {ratEnd : RatEnd} {p : Point α} {id : ObjectId}
    (h : terminalAt ratEnd p s = .ok id t) :
    s = t ∧ s.board.content.terminalAt? p = some id := by
  have houtcome := congrArg outcome h
  rw [outcome_terminalAt] at houtcome
  cases hp : s.board.content.terminalAt? p with
  | none => rw [hp] at houtcome; cases houtcome
  | some id => rw [hp] at houtcome; cases houtcome; exact ⟨rfl, rfl⟩

omit [AngularScalar α] in
theorem pinOf_eq_ok {id : ObjectId} {pin : Pin} (h : pinOf id s = .ok pin t) :
    s = t ∧ s.board.content.store.terminalOf? id = some pin := by
  have houtcome := congrArg outcome h
  rw [outcome_pinOf] at houtcome
  cases hid : s.board.content.store.terminalOf? id with
  | none => rw [hid] at houtcome; cases houtcome
  | some pin => rw [hid] at houtcome; cases houtcome; exact ⟨rfl, rfl⟩

/-- A plan that is made joins the terminals under both points. -/
theorem exists_planned {a b : Point α} {p : Plan α}
    (h : plan host settings interactive a b s = .ok p t) :
    ∃ pinA pinB, Planned s.board.content a b p pinA pinB := by
  obtain ⟨idA, _, hA, h⟩ := exists_of_bind_eq_ok h
  obtain ⟨rfl, hidA⟩ := terminalAt_eq_ok hA
  obtain ⟨idB, _, hB, h⟩ := exists_of_bind_eq_ok h
  obtain ⟨rfl, hidB⟩ := terminalAt_eq_ok hB
  obtain ⟨pinA, _, hA, h⟩ := exists_of_bind_eq_ok h
  obtain ⟨rfl, hpinA⟩ := pinOf_eq_ok hA
  obtain ⟨pinB, _, hB, h⟩ := exists_of_bind_eq_ok h
  obtain ⟨rfl, hpinB⟩ := pinOf_eq_ok hB
  refine ⟨pinA, pinB, ?_⟩
  dsimp only at h
  split at h
  · cases h
  · rename_i hne
    obtain ⟨net, _, -, h⟩ := exists_of_bind_eq_ok h
    obtain ⟨o, _, -, h⟩ := exists_of_bind_eq_ok h
    obtain ⟨o', _, -, h⟩ := exists_of_bind_eq_ok h
    cases h
    exact ⟨rfl, rfl, hidA, hidB, hpinA, hpinB, rfl, hne⟩

end Plan

/-! ## Carrying out a plan -/

/-- What listing pins on a net does to a session. -/
structure Listing (net : String) (s : Session α) (pins added : List Pin) (t : Session α) :
    Prop where
  netlist : t.board.content.netlist =
    pins.foldl (fun l p => l.addTerminal net (.ofPin p)) s.board.content.netlist
  content : t.board.content = { s.board.content with
    netlist := t.board.content.netlist, changed := t.board.content.changed }
  lacking : added = (s.board.content.netlist.getOrNew net).lacking pins
  annotations : t.annotations = s.annotations ++ added.map (net, ·)
  step : ∀ (b₀ : Board α) description es, b₀.StepFrom description es s.board →
    ∃ es', b₀.StepFrom description es' t.board

variable {net : String} {pin : Pin} {pins new added : List Pin} {u : Session α}

theorem Listing.nil (net : String) (s : Session α) : Listing net s [] [] s :=
  ⟨rfl, rfl, rfl, (List.append_nil _).symm, fun _ _ es h => ⟨es, h⟩⟩

theorem Listing.cons (h : Listing net s [pin] new t) (h' : Listing net t pins added u)
    (hpin : pin ∉ pins) : Listing net s (pin :: pins) (new ++ added) u where
  netlist := by rw [h'.netlist, h.netlist]; rfl
  content := by rw [h'.content, h.content]
  lacking := by
    rw [Net.lacking_cons, h.lacking, h'.lacking, h.netlist, List.foldl_cons, List.foldl_nil,
      NetList.getOrNew_addTerminal, Net.lacking_add hpin]
  annotations := by
    rw [h'.annotations, h.annotations, List.map_append, List.append_assoc]
  step := fun b₀ description es hes => by
    obtain ⟨es', hes'⟩ := h.step b₀ description es hes
    exact h'.step b₀ description es' hes'

theorem exists_listing_singleton (net : String) (pin : Pin) (s : Session α) :
    ∃ new t, joinNet net pin s = .ok new t ∧ Listing net s [pin] new t := by
  by_cases h : (s.board.content.netlist.get? net).any (·.contains (.ofPin pin))
  · refine ⟨[], s, joinNet_of_listed h, ?_, rfl, ?_, (List.append_nil _).symm,
      fun _ _ es h => ⟨es, h⟩⟩
    · obtain ⟨n, hn, hcontains⟩ := (Option.any_eq_true _ _).1 h
      exact (NetList.addTerminal_of_contains hn hcontains).symm
    · rw [NetList.any_contains_get?] at h
      exact (Net.lacking_of_contains h).symm
  · refine ⟨[pin], _, joinNet_of_unlisted h, rfl, rfl, ?_, ?_, fun b₀ description es hes => ?_⟩
    · rw [NetList.any_contains_get?] at h
      exact (Net.lacking_of_not_contains h).symm
    · exact List.filterMap_append
    · exact ⟨_, hes.execute (e := .list net (.ofPin pin)) trivial⟩

/-- Listing pins is never refused. -/
theorem exists_listing (net : String) (hpins : pins.Nodup) (s : Session α) :
    ∃ added t, joinNets net pins s = .ok added t ∧ Listing net s pins added t := by
  induction pins generalizing s with
  | nil => exact ⟨[], s, rfl, .nil net s⟩
  | cons pin pins ih =>
    obtain ⟨hpin, hpins⟩ := List.nodup_cons.1 hpins
    obtain ⟨new, t, hnew, hlisting⟩ := exists_listing_singleton net pin s
    obtain ⟨added, u, hadded, hlisting'⟩ := ih hpins t
    exact ⟨new ++ added, u, joinNets_cons hnew hadded, hlisting.cons hlisting' hpin⟩

section Placed

variable [AngularScalar α] {a b : Point α} {p : Plan α} {pinA pinB : Pin} {description : String}

theorem Planned.nodup {c : Content α} (hp : Planned c a b p pinA pinB) : p.pins.Nodup := by
  rw [hp.pins]
  exact List.nodup_cons.2 ⟨fun h => hp.distinct (List.mem_singleton.1 h), List.nodup_singleton _⟩

/-- Listing the pins of a plan appends those that the net is short of. -/
theorem Listing.netlist_eq (h : Listing p.net (s.update (·.begin description)) p.pins added t)
    (hp : Planned s.board.content a b p pinA pinB) :
    t.board.content.netlist = s.board.content.netlist.update p.net (·.append added) := by
  rw [h.netlist, h.lacking]
  have hnodup := hp.nodup
  rw [hp.pins] at hnodup ⊢
  rw [NetList.foldl_addTerminal]
  refine NetList.update_congr ?_
  rw [Net.foldl_add hnodup]

omit [AngularScalar α] in
theorem Listing.store_eq (h : Listing p.net (s.update (·.begin description)) p.pins added t) :
    t.board.content.store = s.board.content.store := by
  rw [h.content]
  rfl

/-- Then the rat line is placed under a new id. -/
theorem Listing.content_eq (h : Listing p.net (s.update (·.begin description)) p.pins added t)
    (hp : Planned s.board.content a b p pinA pinB) :
    (t.board.allocate.2.execute
      (.addObject { id := t.board.allocate.1, shape := .rat p.line })).content =
    { s.board.content with
      store := { s.board.content.store with
        objects := s.board.content.store.objects.insert t.board.allocate.1
          { id := t.board.allocate.1, shape := .rat p.line }
        nextId := s.board.content.store.nextId + 1 }
      netlist := s.board.content.netlist.update p.net (·.append added)
      changed := true } := by
  have hnext : t.board.allocate.1 = s.board.content.store.nextId :=
    congrArg Store.nextId h.store_eq
  change { t.board.content with
    store := t.board.content.store.allocate.2.insert
      { id := t.board.content.store.allocate.1, shape := .rat p.line }
    changed := true } = _
  rw [Store.insert_allocate, h.store_eq, ← h.netlist_eq hp, h.content, hnext]
  rfl

end Placed

end Effects

namespace Session

variable [AngularScalar α]

/-- What a rat line between two points, made by hand, has done to a session. -/
structure MadeByHand (s : Session α) (a b : Point α) (r : ManualRat) (l : RatLine α)
    (pinA pinB : Pin) (t : Session α) : Prop where
  start : l.p1 = a
  target : l.p2 = b
  anchor1 : s.board.content.terminalAt? a = some l.anchor1
  anchor2 : s.board.content.terminalAt? b = some l.anchor2
  pin1 : s.board.content.store.terminalOf? l.anchor1 = some pinA
  pin2 : s.board.content.store.terminalOf? l.anchor2 = some pinB
  added : r.added = (s.board.content.netlist.getOrNew r.net).lacking [pinA, pinB]
  /-- The rat line and the pins are all there is to it. -/
  content : t.board.content = { s.board.content with
    store := { s.board.content.store with
      objects := s.board.content.store.objects.insert r.rat { id := r.rat, shape := .rat l }
      nextId := s.board.content.store.nextId + 1 }
    netlist := s.board.content.netlist.update r.net (·.append r.added)
    changed := true }
  unused : s.board.content.store.get? r.rat = none
  others : ∀ name ≠ r.net,
    t.board.content.netlist.get? name = s.board.content.netlist.get? name
  listed : ∀ pin ∈ [pinA, pinB],
    (t.board.content.netlist.get? r.net).any (·.contains (.ofPin pin))
  annotations : t.annotations = s.annotations ++ r.added.map (r.net, ·)
  undone : ∃ u, t.board.undo? = some u ∧ u.content.layout = s.board.content.layout ∧
    u.journal.done = s.board.journal.done

/-- It is the same when the board was left alone before. -/
theorem Untouched.madeByHand {s s' t : Session α} {a b : Point α} {r : ManualRat} {l : RatLine α}
    {pinA pinB : Pin} (h : s.Untouched s') (ht : s'.MadeByHand a b r l pinA pinB t) :
    s.MadeByHand a b r l pinA pinB t := by
  obtain ⟨board, calls⟩ := s
  obtain ⟨rfl, hannotations⟩ := h
  exact { ht with annotations := hannotations ▸ ht.annotations }

/-- A plan that joins two terminals is carried out without fail, and as a whole. -/
theorem exists_madeByHand {a b : Point α} {p : Effects.Plan α} {pinA pinB : Pin} {s : Session α}
    (hp : Effects.Planned s.board.content a b p pinA pinB) (hkeyed : s.board.content.store.Keyed)
    (hbelow : ∀ e ∈ s.board.content.store.objects.entries, e.1 < s.board.content.store.nextId)
    (hclosed : s.board.journal.current = none) :
    ∃ r t, Effects.carryOut p s = .ok r t ∧ s.MadeByHand a b r p.line pinA pinB t := by
  obtain ⟨added, t, hrun, hlisting⟩ :=
    Effects.exists_listing p.net hp.nodup (s.update (·.begin "Add rat line"))
  obtain ⟨es, hstep⟩ := hlisting.step s.board "Add rat line" [] (.begin hclosed "Add rat line")
  have hlacking : added = (s.board.content.netlist.getOrNew p.net).lacking [pinA, pinB] :=
    hp.pins ▸ hlisting.lacking
  have hnetlist := hlisting.netlist_eq hp
  have hnext : t.board.allocate.1 = s.board.content.store.nextId :=
    congrArg Store.nextId hlisting.store_eq
  have hunused : s.board.content.store.get? t.board.allocate.1 = none := by
    rw [hnext]
    exact Store.get?_nextId hbelow
  have hfits : (Edit.addObject { id := t.board.allocate.1, shape := .rat p.line } : Edit α).Fits
      t.board.allocate.2.content := by
    change t.board.content.store.get? t.board.allocate.1 = none
    rw [hlisting.store_eq, hunused]
  refine ⟨_, _, Effects.carryOut_eq_ok hrun, ?_⟩
  exact {
    start := hp.start
    target := hp.target
    anchor1 := hp.anchor1
    anchor2 := hp.anchor2
    pin1 := hp.pin1
    pin2 := hp.pin2
    added := hlacking
    content := hlisting.content_eq hp
    unused := hunused
    others := fun name hname => by
      change t.board.content.netlist.get? name = _
      rw [hnetlist, NetList.get?_update, if_neg hname]
    listed := fun pin hpin => by
      change (t.board.content.netlist.get? p.net).any _ = true
      rw [hnetlist, NetList.get?_update, if_pos rfl, Option.any_some, hlacking]
      exact Net.contains_append_lacking hpin
    annotations := hlisting.annotations
    undone := (hstep.allocate.execute hfits).undo hkeyed
      (List.append_ne_nil_of_right_ne_nil _ (List.cons_ne_nil _ _)) }

/-- A connection made by hand is refused and leaves the board and the annotations alone, or is made
as a whole, in one step of the history. -/
theorem connectByHand_atomic (host : Host) (settings : Settings α) (interactive : Bool)
    (a b : Point α) {s : Session α} (hkeyed : s.board.content.store.Keyed)
    (hbelow : ∀ e ∈ s.board.content.store.objects.entries, e.1 < s.board.content.store.nextId)
    (hclosed : s.board.journal.current = none) :
    (∃ e t, Effects.connectByHand host settings interactive a b s = .error e t ∧
      s.connectByHand host settings interactive a b = .error e ∧ s.Untouched t) ∨
    ∃ r t, Effects.connectByHand host settings interactive a b s = .ok r t ∧
      s.connectByHand host settings interactive a b = .ok (r, t) ∧
      ∃ l pinA pinB, s.MadeByHand a b r l pinA pinB t := by
  rw [← Effects.outcome_connectByHand]
  have hplanned : Effects.Aside (Effects.plan host settings interactive a b) :=
    Effects.aside_plan a b
  have haside := hplanned s
  cases hplan : Effects.plan host settings interactive a b s with
  | error e t =>
    have hrun : Effects.connectByHand host settings interactive a b s = .error e t := by
      rw [Effects.connectByHand, Effects.bind_eq, hplan]
    rw [hplan] at haside
    exact .inl ⟨e, t, hrun, congrArg Effects.outcome hrun, haside⟩
  | ok p t =>
    rw [hplan] at haside
    obtain ⟨pinA, pinB, hp⟩ := Effects.exists_planned hplan
    have hboard : t.board = s.board := haside.board
    rw [← hboard] at hp hkeyed hbelow hclosed
    obtain ⟨r, u, hcarry, hmade⟩ := exists_madeByHand hp hkeyed hbelow hclosed
    have hrun : Effects.connectByHand host settings interactive a b s = .ok r u := by
      rw [Effects.connectByHand, Effects.bind_eq, hplan, ← hcarry]
    exact .inr ⟨r, u, hrun, congrArg Effects.outcome hrun, p.line, pinA, pinB,
      haside.madeByHand hmade⟩

/-- Two pads on no net. -/
def loosePads : Session Float :=
  let content := (padsOnNets [("A", "N", 0), ("B", "N", 100)]).board.content
  ⟨.ofContent { content with netlist := .empty }, []⟩

/-- The host whose user enters a name with white space around it. -/
def paddedName : Host := { Host.silent with netName := fun _ _ => some " M " }

/-- Both pads come to a new net of the name entered, and the schematic is told of both. -/
theorem connectByHand_atomic_loosePads :
    loosePads.board.content.store.Keyed ∧
      (∀ e ∈ loosePads.board.content.store.objects.entries,
        e.1 < loosePads.board.content.store.nextId) ∧
      loosePads.board.journal.current = none ∧
      ∃ t, loosePads.connectByHand paddedName .standard true ⟨0, 0⟩ ⟨100, 0⟩ =
          .ok (⟨"M", 2, [⟨"A", "1"⟩, ⟨"B", "1"⟩]⟩, t) ∧
        ∃ l pinA pinB, loosePads.MadeByHand ⟨0, 0⟩ ⟨100, 0⟩
          ⟨"M", 2, [⟨"A", "1"⟩, ⟨"B", "1"⟩]⟩ l pinA pinB t := by
  have hkeyed : loosePads.board.content.store.Keyed := by decide +kernel
  have hbelow : ∀ e ∈ loosePads.board.content.store.objects.entries,
      e.1 < loosePads.board.content.store.nextId := by decide +kernel
  have hresult : (loosePads.connectByHand paddedName .standard true ⟨0, 0⟩ ⟨100, 0⟩).toOption.map
      (·.1) = some ⟨"M", 2, [⟨"A", "1"⟩, ⟨"B", "1"⟩]⟩ := by decide +kernel
  have hclosed : loosePads.board.journal.current = none := rfl
  refine ⟨hkeyed, hbelow, hclosed, ?_⟩
  rcases connectByHand_atomic paddedName .standard true ⟨0, 0⟩ ⟨100, 0⟩ hkeyed hbelow hclosed with
    ⟨e, t, -, hrun, -⟩ | ⟨r, t, -, hrun, hmade⟩
  · rw [hrun] at hresult
    cases hresult
  · rw [hrun] at hresult
    obtain rfl := Option.some.inj hresult
    exact ⟨t, hrun, hmade⟩

end Session

end Ratsnest
