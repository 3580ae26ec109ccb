import Ratsnest.Proofs.Manual.Atomic
import Ratsnest.Proofs.StaleMarks.Dimmed

/-!
# Manual connections and stale marks

A run that changes a session in place is blind when it does the same on the dimmed board, with the
same refusals after the same calls.  Runs made of blind ones are blind, and so a manual connection
is (`Effects.blind_connectByHand`).
-/

namespace Ratsnest

variable {α : Type}

/-- The terminal under a point is found without a look at marks. -/
theorem Content.terminalAt?_remark [AngularScalar α] (g : Flags → Flags) (c : Content α)
    (p : Point α) : (c.remark g).terminalAt? p = c.terminalAt? p := by
  have hindex : (c.remark g).copperIndex = c.copperIndex :=
    congrArg ConnectionIndex.boxes
      (ConnectionIndex.ofContent_congr (c := c.remark g) (d := c) rfl (c.store.unmarked_remark g))
  have hcovers (id : ObjectId) : ((c.remark g).store.get? id).any (·.shape.covers p) =
      (c.store.get? id).any (·.shape.covers p) := by
    rw [remark, Store.get?_remark, Option.any_map]
    rfl
  have hpin (id : ObjectId) : (c.remark g).store.terminalOf? id = c.store.terminalOf? id :=
    c.store.terminalOf?_remark g id
  simp only [terminalAt?, hindex, hcovers, hpin]

namespace Effects

variable {β γ : Type}

/-- What comes of a run, on the dimmed board. -/
def dimmedResult : EStateM.Result Error (Session α) β → EStateM.Result Error (Session α) β
  | .ok y s => .ok y s.dimmed
  | .error e s => .error e s.dimmed

theorem outcome_dimmedResult (r : EStateM.Result Error (Session α) β) :
    (outcome (dimmedResult r)).map (·.1) = (outcome r).map (·.1) := by
  cases r <;> rfl

theorem left_dimmedResult (r : EStateM.Result Error (Session α) β) :
    left (dimmedResult r) = (left r).dimmed := by
  cases r <;> rfl

/-- Whether a run does the same on the dimmed board. -/
def Blind (x : Effects α β) : Prop := ∀ s : Session α, x s.dimmed = dimmedResult (x s)

theorem Blind.pure (y : β) : Blind (pure y : Effects α β) := fun _ => rfl

theorem Blind.throw (e : Error) : Blind (throw e : Effects α β) := fun _ => rfl

theorem Blind.bind {x : Effects α β} {f : β → Effects α γ} (hx : Blind x) (hf : ∀ y, Blind (f y)) :
    Blind (x >>= f) := by
  intro s
  rw [bind_eq, bind_eq, hx]
  cases x s with
  | ok y t => exact hf y t
  | error e t => rfl

theorem get_bind_eq (f : Session α → Effects α β) (s : Session α) : (get >>= f) s = f s s := rfl

/-- A run may look at the session as far as marks make no difference. -/
theorem Blind.get_bind {f : Session α → Effects α β} (hf : ∀ s, f s.dimmed = f s)
    (h : ∀ s, Blind (f s)) : Blind (get >>= f) := by
  intro s
  rw [get_bind_eq, get_bind_eq, hf]
  exact h s s

theorem blind_update {f : Board α → Board α} (h : ∀ b, f b.dimmed = (f b).dimmed) :
    Blind (update f) := by
  intro s
  exact congrArg (fun b => EStateM.Result.ok () (⟨b, s.calls⟩ : Session α)) (h s.board)

theorem object_eq (id : ObjectId) (s : Session α) :
    object id s = (s.board.content.store.get? id).elim (.error (.unknownObject id) s) (.ok · s) := by
  rw [object, get_bind_eq, Content.object]
  cases s.board.content.store.get? id <;> rfl

/-- An object may be looked at as far as its marks make no difference. -/
theorem blind_object_bind {id : ObjectId} {f : BoardObject α → Effects α β}
    (hf : ∀ o, f (o.remark .dim) = f o) (h : ∀ o, Blind (f o)) : Blind (object id >>= f) := by
  intro s
  rw [bind_eq, bind_eq, object_eq, object_eq, show s.dimmed.board.content.store.get? id = _ from
    s.board.content.store.get?_remark .dim id]
  cases s.board.content.store.get? id with
  | none => rfl
  | some o => exact (congrFun (hf o) s.dimmed).trans (h o s)

section Plan

variable [AngularScalar α] {host : Host} {settings : Settings α} {interactive : Bool}

theorem blind_terminalAt (ratEnd : RatEnd) (p : Point α) : Blind (terminalAt ratEnd p) := by
  refine Blind.get_bind (fun s => ?_) fun s => ?_
  · rw [show s.dimmed.board.content.terminalAt? p = _ from
      s.board.content.terminalAt?_remark .dim p]
  · cases s.board.content.terminalAt? p with
    | none => exact .throw _
    | some id => exact .pure id

omit [AngularScalar α] in
theorem blind_pinOf (id : ObjectId) : Blind (pinOf (α := α) id) := by
  refine Blind.get_bind (fun s => ?_) fun s => ?_
  · rw [show s.dimmed.board.content.store.terminalOf? id = _ from
      s.board.content.store.terminalOf?_remark .dim id]
  · cases s.board.content.store.terminalOf? id with
    | none => exact .throw _
    | some pin => exact .pure pin

omit [AngularScalar α] in
theorem blind_newNetName : Blind (newNetName host settings interactive) := by
  refine Blind.get_bind (fun s => rfl) fun s => ?_
  dsimp only
  split
  · have hask : Blind (α := α) (ask host (s.board.content.netlist.unusedName settings.netPrefix)) :=
      fun _ => rfl
    refine hask.bind fun answer => ?_
    split
    · split
      · exact .throw _
      · exact .pure _
    · exact .throw _
  · exact .pure _

omit [AngularScalar α] in
theorem blind_netFor (pinA pinB : Pin) : Blind (netFor host settings interactive pinA pinB) := by
  refine Blind.get_bind (fun s => rfl) fun s => ?_
  dsimp only
  rcases Session.chooseNet _ _ with e | net | _
  · exact .throw e
  · exact .pure net
  · exact blind_newNetName

/-- Finding out what is to be done is blind: it asks for shapes and pins alone. -/
theorem blind_plan (a b : Point α) : Blind (plan host settings interactive a b) := by
  refine (blind_terminalAt _ a).bind fun idA => (blind_terminalAt _ b).bind fun idB =>
    (blind_pinOf idA).bind fun pinA => (blind_pinOf idB).bind fun pinB => ?_
  split
  · exact fun s => rfl
  · refine (blind_netFor pinA pinB).bind fun net => ?_
    refine blind_object_bind (fun o => rfl) fun o => ?_
    exact blind_object_bind (fun p => rfl) fun p => .pure _

end Plan

theorem blind_joinNet (net : String) (pin : Pin) : Blind (joinNet (α := α) net pin) := by
  refine Blind.get_bind (fun s => rfl) fun s => ?_
  split
  · exact .pure []
  · refine (blind_update fun b => ?_).bind fun _ => ?_
    · exact b.execute_remark .dim (.list net (.ofPin pin))
    · exact .bind (fun s => rfl) fun _ => .pure _

theorem blind_joinNets (net : String) (pins : List Pin) :
    Blind (joinNets (α := α) net pins) := by
  induction pins with
  | nil => exact .pure []
  | cons pin pins ih => exact (blind_joinNet net pin).bind fun _ => ih.bind fun _ => .pure _

theorem blind_addRat (l : RatLine α) : Blind (addRat l) := by
  intro s
  exact congrArg (fun b => EStateM.Result.ok s.board.allocate.1 (⟨b, s.calls⟩ : Session α))
    (s.board.allocate.2.execute_addObject_dimmed s.board.allocate.1 (.rat l))

/-- Carrying out a plan is blind. -/
theorem blind_carryOut (p : Plan α) : Blind (carryOut p) := by
  refine (blind_update fun b => b.begin_remark .dim _).bind fun _ => ?_
  refine (blind_joinNets p.net p.pins).bind fun added => (blind_addRat p.line).bind fun rat => ?_
  exact (blind_update fun b => b.commit_remark .dim).bind fun _ => .pure _

/-- So is a manual connection as a whole. -/
theorem blind_connectByHand [AngularScalar α] (host : Host) (settings : Settings α)
    (interactive : Bool) (a b : Point α) : Blind (connectByHand host settings interactive a b) :=
  (blind_plan a b).bind blind_carryOut

end Effects

end Ratsnest
