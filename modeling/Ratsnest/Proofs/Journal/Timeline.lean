import Ratsnest.Proofs.Journal.Edit
import Ratsnest.Scalar.Float

/-!
# The history of a board

A timeline remembers whole boards instead of edits: for every step the board just before it and
the board just after it.  It says what undoing and redoing have to restore.  Under any calls a
board follows its timeline (`Edited.follows`), so its layout is always that of the first board
with the edits of its history applied in order, and steps are undone and redone exactly
(`Edited.history_exact`).
-/

namespace Ratsnest

universe u

variable {α : Type u}

/-- A step as one remembers it: the boards just before and just after it. -/
structure Span (α : Type u) where
  before : Content α
  after : Content α

/-- The step under way: the board when the outermost bracket was opened, whether there was an edit
since, and the number of brackets open inside. -/
structure OpenSpan (α : Type u) where
  before : Content α
  edited : Bool
  inner : Nat

/-- The boards around each step of a history. -/
structure Timeline (α : Type u) where
  /-- The steps that can be undone, the last first. -/
  done : List (Span α)
  /-- The steps that can be redone, the next first. -/
  undone : List (Span α)
  current : Option (OpenSpan α)

namespace Timeline

/-- The timeline before the first step. -/
def empty : Timeline α := ⟨[], [], none⟩

/-- A bracket is opened on the board `now`. -/
def begin (t : Timeline α) (now : Content α) : Timeline α :=
  { t with current := match t.current with
    | none => some ⟨now, false, 0⟩
    | some o => some { o with inner := o.inner + 1 } }

/-- The last bracket is closed on the board `now`. -/
def commit (t : Timeline α) (now : Content α) : Timeline α :=
  match t.current with
  | none => t
  | some ⟨before, edited, n + 1⟩ => { t with current := some ⟨before, edited, n⟩ }
  | some ⟨before, edited, 0⟩ =>
    { t with current := none, done := if edited then ⟨before, now⟩ :: t.done else t.done }

/-- An edit turns the board `before` into the board `after`. -/
def record (t : Timeline α) (before after : Content α) : Timeline α :=
  match t.current with
  | none => { t with done := ⟨before, after⟩ :: t.done, undone := [] }
  | some o => { t with current := some { o with edited := true }, undone := [] }

/-- The last step is undone. -/
def undo (t : Timeline α) : Timeline α :=
  match t.done with
  | [] => t
  | s :: rest => { t with done := rest, undone := s :: t.undone }

/-- The step undone last is redone. -/
def redo (t : Timeline α) : Timeline α :=
  match t.undone with
  | [] => t
  | s :: rest => { t with undone := rest, done := s :: t.done }

/-- The board that the steps done have led to: `now`, or the one that the step under way began
from. -/
def base (t : Timeline α) (now : Content α) : Content α := (t.current.map (·.before)).getD now

end Timeline

/-- The boards that calls lead to from `c`, with their timelines.  A step is undone or redone only
while no bracket is open; where there is none the call does nothing. -/
inductive Edited (c : Content α) : Board α → Timeline α → Prop
  | start : Edited c (.ofContent c) .empty
  | begin {b : Board α} {t : Timeline α} (h : Edited c b t) (description : String) :
      Edited c (b.begin description) (t.begin b.content)
  | commit {b : Board α} {t : Timeline α} (h : Edited c b t) :
      Edited c b.commit (t.commit b.content)
  | execute {b : Board α} {t : Timeline α} (h : Edited c b t) {e : Edit α}
      (fits : e.Fits b.content) :
      Edited c (b.execute e) (t.record b.content (b.execute e).content)
  | undo {b b' : Board α} {t : Timeline α} (h : Edited c b t) (closed : b.journal.current = none)
      (hb : b.undo? = some b') : Edited c b' t.undo
  | redo {b b' : Board α} {t : Timeline α} (h : Edited c b t) (closed : b.journal.current = none)
      (hb : b.redo? = some b') : Edited c b' t.redo

/-! ## Steps between boards -/

namespace Edit

variable {c d c' d' : Content α} {es fs : List (Edit α)}

/-- Whether edits lead from the layout of one board to that of another. -/
structure Takes (es : List (Edit α)) (c d : Content α) : Prop where
  fits : FitsAll es c
  result : (applyAll es c).2.layout = d.layout

/-- Whether edits have led from the layout of one board to that of another, and remember it. -/
structure Took (es : List (Edit α)) (c d : Content α) : Prop extends Takes es c d where
  remembers : (applyAll es c).1 = es

theorem Took.nil (h : c.layout = d.layout) : Took [] c d := ⟨⟨trivial, h⟩, rfl⟩

theorem Took.congr (h : Took es c d) (hd : d.layout = d'.layout) : Took es c d' :=
  ⟨⟨h.fits, h.result.trans hd⟩, h.remembers⟩

/-- One more edit is applied. -/
theorem Took.concat (h : Took es c d) {e : Edit α} (he : e.Fits d) :
    Took (es ++ [(e.apply d).1]) c (e.apply d).2 := by
  have hforget := forget_apply e d
  obtain ⟨hedit, hlayout⟩ := apply_congr h.result (e.apply d).1
  rw [apply_eq_of_forget hforget d] at hedit hlayout
  refine ⟨⟨fitsAll_append.2 ⟨h.fits, ?_, trivial⟩, ?_⟩, ?_⟩
  · exact (fits_congr h.result _).2 ((fits_iff_of_forget hforget d).2 he)
  · rw [applyAll_append]
    exact hlayout
  · rw [applyAll_append, h.remembers, applyAll_cons, hedit]
    rfl

/-- Taking the edits back restores the layout before them, and they can be applied again. -/
theorem Took.revert (hc : c.store.Keyed) (h : Took es c d) :
    (revertAll es d).2.layout = c.layout ∧ Takes (revertAll es d).1 c d := by
  obtain ⟨hedits, hlayout⟩ := revertAll_congr h.result es
  have hback := revertAll_applyAll hc h.fits
  rw [h.remembers] at hback
  have hforget := forget_revertAll es d
  refine ⟨hlayout.symm.trans hback, (fitsAll_iff_of_forget hforget c).2 h.fits, ?_⟩
  rw [applyAll_eq_of_forget hforget]
  exact h.result

/-- Applying edits anew makes them remember it. -/
theorem Takes.apply (h : Takes es c d) (hc : c'.layout = c.layout) :
    (applyAll es c').2.layout = d.layout ∧ Took (applyAll es c').1 c d := by
  obtain ⟨hedits, hlayout⟩ := applyAll_congr hc es
  have hforget := forget_applyAll es c
  rw [hedits]
  refine ⟨hlayout.trans h.result, ⟨(fitsAll_iff_of_forget hforget c).2 h.fits, ?_⟩, ?_⟩
  · rw [applyAll_eq_of_forget hforget]
    exact h.result
  · rw [applyAll_eq_of_forget hforget]

/-- Edits taken back and applied anew remember what they did before. -/
theorem Took.apply_revert (h : Took es c d) (hc : c'.layout = c.layout) (d' : Content α) :
    (applyAll (revertAll es d').1 c').1 = es := by
  rw [applyAll_eq_of_forget (forget_revertAll es d'), (applyAll_congr hc es).1, h.remembers]

end Edit

open Edit

/-- Whether the steps done, the last first, have led from `c` to a board by way of the given
spans. -/
inductive Past (c : Content α) : List (EditStep α) → List (Span α) → Content α → Prop
  | start {now : Content α} (h : now.layout = c.layout) : Past c [] [] now
  | step {steps : List (EditStep α)} {spans : List (Span α)} {step : EditStep α} {s : Span α}
      {now : Content α} (h : Past c steps spans s.before) (took : Took step.edits s.before s.after)
      (hnow : now.layout = s.after.layout) : Past c (step :: steps) (s :: spans) now

/-- Whether the steps undone, the next first, lead on from a board by way of the given spans. -/
inductive Future : Content α → List (EditStep α) → List (Span α) → Prop
  | stop {now : Content α} : Future now [] []
  | step {steps : List (EditStep α)} {spans : List (Span α)} {step : EditStep α} {s : Span α}
      {now : Content α} (hnow : now.layout = s.before.layout)
      (takes : Takes step.edits s.before s.after) (h : Future s.after steps spans) :
      Future now (step :: steps) (s :: spans)

/-- Whether the step under way is the one remembered, and has led to the board `now`. -/
inductive Present (now : Content α) : Option (EditStep α × Nat) → Option (OpenSpan α) → Prop
  | closed : Present now none none
  | opened {step : EditStep α} {before : Content α} {edited : Bool} {inner : Nat}
      (took : Took step.edits before now) (hedited : edited = !step.edits.isEmpty) :
      Present now (some (step, inner)) (some ⟨before, edited, inner⟩)

section Runs

variable {c now now' : Content α} {steps : List (EditStep α)} {spans : List (Span α)}

theorem Past.congr (h : Past c steps spans now) (hnow : now'.layout = now.layout) :
    Past c steps spans now' := by
  cases h with
  | start h => exact .start (hnow.trans h)
  | step h took hs => exact .step h took (hnow.trans hs)

theorem Future.congr (h : Future now steps spans) (hnow : now'.layout = now.layout) :
    Future now' steps spans := by
  cases h with
  | stop => exact .stop
  | step hs takes h => exact .step (hnow.trans hs) takes h

theorem Content.keyed_congr (h : now.layout = now'.layout) (hk : now.store.Keyed) :
    now'.store.Keyed := by
  rw [Store.Keyed, ← (layout_eq_iff.1 h).1]
  exact hk

theorem Past.keyed (hc : c.store.Keyed) (h : Past c steps spans now) : now.store.Keyed := by
  induction h with
  | start h => exact Content.keyed_congr h.symm hc
  | step _ took hnow ih =>
    exact Content.keyed_congr (took.result.trans hnow.symm) (keyed_applyAll ih _)

theorem Past.length_eq (h : Past c steps spans now) : steps.length = spans.length := by
  induction h with
  | start => rfl
  | step _ _ _ ih => rw [List.length_cons, List.length_cons, ih]

theorem Future.length_eq (h : Future now steps spans) : steps.length = spans.length := by
  induction h with
  | stop => rfl
  | step _ _ _ ih => rw [List.length_cons, List.length_cons, ih]

/-- The steps done, applied anew in order, lead to the layout that they have led to. -/
theorem Past.replay (h : Past c steps spans now) :
    (applyAll (steps.reverse.flatMap (·.edits)) c).2.layout = now.layout := by
  induction h with
  | start h => exact h.symm
  | step _ took hnow ih =>
    rw [List.reverse_cons, List.flatMap_append, applyAll_append]
    simp only [List.flatMap_cons, List.flatMap_nil, List.append_nil]
    rw [(applyAll_congr ih _).2, took.result, hnow]

end Runs

/-! ## Boards follow their timelines -/

/-- Whether a board and its history are as a timeline tells, from the board `c` on. -/
structure Follows (c : Content α) (b : Board α) (t : Timeline α) : Prop where
  past : Past c b.journal.done t.done (t.base b.content)
  present : Present b.content b.journal.current t.current
  future : Future b.content b.journal.undone t.undone

namespace Follows

variable {c : Content α} {b b' : Board α} {t : Timeline α}

theorem current_eq_none (h : Follows c b t) (closed : b.journal.current = none) :
    t.current = none := by
  have hpresent := h.present
  rw [closed] at hpresent
  generalize t.current = current at hpresent ⊢
  cases hpresent
  rfl

theorem past_of_closed (h : Follows c b t) (closed : b.journal.current = none) :
    Past c b.journal.done t.done b.content := by
  have hpast := h.past
  rw [Timeline.base, h.current_eq_none closed] at hpast
  exact hpast

theorem start (c : Content α) : Follows c (.ofContent c) .empty := ⟨.start rfl, .closed, .stop⟩

theorem begin (h : Follows c b t) (description : String) :
    Follows c (b.begin description) (t.begin b.content) := by
  obtain ⟨content, done, undone, current⟩ := b
  obtain ⟨tdone, tundone, tcurrent⟩ := t
  obtain ⟨past, present, future⟩ := h
  cases present with
  | closed => exact ⟨past, .opened (.nil rfl) rfl, future⟩
  | opened took hedited => exact ⟨past, .opened took hedited, future⟩

theorem commit (h : Follows c b t) : Follows c b.commit (t.commit b.content) := by
  obtain ⟨content, done, undone, current⟩ := b
  obtain ⟨tdone, tundone, tcurrent⟩ := t
  obtain ⟨past, present, future⟩ := h
  cases present with
  | closed => exact ⟨past, .closed, future⟩
  | @opened step before edited inner took hedited =>
    cases inner with
    | succ n => exact ⟨past, .opened took hedited, future⟩
    | zero =>
      obtain ⟨description, edits⟩ := step
      subst hedited
      cases edits with
      | nil => exact ⟨past.congr took.result.symm, .closed, future⟩
      | cons e es => exact ⟨.step past took rfl, .closed, future⟩

theorem execute (h : Follows c b t) {e : Edit α} (fits : e.Fits b.content) :
    Follows c (b.execute e) (t.record b.content (b.execute e).content) := by
  obtain ⟨content, done, undone, current⟩ := b
  obtain ⟨tdone, tundone, tcurrent⟩ := t
  obtain ⟨past, present, future⟩ := h
  cases present with
  | closed => exact ⟨.step past ((Took.nil rfl).concat fits) rfl, .closed, .stop⟩
  | opened took _ => exact ⟨past, .opened (took.concat fits) (by simp), .stop⟩

/-- Undoing restores the layout before the last step. -/
theorem undo (hc : c.store.Keyed) (h : Follows c b t) (closed : b.journal.current = none)
    (hb : b.undo? = some b') : Follows c b' t.undo ∧ b'.journal.current = none ∧
      ∃ s rest, t.done = s :: rest ∧ b'.content.layout = s.before.layout := by
  have hpast := h.past_of_closed closed
  have hcurrent := h.current_eq_none closed
  obtain ⟨content, done, undone, current⟩ := b
  obtain ⟨tdone, tundone, tcurrent⟩ := t
  dsimp only at hpast hcurrent closed
  subst hcurrent
  cases hpast with
  | start => cases hb
  | @step steps spans step s _ past took hnow =>
    obtain rfl := Option.some.inj hb
    obtain ⟨hback, htakes⟩ := (took.congr hnow.symm).revert (past.keyed hc)
    refine ⟨⟨past.congr hback, closed ▸ .closed, ?_⟩, closed, s, spans, rfl, hback⟩
    exact .step hback ⟨htakes.fits, htakes.result.trans hnow⟩ (h.future.congr hnow.symm)

/-- Redoing restores the layout after the step undone last. -/
theorem redo (h : Follows c b t) (closed : b.journal.current = none)
    (hb : b.redo? = some b') : Follows c b' t.redo ∧ b'.journal.current = none ∧
      ∃ s rest, t.undone = s :: rest ∧ b'.content.layout = s.after.layout := by
  have hpast := h.past_of_closed closed
  have hcurrent := h.current_eq_none closed
  have hfuture := h.future
  obtain ⟨content, done, undone, current⟩ := b
  obtain ⟨tdone, tundone, tcurrent⟩ := t
  dsimp only at hpast hcurrent closed hfuture
  subst hcurrent
  cases hfuture with
  | stop => cases hb
  | @step steps spans step s _ hnow takes future =>
    obtain rfl := Option.some.inj hb
    obtain ⟨hback, htook⟩ := takes.apply hnow
    refine ⟨⟨?_, closed ▸ .closed, future.congr hback⟩, closed, s, spans, rfl, hback⟩
    exact .step (hpast.congr hnow.symm) htook hback

end Follows

/-- Under any calls a board follows its timeline. -/
theorem Edited.follows {c : Content α} {b : Board α} {t : Timeline α} (hc : c.store.Keyed)
    (h : Edited c b t) : Follows c b t := by
  induction h with
  | start => exact .start c
  | begin _ description ih => exact ih.begin description
  | commit _ ih => exact ih.commit
  | execute _ fits ih => exact ih.execute fits
  | undo _ closed hb ih => exact (ih.undo hc closed hb).1
  | redo _ closed hb ih => exact (ih.redo closed hb).1

/-! ## Undoing and redoing several steps -/

/-- The edits of a history that are not undone, in the order they were made: those of the steps
done and those of the step under way. -/
def Journal.edits (j : Journal α) : List (Edit α) :=
  j.done.reverse.flatMap (·.edits) ++ (j.current.map (·.1.edits)).getD []

theorem Follows.replay {c : Content α} {b : Board α} {t : Timeline α} (h : Follows c b t) :
    b.content.layout = (applyAll b.journal.edits c).2.layout := by
  obtain ⟨content, done, undone, current⟩ := b
  obtain ⟨tdone, tundone, tcurrent⟩ := t
  obtain ⟨past, present, -⟩ := h
  have hreplay := past.replay
  cases present with
  | closed =>
    simp only [Journal.edits, Option.map_none, Option.getD_none, List.append_nil]
    exact hreplay.symm
  | opened took _ =>
    simp only [Journal.edits, Option.map_some, Option.getD_some, applyAll_append]
    rw [(applyAll_congr hreplay _).2]
    exact took.result.symm

namespace Board

/-- Undoes the last `k` steps, if there are as many. -/
def undos? : Nat → Board α → Option (Board α)
  | 0, b => some b
  | k + 1, b => b.undo?.bind (undos? k)

/-- Redoes the `k` steps undone last, if there are as many. -/
def redos? : Nat → Board α → Option (Board α)
  | 0, b => some b
  | k + 1, b => b.redo?.bind (redos? k)

theorem redos?_succ (k : Nat) (b : Board α) : b.redos? (k + 1) = (b.redos? k).bind redo? := by
  induction k generalizing b with
  | zero =>
    rw [redos?, redos?, Option.bind_some]
    cases b.redo? <;> rfl
  | succ k ih =>
    rw [redos?, redos?]
    cases b.redo? with
    | none => rfl
    | some b' => exact ih b'

theorem undos?_isSome_iff (k : Nat) (b : Board α) :
    (b.undos? k).isSome ↔ k ≤ b.journal.done.length := by
  induction k generalizing b with
  | zero => simp [undos?]
  | succ k ih =>
    rw [undos?, undo?]
    cases b.journal.done with
    | nil => simp
    | cons step rest => simp [ih]

theorem redos?_isSome_iff (k : Nat) (b : Board α) :
    (b.redos? k).isSome ↔ k ≤ b.journal.undone.length := by
  induction k generalizing b with
  | zero => simp [redos?]
  | succ k ih =>
    rw [redos?, redo?]
    cases b.journal.undone with
    | nil => simp
    | cons step rest => simp [ih]

/-- Whether two boards have one layout and one history. -/
structure Same (b b' : Board α) : Prop where
  layout : b.content.layout = b'.content.layout
  journal : b.journal = b'.journal

theorem Same.redo {b b' b₁ : Board α} (h : b.Same b') (hb : b'.redo? = some b₁) :
    ∃ b₂, b.redo? = some b₂ ∧ b₂.Same b₁ := by
  obtain ⟨content, journal⟩ := b
  obtain ⟨content', done, undone, current⟩ := b'
  obtain ⟨hlayout, rfl⟩ := h
  cases undone with
  | nil => cases hb
  | cons step rest =>
    obtain rfl := Option.some.inj hb
    obtain ⟨hedits, hresult⟩ := applyAll_congr hlayout step.edits
    refine ⟨_, rfl, hresult, ?_⟩
    dsimp only at hedits ⊢
    rw [hedits]

/-- Whether opening and closing brackets, without an edit, leads from one board to another. -/
inductive Idle : Board α → Board α → Prop
  | rest (b : Board α) : Idle b b
  | bracket {b b₁ b' : Board α} (description : String) (inside : Idle (b.begin description) b₁)
      (after : Idle b₁.commit b') : Idle b b'

theorem commit_begin (b : Board α) (description : String) : (b.begin description).commit = b := by
  obtain ⟨content, done, undone, current⟩ := b
  cases current <;> rfl

/-- Brackets without an edit leave no trace. -/
theorem Idle.eq {b b' : Board α} (h : Idle b b') : b' = b := by
  induction h with
  | rest => rfl
  | bracket description _ _ hinside hafter =>
    rw [hafter, hinside, commit_begin]

end Board

namespace Follows

variable {c : Content α} {b b' : Board α} {t : Timeline α}

/-- A step undone and redone leaves the board and its history as they were. -/
theorem redo_undo (hc : c.store.Keyed) (h : Follows c b t) (closed : b.journal.current = none)
    (hb : b.undo? = some b') : ∃ b₁, b'.redo? = some b₁ ∧ b₁.Same b := by
  have hpast := h.past_of_closed closed
  obtain ⟨content, done, undone, current⟩ := b
  obtain ⟨tdone, tundone, tcurrent⟩ := t
  dsimp only at hpast
  cases hpast with
  | start => cases hb
  | @step steps spans step s _ past took hnow =>
    obtain rfl := Option.some.inj hb
    have took' := took.congr hnow.symm
    obtain ⟨hback, htakes⟩ := took'.revert (past.keyed hc)
    refine ⟨_, rfl, (htakes.apply hback).1, ?_⟩
    dsimp only
    rw [took'.apply_revert hback content]

/-- So do several steps. -/
theorem redos_undos (hc : c.store.Keyed) (h : Follows c b t) (closed : b.journal.current = none)
    {k : Nat} (hb : b.undos? k = some b') : ∃ b₁, b'.redos? k = some b₁ ∧ b₁.Same b := by
  induction k generalizing b t with
  | zero =>
    obtain rfl := Option.some.inj hb
    exact ⟨b, rfl, rfl, rfl⟩
  | succ k ih =>
    obtain ⟨b₁, hb₁, hb⟩ := Option.bind_eq_some_iff.1 hb
    obtain ⟨hfollows, hclosed, -⟩ := h.undo hc closed hb₁
    obtain ⟨b₂, hb₂, hsame⟩ := ih hfollows hclosed hb
    obtain ⟨b₃, hb₃, hsame₃⟩ := h.redo_undo hc closed hb₁
    obtain ⟨b₄, hb₄, hsame₄⟩ := hsame.redo hb₃
    refine ⟨b₄, ?_, hsame₄.layout.trans hsame₃.layout, hsame₄.journal.trans hsame₃.journal⟩
    rw [Board.redos?_succ, hb₂]
    exact hb₄

end Follows

/-! ## The history is exact -/

/-- What the history of a board has to do: `c` is the board it began with, and `t` remembers the
boards around each step. -/
structure ExactHistory (c : Content α) (b : Board α) (t : Timeline α) : Prop where
  /-- The layout is that of the first board with the edits of the history applied in order. -/
  replayed : b.content.layout = (applyAll b.journal.edits c).2.layout
  /-- Undoing restores the layout held just before the outermost bracket of the step. -/
  undo : b.journal.current = none → ∀ {b'}, b.undo? = some b' →
    ∃ s rest, t.done = s :: rest ∧ b'.content.layout = s.before.layout
  /-- Redoing restores the layout held just after it. -/
  redo : b.journal.current = none → ∀ {b'}, b.redo? = some b' →
    ∃ s rest, t.undone = s :: rest ∧ b'.content.layout = s.after.layout
  /-- As many steps can be undone as are remembered. -/
  undos_isSome : ∀ k, (b.undos? k).isSome ↔ k ≤ t.done.length
  redos_isSome : ∀ k, (b.redos? k).isSome ↔ k ≤ t.undone.length
  /-- Steps undone and redone leave the board and its history as they were. -/
  redos_undos : b.journal.current = none → ∀ {k b'}, b.undos? k = some b' →
    ∃ b₁, b'.redos? k = some b₁ ∧ b₁.Same b
  /-- A bracket without an edit leaves the board and its history as they are. -/
  idle : ∀ {b'}, b.Idle b' → b' = b
  /-- Nothing can be redone after an edit. -/
  undone_execute : ∀ e, (b.execute e).journal.undone = []

/-- Whatever calls have led to a board that began without a history, its history is exact. -/
theorem Edited.history_exact {c : Content α} {b : Board α} {t : Timeline α} (hc : c.store.Keyed)
    (h : Edited c b t) : ExactHistory c b t := by
  have hfollows := h.follows hc
  refine ⟨hfollows.replay, fun closed _ hb => (hfollows.undo hc closed hb).2.2,
    fun closed _ hb => (hfollows.redo closed hb).2.2, fun k => ?_, fun k => ?_,
    fun closed _ _ hb => hfollows.redos_undos hc closed hb, Board.Idle.eq, fun e => ?_⟩
  · rw [Board.undos?_isSome_iff, hfollows.past.length_eq]
  · rw [Board.redos?_isSome_iff, hfollows.future.length_eq]
  · simp only [Board.execute, Journal.record]
    split <;> rfl

/-- A board with one round pad. -/
def onePad : Content Float :=
  { (Content.empty 1 "pad" : Content Float) with
    store := Store.empty.insert { id := 0, shape := .padstack ⟨⟨0, 0⟩, .circle 5, [0], 0, []⟩ } }

/-- The pad is taken away in a bracket inside the one in which a net is created. -/
def onePadEdited : Board Float :=
  ((((((Board.ofContent onePad).begin "Edit").begin "Remove").execute (.remove 0)).commit).execute
    (.list "N" ⟨"A", "1", ∅⟩)).commit

/-- Both edits are one step, and undoing it brings the pad back. -/
theorem Edited.history_exact_onePad : onePad.store.Keyed ∧
    ∃ t b s, Edited onePad onePadEdited t ∧ onePadEdited.undo? = some b ∧ t.done = [s] ∧
      s.before = onePad ∧ ExactHistory onePad onePadEdited t ∧ Edited onePad b t.undo ∧
      ExactHistory onePad b t.undo ∧ b.content.store.contains 0 := by
  have hc : onePad.store.Keyed := by decide +kernel
  have h₀ : Edited onePad (.ofContent onePad) .empty := .start
  have hinner := ((h₀.begin "Edit").begin "Remove").execute (e := .remove 0) trivial
  have h := (hinner.commit.execute (e := .list "N" ⟨"A", "1", ∅⟩) trivial).commit
  have hundone := h.undo rfl rfl
  exact ⟨hc, _, _, _, h, rfl, rfl, rfl, h.history_exact hc, hundone, hundone.history_exact hc,
    by decide +kernel⟩

end Ratsnest
