import Ratsnest.Proofs.WellFormed.Basic

/-!
# Histories of well-formed boards

A board is sound (`Board.Sound`) when it is well-formed, no step is under way on it, and its history
leads through well-formed boards alone.  Undoing and redoing keep it so (`Board.Sound.undo`,
`Board.Sound.redo`), and so does a step of any edits that leaves a well-formed board
(`Board.Sound.begin`, `Board.Underway.execute`, `Board.Underway.commit`).  In between the board need
not be well-formed.
-/

namespace Ratsnest

variable {α : Type}

/-- Whether a board may come after another one: it has the same layers, and the counter has not been
set back. -/
structure Content.Onward (c d : Content α) : Prop where
  layers : d.layers = c.layers
  nextId_le : c.store.nextId ≤ d.store.nextId

namespace Content.Onward

variable {c d e : Content α}

theorem refl (c : Content α) : c.Onward c := ⟨rfl, UInt64.le_refl _⟩

theorem trans (h : c.Onward d) (h' : d.Onward e) : c.Onward e :=
  ⟨h'.layers.trans h.layers, UInt64.le_trans h.nextId_le h'.nextId_le⟩

theorem unmarked (h : c.Onward d) : c.unmarked.Onward d := ⟨h.layers, h.nextId_le⟩

/-- A board with the layout of a well-formed one before it is well-formed, whatever is marked. -/
theorem wellFormed (h : c.Onward d) (hc : c.WellFormed) (hlayout : d.unmarked.layout = c.layout) :
    d.WellFormed := by
  refine hc.of_layout h.layers h.nextId_le ?_
  rw [← layout_unmarked_congr hlayout, unmarked_unmarked]

end Content.Onward

/-! ## Edits do not set the counter back -/

namespace Edit

theorem onward_apply (e : Edit α) (c : Content α) : c.Onward (e.apply c).2 := by
  cases e with
  | addObject o => exact ⟨rfl, c.store.nextId_le_insert o⟩
  | removeObject id removed => exact ⟨rfl, UInt64.le_refl _⟩
  | addTerminal net t created added => exact ⟨rfl, UInt64.le_refl _⟩

theorem onward_revert (e : Edit α) (c : Content α) : c.Onward (e.revert c).2 := by
  cases e with
  | addObject o => exact ⟨rfl, UInt64.le_refl _⟩
  | removeObject id removed =>
    cases removed with
    | none => exact .refl c
    | some o => exact ⟨rfl, c.store.nextId_le_insert o⟩
  | addTerminal net t created added => exact ⟨rfl, UInt64.le_refl _⟩

theorem onward_applyAll (es : List (Edit α)) (c : Content α) : c.Onward (applyAll es c).2 := by
  induction es generalizing c with
  | nil => exact .refl c
  | cons e es ih => exact (e.onward_apply c).trans (ih _)

theorem onward_revertAll (es : List (Edit α)) (c : Content α) : c.Onward (revertAll es c).2 := by
  induction es with
  | nil => exact .refl c
  | cons e es ih => exact ih.trans (e.onward_revert _)

end Edit

namespace Board

variable {b b' : Board α}

theorem onward_undo (hb : b.undo? = some b') : b.content.Onward b'.content := by
  obtain ⟨content, done, undone, current⟩ := b
  cases done with
  | nil => cases hb
  | cons step rest =>
    obtain rfl := Option.some.inj hb
    exact Edit.onward_revertAll step.edits content

theorem onward_redo (hb : b.redo? = some b') : b.content.Onward b'.content := by
  obtain ⟨content, done, undone, current⟩ := b
  cases undone with
  | nil => cases hb
  | cons step rest =>
    obtain rfl := Option.some.inj hb
    exact Edit.onward_applyAll step.edits content

end Board

/-! ## What a timeline tells of -/

namespace Timeline

variable {t : Timeline α} {d now : Content α}

/-- The boards that a timeline tells of. -/
def boards (t : Timeline α) : List (Content α) :=
  (t.done ++ t.undone).flatMap (fun s => [s.before, s.after]) ++
    (t.current.map (·.before)).toList

theorem mem_boards_begin (h : d ∈ (t.begin now).boards) : d = now ∨ d ∈ t.boards := by
  grind [begin, boards]

theorem mem_boards_commit (h : d ∈ (t.commit now).boards) : d = now ∨ d ∈ t.boards := by
  grind [commit, boards]

theorem mem_boards_record {after : Content α} {o : OpenSpan α} (ho : t.current = some o)
    (h : d ∈ (t.record now after).boards) : d ∈ t.boards := by
  grind [record, boards]

theorem mem_boards_undo (h : d ∈ t.undo.boards) : d ∈ t.boards := by
  grind [undo, boards]

theorem mem_boards_redo (h : d ∈ t.redo.boards) : d ∈ t.boards := by
  grind [redo, boards]

end Timeline

/-! ## Remembering well-formed boards -/

/-- Whether a board, but for marks, follows a timeline that tells of well-formed boards alone, all
of which it may come after. -/
structure Remembers (c : Content α) (b : Board α) (t : Timeline α) : Prop where
  follows : Follows c b.unmarked t
  wellFormed : ∀ d ∈ t.boards, d.WellFormed
  onward : ∀ d ∈ t.boards, d.Onward b.content

namespace Remembers

variable {c : Content α} {b b' : Board α} {t : Timeline α}

/-- Nothing is forgotten as long as layout and history stay as they are. -/
theorem congr (h : Remembers c b t)
    (hlayout : b'.unmarked.content.layout = b.unmarked.content.layout)
    (hjournal : b'.journal = b.journal) (honward : b.content.Onward b'.content) :
    Remembers c b' t :=
  ⟨h.follows.congr hlayout (congrArg Journal.unmarked hjournal), h.wellFormed,
    fun d hd => (h.onward d hd).trans honward⟩

/-- A timeline may tell of the present board too if it is well-formed. -/
theorem tell (h : Remembers c b t) (hb : b.content.WellFormed) {t' : Timeline α}
    (hfollows : Follows c b'.unmarked t') (hcontent : b'.content = b.content)
    (hboards : ∀ d ∈ t'.boards, d = b.content.unmarked ∨ d ∈ t.boards) : Remembers c b' t' := by
  refine ⟨hfollows, fun d hd => ?_, fun d hd => ?_⟩
  · rcases hboards d hd with rfl | hd
    · exact hb.unmarked
    · exact h.wellFormed d hd
  · rw [hcontent]
    rcases hboards d hd with rfl | hd
    · exact (Content.Onward.refl b.content).unmarked
    · exact h.onward d hd

theorem begin (h : Remembers c b t) (hb : b.content.WellFormed) (description : String) :
    ∃ t', Remembers c (b.begin description) t' := by
  have hfollows := h.follows.begin description
  rw [Board.begin_unmarked] at hfollows
  exact ⟨_, h.tell hb hfollows rfl fun _ => Timeline.mem_boards_begin⟩

theorem commit (h : Remembers c b t) (hb : b.content.WellFormed) :
    ∃ t', Remembers c b.commit t' := by
  have hfollows := h.follows.commit
  rw [Board.commit_unmarked] at hfollows
  exact ⟨_, h.tell hb hfollows rfl fun _ => Timeline.mem_boards_commit⟩

theorem execute (h : Remembers c b t) (hopen : b.journal.current ≠ none) {e : Edit α}
    (he : e.Fits b.content) : ∃ t', Remembers c (b.execute e) t' := by
  have hfollows := h.follows.execute ((e.fits_unmarked_iff b.content).2 he)
  rw [Board.execute_unmarked] at hfollows
  obtain ⟨o, ho⟩ : ∃ o, t.current = some o := by
    have hpresent := h.follows.present
    cases hcurrent : t.current with
    | none =>
      rw [hcurrent] at hpresent
      generalize hj : b.unmarked.journal.current = current at hpresent
      cases hpresent
      exact absurd (Option.map_eq_none_iff.1 hj) hopen
    | some o => exact ⟨o, rfl⟩
  refine ⟨_, hfollows, fun d hd => h.wellFormed d (Timeline.mem_boards_record ho hd),
    fun d hd => ?_⟩
  exact (h.onward d (Timeline.mem_boards_record ho hd)).trans (e.onward_apply b.content)

/-- Undoing leads back to a well-formed board. -/
theorem undo (hc : c.store.Keyed) (h : Remembers c b t) (closed : b.journal.current = none)
    (hb : b.undo? = some b') :
    b'.content.WellFormed ∧ b'.journal.current = none ∧ ∃ t', Remembers c b' t' := by
  have hunmarked : b.unmarked.undo? = some b'.unmarked := by rw [Board.undo?_unmarked, hb]; rfl
  have hclosed : b.unmarked.journal.current = none := Option.map_eq_none_iff.2 closed
  obtain ⟨hfollows, hnone, s, rest, hdone, hlayout⟩ := h.follows.undo hc hclosed hunmarked
  have honward := Board.onward_undo hb
  have hmem : s.before ∈ t.boards := by simp [Timeline.boards, hdone]
  refine ⟨?_, Option.map_eq_none_iff.1 hnone, _, hfollows,
    fun d hd => h.wellFormed d (Timeline.mem_boards_undo hd),
    fun d hd => (h.onward d (Timeline.mem_boards_undo hd)).trans honward⟩
  exact ((h.onward _ hmem).trans honward).wellFormed (h.wellFormed _ hmem) hlayout

/-- Redoing leads forth to one. -/
theorem redo (h : Remembers c b t) (closed : b.journal.current = none)
    (hb : b.redo? = some b') :
    b'.content.WellFormed ∧ b'.journal.current = none ∧ ∃ t', Remembers c b' t' := by
  have hunmarked : b.unmarked.redo? = some b'.unmarked := by rw [Board.redo?_unmarked, hb]; rfl
  have hclosed : b.unmarked.journal.current = none := Option.map_eq_none_iff.2 closed
  obtain ⟨hfollows, hnone, s, rest, hundone, hlayout⟩ := h.follows.redo hclosed hunmarked
  have honward := Board.onward_redo hb
  have hmem : s.after ∈ t.boards := by simp [Timeline.boards, hundone]
  refine ⟨?_, Option.map_eq_none_iff.1 hnone, _, hfollows,
    fun d hd => h.wellFormed d (Timeline.mem_boards_redo hd),
    fun d hd => (h.onward d (Timeline.mem_boards_redo hd)).trans honward⟩
  exact ((h.onward _ hmem).trans honward).wellFormed (h.wellFormed _ hmem) hlayout

end Remembers

/-! ## Sound boards -/

namespace Board

/-- Whether a board has a history that leads through well-formed boards alone. -/
def Traced (b : Board α) : Prop :=
  ∃ (c : Content α) (t : Timeline α), c.store.Keyed ∧ Remembers c b t

/-- What a board is between two operations. -/
structure Sound (b : Board α) : Prop where
  wellFormed : b.content.WellFormed
  closed : b.journal.current = none
  traced : b.Traced

/-- What a board is while one step is under way. -/
structure Underway (b : Board α) : Prop where
  opened : ∃ step, b.journal.current = some (step, 0)
  traced : b.Traced

variable {b b' : Board α}

theorem Traced.congr (h : b.Traced)
    (hlayout : b'.unmarked.content.layout = b.unmarked.content.layout)
    (hjournal : b'.journal = b.journal) (honward : b.content.Onward b'.content) : b'.Traced := by
  obtain ⟨c, t, hc, h⟩ := h
  exact ⟨c, t, hc, h.congr hlayout hjournal honward⟩

namespace Sound

/-- A well-formed board without a history is sound. -/
theorem ofContent {c : Content α} (hc : c.WellFormed) : (Board.ofContent c).Sound := by
  refine ⟨hc, rfl, c.unmarked, .empty, hc.unmarked.keyed, ⟨.start c.unmarked, ?_, ?_⟩⟩
  · intro d hd
    cases hd
  · intro d hd
    cases hd

/-- Marks may be changed on a sound board. -/
theorem remark (h : b.Sound) {d : Content α} (hlayers : d.layers = b.content.layers)
    (hnetlist : d.netlist = b.content.netlist)
    (hstore : d.store.unmarked = b.content.store.unmarked) : { b with content := d }.Sound := by
  have hnext : d.store.nextId = b.content.store.nextId := (congrArg Store.nextId hstore :)
  have honward : b.content.Onward d := ⟨hlayers, hnext ▸ UInt64.le_refl _⟩
  have hlayout : d.unmarked.layout = b.content.unmarked.layout :=
    Content.layout_eq_iff.2 ⟨congrArg Store.objects hstore, congrArg Store.parts hstore, hnetlist⟩
  exact ⟨h.wellFormed.of_layout honward.layers honward.nextId_le hlayout, h.closed,
    h.traced.congr hlayout rfl honward⟩

theorem updateStore (h : b.Sound) {f : Store α → Store α}
    (hf : (f b.content.store).unmarked = b.content.store.unmarked) : (b.updateStore f).Sound :=
  h.remark rfl rfl hf

theorem begin (h : b.Sound) (description : String) : (b.begin description).Underway := by
  obtain ⟨hb, closed, c, t, hc, h⟩ := h
  obtain ⟨t', h'⟩ := h.begin hb description
  refine ⟨⟨⟨description, []⟩, ?_⟩, c, t', hc, h'⟩
  simp only [Board.begin, Journal.begin, closed]

theorem undo (h : b.Sound) (hb : b.undo? = some b') : b'.Sound := by
  obtain ⟨-, closed, c, t, hc, h⟩ := h
  obtain ⟨hwell, hclosed, t', h'⟩ := h.undo hc closed hb
  exact ⟨hwell, hclosed, c, t', hc, h'⟩

theorem redo (h : b.Sound) (hb : b.redo? = some b') : b'.Sound := by
  obtain ⟨-, closed, c, t, hc, h⟩ := h
  obtain ⟨hwell, hclosed, t', h'⟩ := h.redo closed hb
  exact ⟨hwell, hclosed, c, t', hc, h'⟩

end Sound

namespace Underway

/-- An edit that fits is made; the board need not be well-formed after it. -/
theorem execute (h : b.Underway) {e : Edit α} (he : e.Fits b.content) :
    (b.execute e).Underway := by
  obtain ⟨⟨step, hopen⟩, c, t, hc, h⟩ := h
  obtain ⟨t', h'⟩ := h.execute (by rw [hopen]; exact Option.some_ne_none _) he
  refine ⟨⟨{ step with edits := step.edits ++ [(e.apply b.content).1] }, ?_⟩, c, t', hc, h'⟩
  simp only [Board.execute, Journal.record, hopen]

/-- The step is done when the board is well-formed again. -/
theorem commit (h : b.Underway) (hb : b.content.WellFormed) : b.commit.Sound := by
  obtain ⟨⟨step, hopen⟩, c, t, hc, h⟩ := h
  obtain ⟨t', h'⟩ := h.commit hb
  refine ⟨hb, ?_, c, t', hc, h'⟩
  simp only [Board.commit, Journal.commit, hopen]

/-- An id may be given out, as long as there is one. -/
theorem allocate (h : b.Underway) (hroom : b.content.store.nextId.toNat + 1 < UInt64.size) :
    b.allocate.2.Underway := by
  refine ⟨h.opened, h.traced.congr rfl rfl ⟨rfl, ?_⟩⟩
  change b.content.store.nextId ≤ b.content.store.nextId + 1
  rw [UInt64.le_iff_toNat_le, UInt64.toNat_add, UInt64.toNat_one, Nat.mod_eq_of_lt hroom]
  exact Nat.le_succ _

end Underway

end Board

end Ratsnest
