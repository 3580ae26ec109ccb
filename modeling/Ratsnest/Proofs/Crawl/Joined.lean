import Ratsnest.Crawl.Basic
import Ratsnest.Proofs.Store

/-!
# When two objects are joined

`Joined` says in one step of how many kinds a crawl may go from an object to another, without
look-ups: over the objects of the board that the look-ups were built from, and the objects that
are there now.  `ConnectionIndex.mem_joins_iff` says that the look-ups find exactly these joins.
-/

namespace Ratsnest

universe u

variable {α : Type u} [AngularScalar α]

/-- Whether an object named `y` joins the object `o` under `x` by touching copper: copper of the
board whose box meets the box of `o` grown by the bloat, and which touches `o`. -/
structure CopperJoined (c : Content α) (r : JoinRules α) (s : Store α) (x : ObjectId)
    (o : BoardObject α) (y : ObjectId) : Prop where
  ne : y ≠ x
  /-- The boxes meet. -/
  boxes : ∃ b, o.shape.box? = some b ∧ ∃ p ∈ c.copper, p.id = y ∧ ∃ d, p.shape.box? = some d ∧
    (SpatialIndex.ordered d).intersects (SpatialIndex.ordered (b.inflate r.bloat))
  /-- The copper touches. -/
  touches : ∃ p, s.get? y = some p ∧ r.touches o.shape p.shape

/-- Whether an object named `y` joins the object `o` under `x` inside a part: copper of the board
for the same pin of the same part. -/
structure InternalJoined (c : Content α) (x : ObjectId) (o : BoardObject α) (y : ObjectId) :
    Prop where
  ne : y ≠ x
  /-- Both stand for one pin. -/
  pad : ∃ part pin, o.part = some part ∧ o.pin = some pin ∧
    ∃ p ∈ c.copper, p.id = y ∧ p.part = some part ∧ p.pin = some pin

/-- Whether a crawl may go from the object under `x` to `y` in one step of the given kind. -/
inductive Joined (c : Content α) (r : JoinRules α) (s : Store α) (x : ObjectId) :
    ObjectId → JoinKind → Prop
  /-- By touching copper. -/
  | copper {o : BoardObject α} {y : ObjectId} (ho : s.get? x = some o) (hrat : o.isRat = false)
      (h : CopperJoined c r s x o y) : Joined c r s x y .copper
  /-- Inside the part. -/
  | internal {o : BoardObject α} {y : ObjectId} (ho : s.get? x = some o) (hrat : o.isRat = false)
      (h : InternalJoined c x o y) : Joined c r s x y .internal
  /-- To a rat line of the board that ends on `x`. -/
  | toRat {o p : BoardObject α} {l : RatLine α} (ho : s.get? x = some o) (hrat : o.isRat = false)
      (hr : r.followRats) (hp : p ∈ c.store.toList) (hl : p.shape = .rat l)
      (hx : l.anchor1 = x ∨ l.anchor2 = x) : Joined c r s x p.id .rat
  /-- From a rat line to one of its anchors. -/
  | toAnchor {o : BoardObject α} {l : RatLine α} {y : ObjectId} (ho : s.get? x = some o)
      (hl : o.shape = .rat l) (hr : r.followRats) (hy : y = l.anchor1 ∨ y = l.anchor2) :
      Joined c r s x y .rat

/-! ## Look-ups by box -/

namespace SpatialIndex

omit [AngularScalar α] in
theorem mem_insertEntry_iff {e f : ObjectId × Box α} {es : List (ObjectId × Box α)} :
    e ∈ insertEntry f es ↔ e = f ∨ e ∈ es := by
  induction es with
  | nil => simp [insertEntry]
  | cons g es ih =>
    rw [insertEntry]
    split
    · exact List.mem_cons
    · rw [List.mem_cons, ih, List.mem_cons]
      tauto

theorem mem_ofEntries_iff {es : List (ObjectId × Box α)} {id : ObjectId} {b : Box α} :
    (id, b) ∈ (ofEntries es).entries ↔ ∃ d, (id, d) ∈ es ∧ b = ordered d := by
  have key (fs : List (ObjectId × Box α)) : (id, b) ∈ fs.foldr insertEntry [] ↔ (id, b) ∈ fs := by
    induction fs with
    | nil => rfl
    | cons f fs ih => rw [List.foldr_cons, mem_insertEntry_iff, ih, List.mem_cons]
  rw [ofEntries, key, List.mem_map]
  constructor
  · rintro ⟨⟨i, d⟩, hd, h⟩
    cases h
    exact ⟨d, hd, rfl⟩
  · rintro ⟨d, hd, rfl⟩
    exact ⟨(id, d), hd, rfl⟩

theorem mem_meeting_iff {i : SpatialIndex α} {b : Box α} {id : ObjectId} :
    id ∈ i.meeting b ↔ ∃ d, (id, d) ∈ i.entries ∧ d.intersects (ordered b) := by
  simp only [meeting, List.mem_map, List.mem_filter]
  constructor
  · rintro ⟨⟨j, d⟩, ⟨hd, hi⟩, rfl⟩
    exact ⟨d, hd, hi⟩
  · rintro ⟨d, hd, hi⟩
    exact ⟨(id, d), ⟨hd, hi⟩, rfl⟩

end SpatialIndex

theorem Content.mem_copperIndex_iff {c : Content α} {id : ObjectId} {b : Box α} :
    (id, b) ∈ c.copperIndex.entries ↔
      ∃ p ∈ c.copper, p.id = id ∧ ∃ d, p.shape.box? = some d ∧ b = SpatialIndex.ordered d := by
  simp only [copperIndex, SpatialIndex.mem_ofEntries_iff, List.mem_filterMap, Option.map_eq_some_iff,
    Prod.mk.injEq]
  constructor
  · rintro ⟨d, ⟨p, hp, d', hd, rfl, rfl⟩, rfl⟩
    exact ⟨p, hp, rfl, d', hd, rfl⟩
  · rintro ⟨p, hp, rfl, d, hd, rfl⟩
    exact ⟨d, ⟨p, hp, d, hd, rfl, rfl⟩, rfl⟩

/-! ## The look-ups find the joins -/

namespace ConnectionIndex

variable {c : Content α} {r : JoinRules α} {s : Store α} {x y : ObjectId} {o : BoardObject α}

theorem mem_copperJoins_iff :
    y ∈ (ofContent c).copperJoins r s x o ↔ CopperJoined c r s x o y := by
  rw [copperJoins]
  cases hb : o.shape.box? with
  | none =>
    constructor
    · intro h
      exact absurd h List.not_mem_nil
    · intro h
      obtain ⟨b, hb', -⟩ := h.boxes
      rw [hb] at hb'
      cases hb'
  | some b =>
    simp only [List.mem_filter, SpatialIndex.mem_meeting_iff, ofContent, Content.mem_copperIndex_iff,
      Bool.and_eq_true, bne_iff_ne, Option.any_eq_true]
    constructor
    · rintro ⟨⟨_, ⟨p, hp, hid, d, hd, rfl⟩, hi⟩, hne, ht⟩
      exact ⟨hne, ⟨b, hb, p, hp, hid, d, hd, hi⟩, ht⟩
    · rintro ⟨hne, ⟨b', hb', p, hp, hid, d, hd, hi⟩, ht⟩
      rw [hb] at hb'
      cases hb'
      exact ⟨⟨_, ⟨p, hp, hid, d, hd, rfl⟩, hi⟩, hne, ht⟩

omit [AngularScalar α] in
theorem padOf?_eq_some_iff {p : BoardObject α} {part : Uuid} {pin : String} {id : ObjectId} :
    padOf? p = some ((part, pin), id) ↔ p.part = some part ∧ p.pin = some pin ∧ p.id = id := by
  simp only [padOf?, bind, Option.bind_eq_some_iff, Option.some.injEq, Prod.mk.injEq]
  constructor
  · rintro ⟨_, h₁, _, h₂, ⟨rfl, rfl⟩, rfl⟩
    exact ⟨h₁, h₂, rfl⟩
  · rintro ⟨h₁, h₂, rfl⟩
    exact ⟨_, h₁, _, h₂, ⟨rfl, rfl⟩, rfl⟩

theorem mem_internalJoins_iff : y ∈ (ofContent c).internalJoins x o ↔ InternalJoined c x o y := by
  rw [internalJoins]
  split
  · rename_i part pin hpart hpin
    simp only [ofContent, List.mem_map, List.mem_filter, List.mem_filterMap, Bool.and_eq_true,
      beq_iff_eq, bne_iff_ne]
    constructor
    · rintro ⟨⟨⟨part', pin'⟩, id⟩, ⟨⟨p, hp, hpad⟩, heq, hne⟩, rfl⟩
      obtain ⟨h₁, h₂, rfl⟩ := padOf?_eq_some_iff.1 hpad
      cases heq
      exact ⟨hne, part, pin, hpart, hpin, p, hp, rfl, h₁, h₂⟩
    · rintro ⟨hne, part', pin', hpart', hpin', p, hp, rfl, h₁, h₂⟩
      rw [hpart] at hpart'
      rw [hpin] at hpin'
      cases hpart'
      cases hpin'
      exact ⟨_, ⟨⟨p, hp, padOf?_eq_some_iff.2 ⟨h₁, h₂, rfl⟩⟩, rfl, hne⟩, rfl⟩
  · rename_i hno
    constructor
    · intro h
      exact absurd h List.not_mem_nil
    · intro h
      obtain ⟨part, pin, hpart, hpin, -⟩ := h.pad
      exact absurd hpin (hno part pin hpart)

theorem mem_ratJoins_iff :
    y ∈ (ofContent c).ratJoins x ↔
      ∃ p ∈ c.store.toList, ∃ l, p.shape = .rat l ∧ p.id = y ∧ (l.anchor1 = x ∨ l.anchor2 = x) := by
  simp only [ratJoins, ofContent, List.mem_map, List.mem_filter, List.mem_flatMap, beq_iff_eq]
  constructor
  · rintro ⟨⟨a, id⟩, ⟨⟨p, hp, ha⟩, rfl⟩, rfl⟩
    rw [anchorsOf] at ha
    split at ha
    · rename_i l hl
      simp only [List.mem_cons, Prod.mk.injEq, List.not_mem_nil, or_false] at ha
      rcases ha with ⟨rfl, rfl⟩ | ⟨rfl, rfl⟩
      · exact ⟨p, hp, l, hl, rfl, .inl rfl⟩
      · exact ⟨p, hp, l, hl, rfl, .inr rfl⟩
    · cases ha
  · rintro ⟨p, hp, l, hl, rfl, h⟩
    refine ⟨(x, p.id), ⟨⟨p, hp, ?_⟩, rfl⟩, rfl⟩
    simp only [anchorsOf, hl, List.mem_cons, Prod.mk.injEq, and_true, List.not_mem_nil, or_false]
    exact h.imp Eq.symm Eq.symm

theorem joins_eq_of_not_rat (i : ConnectionIndex α) (ho : s.get? x = some o)
    (hrat : o.isRat = false) :
    i.joins r s x = (i.copperJoins r s x o).map (·, .copper) ++
      (i.internalJoins x o).map (·, .internal) ++
        if r.followRats then (i.ratJoins x).map (·, .rat) else [] := by
  rw [joins, ho]
  cases hs : o.shape with
  | rat l => simp [BoardObject.isRat, Shape.isRat, hs] at hrat
  | _ => simp [hs]

/-- The look-ups built from a board find exactly the joins between its objects and those that are
there now. -/
theorem mem_joins_iff {k : JoinKind} :
    (y, k) ∈ (ofContent c).joins r s x ↔ Joined c r s x y k := by
  constructor
  · intro h
    cases ho : s.get? x with
    | none => simp [joins, ho] at h
    | some o =>
      cases hrat : o.isRat with
      | true =>
        cases hs : o.shape with
        | rat l =>
          simp only [joins, ho, hs] at h
          split at h
          · rename_i hr
            simp only [List.mem_cons, Prod.mk.injEq, List.not_mem_nil, or_false] at h
            rcases h with ⟨rfl, rfl⟩ | ⟨rfl, rfl⟩
            · exact .toAnchor ho hs hr (.inl rfl)
            · exact .toAnchor ho hs hr (.inr rfl)
          · cases h
        | _ => simp [BoardObject.isRat, Shape.isRat, hs] at hrat
      | false =>
        rw [joins_eq_of_not_rat _ ho hrat] at h
        simp only [List.mem_append, List.mem_map, Prod.mk.injEq] at h
        rcases h with (⟨_, h, rfl, rfl⟩ | ⟨_, h, rfl, rfl⟩) | h
        · exact .copper ho hrat (mem_copperJoins_iff.1 h)
        · exact .internal ho hrat (mem_internalJoins_iff.1 h)
        · split at h
          · rename_i hr
            simp only [List.mem_map, Prod.mk.injEq] at h
            obtain ⟨_, h, rfl, rfl⟩ := h
            obtain ⟨p, hp, l, hl, rfl, hx⟩ := mem_ratJoins_iff.1 h
            exact .toRat ho hrat hr hp hl hx
          · cases h
  · intro h
    cases h with
    | copper ho hrat h =>
      rw [joins_eq_of_not_rat _ ho hrat]
      simp [mem_copperJoins_iff.2 h]
    | internal ho hrat h =>
      rw [joins_eq_of_not_rat _ ho hrat]
      simp [mem_internalJoins_iff.2 h]
    | toRat ho hrat hr hp hl hx =>
      rw [joins_eq_of_not_rat _ ho hrat]
      simp [hr, mem_ratJoins_iff.2 ⟨_, hp, _, hl, rfl, hx⟩]
    | toAnchor ho hl hr hy =>
      simp only [joins, ho, hl, if_pos hr]
      rcases hy with rfl | rfl <;> simp

end ConnectionIndex

end Ratsnest
