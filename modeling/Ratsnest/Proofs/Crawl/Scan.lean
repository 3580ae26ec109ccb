import Ratsnest.Proofs.Distance.Reach
import Ratsnest.Proofs.Journal.Edit

/-!
# Crawls that test every copper object

The index of boxes only saves tests.  Where no size is negative, the boxes of shapes that touch meet
and the box of a shape holds what its copper covers, so a query drops nothing that a look at every
copper object would find (`Content.lossless`).  Crawls and searches take what a query returns for
keys, so on boards that keep objects under other ids than theirs they can miss what such a look
finds (`Content.scan_finds_more`).
-/

namespace Ratsnest

universe u

/-! ## Queries as scans -/

/-- Along ascending ids the first element that passes a test is the one of the least id. -/
theorem find?_map_eq_some_iff_of_pairwise {β : Type u} {l : List β} {f : β → ObjectId}
    (h : l.Pairwise fun a b => f a < f b) {q : β → Bool} {x : ObjectId} :
    (l.find? q).map f = some x ↔ ∃ a ∈ l, f a = x ∧ q a ∧ ∀ b ∈ l, q b → x ≤ f b := by
  induction l with
  | nil => simp
  | cons a l ih =>
    obtain ⟨ha, hl⟩ := List.pairwise_cons.1 h
    cases hq : q a with
    | true =>
      rw [List.find?_cons_of_pos hq, Option.map_some, Option.some.injEq]
      constructor
      · rintro rfl
        refine ⟨a, List.mem_cons_self, rfl, hq, fun b hb _ => ?_⟩
        rcases List.mem_cons.1 hb with rfl | hb
        · exact UInt64.le_refl _
        · exact UInt64.le_of_lt (ha b hb)
      · rintro ⟨b, hb, rfl, -, hleast⟩
        rcases List.mem_cons.1 hb with rfl | hb
        · rfl
        · exact absurd (hleast a List.mem_cons_self hq) (UInt64.not_le.2 (ha b hb))
    | false =>
      rw [List.find?_cons_of_neg (by simp [hq]), ih hl]
      simp [hq]

/-- Entries in ascending order are kept as they come. -/
theorem SpatialIndex.entries_ofEntries {α : Type u} [Scalar α] {es : List (ObjectId × Box α)}
    (h : es.Pairwise fun e f => e.1 ≤ f.1) :
    (ofEntries es).entries = es.map fun e => (e.1, ordered e.2) := by
  rw [ofEntries]
  dsimp only
  induction es with
  | nil => rfl
  | cons e es ih =>
    obtain ⟨he, hes⟩ := List.pairwise_cons.1 h
    rw [List.map_cons, List.foldr_cons, ih hes]
    cases es with
    | nil => rfl
    | cons f es => exact if_pos (he f List.mem_cons_self)

section Scan

variable {α : Type u} [AngularScalar α]

/-- Whether the box of a shape meets a box. -/
def Shape.boxMeets (s : Shape α) (b : Box α) : Bool :=
  s.box?.any fun d => (SpatialIndex.ordered d).intersects (SpatialIndex.ordered b)

namespace Content

variable {c : Content α}

omit [AngularScalar α] in
theorem get?_of_mem_copper (hc : c.store.Keyed) {o : BoardObject α} (ho : o ∈ c.copper) :
    c.store.get? o.id = some o := by
  obtain ⟨⟨id, hid⟩, -⟩ := mem_copper_iff.1 ho
  rwa [Store.keyed_iff.1 hc id o hid]

omit [AngularScalar α] in
theorem pairwise_copper (hc : c.store.Keyed) : c.copper.Pairwise fun o p => o.id < p.id := by
  refine List.Pairwise.filter _ (List.pairwise_map.2 ?_)
  refine c.store.objects.ascending.imp_of_mem fun {e f} he hf h => ?_
  rw [hc e he, hc f hf]
  exact Std.compare_eq_lt.1 h

/-- A query finds the copper objects whose boxes meet the asked one, in the order of the board. -/
theorem meeting_copperIndex (hc : c.store.Keyed) (b : Box α) :
    c.copperIndex.meeting b = (c.copper.filter (·.shape.boxMeets b)).map (·.id) := by
  have hsorted : (c.copper.filterMap fun o => o.shape.box?.map (o.id, ·)).Pairwise
      fun e f => e.1 ≤ f.1 := by
    refine List.pairwise_filterMap.2 ((pairwise_copper hc).imp fun {o p} h e he f hf => ?_)
    obtain ⟨d, -, rfl⟩ := Option.map_eq_some_iff.1 he
    obtain ⟨d', -, rfl⟩ := Option.map_eq_some_iff.1 hf
    exact UInt64.le_of_lt h
  rw [SpatialIndex.meeting, copperIndex, SpatialIndex.entries_ofEntries hsorted,
    List.map_filterMap, List.filter_filterMap, List.map_filterMap, ← List.filterMap_eq_map,
    List.filterMap_filter]
  refine List.filterMap_congr fun o _ => ?_
  rw [Shape.boxMeets]
  cases o.shape.box? with
  | none => rfl
  | some d =>
    cases hmeet : (SpatialIndex.ordered d).intersects (SpatialIndex.ordered b) <;> simp [hmeet]

/-! ## The crawl without the index -/

/-- The copper objects that touch the object `o` under `id`, by a test of each one. -/
def scanCopper (c : Content α) (r : JoinRules α) (id : ObjectId) (o : BoardObject α) :
    List ObjectId :=
  (c.copper.filter fun p => p.id != id && r.touches o.shape p.shape).map (·.id)

/-- The joins of the object under an id, where every copper object is tested for touching it. -/
def scanJoins (c : Content α) (r : JoinRules α) (id : ObjectId) : List (ObjectId × JoinKind) :=
  let i := ConnectionIndex.ofContent c
  match c.store.get? id with
  | none => []
  | some o =>
    match o.shape with
    | .rat l => if r.followRats then [(l.anchor1, .rat), (l.anchor2, .rat)] else []
    | _ =>
      (c.scanCopper r id o).map (·, .copper) ++ (i.internalJoins id o).map (·, .internal) ++
        if r.followRats then (i.ratJoins id).map (·, .rat) else []

/-- What a crawl from `seed` discovers that tests every copper object for touching the one whose
joins it follows. -/
def scanCrawl (c : Content α) (r : JoinRules α) (visited : List ObjectId) (seed : ObjectId) :
    List Discovery :=
  if c.store.contains seed && !visited.contains seed then
    ⟨seed, none, .start⟩ ::
      spread c.store.contains (c.scanJoins r) c.store.size [seed] (seed :: visited)
  else []

/-- The first copper object of the board that stands for a pin and whose copper covers a point. -/
def scanTerminalAt? (c : Content α) (p : Point α) : Option ObjectId :=
  (c.copper.find? fun o => (c.store.pinOf? o).isSome && o.shape.covers p).map (·.id)

end Content

end Scan

/-! ## Nothing is dropped -/

/-- Whether looking copper up by its boxes finds all that matters.  Crawls and searches take the ids
that a query returns for keys, so there the board has to keep its objects under their own ids, as
all edits do. -/
structure Content.Lossless (c : Content ℝ) (r : JoinRules ℝ) : Prop where
  /-- Of two copper objects that touch, the query that starts from either one returns the other. -/
  found : ∀ o ∈ c.copper, ∀ p ∈ c.copper, r.touches o.shape p.shape →
    (∃ b, o.shape.box? = some b ∧ p.id ∈ c.copperIndex.meeting (b.inflate r.bloat)) ∧
      ∃ d, p.shape.box? = some d ∧ o.id ∈ c.copperIndex.meeting (d.inflate r.bloat)
  /-- A crawl discovers what one discovers that tests every copper object. -/
  crawl : c.store.Keyed → ∀ visited seed,
    (ConnectionIndex.ofContent c).crawl r c.store visited seed = c.scanCrawl r visited seed
  /-- The terminal found at a point is the one that a look at every copper object finds. -/
  terminal : c.store.Keyed → ∀ p, c.terminalAt? p = c.scanTerminalAt? p
  /-- It is the one of the least id that covers the point. -/
  least : c.store.Keyed → ∀ p x, c.terminalAt? p = some x ↔
    ∃ o ∈ c.copper, o.id = x ∧ ((c.store.pinOf? o).isSome ∧ o.shape.covers p) ∧
      ∀ q ∈ c.copper, (c.store.pinOf? q).isSome → q.shape.covers p → x ≤ q.id

namespace Content

variable {c : Content ℝ} {r : JoinRules ℝ}

theorem mem_meeting_of_boxesMeet {s : Shape ℝ} {p : BoardObject ℝ} (hp : p ∈ c.copper)
    (h : r.boxesMeet s p.shape) :
    ∃ b, s.box? = some b ∧ p.id ∈ c.copperIndex.meeting (b.inflate r.bloat) := by
  obtain ⟨b, hb, d, hd, hmeet⟩ := boxesMeet_iff.1 h
  exact ⟨b, hb, SpatialIndex.mem_meeting_iff.2
    ⟨_, mem_copperIndex_iff.2 ⟨p, hp, rfl, d, hd, rfl⟩, hmeet⟩⟩

theorem sized_of_mem_copper (hsized : ∀ o ∈ c.store.toList, o.shape.Sized) {o : BoardObject ℝ}
    (ho : o ∈ c.copper) : o.shape.Sized := hsized o (List.mem_of_mem_filter ho)

theorem copperJoins_eq_scanCopper (hsized : ∀ o ∈ c.store.toList, o.shape.Sized)
    (hbloat : 0 ≤ r.bloat) (hc : c.store.Keyed) (id : ObjectId) {o : BoardObject ℝ}
    (ho : o.shape.Sized) :
    (ConnectionIndex.ofContent c).copperJoins r c.store id o = c.scanCopper r id o := by
  -- An object that touches has a box that meets the one asked for.
  have hmeets : ∀ p ∈ c.copper, r.touches o.shape p.shape → ∃ b, o.shape.box? = some b ∧
      p.shape.boxMeets (b.inflate r.bloat) := by
    intro p hp h
    obtain ⟨b, hb, d, hd, hmeet⟩ := boxesMeet_iff.1
      (JoinRules.boxesMeet_of_touches ho (sized_of_mem_copper hsized hp) hbloat h).1
    exact ⟨b, hb, by rw [Shape.boxMeets, hd]; exact hmeet⟩
  rw [ConnectionIndex.copperJoins, scanCopper]
  cases hb : o.shape.box? with
  | none =>
    symm
    rw [List.map_eq_nil_iff, List.filter_eq_nil_iff]
    intro p hp h
    obtain ⟨b, hb', -⟩ := hmeets p hp (Bool.and_eq_true _ _ ▸ h).2
    rw [hb] at hb'
    cases hb'
  | some b =>
    dsimp only [ConnectionIndex.ofContent]
    rw [meeting_copperIndex hc, List.filter_map, List.filter_filter]
    refine congrArg _ (List.filter_congr fun p hp => ?_)
    rw [Function.comp_apply, get?_of_mem_copper hc hp, Option.any_some]
    refine Bool.and_eq_left_iff_imp.2 fun h => ?_
    obtain ⟨b', hb', hmeet⟩ := hmeets p hp (Bool.and_eq_true_iff.1 h).2
    obtain rfl := Option.some.inj (hb.symm.trans hb')
    exact hmeet

theorem joins_eq_scanJoins (hsized : ∀ o ∈ c.store.toList, o.shape.Sized)
    (hbloat : 0 ≤ r.bloat) (hc : c.store.Keyed) :
    (ConnectionIndex.ofContent c).joins r c.store = c.scanJoins r := by
  funext id
  rw [ConnectionIndex.joins, scanJoins]
  cases ho : c.store.get? id with
  | none => rfl
  | some o =>
    have hjoins := copperJoins_eq_scanCopper hsized hbloat hc id
      (hsized o (Store.mem_toList_iff.2 ⟨id, ho⟩))
    cases hs : o.shape with
    | rat l => simp only [hs]
    | _ => simp only [hs, hjoins]

theorem terminalAt?_eq_scan (hsized : ∀ o ∈ c.store.toList, o.shape.Sized)
    (hc : c.store.Keyed) (p : Point ℝ) : c.terminalAt? p = c.scanTerminalAt? p := by
  rw [terminalAt?, SpatialIndex.holding, meeting_copperIndex hc, List.find?_map, scanTerminalAt?,
    List.find?_filter]
  refine congrArg _ (List.find?_congr fun o ho => ?_)
  have hfound := get?_of_mem_copper hc ho
  have hmeets : o.shape.covers p → o.shape.boxMeets ⟨p, p⟩ := fun h => by
    obtain ⟨b, hb, hmeet⟩ := Shape.exists_box_of_covers (sized_of_mem_copper hsized ho) h
    rw [Shape.boxMeets, hb]
    exact hmeet
  rw [Bool.eq_iff_iff, decide_eq_true_iff, Function.comp_apply, Store.terminalOf?, hfound,
    Option.bind_some, Option.any_some, Bool.and_eq_true]
  exact ⟨And.right, fun h => ⟨hmeets h.2, h⟩⟩

/-- Looking copper up by its boxes drops nothing: neither what touches nor what covers a point. -/
theorem lossless (hsized : ∀ o ∈ c.store.toList, o.shape.Sized) (hbloat : 0 ≤ r.bloat) :
    c.Lossless r where
  found o ho p hp h := by
    obtain ⟨hop, hpo⟩ := JoinRules.boxesMeet_of_touches (sized_of_mem_copper hsized ho)
      (sized_of_mem_copper hsized hp) hbloat h
    exact ⟨mem_meeting_of_boxesMeet hp hop, mem_meeting_of_boxesMeet ho hpo⟩
  crawl hc visited seed := by
    rw [ConnectionIndex.crawl, joins_eq_scanJoins hsized hbloat hc, scanCrawl]
  terminal hc p := terminalAt?_eq_scan hsized hc p
  least hc p x := by
    rw [terminalAt?_eq_scan hsized hc, scanTerminalAt?,
      find?_map_eq_some_iff_of_pairwise (pairwise_copper hc)]
    simp only [Bool.and_eq_true, and_imp]

/-- Discs with a common point have no gap. -/
theorem exists_gap_discs {p q x : Point ℝ} {m n : ℝ} (hm : 0 ≤ m) (hn : 0 ≤ n)
    (hp : x.distance2 p ≤ m * m) (hq : x.distance2 q ≤ n * n) :
    ∃ g, (Copper.stroke (.segment (.point p)) m).gap? (.stroke (.segment (.point q)) n) = some g ∧
      g.d2 = 0 := by
  obtain ⟨a, ha, hclosest⟩ := (Segment.point p).exists_approach (.point q)
  obtain ⟨g, hg, ⟨-, -, hleast⟩, hd2⟩ := Copper.exists_gap
    (c := .stroke (.segment (.point p)) m) (e := .stroke (.segment (.point q)) n) ha hclosest hm hn
  have hle : g.d2 ≤ 0 := by
    rw [hd2, ← Point.distance2_self x]
    refine hleast x ⟨p, ?_, (Point.distance_le_iff hm).2 hp⟩ x
      ⟨q, ?_, (Point.distance_le_iff hn).2 hq⟩ <;>
    exact Segment.points_point _ ▸ Set.mem_singleton _
  exact ⟨g, hg, hle.antisymm (hd2 ▸ Point.distance2_nonneg g.a g.b)⟩

/-- A round pad of radius 3. -/
noncomputable def roundPad (center : Point ℝ) : Shape ℝ := .padstack ⟨center, .circle 3, [0], 0, []⟩

theorem sized_roundPad (p : Point ℝ) : (roundPad p).Sized := zero_le_three (α := ℝ)

theorem box?_roundPad (p : Point ℝ) :
    (roundPad p).box? = some ⟨p.translate (-3) (-3), p.translate 3 3⟩ := rfl

/-- Round pads with a common point touch. -/
theorem touches_roundPad {p q x : Point ℝ} (hp : x.distance2 p ≤ 3 * 3)
    (hq : x.distance2 q ≤ 3 * 3) : r.touches (roundPad p) (roundPad q) := by
  obtain ⟨g, hg, hzero⟩ := exists_gap_discs zero_le_three zero_le_three hp hq
  have hbridge : (roundPad p).bridge? .precise (roundPad q) = some ⟨g.a, g.b, _, _, g.d2⟩ :=
    Shape.bridge?_eq_some_iff.2 ⟨nofun, _, _, g, rfl, rfl, hg, rfl, rfl⟩
  have hclear : (r.ignoreClearance || !((roundPad p).keepsAwayFrom (roundPad q) ||
      (roundPad q).keepsAwayFrom (roundPad p))) = true := Bool.or_true _
  rw [JoinRules.touches, hclear, hbridge, Option.any_some, Bool.and_eq_true]
  exact ⟨rfl, decide_eq_true (hzero.trans_le (mul_self_nonneg r.bloat))⟩

/-- A round pad covers its disc. -/
theorem covers_roundPad {p x : Point ℝ} (h : x.distance2 p ≤ 3 * 3) : (roundPad p).covers x := by
  obtain ⟨g, hg, hzero⟩ := exists_gap_discs zero_le_three le_rfl h
    ((Point.distance2_self x).trans_le (mul_self_nonneg 0))
  have hd2 : (roundPad p).distance2? x = some g.d2 :=
    congrArg (fun h => h.bind fun g => some g.d2) hg
  rw [Shape.covers, hd2, Option.any_some, Scalar.real_beq_iff, hzero]

/-- Two round pads that overlap; the first one stands for a pin. -/
noncomputable def lappedPads : Content ℝ :=
  { (Content.empty 1 "pads" : Content ℝ) with
    store := ((Store.empty.addPart ⟨1, "U1"⟩).insert
      { id := 0, shape := roundPad ⟨0, 0⟩, part := some 1, pin := some "1" }).insert
      { id := 1, shape := roundPad ⟨4, 0⟩ } }

theorem copper_lappedPads : lappedPads.copper =
    [{ id := 0, shape := roundPad ⟨0, 0⟩, part := some 1, pin := some "1" },
      { id := 1, shape := roundPad ⟨4, 0⟩ }] := rfl

/-- The pads touch, and where they overlap the pin is found. -/
theorem lossless_lappedPads : ∃ r : JoinRules ℝ, 0 ≤ r.bloat ∧
    (∀ o ∈ lappedPads.store.toList, o.shape.Sized) ∧ lappedPads.store.Keyed ∧
    lappedPads.Lossless r ∧ r.touches (roundPad ⟨0, 0⟩) (roundPad ⟨4, 0⟩) ∧
    lappedPads.terminalAt? ⟨2, 0⟩ = some 0 := by
  have hkeyed : lappedPads.store.Keyed :=
    List.forall_mem_cons.2 ⟨rfl, List.forall_mem_singleton.2 rfl⟩
  have hsized : ∀ o ∈ lappedPads.store.toList, o.shape.Sized :=
    List.forall_mem_cons.2 ⟨sized_roundPad _, List.forall_mem_singleton.2 (sized_roundPad _)⟩
  have hlossless := lossless (r := ⟨0, false, false⟩) hsized le_rfl
  have hfirst : (⟨2, 0⟩ : Point ℝ).distance2 ⟨0, 0⟩ ≤ 3 * 3 := by norm_num [Point.distance2]
  have hsecond : (⟨2, 0⟩ : Point ℝ).distance2 ⟨4, 0⟩ ≤ 3 * 3 := by norm_num [Point.distance2]
  refine ⟨_, le_rfl, hsized, hkeyed, hlossless, touches_roundPad hfirst hsecond, ?_⟩
  rw [hlossless.least hkeyed]
  exact ⟨_, copper_lappedPads ▸ List.mem_cons_self, rfl, ⟨rfl, covers_roundPad hfirst⟩,
    fun q _ _ _ => UInt64.zero_le⟩

/-! ## Objects under other ids -/

/-- Three round pads, the last two kept under each other's ids.  The second one overlaps the first
and stands for a pin. -/
noncomputable def exchangedPads : Content ℝ :=
  { (Content.empty 1 "pads" : Content ℝ) with
    store := { (Store.empty.addPart ⟨1, "U1"⟩ : Store ℝ) with
      objects := .ofList
        [(0, { id := 0, shape := roundPad ⟨0, 0⟩ }),
          (1, { id := 2, shape := roundPad ⟨4, 0⟩, part := some 1, pin := some "1" }),
          (2, { id := 1, shape := roundPad ⟨100, 0⟩ })]
      nextId := 3 } }

theorem copper_exchangedPads : exchangedPads.copper =
    [{ id := 0, shape := roundPad ⟨0, 0⟩ },
      { id := 2, shape := roundPad ⟨4, 0⟩, part := some 1, pin := some "1" },
      { id := 1, shape := roundPad ⟨100, 0⟩ }] := rfl

theorem get?_zero_exchangedPads :
    exchangedPads.store.get? 0 = some { id := 0, shape := roundPad ⟨0, 0⟩ } := rfl

theorem get?_two_exchangedPads :
    exchangedPads.store.get? 2 = some { id := 1, shape := roundPad ⟨100, 0⟩ } := rfl

/-- The last pad is far to the right of the others. -/
theorem not_intersects_roundPad {b d : Box ℝ} (hb : (roundPad ⟨100, 0⟩).box? = some b)
    (hlo : d.lo.x ≤ 4) (hhi : d.hi.x ≤ 4) :
    ¬(SpatialIndex.ordered b).intersects (SpatialIndex.ordered d) := by
  obtain rfl := Option.some.inj ((box?_roundPad _).symm.trans hb)
  intro h
  simp only [Box.intersects, Bool.and_eq_true] at h
  have hleft : min ((100 : ℝ) + -3) (100 + 3) ≤ max d.lo.x d.hi.x := of_decide_eq_true h.1.1.1
  have hright : max d.lo.x d.hi.x ≤ 4 := max_le hlo hhi
  have hmin : min ((100 : ℝ) + -3) (100 + 3) = 97 := by norm_num
  linarith

theorem not_boxesMeet_roundPad :
    ¬(⟨0, false, false⟩ : JoinRules ℝ).boxesMeet (roundPad ⟨0, 0⟩) (roundPad ⟨100, 0⟩) := by
  intro h
  obtain ⟨b, hb, d, hd, hmeet⟩ := boxesMeet_iff.1 h
  obtain rfl := Option.some.inj ((box?_roundPad _).symm.trans hb)
  refine not_intersects_roundPad hd ?_ ?_ hmeet <;> norm_num [Box.inflate, Point.translate]

theorem not_touches_roundPad :
    ¬(⟨0, false, false⟩ : JoinRules ℝ).touches (roundPad ⟨0, 0⟩) (roundPad ⟨100, 0⟩) := fun h =>
  not_boxesMeet_roundPad
    (JoinRules.boxesMeet_of_touches (sized_roundPad _) (sized_roundPad _) le_rfl h).1

/-- From the first pad no join leads away: the query returns the id of the second one, and under it
there is the last one, which does not touch. -/
theorem not_adjacent_exchangedPads {y : ObjectId} :
    ¬Adjacent exchangedPads ⟨0, false, false⟩ exchangedPads.store 0 y := by
  rintro ⟨k, h⟩
  cases h with
  | copper ho _ h =>
    obtain rfl := Option.some.inj (get?_zero_exchangedPads.symm.trans ho)
    obtain ⟨hne, ⟨p, hp, rfl, hmeet⟩, q, hq, ht⟩ := copperJoined_iff.1 h
    rw [copper_exchangedPads, List.mem_cons, List.mem_cons, List.mem_singleton] at hp
    rcases hp with rfl | rfl | rfl
    · exact hne rfl
    · obtain rfl := Option.some.inj (get?_two_exchangedPads.symm.trans hq)
      exact not_touches_roundPad ht
    · exact not_boxesMeet_roundPad hmeet
  | internal ho _ h =>
    obtain rfl := Option.some.inj (get?_zero_exchangedPads.symm.trans ho)
    obtain ⟨_, _, hpart, -⟩ := h.pad
    cases hpart
  | toRat _ _ hr => cases hr
  | toAnchor _ _ hr => cases hr

/-- The scan comes to the second pad. -/
theorem scanJoins_exchangedPads :
    exchangedPads.scanJoins ⟨0, false, false⟩ 0 = [(2, .copper)] := by
  have htouches := touches_roundPad (r := ⟨0, false, false⟩) (p := ⟨0, 0⟩) (q := ⟨4, 0⟩)
    (x := ⟨2, 0⟩) (by norm_num [Point.distance2]) (by norm_num [Point.distance2])
  have hscan : exchangedPads.scanCopper ⟨0, false, false⟩ 0
      { id := 0, shape := roundPad ⟨0, 0⟩ } = [2] := by
    rw [scanCopper, copper_exchangedPads]
    simp [htouches, not_touches_roundPad]
  change (exchangedPads.scanCopper _ 0 _).map _ ++ [] ++ [] = _
  rw [hscan]
  rfl

/-- Where pads are kept under each other's ids, a look at every copper object finds more than the
queries: it leads a crawl further, and it finds a terminal that they miss. -/
theorem scan_finds_more :
    let r : JoinRules ℝ := ⟨0, false, false⟩
    0 ≤ r.bloat ∧ (∀ o ∈ exchangedPads.store.toList, o.shape.Sized) ∧
      ¬exchangedPads.store.Keyed ∧
      2 ∈ objectsOf (exchangedPads.scanCrawl r [] 0) ∧
      2 ∉ objectsOf ((ConnectionIndex.ofContent exchangedPads).crawl r exchangedPads.store [] 0) ∧
      exchangedPads.scanTerminalAt? ⟨4, 0⟩ = some 2 ∧ exchangedPads.terminalAt? ⟨4, 0⟩ = none := by
  intro r
  refine ⟨le_rfl, ?sized, ?unkeyed, ?scanned, ?missed, ?covered, ?hidden⟩
  case sized =>
    exact List.forall_mem_cons.2 ⟨sized_roundPad _, List.forall_mem_cons.2 ⟨sized_roundPad _,
      List.forall_mem_singleton.2 (sized_roundPad _)⟩⟩
  case unkeyed =>
    intro h
    exact absurd (h _ (List.mem_cons_of_mem _ List.mem_cons_self)) (by decide)
  case scanned =>
    have hcrawl : exchangedPads.scanCrawl r [] 0 = ⟨0, none, .start⟩ ::
        spread exchangedPads.store.contains (exchangedPads.scanJoins r) 3 [0] [0] := rfl
    have hpresent : exchangedPads.store.contains 2 := rfl
    rw [hcrawl]
    simp [objectsOf, spread, r, scanJoins_exchangedPads, freshJoins, hpresent]
  case missed =>
    intro h
    obtain heq | ⟨y, hy, -⟩ := (wired_of_mem_crawl h).cases_head
    · exact absurd heq (by decide)
    · exact not_adjacent_exchangedPads hy
  case covered =>
    have hcovers : (roundPad ⟨4, 0⟩).covers ⟨4, 0⟩ :=
      covers_roundPad (by norm_num [Point.distance2])
    rw [scanTerminalAt?, copper_exchangedPads, List.find?_cons_of_neg Bool.false_ne_true,
      List.find?_cons_of_pos]
    · rfl
    · rw [hcovers]
      rfl
  case hidden =>
    rw [terminalAt?, List.find?_eq_none]
    intro id hid
    obtain ⟨_, hentry, hmeet⟩ := SpatialIndex.mem_meeting_iff.1 hid
    obtain ⟨p, hp, rfl, d, hd, rfl⟩ := mem_copperIndex_iff.1 hentry
    rw [copper_exchangedPads, List.mem_cons, List.mem_cons, List.mem_singleton] at hp
    rcases hp with rfl | rfl | rfl
    · exact Bool.false_ne_true
    · -- Under the id of the second pad there is the last one, which stands for no pin.
      exact Bool.false_ne_true
    · exact absurd hmeet (not_intersects_roundPad hd le_rfl le_rfl)

end Content

end Ratsnest
