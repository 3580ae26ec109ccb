import Ratsnest.Proofs.Crawl.Exact

/-!
# The layers of a contact

What a crawl discovers by touching copper has a layer in common with the object that the crawl came
from (`ConnectionIndex.crawl_copper_layers`).  The test for contact asks for any common layer and
the test for copper for any copper layer, so the common layer is copper where one of the two
objects has copper layers alone.  Where both have other layers too it need not be
(`ConnectionIndex.crawl_copper_on_silk`).
-/

namespace Ratsnest

universe u

variable {α : Type u}

/-! ## Common layers -/

/-- Whether all layers of a shape are copper. -/
def Shape.OnCopperAlone (l : LayerStack) (s : Shape α) : Prop := ∀ i ∈ s.layers, l.isCopper i

/-- Whether two shapes have a copper layer in common. -/
def Shape.SharesCopper (l : LayerStack) (s t : Shape α) : Prop :=
  ∃ i ∈ s.layers, i ∈ t.layers ∧ l.isCopper i

/-- How the layers of two shapes in contact agree. -/
structure Shape.LayersMeet (l : LayerStack) (s t : Shape α) : Prop where
  /-- There is a common layer. -/
  shared : ∃ i ∈ s.layers, i ∈ t.layers
  /-- There is a copper one where one of the shapes has no other layers. -/
  copper : s.OnCopperAlone l ∨ t.OnCopperAlone l → s.SharesCopper l t

namespace Shape

variable {l : LayerStack} {s t : Shape α}

theorem exists_shared_of_sharesLayer (h : s.sharesLayer t = true) : ∃ i ∈ s.layers, i ∈ t.layers := by
  obtain ⟨i, hs, ht⟩ := List.any_eq_true.1 h
  exact ⟨i, hs, List.contains_iff_mem.1 ht⟩

/-- A common layer is copper where all layers of one of the shapes are. -/
theorem layersMeet_of_sharesLayer (h : s.sharesLayer t = true) : s.LayersMeet l t := by
  obtain ⟨i, hs, ht⟩ := exists_shared_of_sharesLayer h
  refine ⟨⟨i, hs, ht⟩, ?_⟩
  rintro (halone | halone)
  · exact ⟨i, hs, ht, halone i hs⟩
  · exact ⟨i, hs, ht, halone i ht⟩

end Shape

variable [AngularScalar α]

theorem JoinRules.sharesLayer_of_touches {r : JoinRules α} {s t : Shape α}
    (h : r.touches s t = true) : s.sharesLayer t = true := by
  simp only [touches, Bool.and_eq_true] at h
  exact h.1.1.2

/-! ## Contacts of a crawl -/

/-- What two objects of a board have in common when a crawl comes from one to the other by touching
copper. -/
structure CopperContact (c : Content α) (s : Store α) (x y : ObjectId) : Prop where
  ne : y ≠ x
  /-- What is discovered is copper of the board. -/
  copper : ∃ q ∈ c.copper, q.id = y
  /-- The layers of the two agree. -/
  layers : ∃ o p, s.get? x = some o ∧ s.get? y = some p ∧ o.shape.LayersMeet c.layers p.shape

theorem Joined.copperContact {c : Content α} {r : JoinRules α} {s : Store α} {x y : ObjectId}
    (h : Joined c r s x y .copper) : CopperContact c s x y := by
  cases h with
  | copper ho _ h =>
    obtain ⟨b, -, q, hq, hid, -⟩ := h.boxes
    obtain ⟨p, hp, htouches⟩ := h.touches
    exact ⟨h.ne, ⟨q, hq, hid⟩, _, p, ho, hp,
      Shape.layersMeet_of_sharesLayer (JoinRules.sharesLayer_of_touches htouches)⟩

namespace ConnectionIndex

variable {c : Content α} {r : JoinRules α} {s : Store α} {visited : List ObjectId}
  {seed : ObjectId} {d : Discovery}

/-- Every discovery but that of the seed is a join from where the crawl came from. -/
theorem joined_of_mem_crawl (h : d ∈ (ofContent c).crawl r s visited seed)
    (hk : d.kind ≠ .start) : ∃ x, d.arrivedFrom = some x ∧ Joined c r s x d.object d.kind := by
  by_cases hfresh : s.contains seed ∧ seed ∉ visited
  · rw [crawl_of_fresh hfresh.1 hfresh.2] at h
    rcases List.mem_cons.1 h with rfl | h
    · exact absurd rfl hk
    · obtain ⟨pre, post, hsplit⟩ := List.append_of_mem h
      obtain ⟨x, -, hfrom, hjoin⟩ := spread_traced _ _ _ hsplit
      exact ⟨x, hfrom, mem_joins_iff.1 hjoin⟩
  · rw [crawl_of_stale hfresh] at h
    cases h

/-- What a crawl discovers by touching copper is copper of the board.  It shares a layer with the
object that the crawl came from, and a copper one where one of the two has copper layers alone. -/
theorem crawl_copper_layers (c : Content α) (r : JoinRules α) (s : Store α)
    (visited : List ObjectId) (seed : ObjectId) {d : Discovery}
    (h : d ∈ (ofContent c).crawl r s visited seed) (hk : d.kind = .copper) :
    ∃ x, d.arrivedFrom = some x ∧ CopperContact c s x d.object := by
  have hstart : d.kind ≠ .start := by
    rw [hk]
    decide
  obtain ⟨x, hfrom, hjoin⟩ := joined_of_mem_crawl h hstart
  rw [hk] at hjoin
  exact ⟨x, hfrom, hjoin.copperContact⟩

/-- Three pads in a row: the first one at the top, the others at the bottom, and the first two with
silk as well. -/
def silkRings : Content Float :=
  let pad (id : ObjectId) (x : Float) (layers : List LayerId) : BoardObject Float :=
    { id, shape := .padstack ⟨⟨x, 0⟩, .circle 5, layers, 0, []⟩ }
  { (Content.empty 1 "rings" : Content Float) with
    layers := LayerStack.twoLayer.push ⟨7, "silk", .silk⟩
    store := ((Store.empty.insert (pad 0 0 [0, 7])).insert (pad 1 8 [1, 7])).insert (pad 2 16 [1]) }

/-- The crawl comes to the third pad over the copper at the bottom. -/
theorem crawl_copper_layers_silkRings :
    (⟨2, some 1, .copper⟩ : Discovery) ∈
        (ofContent silkRings).crawl ⟨0, false, false⟩ silkRings.store [] 0 ∧
      CopperContact silkRings silkRings.store 1 2 := by
  have h : (⟨2, some 1, .copper⟩ : Discovery) ∈
      (ofContent silkRings).crawl ⟨0, false, false⟩ silkRings.store [] 0 := by decide +kernel
  obtain ⟨x, hfrom, hcontact⟩ :=
    crawl_copper_layers silkRings ⟨0, false, false⟩ silkRings.store [] 0 h rfl
  cases hfrom
  exact ⟨h, hcontact⟩

/-- It comes to the second pad, as if by touching copper, over the silk: the first two pads have no
copper layer in common. -/
theorem crawl_copper_on_silk :
    (⟨1, some 0, .copper⟩ : Discovery) ∈
        (ofContent silkRings).crawl ⟨0, false, false⟩ silkRings.store [] 0 ∧
      ¬∃ o p, silkRings.store.get? 0 = some o ∧ silkRings.store.get? 1 = some p ∧
        o.shape.SharesCopper silkRings.layers p.shape := by
  refine ⟨by decide +kernel, ?_⟩
  rintro ⟨o, p, ho, hp, i, hi, hi', hcopper⟩
  have hfirst : (silkRings.store.get? 0).map (·.shape.layers) = some [0, 7] := by decide +kernel
  have hsecond : (silkRings.store.get? 1).map (·.shape.layers) = some [1, 7] := by decide +kernel
  rw [ho, Option.map_some, Option.some.injEq] at hfirst
  rw [hp, Option.map_some, Option.some.injEq] at hsecond
  rw [hfirst] at hi
  rw [hsecond] at hi'
  have hsilk : silkRings.layers.isCopper 7 = false := by decide +kernel
  rcases List.mem_cons.1 hi with rfl | hi
  · exact absurd hi' (by decide)
  · rw [List.mem_singleton.1 hi, hsilk] at hcopper
    cases hcopper

end ConnectionIndex

end Ratsnest
