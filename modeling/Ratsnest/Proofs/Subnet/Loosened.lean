import Ratsnest.Proofs.Crawl.Loosened
import Ratsnest.Proofs.Scalar.Float
import Ratsnest.Proofs.Subnet.Partition

/-!
# Pieces under looser rules

Looser rules find coarser pieces: every piece lies in one that they find, and there are no more of
these (`Extraction.loosened`).  Where objects are kept under other ids than theirs a piece can be
broken (`Extraction.loosened_breaks_piece`).
-/

namespace Ratsnest

variable {α : Type} [AngularScalar α] [RoundedAngular α] {c : Content α} {r r' : JoinRules α}
  {settings settings' : Settings α}

theorem component_subset (hc : c.Proper) (h : r.TighterThan r') (x : ObjectId) :
    component c r x ⊆ component c r' x := by
  rintro id ⟨hwired, hholds⟩
  exact ⟨hwired.loosen hc h, hholds⟩

namespace Extraction

/-- Every piece lies in one that looser rules find. -/
theorem exists_coarser (hc : c.Proper) (h : (rules settings).TighterThan (rules settings'))
    (hr : Regular c (rules settings)) (hr' : Regular c (rules settings')) {ts : List Terminal}
    {n : Subnet} (hn : n ∈ (ofTerminals settings c ts).subnets) :
    ∃ n' ∈ (ofTerminals settings' c ts).subnets, n.objects ⊆ n'.objects := by
  have hpiece : {id | id ∈ n.objects} ∈ (ofTerminals settings c ts).pieces := ⟨n, hn, rfl⟩
  rw [pieces_ofTerminals hr] at hpiece
  obtain ⟨x, hx, hobjects⟩ := hpiece
  have hpiece' : component c (rules settings') x ∈ (ofTerminals settings' c ts).pieces := by
    rw [pieces_ofTerminals hr']
    exact ⟨x, hx, rfl⟩
  obtain ⟨n', hn', hobjects'⟩ := hpiece'
  refine ⟨n', hn', ?_⟩
  intro id hid
  have hmem : id ∈ component c (rules settings) x := hobjects ▸ hid
  have hmem' : id ∈ {id | id ∈ n'.objects} := hobjects' ▸ component_subset hc h x hmem
  exact hmem'

/-- Looser rules find no more pieces: the terminals that these begin with are among those that the
others begin with. -/
theorem length_subnets_le (hc : c.Proper) (h : (rules settings).TighterThan (rules settings'))
    (hr : Regular c (rules settings)) (hr' : Regular c (rules settings')) (ts : List Terminal) :
    (ofTerminals settings' c ts).subnets.length ≤ (ofTerminals settings c ts).subnets.length := by
  have hfirsts : firsts (Wired c (rules settings')) [] (c.store.located ts) =
      firsts (Wired c (rules settings')) []
        (firsts (Wired c (rules settings)) [] (c.store.located ts)) :=
    firsts_firsts (fun x y hxy => hxy.loosen hc h) (fun _ => .refl)
      (fun hxy hyz => hxy.trans hyz) _ fun y hy => absurd hy List.not_mem_nil
  calc (ofTerminals settings' c ts).subnets.length
    _ = (firsts (Wired c (rules settings')) [] (c.store.located ts)).length :=
      (ofTerminals_spec settings' hr' ts).subnets.length_eq
    _ = (firsts (Wired c (rules settings')) []
        (firsts (Wired c (rules settings)) [] (c.store.located ts))).length := by rw [hfirsts]
    _ ≤ (firsts (Wired c (rules settings)) [] (c.store.located ts)).length :=
      length_firsts_le _ _
    _ = (ofTerminals settings c ts).subnets.length :=
      (ofTerminals_spec settings hr ts).subnets.length_eq.symm

/-- Looser rules lose no connection.  What a crawl discovers, one from the same seed discovers
under them, and where joins go both ways every piece of a net lies in one that they find, so the
pieces do not become more. -/
theorem loosened (hc : c.Proper) :
    (∀ r r' : JoinRules α, r.TighterThan r' → ∀ visited seed,
      objectsOf ((ConnectionIndex.ofContent c).crawl r c.store visited seed) ⊆
        objectsOf ((ConnectionIndex.ofContent c).crawl r' c.store visited seed)) ∧
    ∀ settings settings' : Settings α, (rules settings).TighterThan (rules settings') →
      Regular c (rules settings) → Regular c (rules settings') → ∀ ts,
        (∀ n ∈ (ofTerminals settings c ts).subnets,
          ∃ n' ∈ (ofTerminals settings' c ts).subnets, n.objects ⊆ n'.objects) ∧
        (ofTerminals settings' c ts).subnets.length ≤
          (ofTerminals settings c ts).subnets.length := by
  constructor
  · intro r r' h visited seed
    exact objectsOf_crawl_subset hc h visited seed
  · intro settings settings' h hr hr' ts
    exact ⟨fun n hn => exists_coarser hc h hr hr' hn, length_subnets_le hc h hr hr' ts⟩

/-- With more bloat the pad apart is joined to the two that touch. -/
theorem loosened_twoTouching :
    let standard : Settings Float := .standard
    let wide : Settings Float := { standard with bloat := 100 }
    let ts : List Terminal := [⟨"A", "1", ∅⟩, ⟨"B", "1", ∅⟩, ⟨"C", "1", ∅⟩]
    twoTouching.Proper ∧ (rules standard).TighterThan (rules wide) ∧
      Regular twoTouching (rules standard) ∧ Regular twoTouching (rules wide) ∧
      (ofTerminals standard twoTouching ts).subnets.map (·.objects) = [[0, 1], [2]] ∧
      (ofTerminals wide twoTouching ts).subnets.map (·.objects) = [[0, 1, 2]] ∧
      (∀ n ∈ (ofTerminals standard twoTouching ts).subnets,
        ∃ n' ∈ (ofTerminals wide twoTouching ts).subnets, n.objects ⊆ n'.objects) ∧
      objectsOf ((ConnectionIndex.ofContent twoTouching).crawl (rules standard)
          twoTouching.store [] 0) ⊆
        objectsOf ((ConnectionIndex.ofContent twoTouching).crawl (rules wide)
          twoTouching.store [] 0) := by
  intro standard wide ts
  have hproper : twoTouching.Proper := .of_straight (by decide +kernel) (by decide +kernel)
  have hwide : (rules standard).TighterThan (rules wide) := by decide +kernel
  have hr : Regular twoTouching (rules standard) := by decide +kernel
  have hr' : Regular twoTouching (rules wide) := by decide +kernel
  obtain ⟨hcrawl, hpieces⟩ := loosened hproper
  exact ⟨hproper, hwide, hr, hr', by decide +kernel, by decide +kernel,
    (hpieces _ _ hwide hr hr' ts).1, hcrawl _ _ hwide [] 0⟩

/-- Four pads, the last two kept under each other's ids.  The third one touches the two before. -/
def straddlingPads : Content Float := keptUnder
  [(0, pinPad 0 0 0), (1, Session.roundPad 1 15), (2, Session.roundPad 3 8), (3, pinPad 2 100 1)]

/-- Where pads are kept under each other's ids looser rules can break a piece. -/
theorem loosened_breaks_piece :
    let standard : Settings Float := .standard
    let wide : Settings Float := { standard with bloat := 6 }
    let ts : List Terminal := [⟨"A", "1", ∅⟩, ⟨"B", "1", ∅⟩]
    Board.ofText? (Board.ofContent straddlingPads).text = some (.ofContent straddlingPads) ∧
      straddlingPads.Proper ∧ (rules standard).TighterThan (rules wide) ∧
      Mutual straddlingPads (rules standard) ∧ Mutual straddlingPads (rules wide) ∧
      ¬straddlingPads.store.Keyed ∧
      (ofTerminals standard straddlingPads ts).subnets.map (·.objects) = [[0], [2, 1]] ∧
      (ofTerminals wide straddlingPads ts).subnets.map (·.objects) = [[0, 1], [2]] ∧
      ¬∀ n ∈ (ofTerminals standard straddlingPads ts).subnets,
        ∃ n' ∈ (ofTerminals wide straddlingPads ts).subnets, n.objects ⊆ n'.objects := by
  intro standard wide ts
  have hboard : Board.ofText? (Board.ofContent straddlingPads).text =
      some (.ofContent straddlingPads) := Board.ofText?_text_of_legible (by decide +kernel)
  have hproper : straddlingPads.Proper := .of_straight (by decide +kernel) (by decide +kernel)
  have hwide : (rules standard).TighterThan (rules wide) := by decide +kernel
  have hr : Mutual straddlingPads (rules standard) := by decide +kernel
  have hr' : Mutual straddlingPads (rules wide) := by decide +kernel
  refine ⟨hboard, hproper, hwide, hr, hr', by decide +kernel, by decide +kernel,
    by decide +kernel, ?_⟩
  -- The objects 2 and 1 are in one piece, and the looser rules leave them apart.
  decide +kernel

end Extraction

end Ratsnest
