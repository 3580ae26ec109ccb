import Mathlib.Data.Finset.Card
import Mathlib.Data.Prod.Lex
import Ratsnest.Proofs.Spanning.Links

/-!
# Foremost crossings

Which of the shortest links a round of `LinkTable.grow` takes.  A `Crossing` is a pair of objects,
one in a joined subnet and one in a subnet outside.  Of all crossings that the policy admits the
round takes a shortest one, and of these the one that comes first by the numbers of the subnets
and the places of the objects in them (`Foremost`).  This is what a look at every pair of objects
would find: that the table keeps one link for two subnets, that its lower half is the upper one
seen from the other end, and that the search between two subnets ends at objects that touch, makes
no difference (`LinkTable.grow_greedy`).
-/

namespace Ratsnest

universe u v w

variable {α : Type u}

/-! ## The first of the least -/

/-- Whether `x` is an element of `xs` with the least `d`, and the elements before it are greater. -/
def FirstLeast {κ : Type v} [Scalar α] (d : κ → α) (xs : List κ) (x : κ) : Prop :=
  ∃ pre post, xs = pre ++ x :: post ∧ (∀ y ∈ pre, d x < d y) ∧ ∀ y ∈ post, ¬d y < d x

namespace FirstLeast

variable {κ : Type v} {ι : Type w} [Scalar α] {d : κ → α} {xs : List κ} {x y b : κ}

theorem mem (h : FirstLeast d xs x) : x ∈ xs := by
  obtain ⟨pre, post, rfl, -, -⟩ := h
  exact List.mem_append_right pre List.mem_cons_self

theorem head (h : ∀ y ∈ xs, ¬d y < d x) : FirstLeast d (x :: xs) x :=
  ⟨[], xs, rfl, fun _ hy => absurd hy List.not_mem_nil, h⟩

section Linear

variable [LinearScalar α]

theorem not_lt (h : FirstLeast d xs x) (hy : y ∈ xs) : ¬d y < d x := by
  obtain ⟨pre, post, rfl, hpre, hpost⟩ := h
  intro hlt
  rcases List.mem_append.1 hy with hy | hy
  · exact OrderedScalar.lt_irrefl _ (OrderedScalar.lt_trans hlt (hpre y hy))
  · rcases List.mem_cons.1 hy with rfl | hy
    · exact OrderedScalar.lt_irrefl _ hlt
    · exact hpost y hy hlt

/-- Something in front that is greater makes no difference. -/
theorem cons_of_lt (h : FirstLeast d (y :: xs) x) (hlt : d y < d b) :
    FirstLeast d (b :: y :: xs) x := by
  have hxb : d x < d b := by
    obtain ⟨pre, post, heq, hpre, -⟩ := h
    rcases List.cons_eq_append_iff.1 heq with ⟨-, heq⟩ | ⟨pre, rfl, -⟩
    · rwa [(List.cons.inj heq).1]
    · exact OrderedScalar.lt_trans (hpre y List.mem_cons_self) hlt
  obtain ⟨pre, post, heq, hpre, hpost⟩ := h
  refine ⟨b :: pre, post, by rw [heq, List.cons_append], ?_, hpost⟩
  intro z hz
  rcases List.mem_cons.1 hz with rfl | hz
  · exact hxb
  · exact hpre z hz

/-- Something that comes second and is not less than the first makes no difference. -/
theorem cons_of_not_lt (h : FirstLeast d (b :: xs) x) (hlt : ¬d y < d b)
    (hy : Scalar.finite (d y)) : FirstLeast d (b :: y :: xs) x := by
  obtain ⟨pre, post, heq, hpre, hpost⟩ := h
  rcases List.cons_eq_append_iff.1 heq with ⟨rfl, heq⟩ | ⟨pre, rfl, rfl⟩
  · obtain ⟨rfl, rfl⟩ := List.cons.inj heq
    refine head fun z hz => ?_
    rcases List.mem_cons.1 hz with rfl | hz
    · exact hlt
    · exact hpost z hz
  · refine ⟨b :: y :: pre, post, rfl, ?_, hpost⟩
    intro z hz
    rcases List.mem_cons.1 hz with rfl | hz
    · exact hpre z List.mem_cons_self
    · rcases List.mem_cons.1 hz with rfl | hz
      · exact (LinearScalar.lt_or_lt hy (hpre b List.mem_cons_self)).resolve_right hlt
      · exact hpre z (List.mem_cons_of_mem b hz)

/-- In a list that is made of pieces the first of the least is the one of its piece. -/
theorem exists_place {f : ι → List κ} {is : List ι} (h : FirstLeast d (is.flatMap f) x) :
    ∃ (k : ℕ) (i : ι), is[k]? = some i ∧ FirstLeast d (f i) x ∧ ∀ (k' : ℕ) (i' : ι) (y : κ),
      is[k']? = some i' → y ∈ f i' → ¬d y < d x ∧ (k' < k → d x < d y) := by
  have hmem {k' : ℕ} {i' : ι} {y : κ} (hi : is[k']? = some i') (hy : y ∈ f i') :
      y ∈ is.flatMap f := List.mem_flatMap.2 ⟨i', List.mem_of_getElem? hi, hy⟩
  suffices hplace : ∃ (k : ℕ) (i : ι), is[k]? = some i ∧ FirstLeast d (f i) x ∧
      ∀ k' < k, ∀ i' y, is[k']? = some i' → y ∈ f i' → d x < d y by
    obtain ⟨k, i, hk, hi, hpre⟩ := hplace
    exact ⟨k, i, hk, hi, fun k' i' y hk' hy =>
      ⟨h.not_lt (hmem hk' hy), fun hlt => hpre k' hlt i' y hk' hy⟩⟩
  clear hmem
  induction is with
  | nil => exact absurd h.mem List.not_mem_nil
  | cons i is ih =>
    obtain ⟨pre, post, heq, hpre, hpost⟩ := h
    have hlater (pre' : List κ) (hpre' : pre = f i ++ pre')
        (heq' : is.flatMap f = pre' ++ x :: post) : ∃ (k : ℕ) (i' : ι), (i :: is)[k]? = some i' ∧
        FirstLeast d (f i') x ∧ ∀ k' < k, ∀ i'' y, (i :: is)[k']? = some i'' → y ∈ f i'' →
          d x < d y := by
      subst hpre'
      obtain ⟨k, j, hk, hj, hbefore⟩ :=
        ih ⟨pre', post, heq', fun y hy => hpre y (List.mem_append_right _ hy), hpost⟩
      refine ⟨k + 1, j, by rwa [List.getElem?_cons_succ], hj, ?_⟩
      intro k' hk' i' y hi' hy
      cases k' with
      | zero =>
        obtain rfl := Option.some.inj hi'
        exact hpre y (List.mem_append_left _ hy)
      | succ k' => exact hbefore k' (Nat.lt_of_succ_lt_succ hk') i' y hi' hy
    rw [List.flatMap_cons] at heq
    rcases List.append_eq_append_iff.1 heq with ⟨pre', hpre', heq'⟩ | ⟨rest, hfi, hrest⟩
    · exact hlater pre' hpre' heq'
    · rcases List.cons_eq_append_iff.1 hrest with ⟨rfl, heq'⟩ | ⟨rest, rfl, rfl⟩
      · exact hlater [] (by rw [hfi]; simp) heq'
      · refine ⟨0, i, rfl, ⟨pre, rest, hfi, hpre, ?_⟩, fun k' hk' => absurd hk' k'.not_lt_zero⟩
        exact fun y hy => hpost y (List.mem_append_left _ hy)

/-- The same where the pieces are numbered in order. -/
theorem exists_number {f : ℕ → List κ} {is : List ℕ} (hsorted : is.Pairwise (· < ·))
    (h : FirstLeast d (is.flatMap f) x) :
    ∃ i ∈ is, FirstLeast d (f i) x ∧
      ∀ i' ∈ is, ∀ y ∈ f i', ¬d y < d x ∧ (i' < i → d x < d y) := by
  obtain ⟨k, i, hk, hi, hbefore⟩ := h.exists_place
  refine ⟨i, List.mem_of_getElem? hk, hi, ?_⟩
  intro i' hi' y hy
  obtain ⟨k', hk'⟩ := List.getElem?_of_mem hi'
  refine ⟨(hbefore k' i' y hk' hy).1, fun hlt => (hbefore k' i' y hk' hy).2 ?_⟩
  by_contra hle
  rcases Nat.lt_or_eq_of_le (Nat.le_of_not_lt hle) with hkk | rfl
  · obtain ⟨hlen, rfl⟩ := List.getElem?_eq_some_iff.1 hk
    obtain ⟨hlen', rfl⟩ := List.getElem?_eq_some_iff.1 hk'
    exact Nat.lt_asymm hlt (List.pairwise_iff_getElem.1 hsorted k k' hlen hlen' hkk)
  · rw [hk] at hk'
    exact Nat.ne_of_gt hlt (Option.some.inj hk')

end Linear

end FirstLeast

/-! ## Crossings -/

/-- A pair of objects on the two sides of a cut. -/
structure Crossing where
  /-- The number of the subnet that is not joined yet. -/
  outside : ℕ
  /-- The number of the joined subnet. -/
  inside : ℕ
  /-- The place of the first object among those of the subnet outside. -/
  outer : ℕ
  /-- The place of the second object among those of the subnet inside. -/
  inner : ℕ
  deriving DecidableEq

namespace Crossing

/-- What decides between crossings of one length: the number outside, the number inside, then the
place in the subnet with the lower number and the place in the other one. -/
def precedence (x : Crossing) : ℕ ×ₗ ℕ ×ₗ ℕ ×ₗ ℕ :=
  toLex (x.outside, toLex (x.inside,
    toLex (if x.inside < x.outside then (x.inner, x.outer) else (x.outer, x.inner))))

theorem precedence_injective : Function.Injective precedence := by
  rintro ⟨i, j, k, l⟩ ⟨i', j', k', l'⟩ h
  simp only [precedence, toLex_inj, Prod.mk.injEq] at h
  obtain ⟨rfl, rfl, h⟩ := h
  split at h
  · obtain ⟨rfl, rfl⟩ := Prod.mk.inj h
    rfl
  · obtain ⟨rfl, rfl⟩ := Prod.mk.inj h
    rfl

theorem precedence_lt_iff {x y : Crossing} : x.precedence < y.precedence ↔
    x.outside < y.outside ∨ x.outside = y.outside ∧ (x.inside < y.inside ∨
      x.inside = y.inside ∧ toLex (if x.inside < x.outside then (x.inner, x.outer) else
        (x.outer, x.inner)) < toLex (if y.inside < y.outside then (y.inner, y.outer) else
        (y.outer, y.inner))) := by
  simp only [precedence, Prod.Lex.toLex_lt_toLex]

/-- Whether a crossing leads out of the joined subnets. -/
def Leaves (joined : List ℕ) (x : Crossing) : Prop := x.inside ∈ joined ∧ x.outside ∉ joined

/-- The same pair seen from the other side. -/
def swap (x : Crossing) : Crossing := ⟨x.inside, x.outside, x.inner, x.outer⟩

variable [AngularScalar α]

/-- Whether `l` leads from the object inside to the one outside: both are there, one of them is
selected where only those count, and the bridge between them is finite.  It is measured from the
subnet with the lower number. -/
structure Spans (s : Store α) (policy : Policy) (subnets : List Subnet) (x : Crossing)
    (l : Link α) : Prop where
  source : ∃ a, subnets[x.inside]? = some a ∧ a.objects[x.inner]? = some l.source
  target : ∃ b, subnets[x.outside]? = some b ∧ b.objects[x.outer]? = some l.target
  bridge : ∃ o p, s.get? l.source = some o ∧ s.get? l.target = some p ∧
    (policy.onlySelected → o.hasFlags .selected ∨ p.hasFlags .selected) ∧
    if x.inside < x.outside then o.shape.bridge? policy p.shape = some l.bridge
    else p.shape.bridge? policy o.shape = some l.bridge.swap

variable {s : Store α} {policy : Policy} {subnets : List Subnet} {x y : Crossing} {l m : Link α}

theorem Spans.swap (h : x.Spans s policy subnets l) (hne : x.inside ≠ x.outside) :
    x.swap.Spans s policy subnets l.swap := by
  obtain ⟨hsource, htarget, o, p, ho, hp, hsel, hb⟩ := h
  refine ⟨htarget, hsource, p, o, hp, ho, fun h => (hsel h).symm, ?_⟩
  rcases Nat.lt_or_gt_of_ne hne with hlt | hgt
  · rw [if_pos hlt] at hb
    rwa [if_neg (Nat.not_lt_of_gt hlt : ¬x.swap.inside < x.swap.outside)]
  · rw [if_neg (Nat.not_lt_of_gt hgt)] at hb
    have hlt : x.swap.inside < x.swap.outside := hgt
    rwa [if_pos hlt]

theorem spans_iff_of_lt (h : x.inside < x.outside) : x.Spans s policy subnets l ↔
    (∃ a, subnets[x.inside]? = some a ∧ a.objects[x.inner]? = some l.source) ∧
      (∃ b, subnets[x.outside]? = some b ∧ b.objects[x.outer]? = some l.target) ∧
      Link.between? s policy (l.source, l.target) = some l := by
  rw [Link.between?_eq_some_iff]
  constructor
  · rintro ⟨hsource, htarget, o, p, ho, hp, hsel, hb⟩
    rw [if_pos h] at hb
    exact ⟨hsource, htarget, rfl, o, p, ho, hp, hsel, hb⟩
  · rintro ⟨hsource, htarget, -, o, p, ho, hp, hsel, hb⟩
    exact ⟨hsource, htarget, o, p, ho, hp, hsel, by rwa [if_pos h]⟩

theorem Spans.finite (h : x.Spans s policy subnets l) : Scalar.finite l.bridge.d2 := by
  obtain ⟨-, -, o, p, -, -, -, hb⟩ := h
  split at hb
  · exact Shape.finite_of_bridge? hb
  · have hfin := Shape.finite_of_bridge? hb
    exact hfin

/-- The objects of a crossing determine the link. -/
theorem Spans.unique (hl : x.Spans s policy subnets l) (hm : x.Spans s policy subnets m) :
    l = m := by
  obtain ⟨⟨a, ha, hla⟩, ⟨b, hb, hlb⟩, o, p, ho, hp, -, hlbr⟩ := hl
  obtain ⟨⟨a', ha', hma⟩, ⟨b', hb', hmb⟩, o', p', ho', hp', -, hmbr⟩ := hm
  obtain rfl := Option.some.inj (ha.symm.trans ha')
  obtain rfl := Option.some.inj (hb.symm.trans hb')
  obtain ⟨i, j, c⟩ := l
  obtain ⟨i', j', e⟩ := m
  obtain rfl : i = i' := Option.some.inj (hla.symm.trans hma)
  obtain rfl : j = j' := Option.some.inj (hlb.symm.trans hmb)
  obtain rfl := Option.some.inj (ho.symm.trans ho')
  obtain rfl := Option.some.inj (hp.symm.trans hp')
  have hce : c = e := by
    by_cases hlt : x.inside < x.outside
    · rw [if_pos hlt] at hlbr hmbr
      exact Option.some.inj (hlbr.symm.trans hmbr)
    · rw [if_neg hlt] at hlbr hmbr
      exact congrArg Bridge.swap (Option.some.inj (hlbr.symm.trans hmbr))
  rw [hce]

end Crossing

section Angular

variable [AngularScalar α]

/-- Whether `l` along the crossing `x` is the link to take next: no link out of the joined subnets
is shorter, and those that come first are longer. -/
structure Foremost (s : Store α) (policy : Policy) (subnets : List Subnet) (joined : List ℕ)
    (x : Crossing) (l : Link α) : Prop where
  leaves : x.Leaves joined
  spans : x.Spans s policy subnets l
  least : ∀ (y : Crossing) (m : Link α), y.Leaves joined → y.Spans s policy subnets m →
    ¬m.bridge.d2 < l.bridge.d2
  first : ∀ (y : Crossing) (m : Link α), y.Leaves joined → y.Spans s policy subnets m →
    y.precedence < x.precedence → l.bridge.d2 < m.bridge.d2

/-- Whether `rats` are the rat lines that join the subnets greedily, from the joined ones on: each
along the foremost link out of those joined until then, from inside to outside, as long as there
is one. -/
inductive Greedy (s : Store α) (policy : Policy) (subnets : List Subnet) :
    List ℕ → List (RatLine α) → Prop where
  | closed {joined : List ℕ} :
    (∀ (x : Crossing) (l : Link α), x.Leaves joined → ¬x.Spans s policy subnets l) →
    Greedy s policy subnets joined []
  | draw {joined : List ℕ} {x : Crossing} {l : Link α} {rats : List (RatLine α)} :
    Foremost s policy subnets joined x l →
    Greedy s policy subnets (x.outside :: joined) rats →
    Greedy s policy subnets joined
      ({ p1 := l.bridge.a
         p2 := l.bridge.b
         layer1 := l.bridge.layerA
         layer2 := l.bridge.layerB
         anchor1 := l.source
         anchor2 := l.target
         viaEquivalent := l.bridge.d2 == 0 } :: rats)

variable {s : Store α} {policy : Policy} {subnets : List Subnet} {joined : List ℕ}
  {x y : Crossing} {l m : Link α}

theorem Foremost.eq (hx : Foremost s policy subnets joined x l)
    (hy : Foremost s policy subnets joined y m) : x = y := by
  apply Crossing.precedence_injective
  rcases lt_trichotomy x.precedence y.precedence with hlt | heq | hgt
  · exact absurd (hy.first x l hx.leaves hx.spans hlt) (hx.least y m hy.leaves hy.spans)
  · exact heq
  · exact absurd (hx.first y m hy.leaves hy.spans hgt) (hy.least x l hx.leaves hx.spans)

/-- There is only one greedy way to join the subnets. -/
theorem Greedy.unique {rats rats' : List (RatLine α)} (h : Greedy s policy subnets joined rats)
    (h' : Greedy s policy subnets joined rats') : rats = rats' := by
  induction h generalizing rats' with
  | closed hnone =>
    cases h' with
    | closed => rfl
    | draw hx => exact absurd hx.spans (hnone _ _ hx.leaves)
  | draw hx _ ih =>
    cases h' with
    | closed hnone => exact absurd hx.spans (hnone _ _ hx.leaves)
    | draw hy rest =>
      obtain rfl := hx.eq hy
      obtain rfl := hx.spans.unique hy.spans
      rw [ih rest]

variable [LinearScalar α]

namespace Link

/-- The search between two subnets finds the first of the shortest links. -/
theorem firstLeast_of_shortest (best : Option (Link α)) (pairs : List (ObjectId × ObjectId))
    (h : shortest s policy best pairs = some l) :
    FirstLeast (·.bridge.d2) (best.toList ++ pairs.filterMap (between? s policy)) l := by
  induction pairs generalizing best with
  | nil =>
    rw [shortest] at h
    subst h
    exact .head fun _ hy => absurd hy List.not_mem_nil
  | cons pair pairs ih =>
    rw [shortest] at h
    rw [List.filterMap_cons]
    cases hp : between? s policy pair with
    | none =>
      rw [hp] at h
      exact ih best h
    | some m =>
      rw [hp] at h
      dsimp only at h ⊢
      split at h
      · rename_i himp
        -- Whatever was best so far, it is longer than the new link.
        have hfront (h : FirstLeast (·.bridge.d2)
            (m :: pairs.filterMap (between? s policy)) l) : FirstLeast (·.bridge.d2)
            (best.toList ++ m :: pairs.filterMap (between? s policy)) l := by
          cases best with
          | none => exact h
          | some b => exact h.cons_of_lt (improves_iff.1 himp b rfl)
        apply hfront
        split at h
        · rename_i htouch
          obtain rfl := Option.some.inj h
          apply FirstLeast.head
          intro n hn
          obtain ⟨q, -, hq⟩ := List.mem_filterMap.1 hn
          exact not_lt_of_touching htouch hq
        · exact ih (some m) h
      · rename_i himp
        cases best with
        | none => exact absurd rfl himp
        | some b =>
          have hlt : ¬m.bridge.d2 < b.bridge.d2 := by simpa [improves] using himp
          obtain ⟨-, o, p, -, -, -, hb⟩ := between?_eq_some_iff.1 hp
          exact (ih (some b) h).cons_of_not_lt hlt (Shape.finite_of_bridge? hb)

/-- The shortest link between two subnets, by the places of its objects. -/
theorem exists_place_of_ofSubnets? {a b : Subnet} (h : ofSubnets? s policy a b = some l) :
    ∃ u v : ℕ, a.objects[u]? = some l.source ∧ b.objects[v]? = some l.target ∧
      between? s policy (l.source, l.target) = some l ∧
      ∀ (u' v' : ℕ) (m : Link α), a.objects[u']? = some m.source →
        b.objects[v']? = some m.target → between? s policy (m.source, m.target) = some m →
        ¬m.bridge.d2 < l.bridge.d2 ∧
          (toLex (u', v') < toLex (u, v) → l.bridge.d2 < m.bridge.d2) := by
  have hfirst := firstLeast_of_shortest none _ h
  rw [Option.toList_none, List.nil_append, List.filterMap_flatMap] at hfirst
  simp only [List.filterMap_map] at hfirst
  obtain ⟨u, i, hu, hi, hbefore⟩ := hfirst.exists_place
  rw [List.filterMap_eq_flatMap_toList] at hi
  obtain ⟨v, j, hv, hj, hbefore'⟩ := hi.exists_place
  have hij : between? s policy (i, j) = some l := Option.mem_toList.1 hj.mem
  obtain ⟨hpair, -⟩ := between?_eq_some_iff.1 hij
  obtain ⟨rfl, rfl⟩ := Prod.mk.inj hpair
  refine ⟨u, v, hu, hv, hij, ?_⟩
  intro u' v' m hu' hv' hm
  have hmem : m ∈ b.objects.filterMap (between? s policy ∘ (m.source, ·)) :=
    List.mem_filterMap.2 ⟨m.target, List.mem_of_getElem? hv', hm⟩
  refine ⟨(hbefore u' _ m hu' hmem).1, fun hlt => ?_⟩
  rcases Prod.Lex.toLex_lt_toLex.1 hlt with hlt | ⟨rfl, hlt⟩
  · exact (hbefore u' _ m hu' hmem).2 hlt
  · obtain hsource : l.source = m.source := Option.some.inj (hu.symm.trans hu')
    refine (hbefore' v' m.target m hv' (Option.mem_toList.2 ?_)).2 hlt
    rw [Function.comp_apply, hsource]
    exact hm

end Link

namespace LinkTable

/-- The entry of the table for two subnets is the foremost link between them. -/
theorem exists_crossing_of_get? {i j : ℕ} (h : (ofSubnets s policy subnets).get? j i = some l)
    (hi : i < subnets.length) (hj : j < subnets.length) :
    ∃ x : Crossing, x.outside = i ∧ x.inside = j ∧ x.Spans s policy subnets l ∧
      ∀ (y : Crossing) (m : Link α), y.outside = i → y.inside = j →
        y.Spans s policy subnets m → ¬m.bridge.d2 < l.bridge.d2 ∧
          (y.precedence < x.precedence → l.bridge.d2 < m.bridge.d2) := by
  -- Seen from the subnet with the lower number.
  have hup {i j : ℕ} {l : Link α} (hi : i < subnets.length) (hj : j < subnets.length)
      (hlt : j < i) (h : (ofSubnets s policy subnets).get? j i = some l) :
      ∃ u v : ℕ, (Crossing.mk i j v u).Spans s policy subnets l ∧
        ∀ (u' v' : ℕ) (m : Link α), (Crossing.mk i j v' u').Spans s policy subnets m →
          ¬m.bridge.d2 < l.bridge.d2 ∧
            (toLex (u', v') < toLex (u, v) → l.bridge.d2 < m.bridge.d2) := by
    rw [get?_ofSubnets_of_lt (i := ⟨j, hj⟩) (j := ⟨i, hi⟩) hlt] at h
    obtain ⟨u, v, hu, hv, hl, hfirst⟩ := Link.exists_place_of_ofSubnets? h
    have hsub (k : ℕ) (hk : k < subnets.length) : subnets[k]? = some subnets[k] :=
      List.getElem?_eq_getElem hk
    refine ⟨u, v, (Crossing.spans_iff_of_lt hlt).2
      ⟨⟨_, hsub j hj, hu⟩, ⟨_, hsub i hi, hv⟩, hl⟩, ?_⟩
    intro u' v' m hm
    obtain ⟨⟨a, ha, hu'⟩, ⟨b, hb, hv'⟩, hm⟩ := (Crossing.spans_iff_of_lt hlt).1 hm
    obtain rfl := Option.some.inj ((hsub j hj).symm.trans ha)
    obtain rfl := Option.some.inj ((hsub i hi).symm.trans hb)
    exact hfirst u' v' m hu' hv' hm
  rcases Nat.lt_trichotomy j i with hlt | rfl | hgt
  · obtain ⟨u, v, hl, hfirst⟩ := hup hi hj hlt h
    refine ⟨⟨i, j, v, u⟩, rfl, rfl, hl, ?_⟩
    rintro ⟨_, _, v', u'⟩ m rfl rfl hm
    refine ⟨(hfirst u' v' m hm).1, fun hp => (hfirst u' v' m hm).2 ?_⟩
    simpa [Crossing.precedence_lt_iff, hlt] using hp
  · rw [get?_self] at h
    cases h
  · rw [get?_swap] at h
    obtain ⟨k, hk, rfl⟩ := Option.map_eq_some_iff.1 h
    obtain ⟨u, v, hl, hfirst⟩ := hup hj hi hgt hk
    refine ⟨⟨i, j, u, v⟩, rfl, rfl, hl.swap (Nat.ne_of_lt hgt), ?_⟩
    rintro ⟨_, _, u', v'⟩ m rfl rfl hm
    have hm' := hfirst u' v' m.swap (hm.swap (Nat.ne_of_gt hgt))
    refine ⟨hm'.1, fun hp => hm'.2 ?_⟩
    simpa [Crossing.precedence_lt_iff, Nat.not_lt_of_gt hgt] using hp

theorem exists_get?_of_spans (h : y.Spans s policy subnets m) (hne : y.inside ≠ y.outside) :
    y.inside < subnets.length ∧ y.outside < subnets.length ∧
      ∃ l, (ofSubnets s policy subnets).get? y.inside y.outside = some l := by
  have hlt {y : Crossing} {m : Link α} (h : y.Spans s policy subnets m)
      (hlt : y.inside < y.outside) : y.inside < subnets.length ∧ y.outside < subnets.length ∧
      ∃ l, (ofSubnets s policy subnets).get? y.inside y.outside = some l := by
    obtain ⟨⟨a, ha, hsource⟩, ⟨b, hb, htarget⟩, hm⟩ := (Crossing.spans_iff_of_lt hlt).1 h
    obtain ⟨hi, rfl⟩ := List.getElem?_eq_some_iff.1 ha
    obtain ⟨hj, rfl⟩ := List.getElem?_eq_some_iff.1 hb
    refine ⟨hi, hj, ?_⟩
    rw [get?_ofSubnets_of_lt (i := ⟨_, hi⟩) (j := ⟨_, hj⟩) hlt]
    refine Option.ne_none_iff_exists'.1 fun hnone => Link.ofSubnets?_eq_none hnone m ?_
    exact ⟨List.mem_of_getElem? hsource, List.mem_of_getElem? htarget,
      (Link.between?_eq_some_iff.1 hm).2⟩
  rcases Nat.lt_or_gt_of_ne hne with hlt' | hgt
  · exact hlt h hlt'
  · obtain ⟨hi, hj, l, hl⟩ := hlt (h.swap hne) hgt
    refine ⟨hj, hi, l.swap, ?_⟩
    rw [get?_swap]
    exact Option.map_eq_some_iff.2 ⟨l, hl, rfl⟩

/-- Folding keeps the first of the least. -/
theorem firstLeast_of_foldl (xs : List (ℕ × Link α)) (best : Option (ℕ × Link α))
    (hfin : ∀ y ∈ xs, Scalar.finite y.2.bridge.d2) {z : ℕ × Link α}
    (h : xs.foldl keepShorter best = some z) :
    FirstLeast (·.2.bridge.d2) (best.toList ++ xs) z := by
  induction xs generalizing best with
  | nil =>
    rw [List.foldl_nil] at h
    subst h
    exact .head fun _ hy => absurd hy List.not_mem_nil
  | cons y xs ih =>
    have hrest (y : ℕ × Link α) (hy : y ∈ xs) := hfin y (List.mem_cons_of_mem _ hy)
    rw [List.foldl_cons] at h
    cases best with
    | none => exact ih (some y) hrest h
    | some b =>
      rw [keepShorter_some] at h
      split at h
      · rename_i hlt
        exact (ih (some y) hrest h).cons_of_lt hlt
      · rename_i hlt
        exact (ih (some b) hrest h).cons_of_not_lt hlt (hfin y List.mem_cons_self)

theorem finite_of_get? {i j : ℕ} (h : (ofSubnets s policy subnets).get? j i = some l)
    (hi : i < subnets.length) (hj : j < subnets.length) : Scalar.finite l.bridge.d2 := by
  obtain ⟨x, -, -, hspans, -⟩ := exists_crossing_of_get? h hi hj
  exact hspans.finite

/-- Of the shortest entries that lead out of the joined subnets a round takes the one with the
lowest number outside, then the lowest number inside. -/
theorem nearest?_first {t : LinkTable α} {i : ℕ}
    (hfin : ∀ (j k : ℕ) (m : Link α), j < t.size → k < t.size → t.get? j k = some m →
      Scalar.finite m.bridge.d2) (h : t.nearest? joined = some (i, l)) :
    i < t.size ∧ i ∉ joined ∧ ∃ j < t.size, j ∈ joined ∧ t.get? j i = some l ∧
      ∀ (j' i' : ℕ) (m : Link α), j' < t.size → j' ∈ joined → i' < t.size → i' ∉ joined →
        t.get? j' i' = some m → ¬m.bridge.d2 < l.bridge.d2 ∧
          (i' < i ∨ i' = i ∧ j' < j → l.bridge.d2 < m.bridge.d2) := by
  have hfin' : ∀ y ∈ ((List.range t.size).partition joined.contains).2.flatMap fun i =>
      ((List.range t.size).partition joined.contains).1.filterMap fun j =>
        (t.get? j i).map (i, ·), Scalar.finite y.2.bridge.d2 := by
    intro y hy
    obtain ⟨hi, -, j, hj, -, hget⟩ := mem_candidates_iff.1 hy
    exact hfin j y.1 y.2 hj hi hget
  have hfirst := firstLeast_of_foldl _ none hfin' h
  rw [Option.toList_none, List.nil_append, List.partition_eq_filter_filter] at hfirst
  have hsorted (p : ℕ → Bool) : ((List.range t.size).filter p).Pairwise (· < ·) :=
    List.pairwise_lt_range.filter p
  have hinside (j : ℕ) : j ∈ (List.range t.size).filter joined.contains ↔
      j < t.size ∧ j ∈ joined := by simp
  have houtside (k : ℕ) : k ∈ (List.range t.size).filter (not ∘ joined.contains) ↔
      k < t.size ∧ k ∉ joined := by simp
  obtain ⟨i', hi', hrow, hrows⟩ := hfirst.exists_number (hsorted _)
  rw [List.filterMap_eq_flatMap_toList] at hrow
  obtain ⟨j, hj, hentry, hentries⟩ := hrow.exists_number (hsorted _)
  obtain ⟨l', hget, heq⟩ := Option.map_eq_some_iff.1 (Option.mem_toList.1 hentry.mem)
  obtain ⟨rfl, rfl⟩ := Prod.mk.inj heq
  rw [houtside] at hi'
  rw [hinside] at hj
  refine ⟨hi'.1, hi'.2, j, hj.1, hj.2, hget, ?_⟩
  intro j' k m hj' hin hk hout hm
  have hmem : (k, m) ∈ ((List.range t.size).filter joined.contains).filterMap
      fun j => (t.get? j k).map (k, ·) :=
    List.mem_filterMap.2 ⟨j', (hinside j').2 ⟨hj', hin⟩, by rw [hm, Option.map_some]⟩
  have hrow' := hrows k ((houtside k).2 ⟨hk, hout⟩) (k, m) hmem
  refine ⟨hrow'.1, ?_⟩
  rintro (hlt | ⟨rfl, hlt⟩)
  · exact hrow'.2 hlt
  · refine (hentries j' ((hinside j').2 ⟨hj', hin⟩) (k, m) ?_).2 hlt
    rw [hm, Option.map_some]
    exact List.mem_singleton_self _

/-- The link that a round takes is the foremost one. -/
theorem nearest?_foremost {i : ℕ}
    (h : (ofSubnets s policy subnets).nearest? joined = some (i, l)) :
    ∃ x : Crossing, x.outside = i ∧ Foremost s policy subnets joined x l := by
  obtain ⟨hi, hout, j, hj, hin, hget, hfirst⟩ :=
    nearest?_first (fun j k m hj hk hm => finite_of_get? hm hk hj) h
  obtain ⟨x, rfl, rfl, hspans, hchunk⟩ := exists_crossing_of_get? hget hi hj
  -- The entry of the table for the subnets of another crossing is not longer than its link.
  have hentry (y : Crossing) (m : Link α) (hy : y.Leaves joined)
      (hm : y.Spans s policy subnets m) : ∃ n : Link α, ¬m.bridge.d2 < n.bridge.d2 ∧
        Scalar.finite n.bridge.d2 ∧ ¬n.bridge.d2 < l.bridge.d2 ∧
        (y.outside < x.outside ∨ y.outside = x.outside ∧ y.inside < x.inside →
          l.bridge.d2 < n.bridge.d2) := by
    have hne : y.inside ≠ y.outside := fun heq => hy.2 (heq ▸ hy.1)
    obtain ⟨hyi, hyo, n, hn⟩ := exists_get?_of_spans hm hne
    obtain ⟨z, hzo, hzi, hz, hbest⟩ := exists_crossing_of_get? hn hyo hyi
    obtain ⟨hleast, hbefore⟩ := hfirst y.inside y.outside n hyi hy.1 hyo hy.2 hn
    exact ⟨n, (hbest y m rfl rfl hm).1, hz.finite, hleast, hbefore⟩
  refine ⟨x, rfl, ⟨hin, hout⟩, hspans, ?_, ?_⟩
  · intro y m hy hm hlt
    obtain ⟨n, hmn, hn, hnl, -⟩ := hentry y m hy hm
    rcases LinearScalar.lt_or_lt hn hlt with h | h
    · exact hmn h
    · exact hnl h
  · intro y m hy hm hlt
    obtain ⟨n, hmn, -, -, hbefore⟩ := hentry y m hy hm
    have hlonger (hln : l.bridge.d2 < n.bridge.d2) : l.bridge.d2 < m.bridge.d2 :=
      (LinearScalar.lt_or_lt hm.finite hln).resolve_right hmn
    rcases Crossing.precedence_lt_iff.1 hlt with hlt' | ⟨hout', hlt' | ⟨hin', -⟩⟩
    · exact hlonger (hbefore (.inl hlt'))
    · exact hlonger (hbefore (.inr ⟨hout', hlt'⟩))
    · exact (hchunk y m hout' hin' hm).2 hlt

/-! ## All rounds -/

variable (s policy) in
/-- The rounds draw greedily.  As many rounds as there are subnets outside are enough. -/
theorem grow_greedy (n : ℕ) (joined : List ℕ)
    (hn : {i ∈ Finset.range subnets.length | i ∉ joined}.card ≤ n) :
    Greedy s policy subnets joined
      (((ofSubnets s policy subnets).grow n joined).map Link.toRat) := by
  induction n generalizing joined with
  | zero =>
    refine .closed fun x l hx hl => ?_
    obtain ⟨b, hb, -⟩ := hl.target
    obtain ⟨hlt, -⟩ := List.getElem?_eq_some_iff.1 hb
    have hnone := Finset.card_eq_zero.1 (Nat.le_zero.1 hn)
    exact Finset.notMem_empty x.outside
      (hnone ▸ Finset.mem_filter.2 ⟨Finset.mem_range.2 hlt, hx.2⟩)
  | succ n ih =>
    rw [grow]
    cases h : (ofSubnets s policy subnets).nearest? joined with
    | none =>
      refine .closed fun x l hx hl => ?_
      have hne : x.inside ≠ x.outside := fun heq => hx.2 (heq ▸ hx.1)
      obtain ⟨hi, hj, m, hm⟩ := exists_get?_of_spans hl hne
      rw [nearest?_eq_none h x.inside hi hx.1 x.outside hj hx.2] at hm
      cases hm
    | some next =>
      obtain ⟨i, l⟩ := next
      obtain ⟨x, rfl, hx⟩ := nearest?_foremost h
      refine .draw hx (ih (x.outside :: joined) (Nat.le_of_lt_succ (lt_of_lt_of_le ?_ hn)))
      obtain ⟨b, hb, -⟩ := hx.spans.target
      obtain ⟨hlt, -⟩ := List.getElem?_eq_some_iff.1 hb
      apply Finset.card_lt_card
      refine (Finset.ssubset_iff_of_subset ?_).2 ⟨x.outside, ?_, ?_⟩
      · exact Finset.monotone_filter_right _ fun k _ hk hk' => hk (List.mem_cons_of_mem _ hk')
      · exact Finset.mem_filter.2 ⟨Finset.mem_range.2 hlt, hx.leaves.2⟩
      · exact fun hmem => (Finset.mem_filter.1 hmem).2 List.mem_cons_self

variable (s policy subnets) in
/-- The spanning links are drawn greedily from the first subnet on. -/
theorem spanning_greedy : Greedy s policy subnets [0]
    ((ofSubnets s policy subnets).spanning.map Link.toRat) := by
  apply grow_greedy
  rcases Nat.eq_zero_or_pos subnets.length with h | h
  · simp [h]
  · have hsub : {i ∈ Finset.range subnets.length | i ∉ [0]} ⊆
        (Finset.range subnets.length).erase 0 := by
      intro i hi
      obtain ⟨hlt, hne⟩ := Finset.mem_filter.1 hi
      exact Finset.mem_erase.2 ⟨by simpa using hne, hlt⟩
    refine (Finset.card_le_card hsub).trans_eq ?_
    rw [Finset.card_erase_of_mem (Finset.mem_range.2 h), Finset.card_range]
    rfl

end LinkTable

end Angular

end Ratsnest
