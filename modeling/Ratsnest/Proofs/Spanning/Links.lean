import Mathlib.Data.List.Basic
import Mathlib.Order.Fin.Basic
import Ratsnest.Proofs.Distance.Bridge
import Ratsnest.Spanning

/-!
# Shortest links

What the links of a `LinkTable` are: between two subnets the first shortest one that the policy
admits, seen from either end (`LinkTable.get?_eq_some`, `LinkTable.get?_eq_none`).  The search may
end at objects that touch, since no squared distance is negative.

Of the links that leave the joined subnets `LinkTable.nearest?` is a shortest one.
-/

namespace Ratsnest

universe u v

variable {α : Type u}

/-! ## The first of the least -/

section Kept

variable {κ : Type v} [Scalar α] {d : κ → α} {best : Option κ} {x y : κ} {xs : List κ}

/-- What a search may keep that goes through `xs` and changes `best` only for something less. -/
structure Kept (d : κ → α) (best : Option κ) (xs : List κ) (x : κ) : Prop where
  mem : best = some x ∨ x ∈ xs
  improves : ∀ b, best = some b → x = b ∨ d x < d b
  least : ∀ y ∈ xs, ¬d y < d x

theorem Kept.nil : Kept d (some x) [] x where
  mem := .inl rfl
  improves _ h := .inl (Option.some.inj h)
  least _ h := absurd h List.not_mem_nil

variable [OrderedScalar α]

/-- A search that has gone over to `y` keeps what the search from `best` keeps. -/
theorem Kept.cons_of_improves (hy : ∀ b, best = some b → d y < d b) (h : Kept d (some y) xs x) :
    Kept d best (y :: xs) x := by
  have hxy : x = y ∨ d x < d y := h.improves y rfl
  refine ⟨.inr ?_, fun b hb => .inr ?_, fun z hz => ?_⟩
  · rcases h.mem with heq | hmem
    · exact List.mem_cons.2 (.inl (Option.some.inj heq).symm)
    · exact List.mem_cons_of_mem y hmem
  · rcases hxy with rfl | hlt
    · exact hy b hb
    · exact OrderedScalar.lt_trans hlt (hy b hb)
  · rcases List.mem_cons.1 hz with rfl | hz
    · rcases hxy with rfl | hlt
      · exact OrderedScalar.lt_irrefl _
      · exact fun h => OrderedScalar.lt_irrefl _ (OrderedScalar.lt_trans h hlt)
    · exact h.least z hz

/-- A search that has not gone over to `y` may go on without it. -/
theorem Kept.cons_of_not_improves {b : κ} (hy : ¬d y < d b) (h : Kept d (some b) xs x) :
    Kept d (some b) (y :: xs) x := by
  refine ⟨h.mem.imp_right (List.mem_cons_of_mem y), h.improves, ?_⟩
  intro z hz
  rcases List.mem_cons.1 hz with rfl | hz
  · rcases h.improves b rfl with rfl | hlt
    · exact hy
    · exact fun hlt' => hy (OrderedScalar.lt_trans hlt' hlt)
  · exact h.least z hz

/-- A search may end early with something that nothing is less than. -/
theorem Kept.of_least (hy : ∀ b, best = some b → d y < d b) (hleast : ∀ z ∈ xs, ¬d z < d y) :
    Kept d best (y :: xs) y := by
  refine Kept.cons_of_improves hy ⟨.inl rfl, fun b hb => .inl (Option.some.inj hb), hleast⟩

end Kept

/-! ## Links between subnets -/

namespace Link

@[simp] theorem swap_swap (l : Link α) : l.swap.swap = l := rfl

@[simp] theorem swap_d2 (l : Link α) : l.swap.bridge.d2 = l.bridge.d2 := rfl

theorem improves_iff [Scalar α] {l : Link α} {best : Option (Link α)} :
    l.improves best ↔ ∀ b, best = some b → l.bridge.d2 < b.bridge.d2 := by
  cases best with
  | none => simp [improves]
  | some b => simp [improves]

end Link

section Angular

variable [AngularScalar α]

/-- Whether `l` joins an object of `a` to one of `b` in a way that the policy admits. -/
structure Offered (s : Store α) (policy : Policy) (a b : Subnet) (l : Link α) : Prop where
  source_mem : l.source ∈ a.objects
  target_mem : l.target ∈ b.objects
  /-- Both objects are there, one of them is selected where only those count, and the bridge
  between them is finite. -/
  bridge : ∃ o p, s.get? l.source = some o ∧ s.get? l.target = some p ∧
    (policy.onlySelected → o.hasFlags .selected ∨ p.hasFlags .selected) ∧
    o.shape.bridge? policy p.shape = some l.bridge

namespace Link

variable {s : Store α} {policy : Policy}

theorem between?_eq_some_iff {pair : ObjectId × ObjectId} {l : Link α} :
    between? s policy pair = some l ↔ (l.source, l.target) = pair ∧
      ∃ o p, s.get? l.source = some o ∧ s.get? l.target = some p ∧
        (policy.onlySelected → o.hasFlags .selected ∨ p.hasFlags .selected) ∧
        o.shape.bridge? policy p.shape = some l.bridge := by
  obtain ⟨i, j⟩ := pair
  have hsel (o p : BoardObject α) :
      (policy.onlySelected && !o.hasFlags .selected && !p.hasFlags .selected) = true ↔
        ¬(policy.onlySelected → o.hasFlags .selected ∨ p.hasFlags .selected) := by
    simp [and_assoc]
  simp only [between?, Option.bind_eq_bind, Option.bind_eq_some_iff]
  constructor
  · rintro ⟨o, ho, p, hp, h⟩
    split at h
    · cases h
    · rename_i hs
      obtain ⟨b, hb, h⟩ := Option.bind_eq_some_iff.1 h
      obtain rfl := Option.some.inj h
      exact ⟨rfl, o, p, ho, hp, not_not.1 (mt (hsel o p).2 hs), hb⟩
  · rintro ⟨hpair, o, p, ho, hp, hs, hb⟩
    obtain ⟨rfl, rfl⟩ := Prod.mk.inj hpair
    refine ⟨o, ho, p, hp, ?_⟩
    rw [if_neg (mt (hsel o p).1 (not_not.2 hs)), hb]
    rfl

variable [OrderedScalar α]

theorem not_lt_of_touching {l m : Link α} {pair : ObjectId × ObjectId}
    (hl : l.bridge.touching) (hm : between? s policy pair = some m) :
    ¬m.bridge.d2 < l.bridge.d2 := by
  obtain ⟨-, o, p, -, -, -, hb⟩ := between?_eq_some_iff.1 hm
  exact fun h => Shape.not_bridge_lt_zero hb (OrderedScalar.lt_zero_of_beq hl h)

/-- The search finds the first of the shortest links, and ends without one only if there is
none. -/
theorem shortest_eq (best : Option (Link α)) (pairs : List (ObjectId × ObjectId)) :
    (∀ l, shortest s policy best pairs = some l →
      Kept (·.bridge.d2) best (pairs.filterMap (between? s policy)) l) ∧
    (shortest s policy best pairs = none → best = none ∧
      pairs.filterMap (between? s policy) = []) := by
  induction pairs generalizing best with
  | nil =>
    refine ⟨fun l h => ?_, fun h => ⟨h, rfl⟩⟩
    rw [shortest] at h
    subst h
    exact .nil
  | cons pair pairs ih =>
    rw [shortest, List.filterMap_cons]
    cases hp : between? s policy pair with
    | none => exact ih best
    | some l =>
      dsimp only
      split
      · rename_i himp
        have himp := improves_iff.1 himp
        split
        · rename_i htouch
          refine ⟨fun m h => ?_, fun h => by cases h⟩
          obtain rfl := Option.some.inj h
          apply Kept.of_least himp
          intro m hm
          obtain ⟨q, -, hq⟩ := List.mem_filterMap.1 hm
          exact not_lt_of_touching htouch hq
        · refine ⟨fun m h => .cons_of_improves himp ((ih (some l)).1 m h), fun h => ?_⟩
          cases ((ih (some l)).2 h).1
      · rename_i himp
        cases best with
        | none => exact absurd rfl himp
        | some b =>
          have himp : ¬l.bridge.d2 < b.bridge.d2 := by simpa [improves] using himp
          refine ⟨fun m h => .cons_of_not_improves himp ((ih (some b)).1 m h), fun h => ?_⟩
          cases ((ih (some b)).2 h).1

omit [OrderedScalar α] in
theorem mem_offers_iff {a b : Subnet} {l : Link α} :
    l ∈ (a.objects.flatMap fun i => b.objects.map (i, ·)).filterMap (between? s policy) ↔
      Offered s policy a b l := by
  simp only [List.mem_filterMap, List.mem_flatMap, List.mem_map, between?_eq_some_iff]
  constructor
  · rintro ⟨pair, ⟨i, hi, j, hj, rfl⟩, hpair, h⟩
    obtain ⟨rfl, rfl⟩ := Prod.mk.inj hpair
    exact ⟨hi, hj, h⟩
  · rintro ⟨hi, hj, h⟩
    exact ⟨_, ⟨_, hi, _, hj, rfl⟩, rfl, h⟩

theorem ofSubnets?_eq_some {a b : Subnet} {l : Link α} (h : ofSubnets? s policy a b = some l) :
    Offered s policy a b l ∧ ∀ m, Offered s policy a b m → ¬m.bridge.d2 < l.bridge.d2 := by
  obtain ⟨hmem, -, hleast⟩ := (shortest_eq none _).1 l h
  refine ⟨mem_offers_iff.1 (hmem.resolve_left nofun), fun m hm => hleast m (mem_offers_iff.2 hm)⟩

theorem ofSubnets?_eq_none {a b : Subnet} (h : ofSubnets? s policy a b = none) (l : Link α) :
    ¬Offered s policy a b l := by
  intro hl
  have hnil := ((shortest_eq none _).2 h).2
  exact absurd (hnil ▸ mem_offers_iff.2 hl) List.not_mem_nil

end Link

/-- Whether `l` is a link from subnet `i` to subnet `j`.  The distance is the one from the subnet
with the lower number. -/
def Links (s : Store α) (policy : Policy) (subnets : List Subnet) (i j : Fin subnets.length)
    (l : Link α) : Prop :=
  (i < j ∧ Offered s policy subnets[i] subnets[j] l) ∨
    (j < i ∧ Offered s policy subnets[j] subnets[i] l.swap)

/-- Whether `l` is a link from subnet `i` to subnet `j` and no other one is shorter. -/
structure ShortestLink (s : Store α) (policy : Policy) (subnets : List Subnet)
    (i j : Fin subnets.length) (l : Link α) : Prop where
  links : Links s policy subnets i j l
  least : ∀ m, Links s policy subnets i j m → ¬m.bridge.d2 < l.bridge.d2

section Links

variable {s : Store α} {policy : Policy} {subnets : List Subnet} {i j : Fin subnets.length}
  {l : Link α}

theorem Links.swap (h : Links s policy subnets i j l) : Links s policy subnets j i l.swap :=
  h.symm

theorem Links.mem_objects (h : Links s policy subnets i j l) :
    l.source ∈ subnets[i].objects ∧ l.target ∈ subnets[j].objects := by
  rcases h with ⟨-, h⟩ | ⟨-, h⟩
  · exact ⟨h.source_mem, h.target_mem⟩
  · exact ⟨h.target_mem, h.source_mem⟩

theorem Links.ne (h : Links s policy subnets i j l) : i ≠ j := by
  rcases h with ⟨h, -⟩ | ⟨h, -⟩
  · exact ne_of_lt h
  · exact ne_of_gt h

theorem links_iff_of_lt (h : i < j) :
    Links s policy subnets i j l ↔ Offered s policy subnets[i] subnets[j] l := by
  simp [Links, h, h.not_gt]

theorem ShortestLink.swap (h : ShortestLink s policy subnets i j l) :
    ShortestLink s policy subnets j i l.swap where
  links := h.links.swap
  least m hm := h.least m.swap hm.swap

end Links

/-! ## The table -/

namespace LinkTable

variable {s : Store α} {policy : Policy} {subnets : List Subnet}

theorem getElem?_rowsOf (subnets : List Subnet) (i : Nat) :
    (rowsOf s policy subnets)[i]? = subnets[i]?.map fun a =>
      ((subnets.drop (i + 1)).map (Link.ofSubnets? s policy a)).toArray := by
  induction subnets generalizing i with
  | nil => rfl
  | cons a subnets ih =>
    cases i with
    | zero => rfl
    | succ i => simpa [rowsOf] using ih i

theorem get?_ofSubnets_of_lt {i j : Fin subnets.length} (h : i < j) :
    (ofSubnets s policy subnets).get? i j = Link.ofSubnets? s policy subnets[i] subnets[j] := by
  have hlt : (i : Nat) < j := h
  have hij : (i : Nat) + 1 + (j - i - 1) = j := by omega
  simp [get?, ofSubnets, getElem?_rowsOf, hlt, hij]

omit [AngularScalar α] in
theorem get?_swap (t : LinkTable α) (i j : Nat) : t.get? j i = (t.get? i j).map Link.swap := by
  rcases Nat.lt_trichotomy i j with h | rfl | h
  · simp [get?, h, Nat.not_lt_of_gt h]
  · simp [get?]
  · simp [get?, h, Nat.not_lt_of_gt h, Function.comp_def]

omit [AngularScalar α] in
theorem get?_self (t : LinkTable α) (i : Nat) : t.get? i i = none := by
  simp [get?]

variable [OrderedScalar α]

/-- The table holds the shortest links. -/
theorem get?_eq_some {i j : Fin subnets.length} {l : Link α}
    (h : (ofSubnets s policy subnets).get? i j = some l) :
    ShortestLink s policy subnets i j l := by
  have hlt {i j : Fin subnets.length} {l : Link α} (hij : i < j)
      (h : (ofSubnets s policy subnets).get? i j = some l) :
      ShortestLink s policy subnets i j l := by
    rw [get?_ofSubnets_of_lt hij] at h
    obtain ⟨hl, hleast⟩ := Link.ofSubnets?_eq_some h
    exact ⟨(links_iff_of_lt hij).2 hl, fun m hm => hleast m ((links_iff_of_lt hij).1 hm)⟩
  rcases lt_trichotomy i j with hij | rfl | hij
  · exact hlt hij h
  · rw [get?_self] at h
    cases h
  · rw [get?_swap] at h
    obtain ⟨m, hm, rfl⟩ := Option.map_eq_some_iff.1 h
    exact (hlt hij hm).swap

/-- Where the table holds none, there is no link. -/
theorem get?_eq_none {i j : Fin subnets.length}
    (h : (ofSubnets s policy subnets).get? i j = none) (l : Link α) :
    ¬Links s policy subnets i j l := by
  have hlt {i j : Fin subnets.length} {l : Link α} (hij : i < j)
      (h : (ofSubnets s policy subnets).get? i j = none) : ¬Links s policy subnets i j l := by
    rw [get?_ofSubnets_of_lt hij] at h
    exact fun hl => Link.ofSubnets?_eq_none h l ((links_iff_of_lt hij).1 hl)
  intro hl
  rcases lt_or_gt_of_ne hl.ne with hij | hij
  · exact hlt hij h hl
  · rw [get?_swap, Option.map_eq_none_iff] at h
    exact hlt hij h hl.swap

/-! ## The nearest subnet -/

omit [OrderedScalar α] in
theorem keepShorter_some (b y : Nat × Link α) :
    keepShorter (some b) y = if y.2.bridge.d2 < b.2.bridge.d2 then some y else some b := by
  simp [keepShorter, Link.improves]

theorem foldl_keepShorter_some (xs : List (Nat × Link α)) (b : Nat × Link α) :
    ∃ x, xs.foldl keepShorter (some b) = some x ∧ Kept (·.2.bridge.d2) (some b) xs x := by
  induction xs generalizing b with
  | nil => exact ⟨b, rfl, .nil⟩
  | cons y xs ih =>
    rw [List.foldl_cons, keepShorter_some]
    split
    · rename_i hlt
      obtain ⟨x, hx, hk⟩ := ih y
      exact ⟨x, hx, hk.cons_of_improves fun c hc => by rwa [← Option.some.inj hc]⟩
    · rename_i hlt
      obtain ⟨x, hx, hk⟩ := ih b
      exact ⟨x, hx, hk.cons_of_not_improves hlt⟩

/-- Folding keeps a least element, if there is one at all. -/
theorem foldl_keepShorter (xs : List (Nat × Link α)) :
    (∀ x, xs.foldl keepShorter none = some x → Kept (·.2.bridge.d2) none xs x) ∧
      (xs.foldl keepShorter none = none → xs = []) := by
  cases xs with
  | nil => exact ⟨nofun, fun _ => rfl⟩
  | cons y xs =>
    obtain ⟨x, hx, hk⟩ := foldl_keepShorter_some xs y
    rw [List.foldl_cons, show keepShorter none y = some y from rfl, hx]
    refine ⟨fun z hz => ?_, nofun⟩
    obtain rfl := Option.some.inj hz
    exact hk.cons_of_improves nofun

variable {t : LinkTable α} {joined : List Nat} {i : Nat} {l : Link α}

omit [AngularScalar α] [OrderedScalar α] in
/-- The candidates for the next link. -/
theorem mem_candidates_iff {x : Nat × Link α} :
    x ∈ (((List.range t.size).partition joined.contains).2.flatMap fun i =>
        ((List.range t.size).partition joined.contains).1.filterMap fun j =>
          (t.get? j i).map (i, ·)) ↔
      x.1 < t.size ∧ x.1 ∉ joined ∧ ∃ j < t.size, j ∈ joined ∧ t.get? j x.1 = some x.2 := by
  simp only [List.partition_eq_filter_filter, List.mem_flatMap, List.mem_filterMap,
    List.mem_filter, List.mem_range, Option.map_eq_some_iff]
  constructor
  · rintro ⟨i, ⟨hi, hout⟩, j, ⟨hj, hin⟩, l, hl, rfl⟩
    exact ⟨hi, by simpa using hout, j, hj, by simpa using hin, hl⟩
  · rintro ⟨hi, hout, j, hj, hin, hl⟩
    exact ⟨x.1, ⟨hi, by simpa using hout⟩, j, ⟨hj, by simpa using hin⟩, x.2, hl, rfl⟩

/-- The next link leaves the joined subnets, and none that does is shorter. -/
theorem nearest?_eq_some (h : t.nearest? joined = some (i, l)) :
    i < t.size ∧ i ∉ joined ∧ (∃ j < t.size, j ∈ joined ∧ t.get? j i = some l) ∧
      ∀ j < t.size, j ∈ joined → ∀ k < t.size, k ∉ joined → ∀ m, t.get? j k = some m →
        ¬m.bridge.d2 < l.bridge.d2 := by
  obtain ⟨hmem, -, hleast⟩ := (foldl_keepShorter _).1 (i, l) h
  obtain ⟨hi, hout, hj⟩ := mem_candidates_iff.1 (hmem.resolve_left nofun)
  refine ⟨hi, hout, hj, ?_⟩
  intro j hj hin k hk hkout m hm
  exact hleast (k, m) (mem_candidates_iff.2 ⟨hk, hkout, j, hj, hin, hm⟩)

/-- There is no next link only if none leaves the joined subnets. -/
theorem nearest?_eq_none (h : t.nearest? joined = none) :
    ∀ j < t.size, j ∈ joined → ∀ k < t.size, k ∉ joined → t.get? j k = none := by
  intro j hj hin k hk hout
  apply Option.eq_none_iff_forall_ne_some.2
  intro m hm
  have hnil := (foldl_keepShorter _).2 h
  have hmem := (mem_candidates_iff (x := (k, m))).2 ⟨hk, hout, j, hj, hin, hm⟩
  exact absurd (hnil ▸ hmem) List.not_mem_nil

omit [OrderedScalar α] in
theorem length_grow_le (t : LinkTable α) (n : ℕ) (joined : List ℕ) :
    (t.grow n joined).length ≤ n := by
  induction n generalizing joined with
  | zero => exact Nat.le_refl 0
  | succ n ih =>
    rw [grow]
    split
    · exact Nat.zero_le _
    · exact Nat.succ_le_succ (ih _)

end LinkTable

end Angular

end Ratsnest
