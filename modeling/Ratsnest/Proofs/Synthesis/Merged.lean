import Ratsnest.Proofs.Short
import Ratsnest.Proofs.Spanning.Minimum
import Ratsnest.Proofs.Synthesis.Extended

/-!
# Merged subnets

What is found on a regular board after the rat lines along the spanning links of a net have been
drawn (`Extraction.Settled`): the subnets that these join have become the first one, the others
are what they were, and no link leads from the first one to another.
-/

namespace Ratsnest

variable {α : Type} [AngularScalar α]

/-- Whether the policy admits a bridge between the objects under two ids. -/
def Admits (s : Store α) (policy : Policy) (a b : ObjectId) : Prop :=
  ∃ o p bridge, s.get? a = some o ∧ s.get? b = some p ∧
    (policy.onlySelected → o.hasFlags .selected ∨ p.hasFlags .selected) ∧
    o.shape.bridge? policy p.shape = some bridge

/-- Whether bridges between the copper of a board can be seen from either side. -/
def BridgesSymm (c : Content α) (policy : Policy) : Prop :=
  ∀ o ∈ c.copper, ∀ p ∈ c.copper,
    (o.shape.bridge? policy p.shape).isSome = (p.shape.bridge? policy o.shape).isSome

instance (c : Content α) (policy : Policy) : Decidable (BridgesSymm c policy) :=
  inferInstanceAs (Decidable (∀ o ∈ c.copper, ∀ p ∈ c.copper, _ = _))

theorem Offered.admits {s : Store α} {policy : Policy} {a b : Subnet} {l : Link α}
    (h : Offered s policy a b l) : Admits s policy l.source l.target := by
  obtain ⟨o, p, ho, hp, hsel, hb⟩ := h.bridge
  exact ⟨o, p, l.bridge, ho, hp, hsel, hb⟩

/-! ## The first run -/

/-- Whether `subnets` are the components of `xs`, which are apart from one another. -/
structure PiecesOf (c : Content α) (r : JoinRules α) (subnets : List Subnet) (xs : List ObjectId) :
    Prop where
  objects : List.Forall₂ (fun n x => ∀ id, id ∈ n.objects ↔ Wired c r x id ∧ c.store.holds id)
    subnets xs
  nodes : ∀ x ∈ xs, IsNode c x
  apart : xs.Pairwise fun y x => ¬Wired c r y x

theorem Extraction.piecesOf {c : Content α} {settings : Settings α}
    (hc : Regular c (rules settings)) (ts : List Terminal) :
    PiecesOf c (rules settings) (ofTerminals settings c ts).subnets
      (firsts (Wired c (rules settings)) [] (c.store.located ts)) where
  objects := (ofTerminals_spec settings hc ts).subnets
  nodes _ hx := hc.isNode_of_located (mem_of_mem_firsts hx)
  apart := (firsts_unrelated (c.store.located ts) []).2

namespace PiecesOf

variable {c : Content α} {r : JoinRules α} {policy : Policy} {subnets : List Subnet}
  {xs : List ObjectId} (h : PiecesOf c r subnets xs) {i j : Fin subnets.length} {id : ObjectId}

/-- The object that a subnet is the component of. -/
def seed (i : Fin subnets.length) : ObjectId := xs.get (i.cast h.objects.length_eq)

theorem seed_mem (i : Fin subnets.length) : h.seed i ∈ xs := List.get_mem xs _

theorem isNode_seed (i : Fin subnets.length) : IsNode c (h.seed i) := h.nodes _ (h.seed_mem i)

theorem exists_seed {x : ObjectId} (hx : x ∈ xs) : ∃ i, h.seed i = x := by
  obtain ⟨k, hk⟩ := List.get_of_mem hx
  exact ⟨k.cast h.objects.length_eq.symm, hk⟩

theorem mem_objects_iff (i : Fin subnets.length) :
    id ∈ (subnets.get i).objects ↔ Wired c r (h.seed i) id ∧ c.store.holds id :=
  h.objects.get i.2 (h.objects.length_eq ▸ i.2) id

theorem not_wired_seed (hij : i < j) : ¬Wired c r (h.seed i) (h.seed j) :=
  List.pairwise_iff_get.1 h.apart _ _ hij

theorem eq_of_wired_seed (hc : Regular c r) (hij : Wired c r (h.seed i) (h.seed j)) : i = j := by
  rcases lt_trichotomy i j with hlt | heq | hlt
  · exact absurd hij (h.not_wired_seed hlt)
  · exact heq
  · exact absurd (hc.wired_symm (h.isNode_seed i) hij) (h.not_wired_seed hlt)

/-- The objects in the components of some of the subnets. -/
def joined (J : Finset (Fin subnets.length)) : Set ObjectId :=
  {id | ∃ j ∈ J, Wired c r (h.seed j) id}

variable {J : Finset (Fin subnets.length)}

theorem seed_mem_joined_iff (hc : Regular c r) : h.seed i ∈ h.joined J ↔ i ∈ J := by
  constructor
  · rintro ⟨j, hj, hji⟩
    exact h.eq_of_wired_seed hc hji ▸ hj
  · exact fun hi => ⟨i, hi, .refl⟩

open Classical in
/-- As many of the seeds lie in joined subnets as subnets are joined. -/
theorem length_filter_joined (hc : Regular c r) :
    (xs.filter fun x => decide (x ∈ h.joined J)).length = J.card := by
  have hnodup : xs.Nodup := h.apart.imp fun {y x} hyx (heq : y = x) => hyx (heq ▸ .refl)
  have himage : (xs.filter fun x => decide (x ∈ h.joined J)).toFinset = J.image h.seed := by
    ext x
    simp only [List.mem_toFinset, List.mem_filter, decide_eq_true_eq, Finset.mem_image]
    constructor
    · rintro ⟨hx, hxU⟩
      obtain ⟨i, rfl⟩ := h.exists_seed hx
      exact ⟨i, (h.seed_mem_joined_iff hc).1 hxU, rfl⟩
    · rintro ⟨j, hj, rfl⟩
      exact ⟨h.seed_mem j, (h.seed_mem_joined_iff hc).2 hj⟩
  rw [← List.toFinset_card_of_nodup (hnodup.filter _), himage]
  exact Finset.card_image_of_injective J fun i j hij => h.eq_of_wired_seed hc (hij ▸ .refl)

/-- No bridge leads from the joined subnets to another one. -/
theorem not_admits_of_joined (hc : Regular c r) (hbridges : BridgesSymm c policy)
    (hJ : ∀ j ∈ J, ∀ i ∉ J, ¬(linkGraph c.store policy subnets).Adj j i) {a b : ObjectId}
    (ha : a ∈ h.joined J) (hholds : c.store.holds a) (hi : i ∉ J)
    (hb : b ∈ (subnets.get i).objects) : ¬Admits c.store policy a b := by
  rintro ⟨o, p, bridge, ho, hp, hsel, hbridge⟩
  obtain ⟨j, hj, hja⟩ := ha
  have hmem : a ∈ (subnets.get j).objects := (h.mem_objects_iff j).2 ⟨hja, hholds⟩
  obtain ⟨hib, hbholds⟩ := (h.mem_objects_iff i).1 hb
  rcases lt_or_gt_of_ne fun hji : j = i => hi (hji ▸ hj) with hji | hij
  · exact hJ j hj i hi ⟨⟨a, b, bridge⟩, .inl ⟨hji, hmem, hb, o, p, ho, hp, hsel, hbridge⟩⟩
  · -- The link is seen from the other subnet, which has the lower number.
    obtain ⟨o', ho', -, hoa⟩ := hc.grounded.copper_of_holds (h.isNode_seed j) hja hholds
    obtain ⟨p', hp', -, hpb⟩ := hc.grounded.copper_of_holds (h.isNode_seed i) hib hbholds
    obtain rfl := Option.some.inj (ho.symm.trans hoa)
    obtain rfl := Option.some.inj (hp.symm.trans hpb)
    have hback : (p.shape.bridge? policy o.shape).isSome := by
      rw [← hbridges o ho' p hp', hbridge]
      rfl
    obtain ⟨back, hback⟩ := Option.isSome_iff_exists.1 hback
    exact hJ j hj i hi ⟨⟨a, b, back.swap⟩, .inr ⟨hij, hb, hmem, p, o, hp, ho,
      fun hs => (hsel hs).symm, hback⟩⟩

end PiecesOf

/-! ## What drawing leaves as it is -/

/-- Stores whose objects differ in marks other than selection admit the same bridges. -/
theorem Admits.of_unmarked {s t : Store α} {policy : Policy} {a b : ObjectId}
    (h : Admits s policy a b) (hmarks : s.unmarked = t.unmarked)
    (hselected : ∀ id, (s.get? id).map (·.hasFlags .selected) =
      (t.get? id).map (·.hasFlags .selected)) : Admits t policy a b := by
  have key {id : ObjectId} {o : BoardObject α} (ho : s.get? id = some o) :
      ∃ p, t.get? id = some p ∧ p.shape = o.shape ∧
        p.hasFlags .selected = o.hasFlags .selected := by
    have hmap : (t.get? id).map (·.unmarked) = some o.unmarked := by
      rw [← Store.get?_unmarked, ← hmarks, Store.get?_unmarked, ho, Option.map_some]
    obtain ⟨p, hp, hpo⟩ := Option.map_eq_some_iff.1 hmap
    have hsel := hselected id
    rw [ho, hp, Option.map_some, Option.map_some, Option.some.injEq] at hsel
    have hshape : p.unmarked.shape = o.unmarked.shape := congrArg BoardObject.shape hpo
    exact ⟨p, hp, hshape, hsel.symm⟩
  obtain ⟨o, p, bridge, ho, hp, hsel, hb⟩ := h
  obtain ⟨o', ho', hos, hof⟩ := key ho
  obtain ⟨p', hp', hps, hpf⟩ := key hp
  exact ⟨o', p', bridge, ho', hp', hof ▸ hpf ▸ hsel, hos ▸ hps ▸ hb⟩

namespace Placeable

variable {c : Content α} {ls : List (Link α)}

/-- The new rat lines change no bridge between what was there. -/
theorem of_admits_withRats (h : Placeable c ls) {policy : Policy} {a b : ObjectId}
    (ha : c.store.holds a) (hb : c.store.holds b)
    (hadmits : Admits (c.withRats ls).store policy a b) : Admits c.store policy a b := by
  have key {id : ObjectId} {o : BoardObject α} (hid : c.store.holds id)
      (ho : (c.withRats ls).store.get? id = some o) : c.store.get? id = some o := by
    obtain ⟨p, hp, -⟩ := (Option.any_eq_true _ _).1 hid
    rwa [← ho, h.get?_withRats_iff.2 (.inl hp)]
  obtain ⟨o, p, bridge, ho, hp, hrest⟩ := hadmits
  exact ⟨o, p, bridge, key ha ho, key hb hp, hrest⟩

theorem pinOf?_withRats (c : Content α) (ls : List (Link α)) :
    (c.withRats ls).store.pinOf? = c.store.pinOf? := by
  funext o
  simp only [Store.pinOf?, Store.part?, Content.withRats, Store.parts_addRats]

/-- The objects apart from rat lines are what they were, in the same order. -/
theorem filter_toList_withRats (h : Placeable c ls) :
    (c.withRats ls).store.toList.filter (fun o => !o.isRat) =
      c.store.toList.filter fun o => !o.isRat := by
  have key (s : Store α) : s.toList.filter (fun o => !o.isRat) =
      (s.objects.entries.filter fun e => !e.2.isRat).map (·.2) := by
    rw [Store.toList, SortedMap.values, List.filter_map]
    rfl
  rw [key, key]
  refine congrArg (List.map (·.2)) (SortedMap.entries_ext
    ((c.withRats ls).store.objects.ascending.filter _) (c.store.objects.ascending.filter _) ?_)
  rintro ⟨id, o⟩
  simp only [List.mem_filter, Bool.not_eq_true', SortedMap.mem_entries_iff]
  refine and_congr_left fun hrat => ⟨h.get?_of_not_isRat hrat, fun ho => ?_⟩
  exact h.get?_withRats_iff.2 (.inl ho)

/-- The same objects stand for pins. -/
theorem find?_withRats (h : Placeable c ls) : (c.withRats ls).store.find? = c.store.find? := by
  funext p
  have key (xs : List (BoardObject α)) :
      xs.find? (fun o => !o.isRat && c.store.pinOf? o == some p) =
        (xs.filter fun o => !o.isRat).find? fun o => c.store.pinOf? o == some p := by
    simp only [List.find?_filter, Bool.decide_and, Bool.decide_eq_true]
  simp only [Store.find?, pinOf?_withRats, key, h.filter_toList_withRats]

theorem located_withRats (h : Placeable c ls) (ts : List Terminal) :
    (c.withRats ls).store.located ts = c.store.located ts := by
  rw [Store.located, Store.located, h.find?_withRats]

/-- The new rat lines stand for no pins. -/
theorem terminalOf?_withRats (h : Placeable c ls) (id : ObjectId) :
    (c.withRats ls).store.terminalOf? id = c.store.terminalOf? id := by
  rw [Store.terminalOf?, Store.terminalOf?, pinOf?_withRats]
  cases ho : c.store.get? id with
  | some o => rw [h.get?_withRats_iff.2 (.inl ho)]
  | none =>
    cases hnew : (c.withRats ls).store.get? id with
    | none => rfl
    | some o =>
      rcases h.get?_withRats_iff.1 hnew with hold | ⟨l, -, rfl⟩
      · rw [ho] at hold
        cases hold
      · rfl

end Placeable

/-! ## The board after the first run -/

section Merged

variable {c : Content α} {r : JoinRules α} {policy : Policy} {subnets : List Subnet}
  {xs : List ObjectId} {cheap : Sym2 (Fin subnets.length) → Sym2 (Fin subnets.length) → Prop}
  {es : List (Fin subnets.length × Fin subnets.length)} {ls : List (Link α)}
  {J : Finset (Fin subnets.length)}

theorem exists_edge_of_link
    (hes : List.Forall₂ (fun e l => Links c.store policy subnets e.1 e.2 l) es ls) {l : Link α}
    (hl : l ∈ ls) : ∃ e ∈ es, Links c.store policy subnets e.1 e.2 l := by
  induction hes with
  | nil => cases hl
  | @cons e m es ls hem _ ih =>
    rcases List.mem_cons.1 hl with rfl | hl
    · exact ⟨e, List.mem_cons_self, hem⟩
    · obtain ⟨f, hf, hfl⟩ := ih hl
      exact ⟨f, List.mem_cons_of_mem e hf, hfl⟩

theorem exists_link_of_edge
    (hes : List.Forall₂ (fun e l => Links c.store policy subnets e.1 e.2 l) es ls)
    {e : Fin subnets.length × Fin subnets.length} (he : e ∈ es) :
    ∃ l ∈ ls, Links c.store policy subnets e.1 e.2 l := by
  induction hes with
  | nil => cases he
  | @cons f l es ls hfl _ ih =>
    rcases List.mem_cons.1 he with rfl | he
    · exact ⟨l, List.mem_cons_self, hfl⟩
    · obtain ⟨m, hm, hem⟩ := ih he
      exact ⟨m, List.mem_cons_of_mem l hm, hem⟩

namespace PiecesOf

variable (h : PiecesOf c r subnets xs)
include h

/-- A link ends at objects of the components that its edge joins. -/
theorem exists_ends (hes : List.Forall₂ (fun e l => Links c.store policy subnets e.1 e.2 l) es ls)
    {l : Link α} (hl : l ∈ ls) : ∃ e ∈ es,
      (Wired c r (h.seed e.1) l.source ∧ c.store.holds l.source) ∧
        Wired c r (h.seed e.2) l.target ∧ c.store.holds l.target := by
  obtain ⟨e, he, hel⟩ := exists_edge_of_link hes hl
  obtain ⟨hsource, htarget⟩ := hel.mem_objects
  exact ⟨e, he, (h.mem_objects_iff e.1).1 hsource, (h.mem_objects_iff e.2).1 htarget⟩

/-- The links between components can be drawn. -/
theorem drawable (hc : Regular c r)
    (hes : List.Forall₂ (fun e l => Links c.store policy subnets e.1 e.2 l) es ls)
    (hlength : ls.length ≤ UInt64.size)
    (hunused : ∀ id ∈ freshIds c.store.nextId ls.length, c.store.get? id = none) :
    Drawable c ls := by
  refine ⟨hlength, hunused, ?_⟩
  intro l hl
  obtain ⟨e, -, ⟨hws, hhs⟩, hwt, hht⟩ := h.exists_ends hes hl
  obtain ⟨o, ho, hid, -⟩ := hc.grounded.copper_of_holds (h.isNode_seed e.1) hws hhs
  obtain ⟨p, hp, hpid, -⟩ := hc.grounded.copper_of_holds (h.isNode_seed e.2) hwt hht
  exact ⟨⟨o, ho, hid⟩, p, hp, hpid⟩

/-- Each edge is crossed, both ways, along the rat line drawn for it. -/
theorem wired_of_edge (hc : Regular c r) (hr : r.followRats) (hdraw : Drawable c ls)
    (hes : List.Forall₂ (fun e l => Links c.store policy subnets e.1 e.2 l) es ls)
    {e : Fin subnets.length × Fin subnets.length} (he : e ∈ es) :
    Wired (c.withRats ls) r (h.seed e.1) (h.seed e.2) ∧
      Wired (c.withRats ls) r (h.seed e.2) (h.seed e.1) := by
  have hback {x y : ObjectId} (hx : IsNode c x) (hxy : Wired (c.withRats ls) r x y) :
      Wired (c.withRats ls) r y x := (hc.withRats hdraw).wired_symm (hdraw.isNode hx) hxy
  obtain ⟨l, hl, hel⟩ := exists_link_of_edge hes he
  obtain ⟨hsource, htarget⟩ := hel.mem_objects
  have hfrom := hdraw.placeable.wired_withRats ((h.mem_objects_iff e.1).1 hsource).1
  have hto := hdraw.placeable.wired_withRats ((h.mem_objects_iff e.2).1 htarget).1
  have hedge := (hfrom.trans (hdraw.wired_ends hc hr hl)).trans (hback (h.isNode_seed e.2) hto)
  exact ⟨hedge, hback (h.isNode_seed e.1) hedge⟩

/-- What hangs together along edges is joined. -/
theorem wired_of_hangs (hc : Regular c r) (hr : r.followRats) (hdraw : Drawable c ls)
    (hes : List.Forall₂ (fun e l => Links c.store policy subnets e.1 e.2 l) es ls)
    {i j : Fin subnets.length} (hj : Hangs {e | e ∈ edgesOf es} {i} j) :
    Wired (c.withRats ls) r (h.seed i) (h.seed j) := by
  induction hj with
  | base hj =>
    rw [Set.mem_singleton_iff] at hj
    exact hj ▸ .refl
  | @step u v _ huv ih =>
    obtain ⟨e, he, heq⟩ := List.mem_map.1 huv
    obtain ⟨hforth, hback⟩ := h.wired_of_edge hc hr hdraw hes he
    rcases Sym2.eq_iff.1 heq with ⟨rfl, rfl⟩ | ⟨rfl, rfl⟩
    · exact ih.trans hforth
    · exact ih.trans hback

/-- Drawing the links merges the components that the first one has grown to. -/
theorem merges_of_grown (hc : Regular c r) (hr : r.followRats) (hpos : 0 < subnets.length)
    (hgrown : Grown (linkGraph c.store policy subnets) cheap {⟨0, hpos⟩} es J)
    (hes : List.Forall₂ (fun e l => Links c.store policy subnets e.1 e.2 l) es ls)
    (hdraw : Drawable c ls) : Merges c r ls (h.joined J) (h.seed ⟨0, hpos⟩) := by
  constructor
  · rintro x ⟨j, hj, hjx⟩ y hxy
    exact ⟨j, hj, hjx.tail hxy⟩
  · intro l hl
    obtain ⟨e, he, ⟨hws, -⟩, hwt, -⟩ := h.exists_ends hes hl
    obtain ⟨-, h1, h2, -⟩ := hgrown.adj_of_mem e he
    exact ⟨⟨e.1, h1, hws⟩, e.2, h2, hwt⟩
  · exact ⟨⟨0, hpos⟩, hgrown.subset (Finset.mem_singleton_self _), .refl⟩
  · rintro x ⟨j, hj, hjx⟩
    have hj := hgrown.hangs j hj
    rw [Finset.coe_singleton] at hj
    exact (h.wired_of_hangs hc hr hdraw hes hj).trans (hdraw.placeable.wired_withRats hjx)

end PiecesOf

/-! ## The subnets after the first run -/

variable {x₀ : ObjectId} {pieces : List Subnet} {h : PiecesOf c r subnets (x₀ :: xs)}

open Classical in
/-- Merging `n + 1` subnets leaves `n` fewer. -/
theorem Merges.length_pieces (hU : Merges c r ls (h.joined J) x₀) (hc : Regular c r)
    (h' : PiecesOf (c.withRats ls) r pieces
      (x₀ :: xs.filter fun x => !decide (x ∈ h.joined J))) :
    pieces.length + J.card = subnets.length + 1 := by
  have hcard := h.length_filter_joined (J := J) hc
  have hsplit := List.length_eq_length_filter_add (fun x => decide (x ∈ h.joined J))
    (l := x₀ :: xs)
  rw [hcard, List.filter_cons_of_neg (by simpa using hU.start), ← h.objects.length_eq] at hsplit
  rw [h'.objects.length_eq, List.length_cons]
  omega

open Classical in
/-- No bridge leads away from the merged subnet. -/
theorem Merges.not_admits (hU : Merges c r ls (h.joined J) x₀) (hc : Regular c r)
    (hdraw : Drawable c ls) (hbridges : BridgesSymm c policy)
    (hJ : ∀ j ∈ J, ∀ i ∉ J, ¬(linkGraph c.store policy subnets).Adj j i)
    (h' : PiecesOf (c.withRats ls) r pieces
      (x₀ :: xs.filter fun x => !decide (x ∈ h.joined J))) {i j : Fin pieces.length}
    (hi : i.1 = 0) (hij : i < j) {a b : ObjectId} (ha : a ∈ (pieces.get i).objects)
    (hb : b ∈ (pieces.get j).objects) : ¬Admits (c.withRats ls).store policy a b := by
  obtain ⟨i, hi'⟩ := i
  obtain ⟨j, hj⟩ := j
  obtain rfl : i = 0 := hi
  obtain ⟨k, rfl⟩ : ∃ k, j = k + 1 := Nat.exists_eq_succ_of_ne_zero (ne_of_gt hij)
  obtain ⟨haU, haholds⟩ := (hU.wired_start_iff hdraw).1 ((h'.mem_objects_iff ⟨0, hi'⟩).1 ha)
  have hseed : h'.seed ⟨k + 1, hj⟩ ∈ xs.filter fun x => !decide (x ∈ h.joined J) :=
    List.get_mem _ _
  obtain ⟨hx, hxU⟩ := List.mem_filter.1 hseed
  rw [Bool.not_eq_true', decide_eq_false_iff_not] at hxU
  obtain ⟨n, hn⟩ := h.exists_seed (List.mem_cons_of_mem x₀ hx)
  rw [← hn] at hxU
  have hwired := (h'.mem_objects_iff ⟨k + 1, hj⟩).1 hb
  rw [← hn] at hwired
  have hb' := (hU.wired_iff_of_notMem hc hdraw (h.isNode_seed n) hxU).1 hwired
  exact fun hadmits => h.not_admits_of_joined hc hbridges hJ haU haholds
    (fun hnJ => hxU ((h.seed_mem_joined_iff hc).2 hnJ)) ((h.mem_objects_iff n).2 hb')
    (hdraw.placeable.of_admits_withRats haholds hb'.2 hadmits)

end Merged

/-! ## The second run -/

namespace Extraction

/-- What is found once rat lines along `ls` are drawn: `e` are the pieces before, `f` those
after. -/
structure Settled (settings : Settings α) (policy : Policy) (c : Content α) (ls : List (Link α))
    (e f : Extraction) : Prop where
  missing : f.missing = e.missing
  /-- Each rat line has joined one more subnet to the first one. -/
  size : f.subnets.length + ls.length = e.subnets.length
  /-- Unless there are too many subnets, no bridge leads from the first one to another. -/
  apart : f.subnets.length ≤ settings.maxSubnets.toNat →
    ∀ (i j : Fin f.subnets.length), i.1 = 0 → i < j → ∀ a ∈ (f.subnets.get i).objects,
      ∀ b ∈ (f.subnets.get j).objects, ¬Admits (c.withRats ls).store policy a b
  /-- The same objects stand for pins. -/
  pins : ∀ id, (c.withRats ls).store.terminalOf? id = c.store.terminalOf? id
  /-- The same ones of these are discovered. -/
  discovered : ∀ id, (c.store.terminalOf? id).isSome →
    (id ∈ objectsOf f.discoveries ↔ id ∈ objectsOf e.discoveries)

variable {c : Content α} {policy : Policy} {ls : List (Link α)} {settings : Settings α}
  {ts : List Terminal} {e : Extraction} {x₀ : ObjectId} {xs : List ObjectId}

section Merged

variable {U : Set ObjectId}

open Classical in
/-- The first ones among the terminals are left as first ones unless they are merged. -/
theorem firsts_located_withRats (hc : Regular c (rules settings))
    (hxs : firsts (Wired c (rules settings)) [] (c.store.located ts) = x₀ :: xs)
    (hdraw : Drawable c ls) (hU : Merges c (rules settings) ls U x₀) :
    firsts (Wired (c.withRats ls) (rules settings)) [] ((c.withRats ls).store.located ts) =
      x₀ :: xs.filter fun x => !decide (x ∈ U) := by
  have hlocated := hdraw.placeable.located_withRats ts
  have h : PiecesOf c (rules settings) _ (x₀ :: xs) := hxs ▸ piecesOf hc ts
  have hle (x y : ObjectId) (hxy : Wired c (rules settings) x y) :
      Wired (c.withRats ls) (rules settings) x y := hdraw.placeable.wired_withRats hxy
  have hcoarse : firsts (Wired (c.withRats ls) (rules settings)) [] (c.store.located ts) =
      firsts (Wired (c.withRats ls) (rules settings)) []
        (firsts (Wired c (rules settings)) [] (c.store.located ts)) :=
    firsts_firsts hle (fun x => .refl) .trans _ fun _ h => absurd h List.not_mem_nil
  rw [hlocated, hcoarse, hxs]
  exact hU.firsts_eq hc hdraw h.nodes h.apart

/-- The rat lines join nothing to the terminals but themselves. -/
theorem discovered_withRats_iff (hc : Regular c (rules settings))
    (hdraw : Drawable c ls) (hU : Merges c (rules settings) ls U x₀)
    (hmem : ∀ x ∈ U, ∃ y ∈ c.store.located ts, Wired c (rules settings) y x) {id : ObjectId}
    {o : BoardObject α} (ho : c.store.get? id = some o) :
    id ∈ objectsOf (ofTerminals settings (c.withRats ls) ts).discoveries ↔
      id ∈ objectsOf (ofTerminals settings c ts).discoveries := by
  have hlocated := hdraw.placeable.located_withRats ts
  rw [(ofTerminals_spec settings (hc.withRats hdraw) ts).discoveries,
    (ofTerminals_spec settings hc ts).discoveries, hlocated]
  apply and_congr_right
  intro _
  constructor
  · rintro ⟨x, hx, h⟩
    by_cases hxU : x ∈ U
    · rcases hU.mem_of_wired hdraw hxU h with hid | ⟨l, hl⟩
      · exact hmem id hid
      · rw [hdraw.placeable.get?_eq_none hl] at ho
        cases ho
    · exact ⟨x, hx, hU.wired_of_notMem hc hdraw (hc.isNode_of_located hx) hxU h⟩
  · rintro ⟨x, hx, h⟩
    exact ⟨x, hx, hdraw.placeable.wired_withRats h⟩

end Merged

theorem settled_of_spanning [OrderedScalar α] (hc : Regular c (rules settings))
    (hbridges : BridgesSymm c policy) (he : e = ofTerminals settings c ts)
    (hls : ls = (LinkTable.ofSubnets c.store policy e.subnets).spanning)
    (hpos : 0 < e.subnets.length) (hbelow : ∀ e ∈ c.store.objects.entries, e.1 < c.store.nextId)
    (hroom : c.store.nextId.toNat + ls.length ≤ UInt64.size) :
    Settled settings policy c ls e (ofTerminals settings (c.withRats ls) ts) := by
  classical
  have hpieces := he ▸ ofTerminals_spec settings hc ts
  obtain ⟨x₀, xs, hxs⟩ : ∃ x₀ xs,
      firsts (Wired c (rules settings)) [] (c.store.located ts) = x₀ :: xs :=
    List.exists_cons_of_length_pos (hpieces.subnets.length_eq ▸ hpos)
  have h : PiecesOf c (rules settings) e.subnets (x₀ :: xs) := he ▸ hxs ▸ piecesOf hc ts
  -- The first run has grown the first subnet by the links it has drawn.
  obtain ⟨es, J, hgrown, hes⟩ := LinkTable.exists_grown c.store policy (e.subnets.length - 1) [0]
    {(⟨0, hpos⟩ : Fin e.subnets.length)} (fun i => by simp [Fin.ext_iff])
    (by rw [Finset.card_singleton]; omega)
  change List.Forall₂ _ es (LinkTable.ofSubnets c.store policy e.subnets).spanning at hes
  rw [← hls] at hes
  have hlinks : List.Forall₂ (fun e' l => Links c.store policy e.subnets e'.1 e'.2 l) es ls :=
    hes.imp fun _ _ hl => (LinkTable.get?_eq_some hl).links
  have hdraw := h.drawable hc hlinks (by omega) (Store.get?_freshIds hbelow hroom)
  have hU := h.merges_of_grown hc rfl hpos hgrown hlinks hdraw
  have hpieces' := ofTerminals_spec settings (hc.withRats hdraw) ts
  have h' := firsts_located_withRats hc hxs hdraw hU ▸ piecesOf (hc.withRats hdraw) ts
  refine ⟨?_, ?_, ?_, hdraw.placeable.terminalOf?_withRats, ?_⟩
  · rw [hpieces'.missing, hpieces.missing, hdraw.placeable.find?_withRats]
  · have hsize := Merges.length_pieces hU hc h'
    rw [hgrown.card_eq, Finset.card_singleton, hlinks.length_eq] at hsize
    omega
  · exact fun _ i j hi hij a ha b hb =>
      Merges.not_admits hU hc hdraw hbridges hgrown.not_adj h' hi hij ha hb
  · intro id hid
    obtain ⟨o, ho, -⟩ := Option.bind_eq_some_iff.1 (Option.some_get hid).symm
    rw [he]
    refine discovered_withRats_iff hc hdraw hU ?_ ho
    rintro x ⟨j, -, hjx⟩
    have hfirst (y : ObjectId) (hy : y ∈ x₀ :: xs) : y ∈ c.store.located ts :=
      mem_of_mem_firsts (hxs.symm ▸ hy)
    exact ⟨h.seed j, hfirst _ (h.seed_mem j), hjx⟩

/-- The links along which subnets get connected. -/
def linksOf (settings : Settings α) (policy : Policy) (s : Store α) (subnets : List Subnet) :
    List (Link α) :=
  if 2 ≤ subnets.length ∧ subnets.length ≤ settings.maxSubnets.toNat then
    (LinkTable.ofSubnets s policy subnets).spanning
  else []

/-- What is found after the links of the subnets have been drawn, if any are. -/
theorem settled [OrderedScalar α] (hc : Regular c (rules settings))
    (hbridges : BridgesSymm c policy) (he : e = ofTerminals settings c ts)
    (hls : ls = linksOf settings policy c.store e.subnets)
    (hbelow : ∀ e ∈ c.store.objects.entries, e.1 < c.store.nextId)
    (hroom : c.store.nextId.toNat + ls.length ≤ UInt64.size) :
    Settled settings policy c ls e (ofTerminals settings (c.withRats ls) ts) := by
  by_cases hrange : 2 ≤ e.subnets.length ∧ e.subnets.length ≤ settings.maxSubnets.toNat
  · rw [linksOf, if_pos hrange] at hls
    exact settled_of_spanning hc hbridges he hls (by omega) hbelow hroom
  · rw [linksOf, if_neg hrange] at hls
    subst hls
    have hsame : ofTerminals settings (c.withRats []) ts = e := he.symm
    rw [hsame]
    refine ⟨rfl, rfl, fun hmax i j hi hij => ?_, fun _ => rfl, fun _ _ => .rfl⟩
    have hj := j.2
    have hij : i.1 < j.1 := hij
    omega

end Extraction

end Ratsnest
