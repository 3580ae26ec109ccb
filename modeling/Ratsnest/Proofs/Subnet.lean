import Mathlib.Data.List.Forall2
import Ratsnest.Proofs.Crawl.Component
import Ratsnest.Proofs.Journal.Edit
import Ratsnest.Subnet

/-!
# What the pieces of a net are

The pieces of a net are the components of its terminals, each one listed where the first of its
terminals is (`Extraction.run_spec`).  `firsts` says which terminals these are, for any relation
between them.
-/

namespace Ratsnest

universe u v

/-! ## The first ones -/

section Firsts

variable {κ : Type v} {R R' : κ → κ → Prop}

open Classical in
/-- The elements that none in `seen` and none before them is related to. -/
noncomputable def firsts (R : κ → κ → Prop) (seen : List κ) : List κ → List κ
  | [] => []
  | x :: xs => if ∃ y ∈ seen, R y x then firsts R seen xs else x :: firsts R (x :: seen) xs

theorem firsts_cons_of_related {seen : List κ} {x : κ} (h : ∃ y ∈ seen, R y x) (xs : List κ) :
    firsts R seen (x :: xs) = firsts R seen xs := if_pos h

theorem firsts_cons_of_not_related {seen : List κ} {x : κ} (h : ¬∃ y ∈ seen, R y x)
    (xs : List κ) : firsts R seen (x :: xs) = x :: firsts R (x :: seen) xs := if_neg h

theorem mem_of_mem_firsts {xs seen : List κ} {x : κ} (h : x ∈ firsts R seen xs) : x ∈ xs := by
  induction xs generalizing seen with
  | nil => cases h
  | cons z xs ih =>
    by_cases hz : ∃ y ∈ seen, R y z
    · rw [firsts_cons_of_related hz] at h
      exact List.mem_cons_of_mem z (ih h)
    · rw [firsts_cons_of_not_related hz] at h
      rcases List.mem_cons.1 h with rfl | h
      · exact List.mem_cons_self
      · exact List.mem_cons_of_mem z (ih h)

theorem length_firsts_le (xs seen : List κ) : (firsts R seen xs).length ≤ xs.length := by
  induction xs generalizing seen with
  | nil => exact le_rfl
  | cons z xs ih =>
    by_cases hz : ∃ y ∈ seen, R y z
    · rw [firsts_cons_of_related hz]
      exact (ih seen).trans (Nat.le_succ _)
    · rw [firsts_cons_of_not_related hz]
      exact Nat.succ_le_succ (ih (z :: seen))

/-- No first one is related to a seen one or to an earlier first one. -/
theorem firsts_unrelated (xs seen : List κ) :
    (∀ x ∈ firsts R seen xs, ∀ y ∈ seen, ¬R y x) ∧
      (firsts R seen xs).Pairwise fun y x => ¬R y x := by
  induction xs generalizing seen with
  | nil => exact ⟨fun _ h => absurd h List.not_mem_nil, .nil⟩
  | cons z xs ih =>
    by_cases hz : ∃ y ∈ seen, R y z
    · rw [firsts_cons_of_related hz]
      exact ih seen
    · obtain ⟨hout, hpair⟩ := ih (z :: seen)
      rw [firsts_cons_of_not_related hz]
      refine ⟨fun x hx y hy hyx => ?_, List.pairwise_cons.2 ⟨fun x hx => ?_, hpair⟩⟩
      · rcases List.mem_cons.1 hx with rfl | hx
        · exact hz ⟨y, hy, hyx⟩
        · exact hout x hx y (List.mem_cons_of_mem z hy) hyx
      · exact hout x hx z List.mem_cons_self

/-- Every element is related to a seen one or to a first one. -/
theorem exists_firsts (hrefl : ∀ x, R x x) {xs : List κ} {x : κ} (h : x ∈ xs) (seen : List κ) :
    (∃ y ∈ seen, R y x) ∨ ∃ y ∈ firsts R seen xs, R y x := by
  induction xs generalizing seen with
  | nil => cases h
  | cons z xs ih =>
    by_cases hz : ∃ y ∈ seen, R y z
    · rw [firsts_cons_of_related hz]
      rcases List.mem_cons.1 h with rfl | h
      · exact .inl hz
      · exact ih h seen
    · rw [firsts_cons_of_not_related hz]
      rcases List.mem_cons.1 h with rfl | h
      · exact .inr ⟨x, List.mem_cons_self, hrefl x⟩
      · rcases ih h (z :: seen) with ⟨y, hy, hyx⟩ | ⟨y, hy, hyx⟩
        · rcases List.mem_cons.1 hy with rfl | hy
          · exact .inr ⟨y, List.mem_cons_self, hyx⟩
          · exact .inl ⟨y, hy, hyx⟩
        · exact .inr ⟨y, List.mem_cons_of_mem z hy, hyx⟩

/-- For a coarser relation the first ones are found among those for the finer one. -/
theorem firsts_firsts (hle : ∀ x y, R x y → R' x y) (hrefl : ∀ x, R x x)
    (htrans : ∀ {x y z}, R' x y → R' y z → R' x z) (xs : List κ) {seen seen' : List κ}
    (hseen : ∀ y ∈ seen, ∃ z ∈ seen', R' z y) :
    firsts R' seen' xs = firsts R' seen' (firsts R seen xs) := by
  induction xs generalizing seen seen' with
  | nil => rfl
  | cons x xs ih =>
    by_cases hx : ∃ y ∈ seen, R y x
    · obtain ⟨y, hy, hyx⟩ := hx
      obtain ⟨z, hz, hzy⟩ := hseen y hy
      rw [firsts_cons_of_related ⟨y, hy, hyx⟩,
        firsts_cons_of_related ⟨z, hz, htrans hzy (hle y x hyx)⟩]
      exact ih hseen
    · rw [firsts_cons_of_not_related hx]
      by_cases hx' : ∃ y ∈ seen', R' y x
      · rw [firsts_cons_of_related hx', firsts_cons_of_related hx']
        apply ih
        intro y hy
        rcases List.mem_cons.1 hy with rfl | hy
        · exact hx'
        · exact hseen y hy
      · rw [firsts_cons_of_not_related hx', firsts_cons_of_not_related hx']
        refine congrArg (x :: ·) (ih fun y hy => ?_)
        rcases List.mem_cons.1 hy with rfl | hy
        · exact ⟨y, List.mem_cons_self, hle y y (hrefl y)⟩
        · obtain ⟨z, hz, hzy⟩ := hseen y hy
          exact ⟨z, List.mem_cons_of_mem x hz, hzy⟩

/-- Where only elements with property `K` are related, all of them to a seen one, the others are
the first ones. -/
theorem firsts_eq_filter (K : κ → Bool) {xs seen : List κ}
    (hK : ∀ x ∈ xs, K x → ∃ y ∈ seen, R y x) (hseen : ∀ x ∈ xs, ¬K x → ∀ y ∈ seen, ¬R y x)
    (hxs : xs.Pairwise fun y x => ¬K x → ¬R y x) :
    firsts R seen xs = xs.filter fun x => !K x := by
  induction xs generalizing seen with
  | nil => rfl
  | cons x xs ih =>
    obtain ⟨hx, hxs⟩ := List.pairwise_cons.1 hxs
    have hK' : ∀ z ∈ xs, K z → ∃ y ∈ seen, R y z := fun z hz =>
      hK z (List.mem_cons_of_mem x hz)
    by_cases hKx : K x
    · rw [firsts_cons_of_related (hK x List.mem_cons_self hKx),
        List.filter_cons_of_neg (by simp [hKx])]
      exact ih hK' (fun z hz => hseen z (List.mem_cons_of_mem x hz)) hxs
    · have hnot : ¬∃ y ∈ seen, R y x := fun ⟨y, hy, hyx⟩ =>
        hseen x List.mem_cons_self hKx y hy hyx
      rw [firsts_cons_of_not_related hnot, List.filter_cons_of_pos (by simp [hKx])]
      refine congrArg (x :: ·) (ih (fun z hz hKz => ?_) (fun z hz hKz y hy => ?_) hxs)
      · obtain ⟨y, hy, hyz⟩ := hK' z hz hKz
        exact ⟨y, List.mem_cons_of_mem x hy, hyz⟩
      · rcases List.mem_cons.1 hy with rfl | hy
        · exact hx z hz hKz
        · exact hseen z (List.mem_cons_of_mem x hz) hKz y hy

end Firsts

/-! ## The objects of the terminals -/

namespace Store

variable {α : Type u} {s : Store α} {id : ObjectId}

theorem of_find?_eq_some {p : Pin} (h : s.find? p = some id) :
    ∃ o ∈ s.toList, o.id = id ∧ o.isRat = false ∧ s.pinOf? o = some p := by
  obtain ⟨o, ho, rfl⟩ := Option.map_eq_some_iff.1 h
  have hp := List.find?_some ho
  rw [Bool.and_eq_true, Bool.not_eq_true', beq_iff_eq] at hp
  exact ⟨o, List.mem_of_find?_eq_some ho, rfl, hp⟩

/-- The object found for a pin is on the board and stands for it. -/
theorem Keyed.of_find? {p : Pin} (hk : s.Keyed) (h : s.find? p = some id) :
    s.contains id ∧ s.terminalOf? id = some p := by
  obtain ⟨o, ho, rfl, -, hpin⟩ := of_find?_eq_some h
  obtain ⟨id, hid⟩ := mem_toList_iff.1 ho
  obtain rfl := keyed_iff.1 hk id o hid
  refine ⟨contains_of_get? hid, ?_⟩
  rw [terminalOf?, hid, Option.bind_some, hpin]

/-- The objects that stand for terminals, in the order of these. -/
def located (s : Store α) (ts : List Terminal) : List ObjectId :=
  ts.filterMap fun t => s.find? t.key

theorem located_cons {t : Terminal} (h : s.find? t.key = some id) (ts : List Terminal) :
    s.located (t :: ts) = id :: s.located ts := List.filterMap_cons_some h

theorem countP_isNone_cons {t : Terminal} (h : s.find? t.key = some id) (ts : List Terminal) :
    ((t :: ts).countP fun t => (s.find? t.key).isNone) =
      ts.countP fun t => (s.find? t.key).isNone :=
  List.countP_cons_of_neg (by rw [h]; exact Bool.false_ne_true)

/-- Whether there is an object under an id that is no rat line. -/
def holds (s : Store α) (id : ObjectId) : Bool := (s.get? id).any fun o => !o.isRat

end Store

variable {α : Type u} [AngularScalar α] {c : Content α} {r : JoinRules α}

namespace Grounded

omit [AngularScalar α] in
theorem copper_of_located (hc : Grounded c) {ts : List Terminal} {x : ObjectId}
    (h : x ∈ c.store.located ts) : ∃ o ∈ c.copper, o.id = x := by
  obtain ⟨t, -, ht⟩ := List.mem_filterMap.1 h
  obtain ⟨o, ho, rfl, hrat, hpin⟩ := Store.of_find?_eq_some ht
  have hcopper := hc.pads o ho hrat (by rw [hpin]; rfl)
  exact ⟨o, List.mem_filter.2 ⟨ho, hcopper⟩, rfl⟩

omit [AngularScalar α] in
theorem isNode_of_located (hc : Grounded c) {ts : List Terminal} {x : ObjectId}
    (h : x ∈ c.store.located ts) : IsNode c x := by
  obtain ⟨o, ho, rfl⟩ := hc.copper_of_located h
  exact hc.isNode_of_copper ho

/-- What joins lead to is copper, unless it is a rat line. -/
theorem copper_of_holds (hc : Grounded c) {x id : ObjectId} (hx : IsNode c x)
    (h : Wired c r x id) (hid : c.store.holds id) :
    ∃ o ∈ c.copper, o.id = id ∧ c.store.get? id = some o := by
  obtain ⟨o, ho, hrat⟩ := (Option.any_eq_true _ _).1 hid
  have hmem := (hc.isNode_of_wired hx h).mem_copper ho (by simpa using hrat)
  exact ⟨o, hmem, hc.id_eq ho, ho⟩

end Grounded

theorem Regular.isNode_of_located (hc : Regular c r) {ts : List Terminal} {x : ObjectId}
    (h : x ∈ c.store.located ts) : IsNode c x := hc.grounded.isNode_of_located h

/-! ## The pieces -/

namespace Extraction

/-- What an extraction has to find in addition to the `visited` objects, which are the components
of those in `seen`. -/
structure Pieces (c : Content α) (r : JoinRules α) (visited seen : List ObjectId)
    (ts : List Terminal) (e : Extraction) : Prop where
  missing : e.missing = ts.countP fun t => (c.store.find? t.key).isNone
  /-- The subnets are the components of the first located terminals. -/
  subnets : List.Forall₂
    (fun n x => ∀ id, id ∈ n.objects ↔ Wired c r x id ∧ c.store.holds id)
    e.subnets (firsts (Wired c r) seen (c.store.located ts))
  /-- The discoveries are the components of all located terminals. -/
  discoveries : ∀ id, id ∈ objectsOf e.discoveries ↔
    id ∉ visited ∧ ∃ x ∈ c.store.located ts, Wired c r x id

variable {visited seen : List ObjectId} {t : Terminal} {ts : List Terminal} {e : Extraction}
  {seed : ObjectId}

/-- A terminal without an object is counted and not searched from. -/
theorem Pieces.cons_absent (h : Pieces c r visited seen ts e) (ht : c.store.find? t.key = none) :
    Pieces c r visited seen (t :: ts) { e with missing := e.missing + 1 } := by
  have hlocated : c.store.located (t :: ts) = c.store.located ts := List.filterMap_cons_none ht
  constructor
  · rw [List.countP_cons_of_pos (by rw [ht]; rfl), ← h.missing]
  · rw [hlocated]
    exact h.subnets
  · rw [hlocated]
    exact h.discoveries

/-- What is joined to a visited object is visited. -/
theorem mem_of_wired_visited (hseen : ∀ id, id ∈ visited ↔ ∃ x ∈ seen, Wired c r x id)
    {x y : ObjectId} (hx : x ∈ visited) (h : Wired c r x y) : y ∈ visited := by
  obtain ⟨z, hz, hzx⟩ := (hseen x).1 hx
  exact (hseen y).2 ⟨z, hz, hzx.trans h⟩

/-- A terminal that an earlier crawl has reached adds nothing. -/
theorem Pieces.cons_visited (hseen : ∀ id, id ∈ visited ↔ ∃ x ∈ seen, Wired c r x id)
    (h : Pieces c r visited seen ts e) (ht : c.store.find? t.key = some seed)
    (hv : seed ∈ visited) : Pieces c r visited seen (t :: ts) e := by
  constructor
  · rw [Store.countP_isNone_cons ht]
    exact h.missing
  · rw [Store.located_cons ht, firsts_cons_of_related ((hseen seed).1 hv)]
    exact h.subnets
  · intro id
    rw [h.discoveries, Store.located_cons ht]
    apply and_congr_right
    intro hid
    constructor
    · rintro ⟨x, hx, hxid⟩
      exact ⟨x, List.mem_cons_of_mem _ hx, hxid⟩
    · rintro ⟨x, hx, hxid⟩
      rcases List.mem_cons.1 hx with rfl | hx
      · exact absurd (mem_of_wired_visited hseen hv hxid) hid
      · exact ⟨x, hx, hxid⟩

/-- A crawl from a new terminal adds its component as a subnet. -/
theorem Pieces.cons_crawled (hc : Regular c r)
    (hseen : ∀ id, id ∈ visited ↔ ∃ x ∈ seen, Wired c r x id) {found : List Discovery}
    (h : Pieces c r (visited ++ objectsOf found) (seed :: seen) ts e)
    (ht : c.store.find? t.key = some seed) (hnode : IsNode c seed) (hv : seed ∉ visited)
    (hfound : ∀ id, id ∈ objectsOf found ↔ Wired c r seed id) :
    Pieces c r visited seen (t :: ts)
      { e with
        subnets := ⟨t, (objectsOf found).filter c.store.holds⟩ :: e.subnets
        discoveries := found ++ e.discoveries } := by
  constructor
  · rw [Store.countP_isNone_cons ht]
    exact h.missing
  · rw [Store.located_cons ht, firsts_cons_of_not_related fun h => hv ((hseen seed).2 h)]
    refine .cons (fun id => ?_) h.subnets
    rw [List.mem_filter, hfound]
  · intro id
    rw [objectsOf_append, List.mem_append, h.discoveries, Store.located_cons ht, List.mem_append,
      hfound]
    have hout : Wired c r seed id → id ∉ visited := fun h hid =>
      hv (mem_of_wired_visited hseen hid (hc.wired_symm hnode h))
    simp only [List.mem_cons, exists_eq_or_imp]
    tauto

/-- A run finds the pieces that are left by what was visited before it. -/
theorem run_spec (hc : Regular c r) (ts : List Terminal) {visited seen : List ObjectId}
    (hseen : ∀ id, id ∈ visited ↔ ∃ x ∈ seen, Wired c r x id) :
    Pieces c r visited seen ts (run (.ofContent c) r c.store visited ts) := by
  induction ts generalizing visited seen with
  | nil => exact ⟨rfl, .nil, by simp [run, Store.located]⟩
  | cons t ts ih =>
    rw [run]
    cases ht : c.store.find? t.key with
    | none => exact (ih hseen).cons_absent ht
    | some seed =>
      have hseed : seed ∈ c.store.located (t :: ts) := by
        rw [Store.located_cons ht]
        exact List.mem_cons_self
      have hnode : IsNode c seed := hc.isNode_of_located hseed
      dsimp only
      by_cases hv : seed ∈ visited
      · rw [if_pos (List.contains_iff_mem.2 hv)]
        exact (ih hseen).cons_visited hseen ht hv
      · have hcrawl (id : ObjectId) : id ∈ objectsOf
            ((ConnectionIndex.ofContent c).crawl r c.store visited seed) ↔ Wired c r seed id :=
          hc.mem_crawl_iff (fun x hx y hxy => mem_of_wired_visited hseen hx (.single hxy)) hnode hv
        have hseen' (id : ObjectId) : id ∈ visited ++ objectsOf
            ((ConnectionIndex.ofContent c).crawl r c.store visited seed) ↔
              ∃ x ∈ seed :: seen, Wired c r x id := by
          rw [List.mem_append, hcrawl, hseen id]
          simp only [List.mem_cons, exists_eq_or_imp]
          exact or_comm
        rw [if_neg (fun h => hv (List.contains_iff_mem.1 h))]
        exact (ih hseen').cons_crawled hc hseen ht hnode hv hcrawl

/-- The pieces that the terminals of a net fall into. -/
theorem ofTerminals_spec (settings : Settings α) (hc : Regular c (rules settings))
    (ts : List Terminal) : Pieces c (rules settings) [] [] ts (ofTerminals settings c ts) :=
  run_spec hc ts fun id => by simp

/-! ## Their objects -/

/-- What the crawls of terminals discover, joins lead to from the object of one of them. -/
theorem exists_wired {id : ObjectId}
    (h : id ∈ objectsOf (run (.ofContent c) r c.store visited ts).discoveries) :
    ∃ x ∈ c.store.located ts, Wired c r x id := by
  induction ts generalizing visited with
  | nil => cases h
  | cons t ts ih =>
    rw [run] at h
    cases ht : c.store.find? t.key with
    | none =>
      have hlocated : c.store.located (t :: ts) = c.store.located ts :=
        List.filterMap_cons_none ht
      rw [ht] at h
      rw [hlocated]
      exact ih h
    | some seed =>
      rw [Store.located_cons ht]
      simp only [ht] at h
      split at h
      · obtain ⟨x, hx, hid⟩ := ih h
        exact ⟨x, List.mem_cons_of_mem seed hx, hid⟩
      · rw [objectsOf_append, List.mem_append] at h
        rcases h with h | h
        · exact ⟨seed, List.mem_cons_self, wired_of_mem_crawl h⟩
        · obtain ⟨x, hx, hid⟩ := ih h
          exact ⟨x, List.mem_cons_of_mem seed hx, hid⟩

/-- The objects of a piece are discovered, and no rat lines. -/
theorem of_mem_objects {i : ConnectionIndex α} {s : Store α} {p : Subnet} {id : ObjectId}
    (hp : p ∈ (run i r s visited ts).subnets) (hid : id ∈ p.objects) :
    id ∈ objectsOf (run i r s visited ts).discoveries ∧ s.holds id := by
  induction ts generalizing visited with
  | nil => cases hp
  | cons t ts ih =>
    rw [run] at hp ⊢
    cases ht : s.find? t.key with
    | none =>
      rw [ht] at hp
      exact ih hp
    | some seed =>
      simp only [ht] at hp ⊢
      split at hp
      · rename_i hv
        rw [if_pos hv]
        exact ih hp
      · rename_i hv
        rw [if_neg hv, objectsOf_append, List.mem_append]
        rcases List.mem_cons.1 hp with rfl | hp
        · exact (List.mem_filter.1 hid).imp_left .inl
        · exact (ih hp).imp_left .inr

/-- On a grounded board they are copper. -/
theorem mem_copper_of_mem_objects (hc : Grounded c) {settings : Settings α} {p : Subnet}
    {id : ObjectId} (hp : p ∈ (ofTerminals settings c ts).subnets) (hid : id ∈ p.objects) :
    ∃ o ∈ c.copper, o.id = id := by
  obtain ⟨hfound, hholds⟩ := of_mem_objects hp hid
  obtain ⟨x, hx, hwired⟩ := exists_wired hfound
  obtain ⟨o, ho, hoid, -⟩ := hc.copper_of_holds (hc.isNode_of_located hx) hwired hholds
  exact ⟨o, ho, hoid⟩

end Extraction

end Ratsnest
