import Mathlib.Data.Finset.Card
import Mathlib.Data.List.Nodup
import Ratsnest.Crawl.Basic

/-!
# Spreading over a graph of joins

The breadth-first search behind every crawl, over any test of presence and any function of joins.
`Reached` says what there is to find: what paths of joins lead to without entering visited
objects.  The search finds nothing else (`reached_of_mem_spread`), finds nothing twice
(`nodup_spread`), comes to each object from one that it knew before (`spread_traced`), and when it
may take as many objects from the queue as there are present ones it leaves nothing out
(`mem_of_joins_spread`).
-/

namespace Ratsnest

variable {present : ObjectId → Bool} {joins : ObjectId → List (ObjectId × JoinKind)}

/-- An object that paths of joins lead to from `seed`, through present objects outside `visited`
alone. -/
inductive Reached (present : ObjectId → Bool) (joined : ObjectId → ObjectId → Prop)
    (visited : List ObjectId) (seed : ObjectId) : ObjectId → Prop
  /-- The seed is reached. -/
  | seed : Reached present joined visited seed seed
  /-- What is joined to a reached object is reached. -/
  | step {x y : ObjectId} : Reached present joined visited seed x → joined x y → present y →
      y ∉ visited → Reached present joined visited seed y

/-- Whether a list of joins leads from one object to another. -/
def Leads (joins : ObjectId → List (ObjectId × JoinKind)) (x y : ObjectId) : Prop :=
  ∃ k, (y, k) ∈ joins x

/-! ## Fresh joins -/

theorem of_mem_freshJoins {visited : List ObjectId} {js : List (ObjectId × JoinKind)}
    {e : ObjectId × JoinKind} (h : e ∈ freshJoins present visited js) :
    e ∈ js ∧ present e.1 ∧ e.1 ∉ visited := by
  induction js generalizing visited with
  | nil => cases h
  | cons j js ih =>
    obtain ⟨id, kind⟩ := j
    rw [freshJoins] at h
    split at h
    · rename_i hc
      simp only [Bool.and_eq_true, Bool.not_eq_true', List.contains_eq_mem,
        decide_eq_false_iff_not] at hc
      rcases List.mem_cons.1 h with rfl | h
      · exact ⟨List.mem_cons_self, hc⟩
      · obtain ⟨hm, hp, hv⟩ := ih h
        exact ⟨List.mem_cons_of_mem _ hm, hp, fun hn => hv (List.mem_cons_of_mem _ hn)⟩
    · obtain ⟨hm, hp⟩ := ih h
      exact ⟨List.mem_cons_of_mem _ hm, hp⟩

theorem mem_freshJoins {visited : List ObjectId} {js : List (ObjectId × JoinKind)}
    {id : ObjectId} {kind : JoinKind} (h : (id, kind) ∈ js) (hp : present id)
    (hv : id ∉ visited) : id ∈ (freshJoins present visited js).map (·.1) := by
  induction js generalizing visited with
  | nil => cases h
  | cons j js ih =>
    obtain ⟨other, k⟩ := j
    rw [freshJoins]
    by_cases he : id = other
    · subst he
      rw [if_pos (by simp [hp, hv])]
      exact List.mem_cons_self
    · have hm : (id, kind) ∈ js := by
        rcases List.mem_cons.1 h with h | h
        · exact absurd (congrArg Prod.fst h) he
        · exact h
      split
      · exact List.mem_cons_of_mem _ (ih hm (by simp [he, hv]))
      · exact ih hm hv

theorem nodup_freshJoins (visited : List ObjectId) (js : List (ObjectId × JoinKind)) :
    ((freshJoins present visited js).map (·.1)).Nodup := by
  induction js generalizing visited with
  | nil => exact List.nodup_nil
  | cons j js ih =>
    rw [freshJoins]
    split
    · refine List.nodup_cons.2 ⟨fun h => ?_, ih _⟩
      obtain ⟨e, he, heq⟩ := List.mem_map.1 h
      exact (of_mem_freshJoins he).2.2 (heq ▸ List.mem_cons_self)
    · exact ih _

/-! ## What is found -/

/-- The objects of some discoveries. -/
def objectsOf (ds : List Discovery) : List ObjectId := ds.map (·.object)

@[simp] theorem objectsOf_nil : objectsOf [] = [] := rfl

@[simp] theorem objectsOf_cons (d : Discovery) (ds : List Discovery) :
    objectsOf (d :: ds) = d.object :: objectsOf ds := rfl

@[simp] theorem objectsOf_append (ds es : List Discovery) : objectsOf (ds ++ es) = objectsOf ds ++ objectsOf es :=
  List.map_append

/-- What one round of a search discovers. -/
def roundOf (present : ObjectId → Bool) (joins : ObjectId → List (ObjectId × JoinKind))
    (visited : List ObjectId) (id : ObjectId) : List Discovery :=
  (freshJoins present visited (joins id)).map fun f => ⟨f.1, some id, f.2⟩

theorem objectsOf_roundOf (visited : List ObjectId) (id : ObjectId) :
    objectsOf (roundOf present joins visited id) =
      (freshJoins present visited (joins id)).map (·.1) := by
  simp only [objectsOf, roundOf, List.map_map]
  rfl

theorem spread_cons (n : Nat) (id : ObjectId) (queue visited : List ObjectId) :
    spread present joins (n + 1) (id :: queue) visited =
      roundOf present joins visited id ++ spread present joins n
        (queue ++ objectsOf (roundOf present joins visited id))
        (visited ++ objectsOf (roundOf present joins visited id)) := by
  rw [objectsOf_roundOf]
  rfl

theorem of_mem_roundOf {visited : List ObjectId} {id : ObjectId} {d : Discovery}
    (h : d ∈ roundOf present joins visited id) :
    d.arrivedFrom = some id ∧ (d.object, d.kind) ∈ joins id ∧ present d.object ∧
      d.object ∉ visited := by
  obtain ⟨f, hf, rfl⟩ := List.mem_map.1 h
  exact ⟨rfl, of_mem_freshJoins hf⟩

theorem mem_objectsOf_roundOf {visited : List ObjectId} {id other : ObjectId} {kind : JoinKind}
    (h : (other, kind) ∈ joins id) (hp : present other) (hv : other ∉ visited) :
    other ∈ objectsOf (roundOf present joins visited id) := by
  rw [objectsOf_roundOf]
  exact mem_freshJoins h hp hv

theorem nodup_roundOf (visited : List ObjectId) (id : ObjectId) :
    (objectsOf (roundOf present joins visited id)).Nodup := by
  rw [objectsOf_roundOf]
  exact nodup_freshJoins _ _

variable (present joins) in
/-- A search finds what is present and not visited, and nothing twice. -/
theorem nodup_spread (n : Nat) (queue visited : List ObjectId) :
    (objectsOf (spread present joins n queue visited)).Nodup ∧
      ∀ id ∈ objectsOf (spread present joins n queue visited), present id ∧ id ∉ visited := by
  induction n generalizing queue visited with
  | zero => simp [spread]
  | succ n ih =>
    cases queue with
    | nil => simp [spread]
    | cons id queue =>
      rw [spread_cons, objectsOf_append]
      obtain ⟨hn, hm⟩ := ih (queue ++ objectsOf (roundOf present joins visited id))
        (visited ++ objectsOf (roundOf present joins visited id))
      have hround : ∀ other ∈ objectsOf (roundOf present joins visited id),
          present other ∧ other ∉ visited := by
        intro other ho
        obtain ⟨d, hd, rfl⟩ := List.mem_map.1 ho
        exact (of_mem_roundOf hd).2.2
      refine ⟨List.nodup_append'.2 ⟨nodup_roundOf _ _, hn, fun x hx hy => ?_⟩, fun x hx => ?_⟩
      · exact (hm x hy).2 (List.mem_append_right _ hx)
      · rcases List.mem_append.1 hx with hx | hx
        · exact hround x hx
        · exact ⟨(hm x hx).1, fun hv => (hm x hx).2 (List.mem_append_left _ hv)⟩

/-- A search comes to each object from one that was in the queue or found before it. -/
theorem spread_traced (n : Nat) (queue visited : List ObjectId) {pre post : List Discovery}
    {d : Discovery} (h : spread present joins n queue visited = pre ++ d :: post) :
    ∃ x ∈ queue ++ objectsOf pre, d.arrivedFrom = some x ∧ (d.object, d.kind) ∈ joins x := by
  induction n generalizing queue visited pre with
  | zero => simp [spread] at h
  | succ n ih =>
    cases queue with
    | nil => simp [spread] at h
    | cons id queue =>
      rw [spread_cons, List.append_eq_append_iff] at h
      rcases h with ⟨qre, rfl, h⟩ | ⟨rest, h, hrest⟩
      · obtain ⟨x, hx, hd⟩ := ih _ _ h
        refine ⟨x, ?_, hd⟩
        simp only [objectsOf_append, List.mem_append, List.mem_cons] at hx ⊢
        tauto
      · cases rest with
        | nil =>
          obtain ⟨x, hx, hd⟩ := @ih _ _ [] hrest.symm
          refine ⟨x, ?_, hd⟩
          rw [List.append_nil] at h
          simp only [objectsOf_nil, List.append_nil, List.mem_append, List.mem_cons, h] at hx ⊢
          tauto
        | cons e rest =>
          obtain ⟨rfl, -⟩ := List.cons.inj hrest
          have hd : d ∈ roundOf present joins visited id := by
            rw [h]
            exact List.mem_append_right _ List.mem_cons_self
          exact ⟨id, List.mem_cons_self, (of_mem_roundOf hd).1, (of_mem_roundOf hd).2.1⟩

/-- A search finds only what is reached, when it starts from what is reached. -/
theorem reached_of_mem_spread {visited₀ : List ObjectId} {seed : ObjectId} (n : Nat)
    (queue visited : List ObjectId) (hsub : visited₀ ⊆ visited)
    (hq : ∀ x ∈ queue, Reached present (Leads joins) visited₀ seed x) :
    ∀ id ∈ objectsOf (spread present joins n queue visited),
      Reached present (Leads joins) visited₀ seed id := by
  induction n generalizing queue visited with
  | zero => simp [spread]
  | succ n ih =>
    cases queue with
    | nil => simp [spread]
    | cons x queue =>
      rw [spread_cons, objectsOf_append]
      have hround : ∀ id ∈ objectsOf (roundOf present joins visited x),
          Reached present (Leads joins) visited₀ seed id := by
        intro id hid
        obtain ⟨d, hd, rfl⟩ := List.mem_map.1 hid
        obtain ⟨-, hj, hp, hv⟩ := of_mem_roundOf hd
        exact .step (hq x List.mem_cons_self) ⟨d.kind, hj⟩ hp fun h => hv (hsub h)
      intro id hid
      rcases List.mem_append.1 hid with hid | hid
      · exact hround id hid
      · refine ih _ _ (fun y hy => List.mem_append_left _ (hsub hy)) (fun y hy => ?_) id hid
        rcases List.mem_append.1 hy with hy | hy
        · exact hq y (List.mem_cons_of_mem _ hy)
        · exact hround y hy

/-! ## Nothing is left out

Every round takes one object from the queue, and what it adds to the queue is no longer
unvisited.  So the length of the queue plus the number of unvisited objects falls by one. -/

/-- How many rounds a search may still take: the length of the queue and the number of present
objects that are not visited. -/
def roundsLeft (all : Finset ObjectId) (queue visited : List ObjectId) : Nat :=
  queue.length + (all \ visited.toFinset).card

variable (joins) in
theorem roundsLeft_round {all : Finset ObjectId} (hall : ∀ id, present id → id ∈ all)
    (id : ObjectId) (queue visited : List ObjectId) :
    roundsLeft all (queue ++ objectsOf (roundOf present joins visited id))
        (visited ++ objectsOf (roundOf present joins visited id)) + 1 =
      roundsLeft all (id :: queue) visited := by
  have hsub : (objectsOf (roundOf present joins visited id)).toFinset ⊆ all \ visited.toFinset := by
    intro other ho
    obtain ⟨d, hd, rfl⟩ := List.mem_map.1 (List.mem_toFinset.1 ho)
    obtain ⟨-, -, hp, hv⟩ := of_mem_roundOf hd
    exact Finset.mem_sdiff.2 ⟨hall _ hp, fun h => hv (List.mem_toFinset.1 h)⟩
  have hcard := Finset.card_sdiff_add_card_eq_card hsub
  rw [List.toFinset_card_of_nodup (nodup_roundOf visited id)] at hcard
  simp only [roundsLeft, List.length_append, List.length_cons, List.toFinset_append,
    ← Finset.sup_eq_union, ← sdiff_sdiff_left]
  omega

/-- With enough rounds a search follows every join of what is in the queue or found. -/
theorem mem_of_joins_spread {all : Finset ObjectId} (hall : ∀ id, present id → id ∈ all) (n : Nat)
    (queue visited : List ObjectId) (hn : roundsLeft all queue visited ≤ n) {x y : ObjectId}
    (hx : x ∈ queue ++ objectsOf (spread present joins n queue visited)) (hxy : Leads joins x y)
    (hp : present y) : y ∈ visited ++ objectsOf (spread present joins n queue visited) := by
  induction n generalizing queue visited with
  | zero =>
    have : queue = [] := by
      rw [roundsLeft] at hn
      exact List.length_eq_zero_iff.1 (by omega)
    subst this
    simp [spread] at hx
  | succ n ih =>
    cases queue with
    | nil => simp [spread] at hx
    | cons id queue =>
      rw [spread_cons, objectsOf_append] at hx ⊢
      have hleft := roundsLeft_round joins hall id queue visited
      have key := ih (queue ++ objectsOf (roundOf present joins visited id))
        (visited ++ objectsOf (roundOf present joins visited id)) (by omega)
      rcases List.mem_cons.1 hx with rfl | hx
      · obtain ⟨k, hk⟩ := hxy
        by_cases hv : y ∈ visited
        · exact List.mem_append_left _ hv
        · exact List.mem_append_right _ (List.mem_append_left _ (mem_objectsOf_roundOf hk hp hv))
      · rw [← List.append_assoc]
        rw [List.append_assoc] at key
        exact key hx

/-- More rounds than there are left find nothing more. -/
theorem spread_eq_of_roundsLeft_le {all : Finset ObjectId} (hall : ∀ id, present id → id ∈ all)
    (n m : Nat) (queue visited : List ObjectId) (hn : roundsLeft all queue visited ≤ n)
    (hm : roundsLeft all queue visited ≤ m) :
    spread present joins n queue visited = spread present joins m queue visited := by
  induction n generalizing m queue visited with
  | zero =>
    have : queue = [] := by
      rw [roundsLeft] at hn
      exact List.length_eq_zero_iff.1 (by omega)
    subst this
    cases m <;> simp [spread]
  | succ n ih =>
    cases queue with
    | nil => cases m <;> simp [spread]
    | cons id queue =>
      have hleft := roundsLeft_round joins hall id queue visited
      obtain ⟨m, rfl⟩ : ∃ k, m = k + 1 := ⟨m - 1, by omega⟩
      rw [spread_cons, spread_cons, ih m _ _ (by omega) (by omega)]

end Ratsnest
