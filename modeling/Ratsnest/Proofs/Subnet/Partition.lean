import Ratsnest.Proofs.Document.Board
import Ratsnest.Proofs.Synthesis.Idempotent

/-!
# The pieces of a net are a partition

On a regular board the pieces of a net are the components of its terminals, without their rat
lines: no two of them have an object in common, and two terminals are in one piece exactly when
joins lead from the object of one to that of the other (`Extraction.ofTerminals_partition`).  So
it does not matter in which order the terminals are listed.  A board read from a text can keep
objects under other ids than theirs; there joins need not go both ways, and the order matters
(`Extraction.ofTerminals_depends_on_order`).
-/

namespace Ratsnest

variable {α : Type} [AngularScalar α]

/-- The objects, rat lines apart, that joins lead to from an object. -/
def component (c : Content α) (r : JoinRules α) (x : ObjectId) : Set ObjectId :=
  {id | Wired c r x id ∧ c.store.holds id}

namespace Extraction

/-- The pieces as sets of objects. -/
def pieces (e : Extraction) : Set (Set ObjectId) :=
  {p | ∃ n ∈ e.subnets, p = {id | id ∈ n.objects}}

theorem mem_pieces_iff {e : Extraction} {p : Set ObjectId} :
    p ∈ e.pieces ↔ ∃ ids ∈ e.subnets.map (·.objects), p = {id | id ∈ ids} := by
  simp [pieces]

/-- What the pieces have to be that some terminals fall into. -/
structure Partitions (c : Content α) (r : JoinRules α) (ts : List Terminal) (e : Extraction) :
    Prop where
  /-- No object lies in two pieces. -/
  disjoint : e.subnets.Pairwise fun m n => m.objects.Disjoint n.objects
  /-- The objects in them are on the board and no rat lines. -/
  holds : ∀ n ∈ e.subnets, ∀ id ∈ n.objects, c.store.holds id
  /-- The object of each located terminal lies in exactly one piece. -/
  unique : ∀ x ∈ c.store.located ts,
    ∃! i : Fin e.subnets.length, x ∈ (e.subnets.get i).objects
  /-- Two terminals share a piece if and only if joins lead from one to the other. -/
  share_iff : ∀ x ∈ c.store.located ts, ∀ y ∈ c.store.located ts,
    (∃ n ∈ e.subnets, x ∈ n.objects ∧ y ∈ n.objects) ↔ Wired c r x y
  /-- The pieces together are what joins lead to from the terminals, without the rat lines. -/
  mem_iff : ∀ id, (∃ n ∈ e.subnets, id ∈ n.objects) ↔
    c.store.holds id ∧ ∃ x ∈ c.store.located ts, Wired c r x id
  missing : e.missing = ts.countP fun t => (c.store.find? t.key).isNone

variable {c : Content α} {r : JoinRules α} {settings : Settings α} {ts us : List Terminal}
  {e : Extraction} {x y id : ObjectId}

theorem holds_of_located (h : x ∈ c.store.located ts) (hc : Regular c r) : c.store.holds x := by
  obtain ⟨o, ho, rfl⟩ := hc.grounded.copper_of_located h
  have hrat := Content.not_isRat_of_isCopper (Content.mem_copper_iff.1 ho).2
  rw [Store.holds, hc.grounded.get?_of_copper ho, Option.any_some, hrat]
  rfl

/-- Two objects that joins lead to from one another have the same component. -/
theorem component_eq (hc : Regular c r) (hx : IsNode c x) (h : Wired c r x y) :
    component c r x = component c r y := by
  have hback := hc.wired_symm hx h
  ext id
  exact and_congr_left fun _ => ⟨hback.trans, h.trans⟩

/-- Joins lead to every located terminal from the seed of a piece. -/
theorem exists_wired_seed {subnets : List Subnet}
    (h : PiecesOf c r subnets (firsts (Wired c r) [] (c.store.located ts)))
    (hx : x ∈ c.store.located ts) : ∃ i, Wired c r (h.seed i) x := by
  have hrefl (y : ObjectId) : Wired c r y y := .refl
  obtain ⟨y, hy, hyx⟩ := (exists_firsts hrefl hx []).resolve_left (by simp)
  obtain ⟨i, rfl⟩ := h.exists_seed hy
  exact ⟨i, hyx⟩

/-- The pieces of a net are the components of its located terminals. -/
theorem pieces_ofTerminals (hc : Regular c (rules settings)) (ts : List Terminal) :
    (ofTerminals settings c ts).pieces =
      {p | ∃ x ∈ c.store.located ts, p = component c (rules settings) x} := by
  have h := piecesOf hc ts
  have hset (i : Fin (ofTerminals settings c ts).subnets.length) :
      {id | id ∈ ((ofTerminals settings c ts).subnets.get i).objects} =
        component c (rules settings) (h.seed i) := Set.ext fun id => h.mem_objects_iff i
  ext p
  constructor
  · rintro ⟨n, hn, rfl⟩
    obtain ⟨i, rfl⟩ := List.get_of_mem hn
    exact ⟨h.seed i, mem_of_mem_firsts (h.seed_mem i), hset i⟩
  · rintro ⟨x, hx, rfl⟩
    obtain ⟨i, hi⟩ := exists_wired_seed h hx
    refine ⟨_, List.get_mem _ i, ?_⟩
    rw [hset i, component_eq hc (h.isNode_seed i) hi]

/-- An object in the components of two seeds puts these in one. -/
theorem eq_of_mem_objects (hc : Regular c r) {subnets : List Subnet} {xs : List ObjectId}
    (h : PiecesOf c r subnets xs) {i j : Fin subnets.length}
    (hi : id ∈ (subnets.get i).objects) (hj : id ∈ (subnets.get j).objects) : i = j := by
  have hi' := ((h.mem_objects_iff i).1 hi).1
  have hj' := ((h.mem_objects_iff j).1 hj).1
  exact h.eq_of_wired_seed hc (hi'.trans (hc.wired_symm (h.isNode_seed j) hj'))

theorem partitions_ofTerminals (hc : Regular c (rules settings)) (ts : List Terminal) :
    Partitions c (rules settings) ts (ofTerminals settings c ts) := by
  have h := piecesOf hc ts
  have hmem {x : ObjectId} {i : Fin _} (hx : x ∈ c.store.located ts)
      (hi : Wired c (rules settings) (h.seed i) x) :
      x ∈ ((ofTerminals settings c ts).subnets.get i).objects :=
    (h.mem_objects_iff i).2 ⟨hi, holds_of_located hx hc⟩
  constructor
  case disjoint =>
    refine List.pairwise_iff_get.2 fun i j hij id hi hj => ?_
    exact absurd (eq_of_mem_objects hc h hi hj) hij.ne
  case holds =>
    intro n hn id hid
    obtain ⟨i, rfl⟩ := List.get_of_mem hn
    exact ((h.mem_objects_iff i).1 hid).2
  case unique =>
    intro x hx
    obtain ⟨i, hi⟩ := exists_wired_seed h hx
    exact ⟨i, hmem hx hi, fun j hj => eq_of_mem_objects hc h hj (hmem hx hi)⟩
  case share_iff =>
    intro x hx y hy
    constructor
    · rintro ⟨n, hn, hxn, hyn⟩
      obtain ⟨i, rfl⟩ := List.get_of_mem hn
      have hxi := ((h.mem_objects_iff i).1 hxn).1
      exact (hc.wired_symm (h.isNode_seed i) hxi).trans ((h.mem_objects_iff i).1 hyn).1
    · intro hxy
      obtain ⟨i, hi⟩ := exists_wired_seed h hx
      exact ⟨_, List.get_mem _ i, hmem hx hi, hmem hy (hi.trans hxy)⟩
  case mem_iff =>
    intro id
    constructor
    · rintro ⟨n, hn, hid⟩
      obtain ⟨i, rfl⟩ := List.get_of_mem hn
      obtain ⟨hwired, hholds⟩ := (h.mem_objects_iff i).1 hid
      exact ⟨hholds, h.seed i, mem_of_mem_firsts (h.seed_mem i), hwired⟩
    · rintro ⟨hholds, x, hx, hxid⟩
      obtain ⟨i, hi⟩ := exists_wired_seed h hx
      exact ⟨_, List.get_mem _ i, (h.mem_objects_iff i).2 ⟨hi.trans hxid, hholds⟩⟩
  case missing => exact (ofTerminals_spec settings hc ts).missing

/-- On a regular board the pieces of terminals partition what these are joined to, and they are
the same pieces in whatever order the terminals come. -/
theorem ofTerminals_partition (hc : Regular c (rules settings)) (ts : List Terminal) :
    Partitions c (rules settings) ts (ofTerminals settings c ts) ∧
      ∀ us, ts.Perm us →
        (ofTerminals settings c us).pieces = (ofTerminals settings c ts).pieces ∧
          (ofTerminals settings c us).missing = (ofTerminals settings c ts).missing := by
  refine ⟨partitions_ofTerminals hc ts, fun us hperm => ⟨?_, ?_⟩⟩
  · have hlocated (x : ObjectId) : x ∈ c.store.located us ↔ x ∈ c.store.located ts :=
      (hperm.filterMap _).mem_iff.symm
    simp only [pieces_ofTerminals hc, hlocated]
  · rw [(partitions_ofTerminals hc us).missing, (partitions_ofTerminals hc ts).missing]
    exact (hperm.countP_eq _).symm

open Session in
/-- A board with two touching pads and one apart. -/
def twoTouching : Content Float :=
  (threePins (roundPad 0 0) (roundPad 1 4) (roundPad 2 100)).board.content

/-- Four terminals of which one is not on the board fall into two pieces. -/
theorem ofTerminals_partition_twoTouching :
    let ts : List Terminal := [⟨"A", "1", ∅⟩, ⟨"B", "1", ∅⟩, ⟨"C", "1", ∅⟩, ⟨"D", "1", ∅⟩]
    Regular twoTouching (rules .standard) ∧
      (ofTerminals .standard twoTouching ts).subnets.map (·.objects) = [[0, 1], [2]] ∧
      (ofTerminals .standard twoTouching ts).missing = 1 ∧
      Partitions twoTouching (rules .standard) ts (ofTerminals .standard twoTouching ts) ∧
      (ofTerminals .standard twoTouching ts.reverse).pieces =
        (ofTerminals .standard twoTouching ts).pieces := by
  intro ts
  have hc : Regular twoTouching (rules .standard) := by decide +kernel
  obtain ⟨hpartitions, hperm⟩ := ofTerminals_partition hc ts
  exact ⟨hc, by decide +kernel, by decide +kernel, hpartitions,
    (hperm ts.reverse ts.reverse_perm.symm).1⟩

/-! ## Objects under other ids -/

/-- A board with objects under given ids, and parts for them. -/
def keptUnder (es : List (ObjectId × BoardObject Float)) : Content Float :=
  let parts : Store Float := (Store.empty.addPart ⟨(0 : Nat), "A"⟩).addPart ⟨(1 : Nat), "B"⟩
  { (Content.empty (0 : Nat) "pads" : Content Float) with
    store := { parts with objects := .ofList es, nextId := .ofNat es.length } }

/-- A round pad that is the first pin of a part. -/
def pinPad (id : ObjectId) (x : Float) (part : Nat) : BoardObject Float :=
  { Session.roundPad id x with part := some part, pin := some "1" }

/-- Three pads, the last two kept under each other's ids.  The first two touch. -/
def crossedPads : Content Float :=
  keptUnder [(0, pinPad 0 0 0), (1, Session.roundPad 2 8), (2, pinPad 1 100 1)]

/-- Where pads are kept under each other's ids the pieces depend on the order of the terminals. -/
theorem ofTerminals_depends_on_order :
    let ts : List Terminal := [⟨"A", "1", ∅⟩, ⟨"B", "1", ∅⟩]
    Board.ofText? (Board.ofContent crossedPads).text = some (.ofContent crossedPads) ∧
      0 ≤ (rules (.standard : Settings Float)).bloat ∧ Mutual crossedPads (rules .standard) ∧
      ¬crossedPads.store.Keyed ∧
      (ofTerminals .standard crossedPads ts).subnets.map (·.objects) = [[0], [1]] ∧
      (ofTerminals .standard crossedPads ts.reverse).subnets.map (·.objects) = [[1, 0]] ∧
      (ofTerminals .standard crossedPads ts.reverse).pieces ≠
        (ofTerminals .standard crossedPads ts).pieces := by
  intro ts
  have hboard : Board.ofText? (Board.ofContent crossedPads).text = some (.ofContent crossedPads) :=
    Board.ofText?_text_of_legible (by decide +kernel)
  have hapart : (ofTerminals .standard crossedPads ts).subnets.map (·.objects) = [[0], [1]] := by
    decide +kernel
  have hjoined : (ofTerminals .standard crossedPads ts.reverse).subnets.map (·.objects) =
      [[1, 0]] := by decide +kernel
  refine ⟨hboard, by decide +kernel, by decide +kernel, by decide +kernel, hapart, hjoined, ?_⟩
  intro heq
  have hpiece : {id | id ∈ [(0 : ObjectId)]} ∈
      (ofTerminals .standard crossedPads ts.reverse).pieces := by
    rw [heq, mem_pieces_iff, hapart]
    exact ⟨_, List.mem_cons_self, rfl⟩
  rw [mem_pieces_iff, hjoined] at hpiece
  obtain ⟨ids, hids, hpiece⟩ := hpiece
  obtain rfl := List.mem_singleton.1 hids
  have hone : (1 : ObjectId) ∈ {id | id ∈ [(0 : ObjectId)]} := hpiece ▸ List.mem_cons_self
  exact absurd (List.mem_singleton.1 hone) (by decide)

end Extraction

end Ratsnest
