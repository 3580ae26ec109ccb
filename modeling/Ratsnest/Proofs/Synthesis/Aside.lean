import Ratsnest.Proofs.Crawl.Contact
import Ratsnest.Proofs.Journal.Remarked
import Ratsnest.Proofs.Synthesis.Appended

/-!
# Rat lines drawn elsewhere

Rat lines that end outside a set of objects which joins do not lead out of change nothing for a
net whose terminals are in that set: the crawl finds the same objects in the same order
(`Aside.ofTerminals_withRats`), and between these there are the same links
(`Extraction.linksOf_congr`).
-/

namespace Ratsnest

universe u

/-! ## Searches that stay among some objects -/

section Spread

variable {present present' : ObjectId → Bool} {joins joins' : ObjectId → List (ObjectId × JoinKind)}

theorem freshJoins_congr {js : List (ObjectId × JoinKind)}
    (h : ∀ e ∈ js, present e.1 = present' e.1) (visited : List ObjectId) :
    freshJoins present visited js = freshJoins present' visited js := by
  induction js generalizing visited with
  | nil => rfl
  | cons j js ih =>
    obtain ⟨hj, hjs⟩ := List.forall_mem_cons.1 h
    obtain ⟨id, kind⟩ := j
    dsimp only at hj
    rw [freshJoins, freshJoins, hj, ih hjs, ih hjs]

/-- Searches agree when their joins do on a set of objects that they do not leave. -/
theorem spread_congr {T : Set ObjectId} (hjoins : ∀ x ∈ T, joins x = joins' x)
    (hpresent : ∀ y ∈ T, present y = present' y) (hclosed : ∀ x ∈ T, ∀ y, Leads joins x y → y ∈ T)
    (n : ℕ) (queue visited : List ObjectId) (hqueue : ∀ x ∈ queue, x ∈ T) :
    spread present joins n queue visited = spread present' joins' n queue visited := by
  induction n generalizing queue visited with
  | zero => rfl
  | succ n ih =>
    cases queue with
    | nil => rfl
    | cons id queue =>
      obtain ⟨hid, hqueue⟩ := List.forall_mem_cons.1 hqueue
      have hround : roundOf present joins visited id = roundOf present' joins' visited id := by
        have hleads : ∀ e ∈ joins id, present e.1 = present' e.1 := fun e he =>
          hpresent e.1 (hclosed id hid e.1 ⟨e.2, he⟩)
        rw [roundOf, roundOf, freshJoins_congr hleads, hjoins id hid]
      rw [spread_cons, spread_cons, ih, hround]
      intro x hx
      rcases List.mem_append.1 hx with hx | hx
      · exact hqueue x hx
      · obtain ⟨d, hd, rfl⟩ := List.mem_map.1 hx
        exact hclosed id hid _ ⟨d.kind, (of_mem_roundOf hd).2.1⟩

end Spread

variable {α : Type} [AngularScalar α]

/-! ## What new rat lines leave as it is -/

/-- Whether rat lines along `ls` come behind all objects and end on none in `T`, which is on the
board and which joins do not lead out of. -/
structure Aside (c : Content α) (r : JoinRules α) (ls : List (Link α)) (T : Set ObjectId) :
    Prop where
  below : ∀ e ∈ c.store.objects.entries, e.1 < c.store.nextId
  room : c.store.nextId.toNat + ls.length ≤ UInt64.size
  present : ∀ x ∈ T, c.store.contains x
  closed : ∀ x ∈ T, ∀ y, Adjacent c r c.store x y → y ∈ T
  ends : ∀ l ∈ ls, l.source ∉ T ∧ l.target ∉ T

namespace Aside

variable {c : Content α} {r : JoinRules α} {ls : List (Link α)} {T : Set ObjectId}
  {x : ObjectId} {ts : List Terminal}

theorem placeable (h : Aside c r ls T) : Placeable c ls :=
  .of_below h.below h.room

theorem exists_toList_withRats (h : Aside c r ls T) : ∃ new,
    (c.withRats ls).store.toList = c.store.toList ++ new ∧
      ∀ o ∈ new, ∃ l ∈ ls, o.shape = .rat l.toRat := by
  refine ⟨_, Store.toList_addRats h.below h.room, fun o ho => ?_⟩
  rw [← List.map_uncurry_zip_eq_zipWith, List.mem_map] at ho
  obtain ⟨⟨id, l⟩, hl, rfl⟩ := ho
  exact ⟨l, (List.of_mem_zip hl).2, rfl⟩

theorem get?_withRats (h : Aside c r ls T) (hx : c.store.contains x) :
    (c.withRats ls).store.get? x = c.store.get? x := by
  refine Store.get?_addRats_of_notMem ls c.store fun hid => ?_
  obtain ⟨o, ho⟩ := Store.contains_iff.1 hx
  rw [h.placeable.unused x hid] at ho
  cases ho

theorem copper_withRats (h : Aside c r ls T) : (c.withRats ls).copper = c.copper := by
  obtain ⟨new, hlist, hnew⟩ := h.exists_toList_withRats
  have hnone : new.filter c.isCopper = [] := by
    refine List.filter_eq_nil_iff.2 fun o ho hcopper => ?_
    obtain ⟨l, -, hl⟩ := hnew o ho
    have hrat := Content.not_isRat_of_isCopper hcopper
    rw [BoardObject.isRat, hl] at hrat
    cases hrat
  change (c.withRats ls).store.toList.filter c.isCopper = c.copper
  rw [hlist, List.filter_append, hnone, List.append_nil]
  rfl

theorem find?_withRats (h : Aside c r ls T) (p : Pin) :
    (c.withRats ls).store.find? p = c.store.find? p :=
  congrFun h.placeable.find?_withRats p

/-! ### Joins -/

theorem copperJoins_withRats (h : Aside c r ls T) (id : ObjectId) (o : BoardObject α) :
    (ConnectionIndex.ofContent (c.withRats ls)).copperJoins r (c.withRats ls).store id o =
      (ConnectionIndex.ofContent c).copperJoins r c.store id o := by
  have hboxes : (ConnectionIndex.ofContent (c.withRats ls)).boxes =
      (ConnectionIndex.ofContent c).boxes := by
    simp only [ConnectionIndex.ofContent, Content.copperIndex, h.copper_withRats]
  rw [ConnectionIndex.copperJoins, ConnectionIndex.copperJoins, hboxes]
  cases o.shape.box? with
  | none => rfl
  | some b =>
    apply List.filter_congr
    intro other _
    congr 1
    by_cases hother : c.store.contains other
    · rw [h.get?_withRats hother]
    · -- The object is not on the board, or it is a new rat line, which touches nothing.
      have hold : c.store.get? other = none :=
        Option.eq_none_iff_forall_ne_some.2 fun p hp => hother (Store.contains_of_get? hp)
      rw [hold, Option.any_none, Option.any_eq_false]
      intro p hp
      refine Bool.eq_false_iff.2 fun htouch => ?_
      rcases h.placeable.get?_withRats_iff.1 hp with hp | ⟨l, -, rfl⟩
      · rw [hold] at hp
        cases hp
      · cases not_isRat_of_touches htouch

theorem internalJoins_withRats (h : Aside c r ls T) (id : ObjectId) (o : BoardObject α) :
    (ConnectionIndex.ofContent (c.withRats ls)).internalJoins id o =
      (ConnectionIndex.ofContent c).internalJoins id o := by
  simp only [ConnectionIndex.internalJoins, ConnectionIndex.ofContent, h.copper_withRats]

theorem ratJoins_withRats (h : Aside c r ls T) (hx : x ∈ T) :
    (ConnectionIndex.ofContent (c.withRats ls)).ratJoins x =
      (ConnectionIndex.ofContent c).ratJoins x := by
  obtain ⟨new, hlist, hnew⟩ := h.exists_toList_withRats
  have hnone : (new.flatMap ConnectionIndex.anchorsOf).filter (·.1 == x) = [] := by
    refine List.filter_eq_nil_iff.2 fun e he hex => ?_
    obtain ⟨o, ho, he⟩ := List.mem_flatMap.1 he
    obtain ⟨l, hl, hshape⟩ := hnew o ho
    obtain ⟨hsource, htarget⟩ := h.ends l hl
    obtain rfl : e.1 = x := eq_of_beq hex
    rcases (mem_anchorsOf_iff hshape).1 he with rfl | rfl
    · exact hsource hx
    · exact htarget hx
  simp only [ConnectionIndex.ratJoins, ConnectionIndex.ofContent, hlist, List.flatMap_append,
    List.filter_append, hnone, List.append_nil]

theorem joins_withRats (h : Aside c r ls T) (hx : x ∈ T) :
    (ConnectionIndex.ofContent (c.withRats ls)).joins r (c.withRats ls).store x =
      (ConnectionIndex.ofContent c).joins r c.store x := by
  have hget := h.get?_withRats (h.present x hx)
  obtain ⟨o, ho⟩ := Store.contains_iff.1 (h.present x hx)
  cases hrat : o.isRat with
  | false =>
    rw [ConnectionIndex.joins_eq_of_not_rat _ (hget.trans ho) hrat,
      ConnectionIndex.joins_eq_of_not_rat _ ho hrat, h.copperJoins_withRats,
      h.internalJoins_withRats, h.ratJoins_withRats hx]
  | true =>
    rw [ConnectionIndex.joins, ConnectionIndex.joins, hget, ho]
    cases hs : o.shape with
    | rat l => simp only [hs]
    | _ => simp [BoardObject.isRat, Shape.isRat, hs] at hrat

/-! ### Crawls -/

/-- A crawl from an object in `T` finds what it did, in the same order. -/
theorem crawl_withRats (h : Aside c r ls T) (hx : x ∈ T) (visited : List ObjectId) :
    (ConnectionIndex.ofContent (c.withRats ls)).crawl r (c.withRats ls).store visited x =
      (ConnectionIndex.ofContent c).crawl r c.store visited x := by
  have hcontains {y : ObjectId} (hy : y ∈ T) : (c.withRats ls).store.contains y =
      c.store.contains y := by
    have hy' := h.present y hy
    obtain ⟨o, ho⟩ := Store.contains_iff.1 hy'
    rw [hy', Store.contains_of_get? ((h.get?_withRats hy').trans ho)]
  by_cases hv : x ∈ visited
  · rw [ConnectionIndex.crawl_of_stale fun hs => hs.2 hv,
      ConnectionIndex.crawl_of_stale fun hs => hs.2 hv]
  have hs := h.present x hx
  have hclosed : ∀ x ∈ T, ∀ y,
      Leads ((ConnectionIndex.ofContent (c.withRats ls)).joins r (c.withRats ls).store) x y →
        y ∈ T := by
    rintro x hx y ⟨k, hk⟩
    rw [h.joins_withRats hx] at hk
    exact h.closed x hx y ⟨k, ConnectionIndex.mem_joins_iff.1 hk⟩
  have hle := ConnectionIndex.roundsLeft_seed_le hs visited
  have hsize : c.store.size ≤ (c.withRats ls).store.size := by
    have hlength (s : Store α) : s.size = s.toList.length := by
      simp [Store.size, SortedMap.size, Store.toList, SortedMap.values]
    obtain ⟨new, hlist, -⟩ := h.exists_toList_withRats
    rw [hlength, hlength, hlist, List.length_append]
    exact Nat.le_add_right _ _
  rw [ConnectionIndex.crawl_of_fresh ((hcontains hx).trans hs) hv,
    ConnectionIndex.crawl_of_fresh hs hv]
  congr 1
  calc spread (c.withRats ls).store.contains
        ((ConnectionIndex.ofContent (c.withRats ls)).joins r (c.withRats ls).store)
        (c.withRats ls).store.size [x] (x :: visited)
      = spread c.store.contains ((ConnectionIndex.ofContent c).joins r c.store)
        (c.withRats ls).store.size [x] (x :: visited) :=
        spread_congr (fun y hy => h.joins_withRats hy) (fun y hy => hcontains hy) hclosed _ _ _
          (by simpa using hx)
    _ = spread c.store.contains ((ConnectionIndex.ofContent c).joins r c.store)
        c.store.size [x] (x :: visited) :=
        spread_eq_of_roundsLeft_le (fun _ => Store.mem_ids.2) _ _ _ _ (hle.trans hsize) hle

/-! ### Pieces -/

theorem run_withRats (h : Aside c r ls T) (hts : ∀ x ∈ c.store.located ts, x ∈ T)
    (visited : List ObjectId) :
    Extraction.run (.ofContent (c.withRats ls)) r (c.withRats ls).store visited ts =
      Extraction.run (.ofContent c) r c.store visited ts := by
  induction ts generalizing visited with
  | nil => rfl
  | cons t ts ih =>
    rw [Extraction.run, Extraction.run, h.find?_withRats]
    cases ht : c.store.find? t.key with
    | none =>
      have hlocated : c.store.located (t :: ts) = c.store.located ts :=
        List.filterMap_cons_none ht
      rw [hlocated] at hts
      simp only [ih hts]
    | some seed =>
      rw [Store.located_cons ht] at hts
      obtain ⟨hseed, hts⟩ := List.forall_mem_cons.1 hts
      have hobjects : ((objectsOf ((ConnectionIndex.ofContent c).crawl r c.store visited
          seed)).filter fun id => ((c.withRats ls).store.get? id).any fun o => !o.isRat) =
            (objectsOf ((ConnectionIndex.ofContent c).crawl r c.store visited seed)).filter
              fun id => (c.store.get? id).any fun o => !o.isRat := by
        apply List.filter_congr
        intro id hid
        rw [h.get?_withRats ((ConnectionIndex.nodup_crawl _ _ _).2 id hid).1]
      rw [objectsOf] at hobjects
      simp only [h.crawl_withRats hseed, ih hts, hobjects]

/-- The pieces of a net with its terminals in `T` are what they were. -/
theorem ofTerminals_withRats {settings : Settings α}
    (h : Aside c (Extraction.rules settings) ls T) (hts : ∀ x ∈ c.store.located ts, x ∈ T) :
    Extraction.ofTerminals settings (c.withRats ls) ts =
      Extraction.ofTerminals settings c ts := h.run_withRats hts []

end Aside

/-! ## Links -/

/-- What matters of the object under an id when links are looked for: its shape, and whether it is
selected. -/
def Store.linkable {α : Type u} (s : Store α) (id : ObjectId) : Option (Shape α × Bool) :=
  (s.get? id).map fun o => (o.shape, o.hasFlags .selected)

/-- Other marks than selection do not matter. -/
theorem Store.linkable_remark {α : Type u} {g : Flags → Flags}
    (hg : ∀ f, (g f).contains .selected = f.contains .selected) (s : Store α) (id : ObjectId) :
    (s.remark g).linkable id = s.linkable id := by
  rw [linkable, linkable, get?_remark, Option.map_map]
  refine congrArg (Option.map · (s.get? id)) (funext fun o => ?_)
  exact Prod.ext rfl (hg o.flags)

section Links

variable {s t : Store α} {policy : Policy}

theorem Link.between?_congr {pair : ObjectId × ObjectId}
    (h₁ : s.linkable pair.1 = t.linkable pair.1) (h₂ : s.linkable pair.2 = t.linkable pair.2) :
    between? s policy pair = between? t policy pair := by
  have key (s : Store α) : between? s policy pair = (s.linkable pair.1).bind fun a =>
      (s.linkable pair.2).bind fun b =>
        if policy.onlySelected && !a.2 && !b.2 then none
        else (a.1.bridge? policy b.1).map fun bridge => ⟨pair.1, pair.2, bridge⟩ := by
    rw [between?, Store.linkable, Store.linkable]
    cases s.get? pair.1 with
    | none => rfl
    | some o =>
      cases s.get? pair.2 with
      | none => rfl
      | some p =>
        simp only [Option.bind_eq_bind, Option.bind_some, Option.map_some]
        split
        · rfl
        · exact (Option.map_eq_bind ..).symm
  rw [key, key, h₁, h₂]

theorem Link.shortest_congr {pairs : List (ObjectId × ObjectId)}
    (h : ∀ pair ∈ pairs, s.linkable pair.1 = t.linkable pair.1 ∧
      s.linkable pair.2 = t.linkable pair.2) (best : Option (Link α)) :
    shortest s policy best pairs = shortest t policy best pairs := by
  induction pairs generalizing best with
  | nil => rfl
  | cons pair pairs ih =>
    obtain ⟨⟨h₁, h₂⟩, hrest⟩ := List.forall_mem_cons.1 h
    simp only [shortest, between?_congr h₁ h₂, ih hrest]

/-- Subnets have the same links on boards with the same objects in them. -/
theorem LinkTable.ofSubnets_congr {subnets : List Subnet}
    (h : ∀ n ∈ subnets, ∀ id ∈ n.objects, s.linkable id = t.linkable id) :
    ofSubnets s policy subnets = ofSubnets t policy subnets := by
  have hpair {a b : Subnet} (ha : a ∈ subnets) (hb : b ∈ subnets) :
      Link.ofSubnets? s policy a b = Link.ofSubnets? t policy a b := by
    refine Link.shortest_congr (fun pair hpair => ?_) none
    obtain ⟨i, hi, hpair⟩ := List.mem_flatMap.1 hpair
    obtain ⟨j, hj, rfl⟩ := List.mem_map.1 hpair
    exact ⟨h a ha i hi, h b hb j hj⟩
  have hrows : rowsOf s policy subnets = rowsOf t policy subnets := by
    clear h
    induction subnets with
    | nil => rfl
    | cons a subnets ih =>
      rw [rowsOf, rowsOf,
        ih fun ha hb => hpair (List.mem_cons_of_mem _ ha) (List.mem_cons_of_mem _ hb),
        List.map_congr_left fun b hb => hpair List.mem_cons_self (List.mem_cons_of_mem _ hb)]
  rw [ofSubnets, ofSubnets, hrows]

theorem Extraction.linksOf_congr {settings : Settings α} {subnets : List Subnet}
    (h : ∀ n ∈ subnets, ∀ id ∈ n.objects, s.linkable id = t.linkable id) :
    linksOf settings policy s subnets = linksOf settings policy t subnets := by
  rw [linksOf, linksOf, LinkTable.ofSubnets_congr h]

/-- The links of subnets lead from one of them to another. -/
theorem Extraction.exists_links_of_linksOf [OrderedScalar α] {settings : Settings α}
    {c : Content α} {subnets : List Subnet} {l : Link α}
    (h : l ∈ linksOf settings policy c.store subnets) :
    ∃ i j, Links c.store policy subnets i j l := by
  rw [linksOf] at h
  split at h
  · rename_i hrange
    obtain ⟨es, J, -, hes⟩ := LinkTable.exists_grown c.store policy (subnets.length - 1) [0]
      {(⟨0, by omega⟩ : Fin subnets.length)} (fun i => by simp [Fin.ext_iff])
      (by rw [Finset.card_singleton]; omega)
    have hlinks : List.Forall₂ (fun e l => Links c.store policy subnets e.1 e.2 l) es
        (LinkTable.ofSubnets c.store policy subnets).spanning :=
      hes.imp fun _ _ hl => (LinkTable.get?_eq_some hl).links
    obtain ⟨e, -, hel⟩ := exists_edge_of_link hlinks h
    exact ⟨e.1, e.2, hel⟩
  · cases h

/-- So they end on objects of the subnets. -/
theorem Extraction.mem_objects_of_linksOf [OrderedScalar α] {settings : Settings α} {c : Content α}
    {subnets : List Subnet} {l : Link α} (h : l ∈ linksOf settings policy c.store subnets) :
    (∃ n ∈ subnets, l.source ∈ n.objects) ∧ ∃ n ∈ subnets, l.target ∈ n.objects := by
  obtain ⟨i, j, hlinks⟩ := exists_links_of_linksOf h
  obtain ⟨hsource, htarget⟩ := hlinks.mem_objects
  exact ⟨⟨_, List.get_mem _ i, hsource⟩, _, List.get_mem _ j, htarget⟩

end Links

end Ratsnest
