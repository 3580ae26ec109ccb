import Ratsnest.Proofs.Store
import Ratsnest.Subnet

/-!
# Marks do not join

A store without its marks.  Marking changes nothing else (`Store.unmarked_mark`), and what a crawl
finds depends only on the store without its marks (`ConnectionIndex.crawl_unmarked`): so it does
not matter which of its discoveries are marked already.  The same holds of the pieces of a net
(`Extraction.ofTerminals_congr`).
-/

namespace Ratsnest

universe u

variable {α : Type u}

/-- The object without marks. -/
def BoardObject.unmarked (o : BoardObject α) : BoardObject α := { o with flags := .none }

namespace BoardObject

@[simp] theorem unmarked_id (o : BoardObject α) : o.unmarked.id = o.id := rfl
@[simp] theorem unmarked_shape (o : BoardObject α) : o.unmarked.shape = o.shape := rfl
@[simp] theorem unmarked_part (o : BoardObject α) : o.unmarked.part = o.part := rfl
@[simp] theorem unmarked_pin (o : BoardObject α) : o.unmarked.pin = o.pin := rfl
@[simp] theorem unmarked_isRat (o : BoardObject α) : o.unmarked.isRat = o.isRat := rfl

@[simp] theorem unmarked_changeFlags (o : BoardObject α) (set clear : Flags) :
    (o.changeFlags set clear).unmarked = o.unmarked := rfl

end BoardObject

namespace Store

/-- The store without marks. -/
def unmarked (s : Store α) : Store α := { s with objects := s.objects.map (·.unmarked) }

@[simp] theorem get?_unmarked (s : Store α) (id : ObjectId) :
    s.unmarked.get? id = (s.get? id).map (·.unmarked) := SortedMap.get?_map _ _ _

@[simp] theorem contains_unmarked (s : Store α) (id : ObjectId) :
    s.unmarked.contains id = s.contains id := by
  change (s.unmarked.get? id).isSome = (s.get? id).isSome
  rw [get?_unmarked, Option.isSome_map]

@[simp] theorem size_unmarked (s : Store α) : s.unmarked.size = s.size := by
  simp [unmarked, size, SortedMap.size, SortedMap.map]

@[simp] theorem toList_unmarked (s : Store α) :
    s.unmarked.toList = s.toList.map (·.unmarked) := by
  simp [unmarked, toList, SortedMap.values, SortedMap.map]

/-- Stores whose objects are the same but for their marks, and which agree on all else. -/
theorem unmarked_eq {s t : Store α} (hp : s.parts = t.parts) (hn : s.nextId = t.nextId)
    (h : ∀ id, (s.get? id).map (·.unmarked) = (t.get? id).map (·.unmarked)) :
    s.unmarked = t.unmarked := by
  have hobjects : s.objects.map (·.unmarked) = t.objects.map (·.unmarked) :=
    SortedMap.ext_get? fun id => by
      rw [SortedMap.get?_map, SortedMap.get?_map]
      exact h id
  rw [unmarked, unmarked, hobjects, hp, hn]

@[simp] theorem unmarked_changeFlags (s : Store α) (id : ObjectId) (set clear : Flags) :
    (s.changeFlags id set clear).unmarked = s.unmarked := by
  refine unmarked_eq rfl rfl fun i => ?_
  rw [changeFlags, get?_modify]
  split
  · rw [Option.map_map]
    rfl
  · rfl

/-- Marking changes marks alone. -/
@[simp] theorem unmarked_mark (s : Store α) (m : Marking) (ds : List Discovery) :
    (s.mark m ds).unmarked = s.unmarked := by
  rw [mark]
  induction ds generalizing s with
  | nil => rfl
  | cons d ds ih =>
    rw [List.foldl_cons, ih]
    split
    · exact unmarked_changeFlags s d.object m.set m.clear
    · rfl

@[simp] theorem unmarked_clearFlags (s : Store α) (f : Flags) :
    (s.clearFlags f).unmarked = s.unmarked := by
  refine unmarked_eq rfl rfl fun id => ?_
  rw [get?_clearFlags, Option.map_map]
  rfl

end Store

namespace ConnectionIndex

variable [AngularScalar α]

theorem joins_unmarked (i : ConnectionIndex α) (r : JoinRules α) (s : Store α) (id : ObjectId) :
    i.joins r s.unmarked id = i.joins r s id := by
  have hcopper (o : BoardObject α) : i.copperJoins r s.unmarked id o.unmarked =
      i.copperJoins r s id o := by
    rw [copperJoins, copperJoins, BoardObject.unmarked_shape]
    cases o.shape.box? with
    | none => rfl
    | some b =>
      apply List.filter_congr
      intro other _
      rw [Store.get?_unmarked]
      cases s.get? other <;> rfl
  rw [joins, joins, Store.get?_unmarked]
  cases s.get? id with
  | none => rfl
  | some o =>
    rw [Option.map_some]
    simp only [BoardObject.unmarked_shape, hcopper]
    rfl

theorem crawl_unmarked (i : ConnectionIndex α) (r : JoinRules α) (s : Store α)
    (visited : List ObjectId) (seed : ObjectId) :
    i.crawl r s.unmarked visited seed = i.crawl r s visited seed := by
  have hjoins : i.joins r s.unmarked = i.joins r s := funext (joins_unmarked i r s)
  have hcontains : s.unmarked.contains = s.contains := funext s.contains_unmarked
  rw [crawl, crawl, hjoins, hcontains, Store.size_unmarked]

theorem crawlAll_unmarked (i : ConnectionIndex α) (r : JoinRules α) (s : Store α)
    (visited seeds : List ObjectId) :
    i.crawlAll r s.unmarked visited seeds = i.crawlAll r s visited seeds := by
  induction seeds generalizing visited with
  | nil => rfl
  | cons seed seeds ih => simp only [crawlAll, crawl_unmarked, ih]

/-- The look-ups do not show marks either. -/
theorem ofContent_congr {c d : Content α} (hlayers : c.layers = d.layers)
    (hstore : c.store.unmarked = d.store.unmarked) : ofContent c = ofContent d := by
  have hcopper (c : Content α) : c.copper.map (·.unmarked) =
      (c.store.toList.map (·.unmarked)).filter c.isCopper := by
    rw [List.filter_map]
    rfl
  have hlist : c.store.toList.map (·.unmarked) = d.store.toList.map (·.unmarked) := by
    rw [← Store.toList_unmarked, ← Store.toList_unmarked, hstore]
  have hcopper_eq : c.copper.map (·.unmarked) = d.copper.map (·.unmarked) := by
    have hpred : c.isCopper = d.isCopper := by
      funext o
      rw [Content.isCopper, Content.isCopper, hlayers]
    rw [hcopper, hcopper, hlist, hpred]
  have hboxes (c : Content α) : c.copperIndex =
      .ofEntries ((c.copper.map (·.unmarked)).filterMap fun o =>
        o.shape.box?.map (o.id, ·)) := by
    rw [List.filterMap_map]
    rfl
  have hanchors (c : Content α) : c.store.toList.flatMap anchorsOf =
      (c.store.toList.map (·.unmarked)).flatMap anchorsOf := by
    rw [List.flatMap_map]
    rfl
  have hpads (c : Content α) : c.copper.filterMap padOf? =
      (c.copper.map (·.unmarked)).filterMap padOf? := by
    rw [List.filterMap_map]
    rfl
  rw [ofContent, ofContent, hboxes c, hboxes d, hanchors c, hanchors d, hpads c, hpads d,
    hcopper_eq, hlist]

end ConnectionIndex

/-! ## Pieces of nets -/

namespace Store

variable {s t : Store α}

@[simp] theorem terminalOf?_unmarked (s : Store α) (id : ObjectId) :
    s.unmarked.terminalOf? id = s.terminalOf? id := by
  rw [terminalOf?, terminalOf?, get?_unmarked, Option.bind_map]
  rfl

@[simp] theorem find?_unmarked (s : Store α) (p : Pin) : s.unmarked.find? p = s.find? p := by
  rw [find?, find?, toList_unmarked, List.find?_map, Option.map_map]
  rfl

end Store

namespace Extraction

variable [AngularScalar α]

theorem run_unmarked (i : ConnectionIndex α) (r : JoinRules α) (s : Store α)
    (visited : List ObjectId) (ts : List Terminal) :
    run i r s.unmarked visited ts = run i r s visited ts := by
  have hobject (id : ObjectId) : ((s.unmarked.get? id).any fun o => !o.isRat) =
      (s.get? id).any fun o => !o.isRat := by
    rw [Store.get?_unmarked]
    cases s.get? id <;> rfl
  induction ts generalizing visited with
  | nil => rfl
  | cons t ts ih =>
    simp only [run, Store.find?_unmarked, ConnectionIndex.crawl_unmarked, hobject, ih]

/-- The pieces of a net are the same on boards that differ in marks alone. -/
theorem ofTerminals_congr (settings : Settings α) {c d : Content α}
    (hlayers : c.layers = d.layers) (hstore : c.store.unmarked = d.store.unmarked)
    (ts : List Terminal) : ofTerminals settings c ts = ofTerminals settings d ts := by
  rw [ofTerminals, ofTerminals, ← run_unmarked _ _ c.store, ← run_unmarked _ _ d.store, hstore,
    ConnectionIndex.ofContent_congr hlayers hstore]

end Extraction

/-! ## Marks that are set and cleared -/

namespace Flags

/-- Marks that have been set are there, if they are any. -/
theorem contains_change_set (f g : Flags) : (f.change g .none).contains g = (g.bits != 0) := by
  have hbits : ((f.bits &&& ~~~0) ||| g.bits) &&& g.bits = g.bits := by
    refine UInt32.toBitVec_inj.1 ?_
    simp only [UInt32.toBitVec_and, UInt32.toBitVec_or]
    ext i hi
    simp only [BitVec.getElem_and, BitVec.getElem_or]
    cases g.bits.toBitVec[i] <;> simp
  simp only [contains, change, remove, union, none, hbits, beq_self_eq_true, Bool.and_true]

/-- Marks that have been cleared are not. -/
theorem contains_change_clear (f g : Flags) : (f.change .none g).contains g = false := by
  have hbits : ((f.bits &&& ~~~g.bits) ||| 0) &&& g.bits = 0 := by
    refine UInt32.toBitVec_inj.1 ?_
    simp only [UInt32.toBitVec_and, UInt32.toBitVec_or, UInt32.toBitVec_not]
    ext i hi
    simp only [BitVec.getElem_and, BitVec.getElem_or, BitVec.getElem_not]
    cases g.bits.toBitVec[i] <;> simp
  simp only [contains, change, remove, union, none, hbits]
  by_cases h : g.bits = 0
  · simp [h]
  · simp [Ne.symm h]

end Flags

/-! ## Selection -/

/-- Changes of other marks leave a mark as it is. -/
theorem Flags.contains_change_of_disjoint {set clear g : Flags} (hset : set.bits &&& g.bits = 0)
    (hclear : clear.bits &&& g.bits = 0) (f : Flags) :
    (f.change set clear).contains g = f.contains g := by
  have hbits : ((f.bits &&& ~~~clear.bits) ||| set.bits) &&& g.bits = f.bits &&& g.bits := by
    rw [← UInt32.toBitVec_inj] at hset hclear ⊢
    simp only [UInt32.toBitVec_and, UInt32.toBitVec_or, UInt32.toBitVec_not] at hset hclear ⊢
    ext i hi
    have hset : (set.bits.toBitVec &&& g.bits.toBitVec)[i] = false := by rw [hset]; simp
    have hclear : (clear.bits.toBitVec &&& g.bits.toBitVec)[i] = false := by rw [hclear]; simp
    simp only [BitVec.getElem_and, BitVec.getElem_or, BitVec.getElem_not] at hset hclear ⊢
    revert hset hclear
    cases g.bits.toBitVec[i] <;> simp_all
  simp only [contains, change, remove, union, hbits]

/-- A warning does not change what is selected. -/
theorem Flags.contains_selected_change_warn (f : Flags) :
    (f.change .warn .none).contains .selected = f.contains .selected :=
  contains_change_of_disjoint rfl rfl f

namespace Store

theorem selected_changeFlags_warn (s : Store α) (i id : ObjectId) :
    ((s.changeFlags i .warn .none).get? id).map (·.hasFlags .selected) =
      (s.get? id).map (·.hasFlags .selected) := by
  rw [changeFlags, get?_modify]
  split
  · rw [Option.map_map]
    exact congrArg (Option.map · (s.get? id))
      (funext fun o => o.flags.contains_selected_change_warn)
  · rfl

end Store

end Ratsnest
