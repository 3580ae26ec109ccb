import Ratsnest.Proofs.Flags
import Ratsnest.Proofs.Journal.Unmarked
import Ratsnest.Proofs.WellFormed.Removal

/-!
# What ripping up takes away

Ripping up a net does what taking its loose objects away does on the board without the marks of
discovery (`Board.ripUp_eq_removeAll`): the marks that drive it are cleared before and
after, and on the objects that the history keeps.
-/

namespace Ratsnest

variable {α : Type}

/-! ## What a net is connected to -/

section Connected

variable [AngularScalar α] {c : Content α} {r : JoinRules α} {x id : ObjectId}

/-- What is connected to terminals does not depend on marks. -/
theorem Board.connected_congr (b b' : Board α) (settings : Settings α)
    (hlayers : b.content.layers = b'.content.layers)
    (hstore : b.content.store.unmarked = b'.content.store.unmarked) (ts : List Terminal) :
    b.connected settings ts = b'.connected settings ts := by
  have hfind (t : Terminal) : b.content.store.find? t.key = b'.content.store.find? t.key := by
    rw [← Store.find?_unmarked, hstore, Store.find?_unmarked]
  rw [connected, connected, ConnectionIndex.ofContent_congr hlayers hstore,
    ← ConnectionIndex.crawlAll_unmarked, hstore, ConnectionIndex.crawlAll_unmarked]
  simp only [hfind]

namespace ConnectionIndex

/-- What crawls from several seeds discover, joins lead to from one of them. -/
theorem exists_wired_of_mem_crawlAll {visited seeds : List ObjectId}
    (h : id ∈ objectsOf ((ofContent c).crawlAll r c.store visited seeds)) :
    ∃ x ∈ seeds, Wired c r x id := by
  induction seeds generalizing visited with
  | nil => cases h
  | cons seed seeds ih =>
    rw [crawlAll, objectsOf_append, List.mem_append] at h
    rcases h with h | h
    · exact ⟨seed, List.mem_cons_self, wired_of_mem_crawl h⟩
    · obtain ⟨x, hx, hwired⟩ := ih h
      exact ⟨x, List.mem_cons_of_mem seed hx, hwired⟩

/-- They discover their seeds. -/
theorem mem_crawlAll_of_mem {visited seeds : List ObjectId} (hx : x ∈ seeds)
    (hs : c.store.contains x) :
    x ∈ visited ∨ x ∈ objectsOf ((ofContent c).crawlAll r c.store visited seeds) := by
  induction seeds generalizing visited with
  | nil => cases hx
  | cons seed seeds ih =>
    rw [crawlAll, objectsOf_append, List.mem_append]
    rcases List.mem_cons.1 hx with rfl | hx
    · by_cases hv : x ∈ visited
      · exact .inl hv
      · exact .inr (.inl ((mem_crawl_iff hs hv).2 .seed))
    · rcases ih hx with h | h
      · rw [List.mem_append] at h
        exact h.imp_right .inl
      · exact .inr (.inr h)

/-- They discover all that joins lead to. -/
theorem mem_crawlAll_of_wired {seeds : List ObjectId} (hx : x ∈ seeds)
    (hs : c.store.contains x) (h : Wired c r x id) (hid : c.store.contains id) :
    id ∈ objectsOf ((ofContent c).crawlAll r c.store [] seeds) := by
  induction h with
  | refl => exact (mem_crawlAll_of_mem hx hs).resolve_left List.not_mem_nil
  | tail _ hyz ih =>
    obtain ⟨o, ho⟩ := exists_of_adjacent hyz
    exact (mem_crawlAll_of_adjacent (fun _ h => absurd h List.not_mem_nil)
      (ih (Store.contains_of_get? ho)) hyz hid).resolve_left List.not_mem_nil

end ConnectionIndex

end Connected

/-! ## Marks of discovery -/

namespace Store

theorem clearFlags_eq_remark (s : Store α) (f : Flags) :
    s.clearFlags f = s.remark (·.change .none f) := rfl

theorem clearFlags_clearFlags (s : Store α) (f : Flags) :
    (s.clearFlags f).clearFlags f = s.clearFlags f :=
  remark_clearFlags (g := (·.change .none f)) (fun k => k.change_clear_clear f) s

/-- Clearing the marks that have been set leaves the store without them. -/
theorem clearFlags_mark (s : Store α) (f : Flags) (ds : List Discovery) :
    (s.mark { set := f, clear := .none } ds).clearFlags f = s.clearFlags f := by
  have h : ∀ k : Flags, (k.change f .none).change .none f = k.change .none f :=
    fun k => k.change_change_clear f
  exact remark_mark (g := (·.change .none f)) (m := { set := f, clear := .none }) h s ds

end Store

namespace Board

variable {b : Board α} {ids : List ObjectId} {description : String}

/-- The board without marks of discovery. -/
def unfound (b : Board α) : Board α := b.updateStore (·.clearFlags .found)

theorem unfound_mark (b : Board α) (ds : List Discovery) :
    (b.updateStore (·.mark { set := .found, clear := .none } ds)).unfound = b.unfound :=
  congrArg (fun s => b.updateStore fun _ => s) (b.content.store.clearFlags_mark .found ds)

theorem unfound_unfound (b : Board α) : b.unfound.unfound = b.unfound :=
  congrArg (fun s => b.updateStore fun _ => s) (b.content.store.clearFlags_clearFlags .found)

/-- Taking away an object found, without its mark, is taking it away on the board without marks. -/
theorem unfound_ripUpOne (b : Board α) (id : ObjectId) :
    (b.ripUpOne id).unfound = b.unfound.execute (.remove id) := by
  have hremoved : (b.content.store.changeFlags id .none .found).get? id =
      (b.content.store.clearFlags .found).get? id := by
    rw [Store.changeFlags, Store.get?_modify, if_pos rfl, Store.get?_clearFlags]
  have hstore : ((b.content.store.changeFlags id .none .found).remove id).clearFlags .found =
      (b.content.store.clearFlags .found).remove id := by
    rw [Store.clearFlags_eq_remark, Store.remark_remove,
      Store.remark_changeFlags fun f => f.change_clear_clear .found]
    rfl
  simp only [unfound, ripUpOne, execute, updateStore, update, Edit.remove, Edit.apply, hremoved,
    hstore]

theorem unfound_foldl (b : Board α) (ids : List ObjectId) :
    (ids.foldl ripUpOne b).unfound = ids.foldl (fun b id => b.execute (.remove id)) b.unfound := by
  induction ids generalizing b with
  | nil => rfl
  | cons id ids ih => rw [List.foldl_cons, ih, unfound_ripUpOne, List.foldl_cons]

/-- Taking away objects found, one by one, is taking them all away on the board without marks. -/
theorem unfound_commit_foldl (b : Board α) (description : String) (ids : List ObjectId) :
    (ids.foldl ripUpOne (b.begin description)).commit.unfound =
      b.unfound.removeAll description ids :=
  congrArg commit (unfound_foldl (b.begin description) ids)

/-! ## Loose objects -/

variable [AngularScalar α] {name : String}

/-- What is connected to a net and owned by no part. -/
def IsLoose (b : Board α) (settings : Settings α) (m : Net) (id : ObjectId) : Prop :=
  (b.content.store.get? id).any (·.part.isNone) ∧
    id ∈ objectsOf (b.connected settings m.terminals)

/-- What is doomed once everything connected to a net is marked, and nothing else. -/
theorem isDoomed_mark_iff (b : Board α) (settings : Settings α) (m : Net) (id : ObjectId) :
    let b₁ := b.updateStore (·.clearFlags .found)
    isDoomed (b₁.content.store.mark { set := .found, clear := .none }
      (b₁.connected settings m.terminals)) id = true ↔ b.IsLoose settings m id := by
  intro b₁
  have hconnected : b₁.connected settings m.terminals = b.connected settings m.terminals :=
    b₁.connected_congr b settings rfl (b.content.store.unmarked_clearFlags .found) m.terminals
  have hclear (o : BoardObject α) : (o.changeFlags .none .found).hasFlags .found = false :=
    Flags.contains_change_clear o.flags .found
  have hpart (o : BoardObject α) : (o.changeFlags .none .found).part = o.part := rfl
  have hget : b₁.content.store.get? id =
      (b.content.store.get? id).map (·.changeFlags .none .found) :=
    b.content.store.get?_clearFlags .found id
  rw [isDoomed_mark, hget, Option.any_map, hconnected, IsLoose]
  cases b.content.store.get? id with
  | none => simp
  | some o => simp [hclear, hpart]

/-- The loose objects of a net in the order of their ids. -/
def loose (b : Board α) (settings : Settings α) (m : Net) : List ObjectId :=
  b.content.store.objects.keys.filter fun id => (b.content.store.get? id).any (·.part.isNone) &&
    decide (id ∈ objectsOf (b.connected settings m.terminals))

theorem nodup_loose (b : Board α) (settings : Settings α) (m : Net) : (b.loose settings m).Nodup :=
  (SortedMap.nodup_keys _).filter _

theorem mem_loose_iff {b : Board α} {settings : Settings α} {m : Net} {id : ObjectId} :
    id ∈ b.loose settings m ↔ b.IsLoose settings m id := by
  rw [loose, List.mem_filter, SortedMap.mem_keys_iff, Bool.and_eq_true, decide_eq_true_iff]
  refine ⟨fun h => h.2, fun h => ⟨?_, h⟩⟩
  obtain ⟨o, ho, -⟩ := (Option.any_eq_true _ _).1 h.1
  exact Store.contains_of_get? ho

/-- Ripping up takes away just what is connected to the net and owned by no part, all at once, on the
board without marks of discovery. -/
theorem ripUp_eq_removeAll (b : Board α) (settings : Settings α) {m : Net}
    (hnet : b.content.net name = .ok m) : b.ripUp settings name =
      .ok ((b.loose settings m).length,
        b.unfound.removeAll "Rip up net" (b.loose settings m)) := by
  let b₂ := b.unfound.updateStore
    (·.mark { set := .found, clear := .none } (b.unfound.connected settings m.terminals))
  have hkeys : b₂.content.store.objects.keys = b.content.store.objects.keys :=
    SortedMap.keys_eq_of_map
      (congrArg Store.objects ((Store.unmarked_mark ..).trans (Store.unmarked_clearFlags ..)))
  have hdoomed : b₂.content.store.objects.keys.filter (isDoomed b₂.content.store) =
      b.loose settings m := by
    rw [hkeys, loose]
    refine List.filter_congr fun id _ => Bool.eq_iff_iff.2 ?_
    rw [Bool.and_eq_true, decide_eq_true_iff]
    exact b.isDoomed_mark_iff settings m id
  have hleft (ids : List ObjectId) :
      (ids.foldl ripUpOne (b₂.begin "Rip up net")).commit.unfound =
        b.unfound.removeAll "Rip up net" ids := by
    rw [unfound_commit_foldl, unfound_mark, unfound_unfound]
  rw [ripUp_eq, hnet, ← hleft, ← hdoomed]
  rfl

end Board

end Ratsnest
