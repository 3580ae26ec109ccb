import Mathlib.Data.List.Nodup
import Mathlib.Data.List.Perm.Basic
import Ratsnest.Proofs.Crawl.Spread
import Ratsnest.Proofs.Marks
import Ratsnest.Short

/-!
# Counting short circuits

A run reports each pair of shorted nets once, so how many it reports depends on the discovered
objects alone: neither on their order nor on how the host answers
(`ShortWatch.count_checkAll_congr`).  All that a run leaves on the board is marks.
-/

namespace Ratsnest

universe u

namespace ShortWatch

variable {α : Type u}

/-- The pair of nets that the object under an id shorts. -/
def pair? (w : ShortWatch) (s : Store α) (id : ObjectId) : Option String :=
  ((s.terminalOf? id).bind fun pin => (w.owners.get? pin).bind fun (_, net) =>
    if net == w.net then none else some (pairName w.net net))

theorem pair?_eq_map_offense? (w : ShortWatch) (s : Store α) (d : Discovery) :
    w.pair? s d.object = (w.offense? s d).map fun o => pairName w.net o.2 := by
  simp only [pair?, offense?, Option.bind_eq_bind]
  cases s.terminalOf? d.object with
  | none => rfl
  | some pin =>
    simp only [Option.bind_some]
    cases w.owners.get? pin with
    | none => rfl
    | some owner =>
      simp only [Option.bind_some]
      split <;> rfl

/-- Looking changes neither the crawled net nor the owners. -/
theorem check_frame (host : Host) (s : Store α) (w : ShortWatch) (calls : List HostCall)
    (d : Discovery) : (w.check host s calls d).1.net = w.net ∧
      (w.check host s calls d).1.owners = w.owners := by
  rw [check]
  split
  · exact ⟨rfl, rfl⟩
  · dsimp only
    split <;> exact ⟨rfl, rfl⟩

/-- One look reports the pair of the discovery unless it is reported already. -/
theorem check_spec (host : Host) (s : Store α) (w : ShortWatch) (calls : List HostCall)
    (d : Discovery) (h : w.reported.Nodup) :
    (w.check host s calls d).1.reported.Nodup ∧
      ∀ p, p ∈ (w.check host s calls d).1.reported ↔
        p ∈ w.reported ∨ w.pair? s d.object = some p := by
  rw [pair?_eq_map_offense?, check]
  cases w.offense? s d with
  | none => exact ⟨h, fun p => by simp⟩
  | some o =>
    obtain ⟨pin, net⟩ := o
    dsimp only
    split
    · rename_i hmem
      refine ⟨h, fun p => ⟨.inl, ?_⟩⟩
      rintro (hp | hp)
      · exact hp
      · exact Option.some.inj hp ▸ List.contains_iff_mem.1 hmem
    · rename_i hmem
      refine ⟨List.nodup_cons.2 ⟨fun h => hmem (List.contains_iff_mem.2 h), h⟩, fun p => ?_⟩
      rw [List.mem_cons, Option.map_some, Option.some.injEq, or_comm, eq_comm]

/-- Looking at discoveries reports the pairs that their objects short, each once. -/
theorem checkAll_spec (host : Host) (s : Store α) (ds : List Discovery) (w : ShortWatch)
    (calls : List HostCall) (h : w.reported.Nodup) :
    (w.checkAll host s calls ds).1.reported.Nodup ∧
      ∀ p, p ∈ (w.checkAll host s calls ds).1.reported ↔
        p ∈ w.reported ∨ ∃ id ∈ objectsOf ds, w.pair? s id = some p := by
  rw [checkAll]
  induction ds generalizing w calls with
  | nil => exact ⟨h, fun p => by simp⟩
  | cons d ds ih =>
    obtain ⟨hnet, howners⟩ := w.check_frame host s calls d
    obtain ⟨hnodup, hmem⟩ := w.check_spec host s calls d h
    obtain ⟨hnodup', hmem'⟩ := ih (w.check host s calls d).1 (w.check host s calls d).2 hnodup
    have hpair (id : ObjectId) :
        (w.check host s calls d).1.pair? s id = w.pair? s id := by
      rw [pair?, pair?, hnet, howners]
    refine ⟨hnodup', fun p => (hmem' p).trans ?_⟩
    simp only [hmem, hpair, objectsOf_cons, List.mem_cons, exists_eq_or_imp]
    exact or_assoc

/-- Runs that discover objects which short the same nets report equally many. -/
theorem count_checkAll_congr {host host' : Host} {s t : Store α} {ds es : List Discovery}
    {calls calls' : List HostCall} (w : ShortWatch) (h : w.reported.Nodup)
    (hpairs : ∀ p, (∃ id ∈ objectsOf ds, w.pair? s id = some p) ↔
      ∃ id ∈ objectsOf es, w.pair? t id = some p) :
    (w.checkAll host s calls ds).1.count = (w.checkAll host' t calls' es).1.count := by
  obtain ⟨hnodup, hmem⟩ := checkAll_spec host s ds w calls h
  obtain ⟨hnodup', hmem'⟩ := checkAll_spec host' t es w calls' h
  refine ((List.perm_ext_iff_of_nodup hnodup hnodup').2 fun p => ?_).length_eq
  rw [hmem, hmem', hpairs]

/-- The end of a run only marks objects. -/
theorem finish_spec (w : ShortWatch) (c : Content α) (calls : List HostCall) :
    (w.finish c calls).1.layers = c.layers ∧ (w.finish c calls).1.netlist = c.netlist ∧
      (w.finish c calls).1.store.unmarked = c.store.unmarked ∧
      ∀ id, ((w.finish c calls).1.store.get? id).map (·.hasFlags .selected) =
        (c.store.get? id).map (·.hasFlags .selected) := by
  have key (ids : List ObjectId) (s : Store α) :
      (ids.foldl (fun s id => s.changeFlags id .warn .none) s).unmarked = s.unmarked ∧
        ∀ id, ((ids.foldl (fun s id => s.changeFlags id .warn .none) s).get? id).map
          (·.hasFlags .selected) = (s.get? id).map (·.hasFlags .selected) := by
    induction ids generalizing s with
    | nil => exact ⟨rfl, fun _ => rfl⟩
    | cons i ids ih =>
      obtain ⟨hmarks, hselected⟩ := ih (s.changeFlags i .warn .none)
      refine ⟨hmarks.trans (s.unmarked_changeFlags i .warn .none), ?_⟩
      intro id
      exact (hselected id).trans (s.selected_changeFlags_warn i id)
  obtain ⟨hmarks, hselected⟩ := key w.pending c.store
  rw [finish]
  split
  · exact ⟨rfl, rfl, hmarks, hselected⟩
  · exact ⟨rfl, rfl, hmarks, hselected⟩

end ShortWatch

end Ratsnest
