import Ratsnest.Proofs.Document.Board
import Ratsnest.Proofs.Store
import Ratsnest.Proofs.Synthesis.Drawn
import Ratsnest.Scalar.Float

/-!
# New ids

The ids that a run of calls gives out, and the objects that it places under them.  The counter of
a store goes forward until the last id is given out, so no id is given out twice up to then.
Whether the ids are new to the store is a matter of where the counter stands at first
(`Store.given_fresh`): they are if and only if the counter is ahead of every id that an object is
under.  An empty store is; a store read from text need not be, because the counter is read as it
stands there (`Store.add_replaces`).
-/

namespace Ratsnest

variable {α : Type}

/-- The last id.  The counter starts again at zero behind it. -/
def ObjectId.last : ObjectId := 0xffffffffffffffff

namespace ObjectId

theorem toNat_last : last.toNat = UInt64.size - 1 := rfl

theorem toNat_add_one {id : ObjectId} (h : id ≠ last) : (id + 1).toNat = id.toNat + 1 := by
  have hlast : id.toNat ≠ UInt64.size - 1 := fun heq => h (UInt64.toNat_inj.1 heq)
  have hlt := id.toNat_lt_size
  rw [UInt64.size] at hlast hlt
  rw [UInt64.toNat_add, UInt64.toNat_one]
  exact Nat.mod_eq_of_lt (by omega)

end ObjectId

namespace Store

/-! ## Runs of calls -/

/-- A call that changes the objects or the counter of a store. -/
inductive Call (α : Type) where
  /-- Places an object under its own id. -/
  | insert (o : BoardObject α)
  /-- Gives out an id. -/
  | allocate
  /-- Places a shape under a new id. -/
  | add (shape : Shape α) (part : Option Uuid) (pin : Option String)
  /-- Takes the object under an id away. -/
  | remove (id : ObjectId)
  deriving DecidableEq

/-- The id that a call gives out, and the store that it leaves. -/
def call (s : Store α) : Call α → Option ObjectId × Store α
  | .insert o => (none, s.insert o)
  | .allocate => (some s.allocate.1, s.allocate.2)
  | .add shape part pin => (some (s.add shape part pin).1, (s.add shape part pin).2)
  | .remove id => (none, s.remove id)

/-- The store that a run of calls leaves. -/
def after (s : Store α) : List (Call α) → Store α
  | [] => s
  | c :: calls => (s.call c).2.after calls

/-- The ids that a run of calls gives out, in their order. -/
def given (s : Store α) : List (Call α) → List ObjectId
  | [] => []
  | c :: calls => (s.call c).1.toList ++ (s.call c).2.given calls

theorem given_append (s : Store α) (calls more : List (Call α)) :
    s.given (calls ++ more) = s.given calls ++ (s.after calls).given more := by
  induction calls generalizing s with
  | nil => rfl
  | cons c calls ih => rw [List.cons_append, given, given, ih, after, List.append_assoc]

/-- An id that is given out is where the counter stands. -/
theorem eq_nextId_of_call {s : Store α} {c : Call α} {id : ObjectId}
    (h : (s.call c).1 = some id) : id = s.nextId := by
  cases c with
  | insert o => cases h
  | allocate => exact (Option.some.inj h).symm
  | add shape part pin => exact (Option.some.inj h).symm
  | remove id => cases h

/-! ## The counter -/

/-- A call that gives out an id moves the counter by one. -/
theorem nextId_call_of_some {s : Store α} {c : Call α} {id : ObjectId}
    (h : (s.call c).1 = some id) : (s.call c).2.nextId = s.nextId + 1 := by
  cases c with
  | insert o => cases h
  | allocate => rfl
  | add shape part pin => exact nextId_add ..
  | remove id => cases h

/-- The counter is moved above an id that is given out, unless it is the last one. -/
theorem lt_nextId_call {s : Store α} {c : Call α} {id : ObjectId} (h : (s.call c).1 = some id)
    (hid : id ≠ ObjectId.last) : id < (s.call c).2.nextId := by
  rw [nextId_call_of_some h, ← eq_nextId_of_call h, UInt64.lt_iff_toNat_lt,
    ObjectId.toNat_add_one hid]
  exact Nat.lt_succ_self _

/-- The counter does not go back, unless the last id is given out. -/
theorem nextId_le_call {s : Store α} {c : Call α} (h : (s.call c).1 ≠ some ObjectId.last) :
    s.nextId ≤ (s.call c).2.nextId := by
  cases hc : (s.call c).1 with
  | some id =>
    rw [← eq_nextId_of_call hc]
    exact UInt64.le_of_lt (lt_nextId_call hc fun heq => h (hc.trans (congrArg some heq)))
  | none =>
    cases c with
    | insert o => exact nextId_le_insert s o
    | allocate => cases hc
    | add shape part pin => cases hc
    | remove id => exact UInt64.le_refl _

/-- The ids that a run gives out are at or behind the counter, and each is above those before it,
as long as the last id comes last. -/
theorem given_ascending {s : Store α} {calls : List (Call α)}
    (h : ObjectId.last ∉ (s.given calls).dropLast) :
    (∀ id ∈ s.given calls, s.nextId ≤ id) ∧ (s.given calls).Pairwise (· < ·) := by
  induction calls generalizing s with
  | nil => exact ⟨fun _ hid => absurd hid List.not_mem_nil, .nil⟩
  | cons c calls ih =>
    cases hc : (s.call c).1 with
    | none =>
      have hgiven : s.given (c :: calls) = (s.call c).2.given calls := by rw [given, hc]; rfl
      rw [hgiven] at h ⊢
      have hle : s.nextId ≤ (s.call c).2.nextId := nextId_le_call (by rw [hc]; exact nofun)
      exact ⟨fun id hid => UInt64.le_trans hle ((ih h).1 id hid), (ih h).2⟩
    | some id =>
      have hgiven : s.given (c :: calls) = id :: (s.call c).2.given calls := by
        rw [given, hc]; rfl
      obtain rfl := eq_nextId_of_call hc
      rw [hgiven] at h ⊢
      cases hrest : (s.call c).2.given calls with
      | nil => exact ⟨fun i hi => by rw [List.mem_singleton.1 hi]; exact UInt64.le_refl _,
          List.pairwise_singleton ..⟩
      | cons i rest =>
        -- The id is not the last one, because another follows it.
        rw [hrest, List.dropLast_cons_of_ne_nil (List.cons_ne_nil i rest), List.mem_cons, not_or,
          ← hrest] at h
        obtain ⟨hbound, hpairs⟩ := ih h.2
        have habove : ∀ j ∈ (s.call c).2.given calls, s.nextId < j := fun j hj =>
          UInt64.lt_of_lt_of_le (lt_nextId_call hc (Ne.symm h.1)) (hbound j hj)
        rw [← hrest]
        refine ⟨fun j hj => ?_, List.pairwise_cons.2 ⟨habove, hpairs⟩⟩
        rcases List.mem_cons.1 hj with rfl | hj
        · exact UInt64.le_refl _
        · exact UInt64.le_of_lt (habove j hj)

/-! ## Stores ahead of their ids -/

/-- The counter is above every id that an object is under, the last id apart, which no counter
can be above. -/
def Ahead (s : Store α) : Prop := ∀ id ∈ s.ids, id < s.nextId ∨ id = ObjectId.last

instance (s : Store α) : Decidable s.Ahead := inferInstanceAs (Decidable (∀ id ∈ s.ids, _))

theorem ahead_empty : (empty : Store α).Ahead := nofun

theorem Ahead.lt_of_get? {s : Store α} (h : s.Ahead) {id : ObjectId} {o : BoardObject α}
    (ho : s.get? id = some o) : id < s.nextId ∨ id = ObjectId.last :=
  h id (mem_ids.2 (contains_of_get? ho))

theorem ahead_of_get? {s : Store α}
    (h : ∀ id o, s.get? id = some o → id < s.nextId ∨ id = ObjectId.last) : s.Ahead := by
  intro id hid
  obtain ⟨o, ho⟩ := contains_iff.1 (mem_ids.1 hid)
  exact h id o ho

theorem Ahead.insert {s : Store α} (h : s.Ahead) (o : BoardObject α) : (s.insert o).Ahead := by
  refine ahead_of_get? fun id p hp => ?_
  rw [get?_insert] at hp
  split at hp <;> rename_i heq
  · refine or_iff_not_imp_right.2 fun hlast => ?_
    have hnext : (s.insert o).nextId = if s.nextId < id + 1 then id + 1 else s.nextId := by
      rw [heq]; rfl
    have hsucc := ObjectId.toNat_add_one hlast
    rw [hnext, UInt64.lt_iff_toNat_lt]
    split <;> rename_i hlt <;> rw [UInt64.lt_iff_toNat_lt] at hlt <;> omega
  · exact (h.lt_of_get? hp).imp_left fun hlt => UInt64.lt_of_lt_of_le hlt (nextId_le_insert s o)

theorem Ahead.allocate {s : Store α} (h : s.Ahead) (hnext : s.nextId ≠ ObjectId.last) :
    s.allocate.2.Ahead := by
  refine ahead_of_get? fun id p hp => ?_
  have hsucc : s.allocate.2.nextId.toNat = s.nextId.toNat + 1 := ObjectId.toNat_add_one hnext
  refine (h.lt_of_get? hp).imp_left fun hlt => ?_
  rw [UInt64.lt_iff_toNat_lt] at hlt ⊢
  omega

theorem Ahead.remove {s : Store α} (h : s.Ahead) (i : ObjectId) : (s.remove i).Ahead := by
  refine ahead_of_get? fun id p hp => ?_
  rw [get?_remove] at hp
  split at hp
  · cases hp
  · exact h.lt_of_get? hp

/-- A call that does not give out the last id leaves the counter ahead. -/
theorem Ahead.call {s : Store α} (h : s.Ahead) {c : Call α}
    (hc : (s.call c).1 ≠ some ObjectId.last) : (s.call c).2.Ahead := by
  cases c with
  | insert o => exact h.insert o
  | allocate => exact h.allocate fun heq => hc (congrArg some heq)
  | add shape part pin => exact (h.allocate fun heq => hc (congrArg some heq)).insert _
  | remove id => exact h.remove id

/-- The counter stays ahead along a run that does not give out the last id. -/
theorem Ahead.after {s : Store α} (h : s.Ahead) {calls : List (Call α)}
    (hcalls : ObjectId.last ∉ s.given calls) : (s.after calls).Ahead := by
  induction calls generalizing s with
  | nil => exact h
  | cons c calls ih =>
    rw [given, List.mem_append, Option.mem_toList, not_or] at hcalls
    exact ih (h.call hcalls.1) hcalls.2

/-! ## Adding without replacing -/

/-- The next id is new, and whoever adds an object under it leaves every other object in place. -/
structure Spares (s : Store α) : Prop where
  allocate : ¬s.contains s.allocate.1
  add : ∀ shape part pin id o, s.get? id = some o → (s.add shape part pin).2.get? id = some o

theorem Ahead.spares {s : Store α} (h : s.Ahead) (hnext : s.nextId ≠ ObjectId.last) : s.Spares := by
  have hfree : ¬s.contains s.nextId := fun hcontains =>
    (h s.nextId (mem_ids.2 hcontains)).elim (UInt64.lt_irrefl _) hnext
  refine ⟨hfree, fun shape part pin id o ho => ?_⟩
  rw [get?_add, if_neg]
  · exact ho
  · rintro rfl
    exact hfree (contains_of_get? ho)

/-- Giving out ids only moves the counter. -/
theorem after_allocate (s : Store α) (n : ℕ) :
    s.after (.replicate n .allocate) = { s with nextId := s.nextId + .ofNat n } := by
  induction n generalizing s with
  | zero => simp [after]
  | succ n ih =>
    rw [List.replicate_succ, after, ih]
    simp [Store.call, Store.allocate, UInt64.ofNat_add, UInt64.add_assoc, UInt64.add_comm]

theorem given_allocate (s : Store α) (n : ℕ) :
    s.given (.replicate n .allocate) = freshIds s.nextId n := by
  induction n generalizing s with
  | zero => rfl
  | succ n ih => rw [List.replicate_succ, given, ih]; rfl

/-- Where the counter is not ahead, it comes to the id of an object: no call is needed but those
that give out the ids before. -/
theorem ahead_of_spares {s : Store α}
    (h : ∀ calls, ObjectId.last ∉ s.given (calls ++ [.allocate]) → (s.after calls).Spares) :
    s.Ahead := by
  intro id hid
  by_contra hbehind
  rw [not_or, UInt64.not_lt] at hbehind
  obtain ⟨hle, hlast⟩ := hbehind
  have hn : (id - s.nextId).toNat = id.toNat - s.nextId.toNat := UInt64.toNat_sub_of_le _ _ hle
  have hlt : id.toNat < UInt64.size - 1 :=
    Nat.lt_of_le_of_ne (Nat.le_sub_one_of_lt id.toNat_lt_size) fun heq =>
      hlast (UInt64.toNat_inj.1 heq)
  have hspares := h (.replicate (id - s.nextId).toNat .allocate) <| by
    have hnext := s.nextId.toNat_lt_size
    have hroom : (ObjectId.last - s.nextId).toNat = UInt64.size - 1 - s.nextId.toNat :=
      UInt64.toNat_sub_of_le _ _ (UInt64.le_iff_toNat_le.2 (by rw [ObjectId.toNat_last]; omega))
    rw [← List.replicate_succ', given_allocate, mem_freshIds_iff (by omega), hroom, hn]
    rw [UInt64.le_iff_toNat_le] at hle
    omega
  rw [after_allocate] at hspares
  refine hspares.allocate ?_
  have hnext : s.nextId + .ofNat (id - s.nextId).toNat = id := by
    rw [UInt64.ofNat_toNat, UInt64.add_comm, UInt64.sub_add_cancel]
  rw [Store.allocate, hnext]
  exact mem_ids.1 hid

/-- An empty store is ahead of its ids.  A store is if and only if every run of calls, up to the
last id, comes to a store whose next id is new, and where an object is added without replacing
one.  And no run of calls gives out an id twice, up to the last id. -/
theorem given_fresh (s : Store α) :
    (empty : Store α).Ahead ∧
      (s.Ahead ↔ ∀ calls, ObjectId.last ∉ s.given (calls ++ [.allocate]) →
        (s.after calls).Spares) ∧
      ∀ calls, ObjectId.last ∉ (s.given calls).dropLast → (s.given calls).Pairwise (· < ·) := by
  refine ⟨ahead_empty, ⟨fun h calls hcalls => ?_, ahead_of_spares⟩,
    fun calls h => (given_ascending h).2⟩
  rw [given_append, List.mem_append, not_or] at hcalls
  exact (h.after hcalls.1).spares fun hnext => hcalls.2 (List.mem_singleton.2 hnext.symm)

/-- A round pad on one layer. -/
def padAt (x : Float) : Shape Float := .padstack ⟨⟨x, 0⟩, .circle 5, [0], 0, [0]⟩

/-- A board with an object under the id at which the counter stands. -/
def reusedBoard : Board Float :=
  .ofContent
    { id := 0
      name := "board"
      layers := .twoLayer
      store := ⟨.ofList [(0, { id := 0, shape := padAt 0 })], ∅, 0⟩
      netlist := .empty
      changed := false }

/-- A run that gives out the last id. -/
def lastCalls : List (Call Float) :=
  [.insert { id := 0, shape := padAt 0 }, .insert { id := ObjectId.last - 1, shape := padAt 100 },
    .add (padAt 200) none none]

/-- A board is read whose next id is that of an object, and an object that is added replaces it.
In a store that was empty at first, the same happens once the last id is given out; and the last
id is given out again when the object before it is taken away and placed again. -/
theorem add_replaces :
    (Board.ofText? reusedBoard.text = some reusedBoard ∧
      reusedBoard.content.store.contains reusedBoard.content.store.allocate.1 ∧
      (reusedBoard.content.store.add (padAt 100) none none).2.toList =
        [{ id := 0, shape := padAt 100 }]) ∧
    ((empty.after lastCalls).contains (empty.after lastCalls).allocate.1 ∧
      (empty.after (lastCalls ++ [.add (padAt 300) none none])).toList =
        [{ id := 0, shape := padAt 300 }, { id := ObjectId.last - 1, shape := padAt 100 },
          { id := ObjectId.last, shape := padAt 200 }]) ∧
    empty.given (lastCalls ++ [.remove (ObjectId.last - 1),
      .insert { id := ObjectId.last - 1, shape := padAt 100 }, .allocate]) =
        [ObjectId.last, ObjectId.last] := by
  refine ⟨⟨Board.ofText?_text_of_legible ?_, ?_⟩, ?_, ?_⟩ <;> decide +kernel

end Store

end Ratsnest
