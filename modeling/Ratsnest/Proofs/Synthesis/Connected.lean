import Ratsnest.Proofs.Spanning.Minimum
import Ratsnest.Proofs.Synthesis.Drawn

/-!
# Connecting subnets

The rat lines that `Session.connect` draws are those along the links of a minimum spanning tree of
the subnets that can be joined to the first one (`Session.connect_connects`), and it tells whether
these are all subnets.
-/

namespace Ratsnest

universe v

variable {α : Type} [AngularScalar α]

/-- What connecting subnets has to do: `root` is the first one, `before` and `after` are the
objects. -/
structure Connects (policy : Policy) (before : Store α) (subnets : List Subnet)
    (root : Fin subnets.length) (r : ConnectResult) (after : Store α) : Prop where
  /-- The rat lines drawn run along the links of a minimum spanning tree. -/
  rats : ∃ es ls, MinimumSpanning.{0, v} before policy subnets root es ls ∧
    List.Forall₂ (fun id l => after.get? id = some { id, shape := .rat l.toRat }) r.rats ls
  /-- Each one has an id of its own. -/
  nodup : r.rats.Nodup
  /-- Nothing else has changed. -/
  frame : ∀ id ∉ r.rats, after.get? id = before.get? id
  drawn : r.drawn = r.rats.length
  /-- There is one rat line less than there are subnets in the component of the first one. -/
  component : r.drawn + 1 = {i | (linkGraph before policy subnets).Reachable root i}.ncard
  /-- Nothing is missing if all subnets have been joined. -/
  missing_of_all : (∀ i, (linkGraph before policy subnets).Reachable root i) → r.missing = 0
  missing_of_not_all : ¬(∀ i, (linkGraph before policy subnets).Reachable root i) → r.missing = 1

namespace Session

variable [ShownScalar α] {settings : Settings α} {policy : Policy} {subnets : List Subnet}

variable (policy) in
/-- Connecting enough and not too many subnets draws the rat lines along the spanning links. -/
theorem connect_eq (s : Session α) (h : 2 ≤ subnets.length)
    (hmax : subnets.length ≤ settings.maxSubnets.toNat) :
    let store := s.board.content.store
    let links := (LinkTable.ofSubnets store policy subnets).spanning
    let r := s.connect settings policy subnets
    r.1 = ⟨links.length, if links.length + 1 = subnets.length then 0 else 1,
        freshIds store.nextId links.length⟩ ∧
      r.2.board.content = { s.board.content with
        store := store.addRats links
        changed := s.board.content.changed || !links.isEmpty } := by
  match subnets with
  | [] | [_] => simp at h
  | a :: b :: rest =>
    obtain ⟨hids, hcontent⟩ := (s.update (·.begin "Add rat lines")).drawRats_eq policy
      (LinkTable.ofSubnets s.board.content.store policy (a :: b :: rest)).spanning
    simp only [connect, if_neg (not_lt.2 hmax)]
    rw [hids, length_freshIds]
    exact ⟨rfl, hcontent⟩

/-- Subnets that are not too many are connected by rat lines of the least total cost. -/
theorem connect_connects [OrderedScalar α] (settings : Settings α) (policy : Policy)
    (s : Session α) (subnets : List Subnet) (h : 2 ≤ subnets.length)
    (hmax : subnets.length ≤ settings.maxSubnets.toNat) :
    Connects.{v} policy s.board.content.store subnets ⟨0, by omega⟩
      (s.connect settings policy subnets).1
      (s.connect settings policy subnets).2.board.content.store := by
  obtain ⟨hr, hcontent⟩ := s.connect_eq policy h hmax
  obtain ⟨es, hspan, hcard⟩ := LinkTable.exists_minimumSpanning.{0, v} s.board.content.store policy
    (Nat.lt_of_lt_of_le Nat.two_pos h)
  have hlen := hspan.shortest.length_eq
  have hcard_le : es.length + 1 ≤ subnets.length := by
    rw [hcard]
    exact (Set.ncard_le_card _).trans_eq (Nat.card_fin _)
  have hall := Set.eq_univ_iff_ncard
    {i | (linkGraph s.board.content.store policy subnets).Reachable ⟨0, by omega⟩ i}
  rw [Set.eq_univ_iff_forall, Nat.card_fin, ← hcard, hlen] at hall
  have hmax64 := settings.maxSubnets.toNat_lt_size
  rw [hr, hcontent]
  refine ⟨⟨es, _, hspan, Store.get?_addRats (by omega) _⟩, nodup_freshIds (by omega) _,
    fun id hid => Store.get?_addRats_of_notMem _ _ hid, (length_freshIds _ _).symm, ?_, ?_, ?_⟩
  · rw [← hcard, hlen]
  · exact fun h => if_pos (hall.1 h)
  · exact fun h => if_neg (mt hall.2 h)

/-- A board with three round pads in a row, the last one between the others. -/
def threePads : Session Float :=
  let pad (x : Float) : Shape Float := .padstack ⟨⟨x, 0⟩, .circle 5, [0], 0, []⟩
  ⟨.ofContent { (Content.empty 1 "pads" : Content Float) with
    store := ((Store.empty.insert { id := 0, shape := pad 0 }).insert
      { id := 1, shape := pad 100 }).insert { id := 2, shape := pad 30 } }, []⟩

/-- The pads as subnets. -/
def threePieces : List Subnet :=
  [⟨⟨"A", "1", ∅⟩, [0]⟩, ⟨⟨"A", "2", ∅⟩, [1]⟩, ⟨⟨"A", "3", ∅⟩, [2]⟩]

/-- Two rat lines join the pads, each to the next one. -/
theorem connect_connects_threePads : 2 ≤ threePieces.length ∧ threePieces.length ≤ 1024 ∧
    (threePads.connect .standard .precise threePieces).1 = ⟨2, 0, [3, 4]⟩ ∧
    Connects.{0} .precise threePads.board.content.store threePieces ⟨0, by decide⟩
      (threePads.connect .standard .precise threePieces).1
      (threePads.connect .standard .precise threePieces).2.board.content.store :=
  ⟨by decide, by decide, by decide +kernel,
    connect_connects .standard .precise threePads threePieces (by decide) (by decide)⟩

end Session

end Ratsnest
