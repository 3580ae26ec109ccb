import Ratsnest.Proofs.Spanning.Foremost
import Ratsnest.Proofs.Synthesis.Connected

/-!
# Greedy connections

The rat lines that `Session.connect` draws, one by one: each runs along the foremost of the links
that lead out of the subnets joined until then (`Session.connect_greedy`).
-/

namespace Ratsnest

namespace Session

variable {α : Type} [AngularScalar α] [ShownScalar α] {settings : Settings α}

/-- The rat lines drawn are those along the spanning links, however few subnets there are. -/
theorem connect_rats (policy : Policy) (s : Session α) {subnets : List Subnet}
    (hmax : subnets.length ≤ settings.maxSubnets.toNat) :
    List.Forall₂ (fun id l =>
      (s.connect settings policy subnets).2.board.content.store.get? id =
        some { id, shape := .rat l.toRat })
      (s.connect settings policy subnets).1.rats
      (LinkTable.ofSubnets s.board.content.store policy subnets).spanning := by
  match subnets, hmax with
  | [], _ => exact .nil
  | [a], _ => exact .nil
  | a :: b :: rest, hmax =>
    have hlen : 2 ≤ (a :: b :: rest).length := Nat.le_add_left 2 rest.length
    obtain ⟨hr, hcontent⟩ := s.connect_eq policy hlen hmax
    have hlinks := (LinkTable.ofSubnets s.board.content.store policy
      (a :: b :: rest)).length_grow_le ((a :: b :: rest).length - 1) [0]
    have hmax64 := settings.maxSubnets.toNat_lt_size
    rw [hr, hcontent]
    apply Store.get?_addRats
    exact hlinks.trans (by omega)

/-- Subnets that are not too many are joined greedily.  The rat lines drawn are, in order, those
along the foremost crossings: each is a shortest one out of the subnets joined so far, the first of
them where several are equally short, and runs from the joined side to the other one. -/
theorem connect_greedy [LinearScalar α] (settings : Settings α) (policy : Policy) (s : Session α)
    (subnets : List Subnet) (hmax : subnets.length ≤ settings.maxSubnets.toNat) :
    ∃ rats, Greedy s.board.content.store policy subnets [0] rats ∧
      List.Forall₂ (fun id rat =>
        (s.connect settings policy subnets).2.board.content.store.get? id =
          some { id, shape := .rat rat })
        (s.connect settings policy subnets).1.rats rats := by
  refine ⟨_, LinkTable.spanning_greedy s.board.content.store policy subnets, ?_⟩
  exact List.forall₂_map_right_iff.2 (connect_rats policy s hmax)

/-- A board with round pads at the corners of a square. -/
def squarePads : Session Float :=
  let pad (x y : Float) : Shape Float := .padstack ⟨⟨x, y⟩, .circle 5, [0], 0, []⟩
  ⟨.ofContent { (Content.empty 1 "square" : Content Float) with
    store := (((Store.empty.insert { id := 0, shape := pad 0 0 }).insert
      { id := 1, shape := pad 100 0 }).insert { id := 2, shape := pad 0 100 }).insert
      { id := 3, shape := pad 100 100 } }, []⟩

/-- The pads as subnets, two opposite ones in the first. -/
def squarePieces : List Subnet :=
  [⟨⟨"A", "1", ∅⟩, [3, 0]⟩, ⟨⟨"A", "2", ∅⟩, [2]⟩, ⟨⟨"A", "3", ∅⟩, [1]⟩]

/-- All sides of the square are equally long.  The subnets are joined in order, both to the object
that the first subnet names first. -/
theorem connect_greedy_squarePads : squarePieces.length ≤ 1024 ∧
    (squarePads.connect .standard .precise squarePieces).1 = ⟨2, 0, [4, 5]⟩ ∧
    (([4, 5] : List ObjectId).map fun id => ((squarePads.connect .standard .precise
      squarePieces).2.board.content.store.get? id).bind fun o => match o.shape with
        | .rat l => some (l.anchor1, l.anchor2)
        | _ => none) = [some (3, 2), some (3, 1)] ∧
    ∃ rats, Greedy squarePads.board.content.store .precise squarePieces [0] rats ∧
      List.Forall₂ (fun id rat =>
        (squarePads.connect .standard .precise squarePieces).2.board.content.store.get? id =
          some { id, shape := .rat rat })
        (squarePads.connect .standard .precise squarePieces).1.rats rats :=
  ⟨by decide, by decide +kernel, by decide +kernel,
    connect_greedy .standard .precise squarePads squarePieces (by decide)⟩

end Session

end Ratsnest
