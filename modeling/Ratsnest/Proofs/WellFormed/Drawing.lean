import Ratsnest.Proofs.Short.Pass
import Ratsnest.Proofs.Synthesis.Aside
import Ratsnest.Proofs.WellFormed.History

/-!
# Drawing rat lines on sound boards

Subnets hold copper, so the rat lines between them end on copper, and each run that draws rat lines
leaves a sound board (`Session.leaves_addRatsForNet`, `Session.leaves_addRatsForAll`).  The counter
goes forward by as many ids as rat lines are drawn, and must not reach its end.
-/

namespace Ratsnest

variable {α : Type}

/-- What a board that has given out `n` ids leaves: a sound one with the counter behind them. -/
structure Board.Leaves (b : Board α) (n : ℕ) (b' : Board α) : Prop where
  sound : b'.Sound
  nextId : b'.content.store.nextId.toNat = b.content.store.nextId.toNat + n

namespace Board

variable {b : Board α}

theorem Sound.leaves (h : b.Sound) : b.Leaves 0 b := ⟨h, rfl⟩

/-- Places a rat line under a new id. -/
def addRat (b : Board α) (l : RatLine α) : Board α :=
  b.allocate.2.execute (.addObject { id := b.allocate.1, shape := .rat l })

/-- A rat line may be placed between copper objects. -/
theorem Underway.addRat (h : b.Underway) (hb : b.content.WellFormed) {l : RatLine α}
    (hroom : b.content.store.nextId.toNat + 1 < UInt64.size)
    (hsource : ∃ p ∈ b.content.copper, p.id = l.anchor1)
    (htarget : ∃ p ∈ b.content.copper, p.id = l.anchor2) :
    (b.addRat l).Underway ∧ (b.addRat l).content.WellFormed ∧
      (b.addRat l).content.store.nextId.toNat = b.content.store.nextId.toNat + 1 := by
  have hnext : (b.content.store.add (.rat l) none none).2.nextId.toNat =
      b.content.store.nextId.toNat + 1 := by
    rw [Store.nextId_add, UInt64.toNat_add, UInt64.toNat_one]
    exact Nat.mod_eq_of_lt hroom
  exact ⟨(h.allocate hroom).execute hb.get?_nextId, hb.addRat hroom hsource htarget, hnext⟩

end Board

variable [AngularScalar α]

namespace Session

variable [ShownScalar α] (settings : Settings α) (policy : Policy) {s : Session α}

theorem board_drawRat (s : Session α) (l : Link α) :
    (s.drawRat policy l).2.board = s.board.addRat l.toRat := by
  cases hinfo : policy.info <;> simp only [drawRat, hinfo] <;> rfl

/-- Rat lines between copper objects are drawn, one after the other. -/
theorem underway_drawRats (h : s.board.Underway) (hs : s.board.content.WellFormed)
    {ls : List (Link α)} (hroom : s.board.content.store.nextId.toNat + ls.length < UInt64.size)
    (hends : ∀ l ∈ ls, (∃ p ∈ s.board.content.copper, p.id = l.source) ∧
      ∃ p ∈ s.board.content.copper, p.id = l.target) :
    let b := (s.drawRats policy ls).2.board
    b.Underway ∧ b.content.WellFormed ∧
      b.content.store.nextId.toNat = s.board.content.store.nextId.toNat + ls.length := by
  induction ls generalizing s with
  | nil => exact ⟨h, hs, rfl⟩
  | cons l ls ih =>
    rw [List.length_cons] at hroom ⊢
    obtain ⟨hsource, htarget⟩ := hends l List.mem_cons_self
    obtain ⟨h', hs', hnext⟩ := h.addRat hs (l := l.toRat) (by omega) hsource htarget
    have hcopper {x : ObjectId} := hs.mem_copper_addRat l.toRat (x := x)
    rw [← board_drawRat policy] at h' hs' hnext
    obtain ⟨hdrawn, hwell, hnext'⟩ := ih h' hs' (by omega) fun k hk => by
      rw [(s.drawRat_eq policy l).2]
      exact (hends k (List.mem_cons_of_mem l hk)).imp hcopper hcopper
    exact ⟨hdrawn, hwell, hnext'.trans (by omega)⟩

/-- Subnets of copper objects are connected. -/
theorem leaves_connect [OrderedScalar α] (h : s.board.Sound) {subnets : List Subnet}
    (hcopper : ∀ n ∈ subnets, ∀ id ∈ n.objects, ∃ p ∈ s.board.content.copper, p.id = id)
    (hroom : s.board.content.store.nextId.toNat +
      (s.connect settings policy subnets).1.drawn < UInt64.size) :
    s.board.Leaves (s.connect settings policy subnets).1.drawn
      (s.connect settings policy subnets).2.board := by
  rcases subnets with _ | ⟨a, _ | ⟨b, rest⟩⟩
  · exact h.leaves
  · exact h.leaves
  by_cases hmax : settings.maxSubnets.toNat < (a :: b :: rest).length
  · simp only [connect, if_pos hmax]
    exact h.leaves
  have hends : ∀ l ∈ (LinkTable.ofSubnets s.board.content.store policy (a :: b :: rest)).spanning,
      (∃ p ∈ s.board.content.copper, p.id = l.source) ∧
        ∃ p ∈ s.board.content.copper, p.id = l.target := by
    intro l hl
    have hrange : 2 ≤ (a :: b :: rest).length ∧
        (a :: b :: rest).length ≤ settings.maxSubnets.toNat := ⟨by simp, Nat.le_of_not_lt hmax⟩
    have hmem : l ∈ Extraction.linksOf settings policy s.board.content.store
        (a :: b :: rest) := by
      rw [Extraction.linksOf, if_pos hrange]
      exact hl
    obtain ⟨⟨m, hm, hsource⟩, n, hn, htarget⟩ := Extraction.mem_objects_of_linksOf hmem
    exact ⟨hcopper m hm _ hsource, hcopper n hn _ htarget⟩
  obtain ⟨hids, -⟩ := (s.update (·.begin "Add rat lines")).drawRats_eq policy
    (LinkTable.ofSubnets s.board.content.store policy (a :: b :: rest)).spanning
  simp only [connect, if_neg hmax] at hroom ⊢
  rw [hids, length_freshIds] at hroom ⊢
  obtain ⟨hunderway, hwell, hnext⟩ := underway_drawRats policy
    (s := s.update (·.begin "Add rat lines")) (h.begin "Add rat lines") h.wellFormed hroom hends
  exact ⟨hunderway.commit hwell, hnext⟩

variable [OrderedScalar α] (host : Host)

theorem leaves_addRatsFor (h : s.board.Sound) (w : ShortWatch) (ts : List Terminal)
    (hroom : s.board.content.store.nextId.toNat +
      (s.addRatsFor host settings policy w ts).1.drawn < UInt64.size) :
    s.board.Leaves (s.addRatsFor host settings policy w ts).1.drawn
      (s.addRatsFor host settings policy w ts).2.2.board := by
  have hcopper : ∀ n ∈ (Extraction.ofTerminals settings s.board.content ts).subnets,
      ∀ id ∈ n.objects, ∃ p ∈ s.board.content.copper, p.id = id := fun _ hn _ hid =>
    Extraction.mem_copper_of_mem_objects h.wellFormed.grounded hn hid
  let calls := (w.checkAll host s.board.content.store s.calls
    (Extraction.ofTerminals settings s.board.content ts).discoveries).2
  exact leaves_connect settings policy (s := ⟨s.board, calls⟩) h hcopper hroom

omit [AngularScalar α] [ShownScalar α] [OrderedScalar α] in
/-- The end of a run only changes marks. -/
theorem leaves_finishWatch {b : Board α} {n : ℕ} (h : b.Leaves n s.board) (w : ShortWatch) :
    b.Leaves n (s.finishWatch w).board := by
  obtain ⟨hlayers, hnetlist, hmarks, -⟩ := w.finish_spec s.board.content s.calls
  refine ⟨h.sound.remark hlayers hnetlist hmarks, ?_⟩
  rw [← h.nextId]
  exact congrArg UInt64.toNat (congrArg Store.nextId hmarks :)

variable {settings policy host}

theorem leaves_addRatsForNet (h : s.board.Sound) {name : String} {r : NetResult} {t : Session α}
    (hrun : s.addRatsForNet host settings policy name = .ok (r, t))
    (hroom : s.board.content.store.nextId.toNat + r.drawn < UInt64.size) :
    s.board.Leaves r.drawn t.board := by
  cases hnet : s.board.content.net name with
  | error e =>
    rw [addRatsForNet, hnet] at hrun
    cases hrun
  | ok net =>
    rw [s.addRatsForNet_eq settings policy host hnet] at hrun
    cases hrun
    exact leaves_finishWatch (leaves_addRatsFor settings policy host h _ _ hroom) _

/-- The run over all nets leaves a sound board after each of them. -/
theorem leaves_passOver (selection : Option (List Pin)) (h : s.board.Sound) (ms : List Net)
    (hroom : s.board.content.store.nextId.toNat +
      (s.passOver host settings policy selection ms).1.drawn < UInt64.size) :
    s.board.Leaves (s.passOver host settings policy selection ms).1.drawn
      (s.passOver host settings policy selection ms).2.2.board := by
  induction ms using List.reverseRecOn with
  | nil => exact h.leaves
  | append_singleton ms m ih =>
    rw [passOver_concat] at hroom ⊢
    generalize s.passOver host settings policy selection ms = run at ih hroom ⊢
    obtain ⟨totals, w, t⟩ := run
    rw [addRatsForOne] at hroom ⊢
    by_cases hinhibited : m.inhibited
    · simp only [hinhibited, if_true] at hroom ⊢
      exact ih hroom
    · by_cases hsel : inSelection selection m
      · simp only [hinhibited, hsel, if_true, Bool.false_eq_true, if_false, Totals.add]
          at hroom ih ⊢
        have hbefore := ih (by omega)
        have hafter := leaves_addRatsFor settings policy host
          hbefore.sound (w.setNet m.name) m.terminals (by rw [hbefore.nextId]; omega)
        exact ⟨hafter.sound, by rw [hafter.nextId, hbefore.nextId, Nat.add_assoc]⟩
      · simp only [hinhibited, hsel, Bool.false_eq_true, if_false] at hroom ⊢
        exact ih hroom

theorem leaves_addRatsForAll (selection : Option (List Pin)) (h : s.board.Sound)
    (hroom : s.board.content.store.nextId.toNat +
      (s.addRatsForAll host settings policy selection).1.drawn < UInt64.size) :
    s.board.Leaves (s.addRatsForAll host settings policy selection).1.drawn
      (s.addRatsForAll host settings policy selection).2.2.board :=
  leaves_finishWatch (leaves_passOver selection h s.board.content.netlist.toList hroom) _

end Session

end Ratsnest
