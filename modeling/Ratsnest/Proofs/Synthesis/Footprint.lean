import Ratsnest.Proofs.RipUp.Exact
import Ratsnest.Proofs.Short.Marked
import Ratsnest.Proofs.Synthesis.Accounts

/-!
# The footprint of a net

Drawing the rat lines of a net changes little: it places rat lines under new ids as one step of the
history, sets warnings on the ends of short circuits, and notes that the board has changed
(`Session.addRatsForNet_footprint`).
-/

namespace Ratsnest

open HostCall

variable {α : Type}

namespace Edit

/-- Taking back that objects were placed takes them away, and changes nothing else. -/
theorem revertAll_addObject (os : List (BoardObject α)) (c : Content α) :
    let d := (revertAll (os.map addObject) c).2
    (∀ id, d.store.get? id = if id ∈ os.map (·.id) then none else c.store.get? id) ∧
      d = { c with
        store := { c.store with objects := d.store.objects }
        changed := c.changed || !os.isEmpty } := by
  induction os with
  | nil => exact ⟨fun id => (if_neg List.not_mem_nil).symm, by simp [revertAll]⟩
  | cons o os ih =>
    obtain ⟨hget, heq⟩ := ih
    dsimp only at hget heq ⊢
    rw [List.map_cons, revertAll_cons]
    generalize (revertAll (os.map addObject) c).2 = d at hget heq ⊢
    refine ⟨fun id => ?_, ?_⟩
    · change (d.store.remove o.id).get? id = _
      rw [Store.get?_remove, hget, List.map_cons]
      by_cases hid : id = o.id
      · simp only [hid, if_true, List.mem_cons_self]
      · simp only [hid, if_false, List.mem_cons, false_or]
    · rw [heq]
      simp [revert, Store.remove]

end Edit

/-- The rat lines along links under the ids from `next` on. -/
def ratObjects [Scalar α] (next : ObjectId) : List (Link α) → List (BoardObject α)
  | [] => []
  | l :: ls => { id := next, shape := .rat l.toRat } :: ratObjects (next + 1) ls

@[simp] theorem map_id_ratObjects [Scalar α] (next : ObjectId) (ls : List (Link α)) :
    (ratObjects next ls).map (·.id) = freshIds next ls.length := by
  induction ls generalizing next with
  | nil => rfl
  | cons l ls ih => exact congrArg (next :: ·) (ih (next + 1))

@[simp] theorem isEmpty_ratObjects [Scalar α] (next : ObjectId) (ls : List (Link α)) :
    (ratObjects next ls).isEmpty = ls.isEmpty := by
  cases ls <;> rfl

@[simp] theorem length_ratObjects [Scalar α] (next : ObjectId) (ls : List (Link α)) :
    (ratObjects next ls).length = ls.length := by
  rw [← List.length_map (·.id), map_id_ratObjects, length_freshIds]

theorem Store.nextId_addRats [Scalar α] (s : Store α) (ls : List (Link α)) :
    (s.addRats ls).nextId = s.nextId + .ofNat ls.length := by
  induction ls generalizing s with
  | nil => exact (UInt64.add_zero _).symm
  | cons l ls ih =>
    rw [addRats, ih, nextId_add, List.length_cons, UInt64.ofNat_add, UInt64.add_assoc,
      UInt64.add_comm 1]
    rfl

/-! ## Drawing as one step -/

namespace Board

variable [Scalar α] (b : Board α) (ls : List (Link α))

/-- The board with rat lines along links drawn, as one step of the history if there are any. -/
def withRats : Board α where
  content := { b.content with
    store := b.content.store.addRats ls
    changed := b.content.changed || !ls.isEmpty }
  journal := if ls.isEmpty then b.journal else
    ⟨⟨"Add rat lines", (ratObjects b.content.store.nextId ls).map .addObject⟩ :: b.journal.done,
      [], none⟩

variable {b ls}

/-- Whatever has been marked since, undoing the step takes away the rat lines alone. -/
theorem exists_undo?_withRats (hne : ls ≠ []) {d : Board α}
    (hjournal : d.journal = (b.withRats ls).journal) (hchanged : d.content.changed) :
    ∃ u, d.undo? = some u ∧ u.journal.done = b.journal.done ∧
      u.content = { d.content with
        store := { d.content.store with objects := u.content.store.objects } } ∧
      ∀ id, u.content.store.get? id =
        if id ∈ freshIds b.content.store.nextId ls.length then none else d.content.store.get? id := by
  rw [withRats, if_neg (by simpa using hne)] at hjournal
  obtain ⟨hget, hcontent⟩ :=
    Edit.revertAll_addObject (ratObjects b.content.store.nextId ls) d.content
  have hstays : (d.content.changed || !(ratObjects b.content.store.nextId ls).isEmpty) =
      d.content.changed := by rw [hchanged, Bool.true_or]
  rw [hstays] at hcontent
  rw [map_id_ratObjects] at hget
  rw [undo?, hjournal]
  exact ⟨_, rfl, rfl, hcontent, hget⟩

end Board

variable [AngularScalar α] [ShownScalar α]

namespace Session

variable (host : Host) (settings : Settings α) (policy : Policy) {s : Session α}

/-- While a step is open each rat line drawn is an edit of it. -/
theorem journal_drawRats {step : EditStep α} {depth : ℕ}
    (hopen : s.board.journal.current = some (step, depth)) (ls : List (Link α)) :
    (s.drawRats policy ls).2.board.journal = { s.board.journal with
      current := some ({ step with edits := step.edits ++
        (ratObjects s.board.content.store.nextId ls).map .addObject }, depth)
      undone := if ls.isEmpty then s.board.journal.undone else [] } := by
  induction ls generalizing s step with
  | nil =>
    simp [drawRats, ratObjects, ← hopen]
  | cons l ls ih =>
    have hboard := board_drawRat policy s l
    have hjournal : (s.drawRat policy l).2.board.journal = { s.board.journal with
        current := some ({ step with edits := step.edits ++
          [.addObject { id := s.board.content.store.nextId, shape := .rat l.toRat }] }, depth)
        undone := [] } := by
      rw [hboard]
      simp only [Board.addRat, Board.allocate, Board.updateStore, Board.update, Store.allocate,
        Board.execute, Edit.apply, Journal.record, hopen]
    have hnext : (s.drawRat policy l).2.board.content.store.nextId =
        s.board.content.store.nextId + 1 := by
      rw [(s.drawRat_eq policy l).2]
      exact Store.nextId_add ..
    rw [drawRats]
    dsimp only
    rw [ih (congrArg Journal.current hjournal), hnext, hjournal]
    simp [ratObjects]

/-- Connecting subnets draws the rat lines along their links as one step. -/
theorem board_connect (hidle : s.board.journal.current = none) (subnets : List Subnet) :
    (s.connect settings policy subnets).2.board = s.board.withRats
      (Extraction.linksOf settings policy s.board.content.store subnets) := by
  obtain ⟨⟨content, done, undone, current⟩, calls⟩ := s
  obtain rfl : current = none := hidle
  dsimp only
  rw [Extraction.linksOf]
  split
  case isTrue h =>
    rcases subnets with _ | ⟨a, _ | ⟨b, rest⟩⟩
    · simp at h
    · simp at h
    rw [connect, if_neg (Nat.not_lt.2 h.2)]
    · generalize (LinkTable.ofSubnets content.store policy (a :: b :: rest)).spanning = ls
      let opened : Session α :=
        ⟨⟨content, ⟨done, undone, some (⟨"Add rat lines", []⟩, 0)⟩⟩, calls⟩
      have hcontent := (opened.drawRats_eq policy ls).2
      have hjournal := journal_drawRats policy (s := opened) rfl ls
      change Board.mk (opened.drawRats policy ls).2.board.content
        (opened.drawRats policy ls).2.board.journal.commit = _
      rw [hcontent, hjournal]
      cases ls <;> rfl
    · simp
  case isFalse h =>
    rcases subnets with _ | ⟨a, _ | ⟨b, rest⟩⟩
    · simp [connect, Board.withRats, Store.addRats]
    · simp [connect, Board.withRats, Store.addRats]
    · have hmax : settings.maxSubnets.toNat < (a :: b :: rest).length := by
        simp only [List.length_cons] at h ⊢
        omega
      rw [connect, if_pos hmax]
      · simp [Board.withRats, Store.addRats, message, call]
      · simp

/-! ## What is left -/

/-- What drawing the rat lines of a net leaves of a session: `r` is what it reports and `pass` are
the calls it makes. -/
structure Footprint (host : Host) (s : Session α) (r : NetResult) (pass : List HostCall)
    (t : Session α) : Prop where
  calls : t.calls = s.calls ++ pass
  /-- Short circuits are reported by being offered to the host. -/
  shorts : (notices pass).length = r.shorts
  /-- The layers, the nets and the parts are as they were. -/
  content : t.board.content = { s.board.content with
    store := ⟨t.board.content.store.objects, s.board.content.store.parts,
      s.board.content.store.nextId + .ofNat r.drawn⟩
    changed := t.board.content.changed }
  changed : t.board.content.changed ↔
    s.board.content.changed ∨ 0 < r.drawn ∨ 0 < r.shorts
  /-- The ends of short circuits offered in vain are earlier objects, which get a warning. -/
  marked : ∀ id, ShortWatch.Unhandled host s.calls pass id →
    ∃ o, s.board.content.store.get? id = some o ∧
      t.board.content.store.get? id = some (o.changeFlags .warn .none)
  /-- All other earlier objects are as they were, and none is new but the rat lines. -/
  kept : ∀ id, ¬ShortWatch.Unhandled host s.calls pass id →
    id ∉ freshIds s.board.content.store.nextId r.drawn →
      t.board.content.store.get? id = s.board.content.store.get? id
  /-- The rat lines have new ids one after the other, no marks and no owner. -/
  drawn : ∀ id ∈ freshIds s.board.content.store.nextId r.drawn,
    s.board.content.store.get? id = none ∧
      ∃ l, t.board.content.store.get? id = some { id, shape := .rat l }
  /-- Where nothing is drawn the history is as it was. -/
  untouched : r.drawn = 0 → t.board.journal = s.board.journal
  /-- What is drawn is one step of the history. -/
  step : 0 < r.drawn → ∃ edits, edits.length = r.drawn ∧ t.board.journal =
    ⟨⟨"Add rat lines", edits⟩ :: s.board.journal.done, [], none⟩
  /-- Undoing the step takes away the rat lines, and nothing else. -/
  undone : 0 < r.drawn → ∃ u, t.board.undo? = some u ∧
    u.journal.done = s.board.journal.done ∧
    u.content = { t.board.content with
      store := { t.board.content.store with objects := u.content.store.objects } } ∧
    ∀ id, u.content.store.get? id =
      if id ∈ freshIds s.board.content.store.nextId r.drawn then none
      else t.board.content.store.get? id

variable {host settings policy}

omit [ShownScalar α] in
/-- A run on a board without open steps and with ids enough leaves what it should, if it draws along
the links `ls` and reports the short circuits that it comes upon. -/
theorem footprint_finishWatch {r : NetResult} {pass : List HostCall} {w : ShortWatch}
    {u : Session α} {ls : List (Link α)}
    (hunused : ∀ id ∈ freshIds s.board.content.store.nextId ls.length,
      s.board.content.store.get? id = none) (hls : ls.length ≤ UInt64.size)
    (hboard : u.board = s.board.withRats ls)
    (hcalls : u.calls = s.calls ++ pass) (hbooked : w.Booked host s.calls pass)
    (howed : ∀ id ∈ w.pending, ShortWatch.Unhandled host s.calls pass id)
    (hpresent : ∀ id ∈ w.pending, s.board.content.store.contains id)
    (hdrawn : r.drawn = ls.length) (hshorts : r.shorts = w.count) :
    Footprint host s r (pass ++ w.closing) (u.finishWatch w) := by
  obtain ⟨board, calls⟩ := u
  obtain rfl : board = s.board.withRats ls := hboard
  obtain rfl : calls = s.calls ++ pass := hcalls
  have hget (id : ObjectId) := w.get?_finish (s.board.withRats ls).content (s.calls ++ pass) id
  have hrest := w.content_finish (s.board.withRats ls).content (s.calls ++ pass)
  have hunhandled (id : ObjectId) :
      ShortWatch.Unhandled host s.calls (pass ++ w.closing) id ↔ id ∈ w.pending :=
    (ShortWatch.unhandled_append_iff w.notices_closing).trans (hbooked.mem_pending_iff howed).symm
  have hnew (id : ObjectId) (hid : id ∈ freshIds s.board.content.store.nextId ls.length) :
      id ∉ w.pending := by
    intro hmem
    obtain ⟨o, ho⟩ := Store.contains_iff.1 (hpresent id hmem)
    rw [hunused id hid] at ho
    cases ho
  have hchanged : ((⟨s.board.withRats ls, s.calls ++ pass⟩ : Session α).finishWatch
      w).board.content.changed ↔ s.board.content.changed ∨ 0 < r.drawn ∨ 0 < r.shorts := by
    rw [changed_finishWatch, hdrawn, hshorts, Board.withRats]
    simp [List.length_pos_iff, or_assoc]
  have hdrew : 0 < r.drawn ↔ ls ≠ [] := by rw [hdrawn, List.length_pos_iff]
  constructor
  case calls => rw [calls_finishWatch, List.append_assoc]
  case shorts =>
    rw [hshorts, hbooked.count, notices_append, w.notices_closing, List.append_nil]
  case content =>
    rw [finishWatch]
    dsimp only
    rw [hrest, hdrawn]
    simp only [Board.withRats, Store.parts_addRats, Store.nextId_addRats]
  case changed => exact hchanged
  case marked =>
    intro id hid
    have hmem := (hunhandled id).1 hid
    obtain ⟨o, ho⟩ := Store.contains_iff.1 (hpresent id hmem)
    have hold := Store.get?_addRats_of_notMem ls s.board.content.store fun h => hnew id h hmem
    refine ⟨o, ho, ?_⟩
    exact (hget id).trans <| by rw [if_pos hmem, Board.withRats, hold, ho, Option.map_some]
  case kept =>
    intro id hid hids
    refine (hget id).trans ?_
    rw [if_neg fun hmem => hid ((hunhandled id).2 hmem)]
    exact Store.get?_addRats_of_notMem ls _ (hdrawn ▸ hids)
  case drawn =>
    intro id hid
    rw [hdrawn] at hid
    obtain ⟨l, hl⟩ := exists_link_of_mem_freshIds hid
    refine ⟨hunused id hid, l.toRat, (hget id).trans ?_⟩
    rw [if_neg (hnew id hid)]
    exact (List.forall₂_iff_zip.1 (s.board.content.store.get?_addRats hls)).2 hl
  case untouched =>
    intro hzero
    obtain rfl := List.length_eq_zero_iff.1 (hdrawn.symm.trans hzero)
    rfl
  case step =>
    intro hpos
    refine ⟨_, ?_, if_neg (by simpa using hdrew.1 hpos)⟩
    rw [List.length_map, length_ratObjects, hdrawn]
  case undone =>
    intro hpos
    rw [hdrawn]
    exact Board.exists_undo?_withRats (hdrew.1 hpos) rfl (hchanged.2 (.inr (.inl hpos)))

variable (host settings policy)

/-- Drawing the rat lines of a net leaves no more than it should.  Where the name stands for no net
it fails and leaves the board as it is. -/
theorem addRatsForNet_footprint (name : String)
    (hbelow : ∀ e ∈ s.board.content.store.objects.entries, e.1 < s.board.content.store.nextId)
    (hidle : s.board.journal.current = none) :
    (s.board.content.netlist.find? name = none →
      s.addRatsForNet host settings policy name = .error (.unknownNet name) ∧
      s.perform (.addRatsForNet host settings policy name) = (0, s)) ∧
    ∀ net, s.board.content.netlist.find? name = some net →
      ∃ r t, s.addRatsForNet host settings policy name = .ok (r, t) ∧
        (s.board.content.store.nextId.toNat + r.drawn ≤ UInt64.size →
          ∃ pass, Footprint host s r pass t) := by
  constructor
  · intro hnone
    have hnet : s.board.content.net name = .error (.unknownNet name) := by
      rw [Content.net, hnone]
    have hrun : s.addRatsForNet host settings policy name = .error (.unknownNet name) := by
      rw [addRatsForNet, hnet]
      rfl
    refine ⟨hrun, ?_⟩
    rw [perform, hrun]
  intro net hsome
  have hnet : s.board.content.net name = .ok net := by rw [Content.net, hsome]
  refine ⟨_, _, s.addRatsForNet_eq settings policy host hnet, fun hroom => ?_⟩
  let w := ShortWatch.start net.name s.board.content.netlist
  let e := Extraction.ofTerminals settings s.board.content net.terminals
  obtain ⟨hdrawn, -, hshorts, -⟩ := s.addRatsFor_spec settings policy host w net.terminals
  obtain ⟨pass, hpass, hbooked⟩ := (ShortWatch.booked_start host s.calls net.name
    s.board.content.netlist).checkAll s.board.content.store e.discoveries
  have hstart {P : ObjectId → Prop} : ∀ id ∈ w.pending, P id :=
    fun _ h => absurd h List.not_mem_nil
  have howed := ShortWatch.unhandled_of_checkAll s.board.content.store e.discoveries
    (ShortWatch.booked_start host s.calls net.name s.board.content.netlist) hstart hpass
  rw [List.append_nil] at hpass hbooked howed
  have hpresent : ∀ id ∈ (w.checkAll host s.board.content.store s.calls e.discoveries).1.pending,
      s.board.content.store.contains id :=
    ShortWatch.contains_of_pending_checkAll s.calls hstart
      (fun _ => Extraction.contains_of_mem_discoveries)
  obtain ⟨notes, hnotes, hall⟩ := exists_notes_connect settings policy
    { s with calls := s.calls ++ pass } e.subnets
  have hboard := board_connect settings policy (s := { s with calls := s.calls ++ pass }) hidle
    e.subnets
  rw [List.append_assoc] at hnotes
  rw [hdrawn] at hroom
  rw [← hpass] at hnotes hboard
  exact ⟨_, footprint_finishWatch (Store.get?_freshIds hbelow hroom) (by omega) hboard hnotes
    (hbooked.append hall) (fun id hid => (howed id hid).append notes) hpresent hdrawn hshorts⟩

/-- Two pads of a net, one of them touched by a pad of another net. -/
def besetPads : Session Float := padsOnNets [("U", "A", 0), ("V", "B", 4), ("X", "A", 100)]

/-- One rat line is drawn and one short circuit reported, and no net has the other name. -/
theorem addRatsForNet_footprint_besetPads :
    (∀ e ∈ besetPads.board.content.store.objects.entries,
        e.1 < besetPads.board.content.store.nextId) ∧
      besetPads.board.journal.current = none ∧
      besetPads.addRatsForNet .silent .standard .precise "C" = .error (.unknownNet "C") ∧
      besetPads.perform (.addRatsForNet .silent .standard .precise "C") = (0, besetPads) ∧
      ∃ r t, besetPads.addRatsForNet .silent .standard .precise "A" = .ok (r, t) ∧
        r = ⟨1, 0, 1, 2⟩ ∧
        besetPads.board.content.store.nextId.toNat + r.drawn ≤ UInt64.size ∧
        ∃ pass, Footprint .silent besetPads r pass t := by
  have hbelow : ∀ e ∈ besetPads.board.content.store.objects.entries,
      e.1 < besetPads.board.content.store.nextId := by decide +kernel
  have hidle : besetPads.board.journal.current = none := rfl
  have hnone : besetPads.board.content.netlist.find? "C" = none := by decide +kernel
  have hsome : besetPads.board.content.netlist.find? "A" =
      some { name := "A", terminals := [⟨"U", "1", ∅⟩, ⟨"X", "1", ∅⟩] } := by decide +kernel
  have hresult : (besetPads.addRatsForNet .silent .standard .precise "A").toOption.map (·.1) =
      some ⟨1, 0, 1, 2⟩ := by decide +kernel
  have hnext : besetPads.board.content.store.nextId.toNat = 3 := by decide +kernel
  obtain ⟨hrefused, hkept⟩ :=
    (addRatsForNet_footprint .silent .standard .precise "C" hbelow hidle).1 hnone
  obtain ⟨r, t, hrun, hfootprint⟩ :=
    (addRatsForNet_footprint .silent .standard .precise "A" hbelow hidle).2 _ hsome
  rw [hrun] at hresult
  obtain rfl : r = ⟨1, 0, 1, 2⟩ := Option.some.inj hresult
  have hroom : besetPads.board.content.store.nextId.toNat + 1 ≤ UInt64.size := by
    rw [hnext]
    decide
  exact ⟨hbelow, hidle, hrefused, hkept, _, t, hrun, rfl, hroom, hfootprint hroom⟩

end Session

end Ratsnest
