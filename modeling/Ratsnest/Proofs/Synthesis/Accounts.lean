import Ratsnest.Proofs.Short.Marked
import Ratsnest.Proofs.Synthesis.Apart

/-!
# The accounts of a run over all nets

A run over all nets tells of its short circuits in four ways: by the calls that offer them to the
host, by warnings, by its totals and by the results of its nets.  All four agree, what the host
does not highlight is marked, the verdict comes last, and every net is either skipped or counted
(`Session.addRatsForAll_accounts`).  The rat lines of the board grow by as many as are drawn as
long as ids do not run out; a rat line under the id of another one takes its place
(`Session.addRatsForAll_replaces_rat`).
-/

namespace Ratsnest

open HostCall

/-! ## What is discovered is on the board -/

section Present

variable {α : Type} [AngularScalar α] {i : ConnectionIndex α} {r : JoinRules α} {s : Store α}

theorem ConnectionIndex.contains_of_mem_crawl {visited : List ObjectId} {seed : ObjectId}
    {d : Discovery} (h : d ∈ i.crawl r s visited seed) :
    ∀ id ∈ d.object :: d.arrivedFrom.toList, s.contains id := by
  have hobjects := (nodup_crawl (r := r) (s := s) i visited seed).2
  refine List.forall_mem_cons.2 ⟨(hobjects _ (List.mem_map_of_mem h)).1, fun id hid => ?_⟩
  by_cases hseed : s.contains seed ∧ seed ∉ visited
  · rw [crawl_of_fresh hseed.1 hseed.2] at h hobjects
    rcases List.mem_cons.1 h with rfl | h
    · cases hid
    · obtain ⟨pre, post, hsplit⟩ := List.append_of_mem h
      obtain ⟨x, hx, hfrom, -⟩ := spread_traced _ _ _ hsplit
      rw [hfrom] at hid
      obtain rfl := List.mem_singleton.1 hid
      refine (hobjects id ?_).1
      rw [hsplit, objectsOf_cons, objectsOf_append]
      rcases List.mem_append.1 hx with hx | hx
      · exact List.mem_singleton.1 hx ▸ List.mem_cons_self
      · exact List.mem_cons_of_mem _ (List.mem_append_left _ hx)
  · rw [crawl_of_stale hseed] at h
    cases h

theorem Extraction.contains_of_mem_discoveries {visited : List ObjectId} {ts : List Terminal}
    {d : Discovery} (h : d ∈ (run i r s visited ts).discoveries) :
    ∀ id ∈ d.object :: d.arrivedFrom.toList, s.contains id := by
  induction ts generalizing visited with
  | nil => cases h
  | cons t ts ih =>
    rw [run] at h
    cases ht : s.find? t.key with
    | none =>
      rw [ht] at h
      exact ih h
    | some seed =>
      simp only [ht] at h
      split at h
      · exact ih h
      · rcases List.mem_append.1 h with h | h
        · exact ConnectionIndex.contains_of_mem_crawl h
        · exact ih h

end Present

namespace Store

variable {α : Type}

theorem length_ratLines (s : Store α) : s.ratLines.length = s.rats.length := by
  rw [ratLines, rats, List.length_filterMap_eq_countP, List.countP_eq_length_filter]
  have hrat (o : BoardObject α) : o.shape.ratLine?.isSome = o.isRat := by
    rw [BoardObject.isRat]
    cases o.shape <;> rfl
  simp only [hrat]

/-- Drawing takes no object away. -/
theorem contains_addRats [Scalar α] {s : Store α} {id : ObjectId} (h : s.contains id)
    (ls : List (Link α)) : (s.addRats ls).contains id := by
  induction ls generalizing s with
  | nil => exact h
  | cons l ls ih =>
    refine ih (contains_iff.2 ?_)
    rw [get?_add]
    split
    · exact ⟨_, rfl⟩
    · exact contains_iff.1 h

end Store

variable {α : Type} [AngularScalar α] [ShownScalar α]

namespace Session

/-! ## What is told of the drawing -/

theorem exists_notes_drawRats (policy : Policy) (s : Session α) (ls : List (Link α)) :
    ∃ notes, (s.drawRats policy ls).2.calls = s.calls ++ notes ∧ ∀ c ∈ notes, c.IsNote := by
  induction ls generalizing s with
  | nil => exact ⟨[], (List.append_nil _).symm, nofun⟩
  | cons l ls ih =>
    obtain ⟨notes, hcalls, hnotes⟩ := ih (s.drawRat policy l).2
    have hline : IsNote (.message .info (ratText l.toRat)) := .message <| by
      rw [opening_ratText]
      decide
    cases hinfo : policy.info with
    | false =>
      have hdraw : (s.drawRat policy l).2.calls = s.calls := by simp [drawRat, hinfo]
      exact ⟨notes, hdraw ▸ hcalls, hnotes⟩
    | true =>
      have hdraw : (s.drawRat policy l).2.calls =
          s.calls ++ [.message .info (ratText l.toRat)] := by simp [drawRat, hinfo, message, call]
      refine ⟨.message .info (ratText l.toRat) :: notes, ?_,
        List.forall_mem_cons.2 ⟨hline, hnotes⟩⟩
      rw [hdraw, ← List.append_cons] at hcalls
      exact hcalls

theorem exists_notes_connect (settings : Settings α) (policy : Policy) (s : Session α)
    (subnets : List Subnet) :
    ∃ notes, (s.connect settings policy subnets).2.calls = s.calls ++ notes ∧
      ∀ c ∈ notes, c.IsNote := by
  match subnets with
  | [] | [_] => exact ⟨[], (List.append_nil _).symm, nofun⟩
  | a :: b :: rest =>
    rw [connect]
    · split
      · refine ⟨_, rfl, List.forall_mem_singleton.2 (.message ?_)⟩
        rw [opening_tooManyText]
        decide
      · exact exists_notes_drawRats policy (s.update (·.begin "Add rat lines")) _
    · simp

variable (host : Host) (settings : Settings α) (policy : Policy) (selection : Option (List Pin))

/-! ## Results of the nets -/

/-- Whether a run passes a net by. -/
def skips (m : Net) : Bool := m.inhibited || !inSelection selection m

/-- What a run reports of the net it comes to, unless it passes it by. -/
def resultOf (run : Totals × ShortWatch × Session α) (m : Net) : Option NetResult :=
  if skips selection m then none
  else (run.2.2.addRatsFor host settings policy (run.2.1.setNet m.name) m.terminals).1

/-- What a run reports of nets, each one on the board that the nets before have left. -/
def resultsOf (run : Totals × ShortWatch × Session α) : List Net → List NetResult
  | [] => []
  | m :: ms => (resultOf host settings policy selection run m).toList ++
      resultsOf (addRatsForOne host settings policy selection run m) ms

/-- Every net is either passed by or counted. -/
theorem counts_foldl (run : Totals × ShortWatch × Session α) (ms : List Net) :
    let after := ms.foldl (addRatsForOne host settings policy selection) run
    after.1.disabled = run.1.disabled + ms.countP (·.inhibited) ∧
      after.1.nets + ms.countP (skips selection) = run.1.nets + ms.length := by
  induction ms generalizing run with
  | nil => exact ⟨rfl, rfl⟩
  | cons m ms ih =>
    obtain ⟨hdisabled, hnets⟩ := ih (addRatsForOne host settings policy selection run m)
    have hone : (addRatsForOne host settings policy selection run m).1.disabled =
          run.1.disabled + (if m.inhibited then 1 else 0) ∧
        (addRatsForOne host settings policy selection run m).1.nets +
          (if skips selection m then 1 else 0) = run.1.nets + 1 := by
      rw [addRatsForOne, skips]
      by_cases hm : m.inhibited
      · simp [hm]
      · by_cases hsel : inSelection selection m <;> simp [hm, hsel, Totals.add]
    simp only [List.foldl_cons, List.countP_cons, List.length_cons]
    omega

/-! ## One net after the other -/

/-- What a run over nets that began on `s` accounts for: `results` are those of the nets gone
through so far, and `pass` are the calls made. -/
structure Balanced (s : Session α) (results : List NetResult) (pass : List HostCall)
    (run : Totals × ShortWatch × Session α) : Prop where
  calls : run.2.2.calls = s.calls ++ pass
  booked : run.2.1.Booked host s.calls pass
  /-- What is to be marked is on the board. -/
  present : ∀ id ∈ run.2.1.pending, run.2.2.board.content.store.contains id
  drew : ∃ ls, Drew s.board.content ls run.2.2.board.content ∧ ls.length = run.1.drawn
  shorts : (results.map (·.shorts)).sum = run.2.1.count
  drawn : (results.map (·.drawn)).sum = run.1.drawn
  missing : (results.map (·.missing)).sum = run.1.missing
  nets : results.length = run.1.nets

variable {host settings policy selection} {s : Session α} {results : List NetResult}
  {pass : List HostCall} {run : Totals × ShortWatch × Session α}

omit [ShownScalar α] in
theorem balanced_start (host : Host) (s : Session α) :
    Balanced host s [] [] ({}, .start "" s.board.content.netlist, s) where
  calls := (List.append_nil _).symm
  booked := ShortWatch.booked_start ..
  present := nofun
  drew := ⟨[], .refl _, rfl⟩
  shorts := rfl
  drawn := rfl
  missing := rfl
  nets := rfl

/-- A net that is gone through keeps the accounts. -/
theorem Balanced.addRatsFor (h : Balanced host s results pass run) (settings : Settings α)
    (policy : Policy) (m : Net) :
    let next := run.2.2.addRatsFor host settings policy (run.2.1.setNet m.name) m.terminals
    ∃ pass', Balanced host s (results ++ [next.1]) pass'
      (run.1.add next.1, next.2.1, next.2.2) := by
  obtain ⟨totals, w, t⟩ := run
  obtain ⟨hcalls, hbooked, hpresent, ⟨ls, hdrew, hlength⟩, hshorts, hdrawn, hmissing, hnets⟩ := h
  dsimp only at hcalls hbooked hpresent hdrew hlength hshorts hdrawn hmissing hnets ⊢
  obtain ⟨pass', hcalls', hbooked'⟩ := (hbooked.setNet m.name).checkAll t.board.content.store
    (Extraction.ofTerminals settings t.board.content m.terminals).discoveries
  rw [← hcalls] at hcalls' hbooked'
  obtain ⟨notes, hnotes, hall⟩ := exists_notes_connect settings policy
    { t with calls := s.calls ++ pass' }
    (Extraction.ofTerminals settings t.board.content m.terminals).subnets
  obtain ⟨hdrew', hdrawn', -⟩ := drew_addRatsFor settings policy host (w.setNet m.name) t m
  obtain ⟨-, -, -, -, -, -, hstore⟩ :=
    t.addRatsFor_spec settings policy host (w.setNet m.name) m.terminals
  have hle := ShortWatch.count_le_checkAll host t.board.content.store (w.setNet m.name) t.calls
    (Extraction.ofTerminals settings t.board.content m.terminals).discoveries
  refine ⟨pass' ++ notes, ?_⟩
  constructor
  case calls =>
    rw [← List.append_assoc, ← hnotes, ← hcalls']
    rfl
  case booked => exact hbooked'.append hall
  case present =>
    intro id hid
    rw [hstore]
    refine Store.contains_addRats ?_ _
    exact ShortWatch.contains_of_pending_checkAll (w := w.setNet m.name) t.calls hpresent
      (fun _ => Extraction.contains_of_mem_discoveries) id hid
  case drew =>
    refine ⟨_, hdrew.trans hdrew', ?_⟩
    rw [List.length_append, hlength, ← hdrawn', Totals.add]
  case shorts =>
    rw [List.map_append, List.sum_append, hshorts]
    exact Nat.add_sub_of_le hle
  case drawn => simp [hdrawn, Totals.add]
  case missing => simp [hmissing, Totals.add]
  case nets => simp [hnets, Totals.add]

theorem Balanced.addRatsForOne (h : Balanced host s results pass run) (settings : Settings α)
    (policy : Policy) (selection : Option (List Pin)) (m : Net) :
    ∃ pass', Balanced host s
      (results ++ (resultOf host settings policy selection run m).toList) pass'
      (addRatsForOne host settings policy selection run m) := by
  rw [resultOf, skips, Session.addRatsForOne]
  by_cases hm : m.inhibited
  · rw [if_pos (by simp [hm]), if_pos hm]
    rw [Option.toList_none, List.append_nil]
    exact ⟨pass, h.1, h.2, h.3, h.4, h.5, h.6, h.7, h.8⟩
  · rw [if_neg hm]
    by_cases hsel : inSelection selection m
    · rw [if_neg (by simp [hm, hsel]), if_pos hsel]
      exact h.addRatsFor settings policy m
    · rw [if_pos (by simp [hsel]), if_neg hsel]
      rw [Option.toList_none, List.append_nil]
      exact ⟨pass, h⟩

/-- A run over any number of nets keeps the accounts. -/
theorem Balanced.foldl (h : Balanced host s results pass run) (settings : Settings α)
    (policy : Policy) (selection : Option (List Pin)) (ms : List Net) :
    ∃ pass', Balanced host s (results ++ resultsOf host settings policy selection run ms) pass'
      (ms.foldl (Session.addRatsForOne host settings policy selection) run) := by
  induction ms generalizing run results pass with
  | nil =>
    rw [resultsOf, List.append_nil]
    exact ⟨pass, h⟩
  | cons m ms ih =>
    obtain ⟨pass', h'⟩ := h.addRatsForOne settings policy selection m
    rw [resultsOf, ← List.append_assoc]
    exact ih h'

/-! ## All nets -/

/-- What a run over all nets has to account for: `results` are those of its nets, `totals` and
`outcome` what it reports, `t` is the session it ends in and `pass` are the calls it makes before
the verdict. -/
structure Accounts (host : Host) (selection : Option (List Pin)) (s : Session α)
    (results : List NetResult) (pass : List HostCall) (totals : Totals) (outcome : Outcome)
    (t : Session α) : Prop where
  /-- The verdict is the last call. -/
  calls : t.calls = s.calls ++ pass ++
    [.message (if outcome.isGood then .info else .warning) outcome.summary]
  /-- It is the only one. -/
  not_summary : ∀ c ∈ pass, ¬c.IsSummary
  offered : (notices pass).length = totals.shorts
  /-- There is one warning for each short circuit offered. -/
  warnings : (shortWarnings pass).length = totals.shorts
  warned : List.Forall₂ (fun text n => ∃ pin,
    text = ShortWatch.warning n.net n.offenderNet pin) (shortWarnings pass) (notices pass)
  shorts : (results.map (·.shorts)).sum = totals.shorts
  /-- The host is told once that there are short circuits. -/
  told : pass.count .shortsChanged = if 0 < totals.shorts then 1 else 0
  changed : 0 < totals.shorts → t.board.content.changed
  /-- What the host does not highlight is marked. -/
  marked : ∀ pre n, pre ++ [.short n] <+: pass → host.handlesShort (s.calls ++ pre) n = false →
    ∀ id ∈ n.objects, (t.board.content.store.get? id).any (·.hasFlags .warn)
  drawn : (results.map (·.drawn)).sum = totals.drawn
  missing : (results.map (·.missing)).sum = totals.missing
  /-- As long as ids do not run out there are as many more rat lines as are drawn. -/
  rats : s.board.content.store.nextId.toNat + totals.drawn ≤ UInt64.size →
    t.board.content.store.rats.length = s.board.content.store.rats.length + totals.drawn
  nets : results.length = totals.nets
  /-- Every net is either passed by or counted. -/
  skipped : totals.nets + s.board.content.netlist.toList.countP (skips selection) =
    s.board.content.netlist.toList.length
  disabled : totals.disabled = s.board.content.netlist.toList.countP (·.inhibited)

variable (host settings policy selection) in
/-- A run over all nets of a board whose counter is beyond all ids accounts for all it does. -/
theorem addRatsForAll_accounts
    (hbelow : ∀ e ∈ s.board.content.store.objects.entries, e.1 < s.board.content.store.nextId) :
    let run := s.addRatsForAll host settings policy selection
    ∃ pass, Accounts host selection s
      (resultsOf host settings policy selection ({}, .start "" s.board.content.netlist, s)
        s.board.content.netlist.toList) pass run.1 run.2.1 run.2.2 := by
  obtain ⟨pass, h⟩ := (balanced_start host s).foldl settings policy selection
    s.board.content.netlist.toList
  obtain ⟨hdisabled, hnets⟩ := counts_foldl host settings policy selection
    ({}, .start "" s.board.content.netlist, s) s.board.content.netlist.toList
  rw [addRatsForAll]
  rw [List.nil_append] at h
  generalize s.board.content.netlist.toList.foldl (addRatsForOne host settings policy selection) _
    = run at h hdisabled hnets ⊢
  obtain ⟨totals, w, t⟩ := run
  obtain ⟨hcalls, hbooked, hpresent, ⟨ls, hdrew, hlength⟩, hshorts, hdrawn, hmissing, hresults⟩ := h
  dsimp only at hcalls hpresent hdrew hlength hshorts hdrawn hmissing hresults hdisabled hnets ⊢
  refine ⟨pass ++ w.closing, ?_⟩
  have hoffered : notices (pass ++ w.closing) = notices pass := by simp
  have hwarnings : shortWarnings (pass ++ w.closing) = shortWarnings pass := by simp
  constructor
  case calls => rw [message, call, calls_finishWatch, hcalls, List.append_assoc s.calls]
  case not_summary =>
    exact List.forall_mem_append.2 ⟨hbooked.not_summary, w.not_isSummary_closing⟩
  case offered =>
    rw [hoffered]
    exact hbooked.count.symm
  case warned =>
    rw [hoffered, hwarnings]
    exact hbooked.warned
  case warnings =>
    rw [hwarnings, hbooked.warned.length_eq]
    exact hbooked.count.symm
  case shorts => exact hshorts
  case told =>
    rw [List.count_append, List.count_eq_zero.2 hbooked.ne_shortsChanged, Nat.zero_add]
    exact w.count_closing
  case changed =>
    intro (hpos : 0 < w.count)
    simp [message, call, changed_finishWatch, hpos]
  case marked =>
    intro pre n hpre hhost id hid
    have hpass : pre ++ [.short n] <+: pass := (short_prefix_append_iff w.notices_closing).1 hpre
    have hmem := hbooked.pending pre n hpass hhost hid
    exact w.warned_finish t.board.content t.calls hmem (hpresent id hmem)
  case drawn => exact hdrawn
  case missing => exact hmissing
  case rats =>
    intro hroom
    have hlines := congrArg List.length
      ((hdrew.finishWatch w).ratLines hbelow (hlength ▸ hroom))
    rw [List.length_append, List.length_map, Store.length_ratLines, Store.length_ratLines,
      hlength] at hlines
    exact hlines
  case nets => exact hresults
  case skipped => simpa using hnets
  case disabled => simpa using hdisabled

/-- A net of four pads with one id left after theirs.  The first two are joined by a rat line that
has the least id. -/
def leastRat : Session Float :=
  let c := (threePins (roundPad 1 0) (roundPad 2 100) (roundPad 3 200)).board.content
  ⟨.ofContent { c with
    store := ((c.store.insert
      { id := 0, shape := .rat ⟨⟨0, 0⟩, ⟨100, 0⟩, 0, 0, 1, 2, false⟩ }).addPart
      ⟨(3 : Nat), "D"⟩).insert
      { roundPad 18446744073709551614 300 with part := some (3 : Nat), pin := some "1" }
    netlist := c.netlist.addTerminal "N" ⟨"D", "1", ∅⟩ }, []⟩

/-- Two rat lines are drawn, and the second one takes the place of the one that is there. -/
theorem addRatsForAll_replaces_rat :
    leastRat.board.content.store.Keyed ∧
      (∀ e ∈ leastRat.board.content.store.objects.entries,
        e.1 < leastRat.board.content.store.nextId) ∧
      leastRat.board.content.store.rats.map (·.id) = [0] ∧
      (leastRat.addRatsForAll .silent .standard .precise none).1 = { drawn := 2, nets := 1 } ∧
      (leastRat.addRatsForAll .silent .standard .precise none).2.2.board.content.store.rats.map
        (·.id) = [0, 18446744073709551615] := by
  refine ⟨?_, ?_, ?_, ?_, ?_⟩ <;> decide +kernel

/-- The accounts of a run over two nets that touching pads short. -/
theorem addRatsForAll_accounts_touchingNets :
    (∀ e ∈ touchingNets.board.content.store.objects.entries,
        e.1 < touchingNets.board.content.store.nextId) ∧
      ∃ pass, Accounts .silent none touchingNets [⟨0, 0, 1, 1⟩, ⟨0, 0, 0, 1⟩] pass
        { shorts := 1, nets := 2 } (.incomplete 0 0 1)
        (touchingNets.addRatsForAll .silent .standard .precise none).2.2 := by
  have hbelow : ∀ e ∈ touchingNets.board.content.store.objects.entries,
      e.1 < touchingNets.board.content.store.nextId := by decide +kernel
  have hresults : resultsOf .silent .standard .precise none
      ({}, .start "" touchingNets.board.content.netlist, touchingNets)
      touchingNets.board.content.netlist.toList = [⟨0, 0, 1, 1⟩, ⟨0, 0, 0, 1⟩] := by
    decide +kernel
  have htotals : (touchingNets.addRatsForAll .silent .standard .precise none).1 =
      { shorts := 1, nets := 2 } := by decide +kernel
  have houtcome : (touchingNets.addRatsForAll .silent .standard .precise none).2.1 =
      .incomplete 0 0 1 := by decide +kernel
  obtain ⟨pass, h⟩ := addRatsForAll_accounts .silent .standard .precise none hbelow
  rw [hresults, htotals, houtcome] at h
  exact ⟨hbelow, pass, h⟩

end Session

end Ratsnest
