import Ratsnest.Proofs.Synthesis.Connected
import Ratsnest.Proofs.Synthesis.Merged

/-!
# Drawing rat lines twice

On a regular board whose ids do not run out, drawing the rat lines of a net a second time draws
none (`Session.addRatsForNet_idempotent`): the subnets that the first run has joined are found as
one, and no link leads away from it.
-/

namespace Ratsnest

variable {α : Type} [AngularScalar α]

/-- Where no link leads from the first subnet to another one there are no spanning links. -/
theorem LinkTable.spanning_eq_nil [OrderedScalar α] {s : Store α} {policy : Policy}
    {subnets : List Subnet} (h : ∀ (i j : Fin subnets.length), i.1 = 0 → i < j →
      ∀ a ∈ (subnets.get i).objects, ∀ b ∈ (subnets.get j).objects, ¬Admits s policy a b) :
    (ofSubnets s policy subnets).spanning = [] := by
  rw [spanning]
  cases hsize : (ofSubnets s policy subnets).size - 1 with
  | zero => rfl
  | succ n =>
    rw [grow]
    cases hnear : (ofSubnets s policy subnets).nearest? [0] with
    | none => rfl
    | some next =>
      obtain ⟨j, l⟩ := next
      obtain ⟨hj, hout, ⟨i, hi, hin, hl⟩, -⟩ := nearest?_eq_some hnear
      obtain rfl := List.mem_singleton.1 hin
      have hij : (⟨0, hi⟩ : Fin subnets.length) < ⟨j, hj⟩ :=
        Nat.pos_of_ne_zero fun h0 => hout (h0 ▸ hin)
      have hlink := (links_iff_of_lt hij).1 (get?_eq_some (i := ⟨0, hi⟩) (j := ⟨j, hj⟩) hl).links
      exact absurd hlink.admits
        (h ⟨0, hi⟩ ⟨j, hj⟩ rfl hij _ hlink.source_mem _ hlink.target_mem)

namespace Session

/-! ## One run -/

/-- Whether a board is another one with rat lines along `ls`, but for warnings. -/
structure Drew (c : Content α) (ls : List (Link α)) (d : Content α) : Prop where
  layers : d.layers = (c.withRats ls).layers
  netlist : d.netlist = (c.withRats ls).netlist
  marks : d.store.unmarked = (c.withRats ls).store.unmarked
  selected : ∀ id, (d.store.get? id).map (·.hasFlags .selected) =
    ((c.withRats ls).store.get? id).map (·.hasFlags .selected)

/-- What a run over a net has to do: `r` is what it reports and `d` the board it leaves. -/
structure NetRun (host : Host) (settings : Settings α) (policy : Policy) (s : Session α)
    (net : Net) (r : NetResult) (d : Content α) : Prop where
  drew : Drew s.board.content (Extraction.linksOf settings policy s.board.content.store
    (Extraction.ofTerminals settings s.board.content net.terminals).subnets) d
  drawn : r.drawn = (Extraction.linksOf settings policy s.board.content.store
    (Extraction.ofTerminals settings s.board.content net.terminals).subnets).length
  missing : r.missing = (Extraction.ofTerminals settings s.board.content net.terminals).missing +
    if r.subnets ≤ r.drawn + 1 then 0 else 1
  shorts : r.shorts = ((ShortWatch.start net.name s.board.content.netlist).checkAll host
    s.board.content.store s.calls
    (Extraction.ofTerminals settings s.board.content net.terminals).discoveries).1.count
  subnets : r.subnets =
    (Extraction.ofTerminals settings s.board.content net.terminals).subnets.length

variable [ShownScalar α] (settings : Settings α) (policy : Policy)

/-- Connecting subnets draws their links, and misses something if these are too few. -/
theorem connect_spec (s : Session α) (subnets : List Subnet) :
    let ls := Extraction.linksOf settings policy s.board.content.store subnets
    let r := s.connect settings policy subnets
    r.1.drawn = ls.length ∧ r.1.missing = (if subnets.length ≤ ls.length + 1 then 0 else 1) ∧
      r.2.board.content.layers = s.board.content.layers ∧
      r.2.board.content.netlist = s.board.content.netlist ∧
      r.2.board.content.store = s.board.content.store.addRats ls := by
  dsimp only
  rw [Extraction.linksOf]
  split
  · rename_i h
    obtain ⟨hr, hcontent⟩ := s.connect_eq policy h.1 h.2
    have hle : (LinkTable.ofSubnets s.board.content.store policy subnets).spanning.length ≤
        subnets.length - 1 := LinkTable.length_grow_le _ _ _
    rw [hr, hcontent]
    refine ⟨rfl, ?_, rfl, rfl, rfl⟩
    have hiff : (LinkTable.ofSubnets s.board.content.store policy subnets).spanning.length + 1 =
        subnets.length ↔ subnets.length ≤
          (LinkTable.ofSubnets s.board.content.store policy subnets).spanning.length + 1 := by omega
    simp only [hiff]
  · rename_i h
    rcases subnets with _ | ⟨a, _ | ⟨b, rest⟩⟩
    · exact ⟨rfl, rfl, rfl, rfl, rfl⟩
    · exact ⟨rfl, rfl, rfl, rfl, rfl⟩
    · have hmax : settings.maxSubnets.toNat < (a :: b :: rest).length := by
        simp only [List.length_cons] at h ⊢
        omega
      simp only [connect, if_pos hmax]
      refine ⟨rfl, ?_, rfl, rfl, rfl⟩
      rw [if_neg (by simp)]

theorem addRatsFor_spec (host : Host) (w : ShortWatch) (s : Session α) (ts : List Terminal) :
    let c := s.board.content
    let e := Extraction.ofTerminals settings c ts
    let ls := Extraction.linksOf settings policy c.store e.subnets
    let r := s.addRatsFor host settings policy w ts
    r.1.drawn = ls.length ∧
      r.1.missing = e.missing + (if e.subnets.length ≤ ls.length + 1 then 0 else 1) ∧
      r.1.shorts = (w.checkAll host c.store s.calls e.discoveries).1.count - w.count ∧
      r.1.subnets = e.subnets.length ∧
      r.2.2.board.content.layers = c.layers ∧ r.2.2.board.content.netlist = c.netlist ∧
      r.2.2.board.content.store = c.store.addRats ls := by
  intro c e ls r
  obtain ⟨hdrawn, hmissing, hlayers, hnetlist, hstore⟩ := connect_spec settings policy
    { s with calls := (w.checkAll host c.store s.calls e.discoveries).2 } e.subnets
  exact ⟨hdrawn, congrArg (e.missing + ·) hmissing, rfl, rfl, hlayers, hnetlist, hstore⟩

theorem addRatsForNet_eq (host : Host) (s : Session α) {name : String} {net : Net}
    (hnet : s.board.content.net name = .ok net) :
    let run := s.addRatsFor host settings policy (.start net.name s.board.content.netlist)
      net.terminals
    s.addRatsForNet host settings policy name = .ok (run.1, run.2.2.finishWatch run.2.1) := by
  rw [addRatsForNet, hnet]
  rfl

theorem addRatsForNet_spec (host : Host) (s : Session α) {name : String} {net : Net}
    (hnet : s.board.content.net name = .ok net) :
    ∃ r t, s.addRatsForNet host settings policy name = .ok (r, t) ∧
      NetRun host settings policy s net r t.board.content := by
  obtain ⟨hdrawn, hmissing, hshorts, hsubnets, hlayers, hnetlist, hstore⟩ :=
    s.addRatsFor_spec settings policy host
      (.start net.name s.board.content.netlist) net.terminals
  refine ⟨_, _, s.addRatsForNet_eq settings policy host hnet, ⟨?_, hdrawn, ?_, hshorts, hsubnets⟩⟩
  · generalize s.addRatsFor host settings policy _ _ = run at hlayers hnetlist hstore ⊢
    obtain ⟨_, w, t⟩ := run
    obtain ⟨hlayers', hnetlist', hmarks, hselected⟩ := w.finish_spec t.board.content t.calls
    dsimp only at hlayers hnetlist hstore
    rw [hstore] at hmarks hselected
    exact ⟨hlayers'.trans hlayers, hnetlist'.trans hnetlist, hmarks, hselected⟩
  · rw [hmissing, hdrawn, hsubnets]

/-! ## Two runs -/

variable {settings policy}

/-- A second run draws nothing, and it counts the subnets that the first one has joined as one. -/
theorem addRatsForNet_idempotent [OrderedScalar α] {host host' : Host} {s s₁ : Session α}
    {name : String} {r₁ : NetResult}
    (hc : Regular s.board.content (Extraction.rules settings))
    (hbelow : ∀ e ∈ s.board.content.store.objects.entries, e.1 < s.board.content.store.nextId)
    (hbridges : BridgesSymm s.board.content policy)
    (h₁ : s.addRatsForNet host settings policy name = .ok (r₁, s₁))
    (hroom : s.board.content.store.nextId.toNat + r₁.drawn ≤ UInt64.size) :
    ∃ r₂ s₂, s₁.addRatsForNet host' settings policy name = .ok (r₂, s₂) ∧
      r₂.drawn = 0 ∧ r₂.missing = r₁.missing ∧ r₂.shorts = r₁.shorts ∧
      r₂.subnets + r₁.drawn = r₁.subnets ∧
      s₂.board.content.store.unmarked = s₁.board.content.store.unmarked := by
  obtain ⟨net, hnet⟩ : ∃ net, s.board.content.net name = .ok net := by
    cases hnet : s.board.content.net name with
    | ok net => exact ⟨net, rfl⟩
    | error _ =>
      rw [addRatsForNet, hnet] at h₁
      cases h₁
  obtain ⟨r, t, hrt, hrun⟩ := s.addRatsForNet_spec settings policy host hnet
  obtain ⟨rfl, rfl⟩ := Prod.mk.inj (Except.ok.inj (h₁.symm.trans hrt))
  have hdrew := hrun.drew
  have hnet₂ : s₁.board.content.net name = .ok net := by
    rw [Content.net, hdrew.netlist]
    exact hnet
  obtain ⟨r₂, s₂, h₂, hrun₂⟩ := s₁.addRatsForNet_spec settings policy host' hnet₂
  have hsettled := Extraction.settled hc hbridges (Eq.refl
    (Extraction.ofTerminals settings s.board.content net.terminals)) rfl hbelow
    (hrun.drawn ▸ hroom)
  rw [← Extraction.ofTerminals_congr settings hdrew.layers hdrew.marks] at hsettled
  have hlinks : Extraction.linksOf settings policy s₁.board.content.store
      (Extraction.ofTerminals settings s₁.board.content net.terminals).subnets = [] := by
    rw [Extraction.linksOf]
    split
    · rename_i hrange
      apply LinkTable.spanning_eq_nil
      intro i j hi hij a ha b hb hadmits
      exact hsettled.apart hrange.2 i j hi hij a ha b hb
        (hadmits.of_unmarked hdrew.marks hdrew.selected)
    · rfl
  have hdrawn : r₂.drawn = 0 := by rw [hrun₂.drawn, hlinks, List.length_nil]
  have hsize : r₂.subnets + r₁.drawn = r₁.subnets := by
    rw [hrun₂.subnets, hrun.subnets, hrun.drawn, hsettled.size]
  have hmarks := hrun₂.drew.marks
  rw [hlinks] at hmarks
  refine ⟨r₂, s₂, h₂, hdrawn, ?_, ?_, hsize, hmarks⟩
  · have hiff : r₂.subnets ≤ r₂.drawn + 1 ↔ r₁.subnets ≤ r₁.drawn + 1 := by omega
    rw [hrun₂.missing, hrun.missing, hsettled.missing]
    simp only [hiff]
  · rw [hrun₂.shorts, hrun.shorts, hdrew.netlist]
    apply ShortWatch.count_checkAll_congr _ List.nodup_nil
    intro p
    have hterminal (id : ObjectId) :
        s₁.board.content.store.terminalOf? id = s.board.content.store.terminalOf? id := by
      rw [← Store.terminalOf?_unmarked, hdrew.marks, Store.terminalOf?_unmarked, hsettled.pins]
    simp only [ShortWatch.pair?, hterminal]
    refine exists_congr fun id => and_congr_left fun hpair => hsettled.discovered id ?_
    obtain ⟨pin, hpin, -⟩ := Option.bind_eq_some_iff.1 hpair
    exact Option.isSome_iff_exists.2 ⟨pin, hpin⟩

/-- What two runs in a row report. -/
def twoRuns (policy : Policy) (s : Session Float) (name : String) :
    Except Error (NetResult × NetResult) := do
  let (r₁, s) ← s.addRatsForNet .silent .standard policy name
  let (r₂, _) ← s.addRatsForNet .silent .standard policy name
  return (r₁, r₂)

/-- A board with a net of three objects, each one the first pin of a part. -/
def threePins (a b c : BoardObject Float) : Session Float :=
  let pinned (n : Nat) (o : BoardObject Float) : BoardObject Float :=
    { o with part := some n, pin := some "1" }
  let parts : Store Float := ((Store.empty.addPart ⟨(0 : Nat), "A"⟩).addPart
    ⟨(1 : Nat), "B"⟩).addPart ⟨(2 : Nat), "C"⟩
  ⟨.ofContent { (Content.empty (0 : Nat) "pins" : Content Float) with
    store := ((parts.insert (pinned 0 a)).insert (pinned 1 b)).insert (pinned 2 c)
    netlist := ((NetList.empty.addTerminal "N" ⟨"A", "1", ∅⟩).addTerminal "N"
      ⟨"B", "1", ∅⟩).addTerminal "N" ⟨"C", "1", ∅⟩ }, []⟩

/-- A round pad. -/
def roundPad (id : ObjectId) (x : Float) : BoardObject Float :=
  { id, shape := .padstack ⟨⟨x, 0⟩, .circle 5, [0], 0, []⟩ }

/-- Three pads in a row with one id left after theirs. -/
def lastIds : Session Float :=
  threePins (roundPad 0 0) (roundPad 1 100) (roundPad 18446744073709551614 200)

/-- Three objects so far apart that one end of a bridge is beyond the finite numbers when it is
computed from the second to the third, and not when it is computed from the third to the second. -/
def farApart : Session Float :=
  let far : Float := 1.7976931348623157e308
  threePins { id := 0, shape := .padstack ⟨⟨far, 100⟩, .circle 1, [0], 0, []⟩ }
    { id := 1, shape := .line ⟨0, ⟨⟨2.9937604643020797e292, 0⟩, ⟨far, 0⟩⟩, 0, 0⟩ }
    { id := 2, shape := .line ⟨1, ⟨⟨far, 0⟩, ⟨far, 1⟩⟩, 0, 0⟩, flags := .selected }

/-- A rat line that takes the id of an object hides it from the second run, and a bridge that is
seen from one side alone is drawn by the second run if the first one has turned the subnets
around. -/
theorem addRatsForNet_not_idempotent :
    (Regular lastIds.board.content (Extraction.rules .standard) ∧
      (∀ e ∈ lastIds.board.content.store.objects.entries,
        e.1 < lastIds.board.content.store.nextId) ∧
      BridgesSymm lastIds.board.content .precise ∧
      (lastIds.twoRuns .precise "N").toOption = some (⟨2, 0, 0, 3⟩, ⟨0, 1, 0, 1⟩)) ∧
    Regular farApart.board.content (Extraction.rules .standard) ∧
      (∀ e ∈ farApart.board.content.store.objects.entries,
        e.1 < farApart.board.content.store.nextId) ∧
      (farApart.twoRuns { onlySelected := true } "N").toOption =
        some (⟨1, 1, 0, 3⟩, ⟨1, 0, 0, 2⟩) := by
  refine ⟨⟨?_, ?_, ?_, ?_⟩, ?_, ?_, ?_⟩ <;> decide +kernel

/-- Three pads in a row, the last one between the others. -/
def padsInRow : Session Float := threePins (roundPad 0 0) (roundPad 1 100) (roundPad 2 30)

/-- Two rat lines join the pads, and the second run has nothing left to do. -/
theorem addRatsForNet_idempotent_padsInRow :
    Regular padsInRow.board.content (Extraction.rules .standard) ∧
      (∀ e ∈ padsInRow.board.content.store.objects.entries,
        e.1 < padsInRow.board.content.store.nextId) ∧
      BridgesSymm padsInRow.board.content .precise ∧
      ∃ r₁ s₁, padsInRow.addRatsForNet .silent .standard .precise "N" = .ok (r₁, s₁) ∧
        r₁ = ⟨2, 0, 0, 3⟩ ∧ padsInRow.board.content.store.nextId.toNat + r₁.drawn ≤ UInt64.size ∧
        ∃ r₂ s₂, s₁.addRatsForNet .silent .standard .precise "N" = .ok (r₂, s₂) ∧
          r₂.drawn = 0 ∧ r₂.missing = r₁.missing ∧ r₂.shorts = r₁.shorts ∧
          r₂.subnets + r₁.drawn = r₁.subnets ∧
          s₂.board.content.store.unmarked = s₁.board.content.store.unmarked := by
  have hc : Regular padsInRow.board.content (Extraction.rules .standard) := by decide +kernel
  have hbelow : ∀ e ∈ padsInRow.board.content.store.objects.entries,
      e.1 < padsInRow.board.content.store.nextId := by decide +kernel
  have hbridges : BridgesSymm padsInRow.board.content .precise := by decide +kernel
  have hresult : (padsInRow.addRatsForNet .silent .standard .precise "N").toOption.map (·.1) =
      some ⟨2, 0, 0, 3⟩ := by decide +kernel
  have hnext : padsInRow.board.content.store.nextId.toNat = 3 := by decide +kernel
  refine ⟨hc, hbelow, hbridges, ?_⟩
  cases h₁ : padsInRow.addRatsForNet .silent .standard .precise "N" with
  | error e =>
    rw [h₁] at hresult
    cases hresult
  | ok run =>
    obtain ⟨r₁, s₁⟩ := run
    rw [h₁] at hresult
    obtain rfl := Option.some.inj hresult
    have hroom : padsInRow.board.content.store.nextId.toNat + 2 ≤ UInt64.size := by
      rw [hnext]
      decide
    exact ⟨_, s₁, rfl, rfl, hroom, addRatsForNet_idempotent hc hbelow hbridges h₁ hroom⟩

end Session

end Ratsnest
