import Ratsnest.Proofs.RipUp.Loose
import Ratsnest.Proofs.Synthesis.Territory

/-!
# Ripping up what has been drawn

Where parts own all that a net is connected to, ripping up the net just after a run has drawn its
rat lines takes away these and nothing else, and the next run draws them again
(`Session.addRatsForNet_ripUp`).  Only the ids must not run out while they are drawn
(`Session.addRatsForNet_ripUp_wraps`).
-/

namespace Ratsnest

variable {α : Type}

/-! ## Marks and links -/

/-- Marks play no part in what is asked of an object's owner. -/
theorem Store.any_congr {s t : Store α} (h : s.unmarked = t.unmarked) (id : ObjectId) :
    (s.get? id).any (·.part.isNone) = (t.get? id).any (·.part.isNone) := by
  have key (s : Store α) :
      (s.get? id).any (·.part.isNone) = (s.unmarked.get? id).any (·.part.isNone) := by
    rw [get?_unmarked, Option.any_map]
    rfl
  rw [key s, h, ← key]

/-! ## The rat lines just drawn -/

namespace Content

variable [AngularScalar α] {settings : Settings α} {c : Content α} {m : Net}
  {ls : List (Link α)} {x y id : ObjectId}

/-- Whether rat lines along `ls` join objects of a net. -/
def Within (settings : Settings α) (c : Content α) (m : Net) (ls : List (Link α)) : Prop :=
  ∀ l ∈ ls, (l.source ∈ c.territory settings m ∧ c.store.holds l.source) ∧
    l.target ∈ c.territory settings m

/-- The links that a net still needs join its objects. -/
theorem Tidy.within_linksFor [OrderedScalar α] (hc : c.Tidy) (settings : Settings α)
    (policy : Policy) (m : Net) : c.Within settings m (c.linksFor settings policy m) := by
  intro l hl
  obtain ⟨⟨p, hp, hsource⟩, q, hq, htarget⟩ := Extraction.mem_objects_of_linksOf hl
  exact ⟨⟨hc.mem_territory_of_subnets hp hsource, (Extraction.of_mem_objects hp hsource).2⟩,
    hc.mem_territory_of_subnets hq htarget⟩

theorem Tidy.contains_of_territory (hc : c.Tidy) (hx : x ∈ c.territory settings m) :
    c.store.contains x := by
  obtain ⟨y, hy, hyx⟩ := hc.mem_territory_iff.1 hx
  exact hc.contains_of_wired (hc.contains_of_located hy) hyx

section Drawn

variable (hc : c.Tidy) (hplace : Placeable c ls) (hls : c.Within settings m ls)
include hplace

theorem contains_withRats (hx : c.store.contains x) : (c.withRats ls).store.contains x := by
  obtain ⟨o, ho⟩ := Store.contains_iff.1 hx
  exact Store.contains_of_get? (hplace.get?_withRats_iff.2 (.inl ho))

include hc hls

/-- From the objects of a net the way leads to them and to the rat lines just drawn. -/
theorem Tidy.mem_of_wired_withRats (hx : x ∈ c.territory settings m)
    (h : Wired (c.withRats ls) (Extraction.rules settings) x y) :
    y ∈ c.territory settings m ∨ y ∈ freshIds c.store.nextId ls.length := by
  induction h with
  | refl => exact .inl hx
  | tail _ hyz ih =>
    rcases hplace.of_adjacent_withRats hyz with hyz | ⟨l, hl, hz⟩ | ⟨l, hl, -⟩
    · rcases ih with hy | hy
      · obtain ⟨w, hw, hwy⟩ := hc.mem_territory_iff.1 hy
        exact .inl (hc.mem_territory_iff.2 ⟨w, hw, hwy.tail hyz⟩)
      · obtain ⟨o, ho⟩ := exists_of_adjacent hyz
        rw [hplace.unused _ hy] at ho
        cases ho
    · obtain ⟨⟨hsource, -⟩, htarget⟩ := hls l (List.of_mem_zip hl).2
      rcases hz with rfl | rfl
      · exact .inl hsource
      · exact .inl htarget
    · exact .inr (List.of_mem_zip hl).1

/-- The way leads to each of these rat lines. -/
theorem Tidy.exists_wired_newRat {l : Link α} (hl : NewRat c ls id l) :
    ∃ x ∈ c.store.located m.terminals,
      Wired (c.withRats ls) (Extraction.rules settings) x id := by
  obtain ⟨⟨hsource, hholds⟩, -⟩ := hls l (List.of_mem_zip hl).2
  obtain ⟨x, hx, hwired⟩ := hc.mem_territory_iff.1 hsource
  obtain ⟨o, ho, hrat⟩ := (Option.any_eq_true _ _).1 hholds
  have hget : (c.withRats ls).store.get? l.source = some o :=
    hplace.get?_withRats_iff.2 (.inl ho)
  have hjoin : Adjacent (c.withRats ls) (Extraction.rules settings) (c.withRats ls).store
      l.source id :=
    ⟨_, .toRat hget (by simpa using hrat) rfl
      (Store.mem_toList_iff.2 ⟨id, hplace.get?_of_newRat hl⟩) rfl (.inl rfl)⟩
  exact ⟨x, hx, (hplace.wired_withRats hwired).tail hjoin⟩

/-- Where parts own all objects of a net, the rat lines just drawn are all that is connected to it
and owned by no part. -/
theorem Tidy.mem_freshIds_iff_doomed
    (howned : ∀ id ∈ c.territory settings m, ¬(c.store.get? id).any (·.part.isNone)) :
    id ∈ freshIds c.store.nextId ls.length ↔
      ((c.withRats ls).store.get? id).any (·.part.isNone) ∧
        id ∈ objectsOf ((ConnectionIndex.ofContent (c.withRats ls)).crawlAll
          (Extraction.rules settings) (c.withRats ls).store []
          ((c.withRats ls).store.located m.terminals)) := by
  rw [hplace.located_withRats]
  constructor
  · intro hid
    obtain ⟨l, hl⟩ := exists_link_of_mem_freshIds hid
    obtain ⟨x, hx, hwired⟩ := hc.exists_wired_newRat hplace hls hl
    have hget := hplace.get?_of_newRat hl
    refine ⟨by rw [hget]; rfl, ?_⟩
    exact ConnectionIndex.mem_crawlAll_of_wired hx
      (contains_withRats hplace (hc.contains_of_located hx)) hwired (Store.contains_of_get? hget)
  · rintro ⟨hparentless, hid⟩
    obtain ⟨x, hx, hwired⟩ := ConnectionIndex.exists_wired_of_mem_crawlAll hid
    rcases hc.mem_of_wired_withRats hplace hls (hc.mem_territory_of_located hx) hwired with h | h
    · obtain ⟨o, ho⟩ := Store.contains_iff.1 (hc.contains_of_territory h)
      rw [hplace.get?_withRats_iff.2 (.inl ho), ← ho] at hparentless
      exact absurd hparentless (howned id h)
    · exact h

end Drawn

/-! ## What ripping up leaves -/

omit [AngularScalar α] in
theorem Without.unmarked {c d : Content α} {ids : List ObjectId} (h : c.Without ids d) :
    c.unmarked.Without ids d.unmarked where
  layers := h.layers
  parts := h.parts
  netlist := h.netlist
  nextId := h.nextId
  get? id := by
    rw [unmarked_store, unmarked_store, Store.get?_unmarked, Store.get?_unmarked, h.get?]
    split <;> rfl

omit [AngularScalar α] in
theorem Without.congr {c d : Content α} {ids ids' : List ObjectId} (h : c.Without ids d)
    (hids : ∀ id, id ∈ ids ↔ id ∈ ids') : c.Without ids' d :=
  { h with get? := fun id => by simp only [h.get?, hids] }

end Content

namespace Board

variable [AngularScalar α] {name : String}

/-- Ripping up takes away just what is connected to the net and owned by no part.  Of the rest it
changes marks alone, and not which objects are selected. -/
theorem ripUp_spec (b : Board α) (settings : Settings α) {m : Net}
    (hnet : b.content.net name = .ok m) :
    ∃ ids b', b.ripUp settings name = .ok (ids.length, b') ∧ ids.Nodup ∧
      (∀ id, id ∈ ids ↔ b.IsLoose settings m id) ∧
      b.content.unmarked.Without ids b'.content.unmarked ∧
      ∀ id ∉ ids, b'.content.store.linkable id = b.content.store.linkable id := by
  have hwithout := without_removeAll b.unfound "Rip up net" (b.loose settings m)
  refine ⟨b.loose settings m, _, b.ripUp_eq_removeAll settings hnet, b.nodup_loose settings m,
    fun id => mem_loose_iff, ?without, fun id hid => ?link⟩
  case without =>
    have hfrom : b.unfound.content.unmarked = b.content.unmarked :=
      congrArg (fun s => { b.content with store := s })
        (b.content.store.unmarked_clearFlags .found)
    exact hfrom ▸ hwithout.unmarked
  case link =>
    calc (b.unfound.removeAll "Rip up net" (b.loose settings m)).content.store.linkable id
        = b.unfound.content.store.linkable id := by
          rw [Store.linkable, Store.linkable, hwithout.get?, if_neg hid]
      _ = b.content.store.linkable id :=
          Store.linkable_remark (g := (·.change .none .found))
            (Flags.contains_change_of_disjoint rfl rfl) b.content.store id

end Board

/-! ## Boards on which a net is drawn alike -/

/-- Whether two boards differ in the counter and in marks other than selection alone. -/
structure Content.Alike (c d : Content α) : Prop where
  layers : c.layers = d.layers
  netlist : c.netlist = d.netlist
  parts : c.store.parts = d.store.parts
  objects : c.store.unmarked.objects = d.store.unmarked.objects
  linkable : ∀ id, c.store.linkable id = d.store.linkable id

namespace Extraction

variable [AngularScalar α]

/-- The counter plays no part in what a net falls into. -/
theorem run_nextId (i : ConnectionIndex α) (r : JoinRules α) (s : Store α) (n : UInt64)
    (visited : List ObjectId) (ts : List Terminal) :
    run i r { s with nextId := n } visited ts = run i r s visited ts := by
  induction ts generalizing visited with
  | nil => rfl
  | cons t ts ih =>
    simp only [run, ih]
    rfl

end Extraction

namespace Content.Alike

variable {c d : Content α}

/-- The objects and parts are the same but for marks. -/
theorem unmarked_eq (h : c.Alike d) :
    c.store.unmarked = ({ d.store with nextId := c.store.nextId } : Store α).unmarked := by
  have hobjects : c.store.objects.map (·.unmarked) = d.store.objects.map (·.unmarked) := h.objects
  rw [Store.unmarked, Store.unmarked, hobjects, h.parts]

theorem terminalOf?_eq (h : c.Alike d) (id : ObjectId) :
    c.store.terminalOf? id = d.store.terminalOf? id := by
  rw [← Store.terminalOf?_unmarked, h.unmarked_eq, Store.terminalOf?_unmarked]
  rfl

variable [AngularScalar α]

theorem ofTerminals_eq (h : c.Alike d) (settings : Settings α) (ts : List Terminal) :
    Extraction.ofTerminals settings c ts = Extraction.ofTerminals settings d ts := by
  let d' : Content α := { d with store := { d.store with nextId := c.store.nextId } }
  have hlayers : c.layers = d'.layers := h.layers
  calc Extraction.ofTerminals settings c ts
      = Extraction.ofTerminals settings d' ts :=
        Extraction.ofTerminals_congr settings hlayers h.unmarked_eq ts
    _ = Extraction.ofTerminals settings d ts :=
        Extraction.run_nextId (.ofContent d) (Extraction.rules settings) d.store _ [] ts

theorem linksFor_eq (h : c.Alike d) (settings : Settings α) (policy : Policy) (m : Net) :
    c.linksFor settings policy m = d.linksFor settings policy m := by
  rw [linksFor, linksFor, h.ofTerminals_eq]
  exact Extraction.linksOf_congr fun n _ id _ => h.linkable id

end Content.Alike

namespace Session

open Content

variable [AngularScalar α] {settings : Settings α} {policy : Policy} {host : Host} {m : Net}

/-- A board from which the rat lines just drawn are taken away is as it was before but for the counter
and marks. -/
theorem Drew.alike_of_without {c d e : Content α} {ls : List (Link α)} (h : Drew c ls d)
    (hplace : Placeable c ls)
    (hwithout : d.unmarked.Without (freshIds c.store.nextId ls.length) e.unmarked)
    (hlinkable : ∀ id ∉ freshIds c.store.nextId ls.length,
      e.store.linkable id = d.store.linkable id) : c.Alike e := by
  have hold (id : ObjectId) (hid : id ∉ freshIds c.store.nextId ls.length) :
      (c.withRats ls).store.get? id = c.store.get? id :=
    Store.get?_addRats_of_notMem ls c.store hid
  have hget (id : ObjectId) :
      (e.store.get? id).map (·.unmarked) = (c.store.get? id).map (·.unmarked) := by
    have hunmarked := hwithout.get? id
    rw [unmarked_store, unmarked_store, h.marks, Store.get?_unmarked, Store.get?_unmarked]
      at hunmarked
    rw [hunmarked]
    split
    · rename_i hid
      rw [hplace.unused id hid]
      rfl
    · rename_i hid
      rw [hold id hid]
  have hparts : d.store.parts = c.store.parts := by
    change d.store.unmarked.parts = c.store.parts
    rw [h.marks]
    exact Store.parts_addRats c.store ls
  refine ⟨(hwithout.layers.trans h.layers).symm, (hwithout.netlist.trans h.netlist).symm,
    (hwithout.parts.trans hparts).symm, SortedMap.ext_get? fun id => ?objects, fun id => ?linkable⟩
  case objects =>
    change c.store.unmarked.get? id = e.store.unmarked.get? id
    rw [Store.get?_unmarked, Store.get?_unmarked, hget]
  case linkable =>
    by_cases hid : id ∈ freshIds c.store.nextId ls.length
    · have hgone := hget id
      rw [hplace.unused id hid, Option.map_none, Option.map_eq_none_iff] at hgone
      rw [Store.linkable, Store.linkable, hplace.unused id hid, hgone]
    · calc c.store.linkable id
          = (c.withRats ls).store.linkable id := by
            rw [Store.linkable, Store.linkable, hold id hid]
        _ = d.store.linkable id := (Store.linkable_congr h.marks (h.selected id)).symm
        _ = e.store.linkable id := (hlinkable id hid).symm

/-- Ripping up takes the rat lines just drawn away, and leaves the board as it was before but for
the counter and marks. -/
theorem Drew.exists_ripUp {c : Content α} {b : Board α} {ls : List (Link α)} {name : String}
    (h : Drew c ls b.content) (hc : c.Tidy) (hplace : Placeable c ls)
    (hls : c.Within settings m ls) (hnet : c.net name = .ok m)
    (howned : ∀ id ∈ c.territory settings m, ¬(c.store.get? id).any (·.part.isNone)) :
    ∃ b', b.ripUp settings name = .ok (ls.length, b') ∧
      b.content.unmarked.Without (freshIds c.store.nextId ls.length) b'.content.unmarked ∧
      c.Alike b'.content := by
  have hnet' : b.content.net name = .ok m := by
    rw [Content.net, h.netlist]
    exact hnet
  obtain ⟨ids, b', hrun, hnodup, hloose, hwithout, hlinkable⟩ := b.ripUp_spec settings hnet'
  have hconnected : b.connected settings m.terminals =
      (Board.ofContent (c.withRats ls)).connected settings m.terminals :=
    b.connected_congr (.ofContent (c.withRats ls)) settings h.layers h.marks m.terminals
  have hids (id : ObjectId) : id ∈ ids ↔ id ∈ freshIds c.store.nextId ls.length := by
    rw [hloose, hc.mem_freshIds_iff_doomed hplace hls howned, Board.IsLoose, hconnected,
      Store.any_congr h.marks]
    rfl
  have hlength : ids.length = ls.length := by
    have hfresh := nodup_freshIds hplace.length_le c.store.nextId
    rw [((List.perm_ext_iff_of_nodup hnodup hfresh).2 hids).length_eq, length_freshIds]
  have hwithout' := hwithout.congr hids
  rw [hlength] at hrun
  exact ⟨b', hrun, hwithout',
    h.alike_of_without hplace hwithout' fun id hid => hlinkable id fun hm => hid ((hids id).1 hm)⟩

variable [ShownScalar α]

/-- On boards that are alike, runs over a net draw the same and report the same. -/
theorem addRatsForNet_alike {s t : Session α} {name : String} {r : NetResult} {s' : Session α}
    (h : s.board.content.Alike t.board.content) (hnet : s.board.content.net name = .ok m)
    (hrun : s.addRatsForNet host settings policy name = .ok (r, s')) (host' : Host) :
    ∃ t', t.addRatsForNet host' settings policy name = .ok (r, t') ∧
      Drew t.board.content (s.board.content.linksFor settings policy m) t'.board.content := by
  have hnet' : t.board.content.net name = .ok m := by
    rw [Content.net, ← h.netlist]
    exact hnet
  obtain ⟨r₁, s₁, h₁, hfirst⟩ := s.addRatsForNet_spec settings policy host hnet
  obtain ⟨rfl, rfl⟩ := Prod.mk.inj (Except.ok.inj (hrun.symm.trans h₁))
  obtain ⟨r₂, t', h₂, hsecond⟩ := t.addRatsForNet_spec settings policy host' hnet'
  have hpieces := h.ofTerminals_eq settings m.terminals
  have hlinks := h.linksFor_eq settings policy m
  have hdrawn : r₂.drawn = r.drawn := by
    rw [hsecond.drawn, hfirst.drawn]
    exact congrArg List.length hlinks.symm
  have hsubnets : r₂.subnets = r.subnets := by
    rw [hsecond.subnets, hfirst.subnets, hpieces]
  have hmissing : r₂.missing = r.missing := by
    rw [hsecond.missing, hfirst.missing, hpieces, hsubnets, hdrawn]
  have hshorts : r₂.shorts = r.shorts := by
    rw [hsecond.shorts, hfirst.shorts, hpieces, h.netlist]
    refine ShortWatch.count_checkAll_congr _ List.nodup_nil fun p => ?_
    simp only [ShortWatch.pair?, h.terminalOf?_eq]
  have hr : r₂ = r := by
    cases r
    cases r₂
    simp_all
  rw [hr] at h₂
  exact ⟨t', h₂, hlinks ▸ hsecond.drew⟩

/-- After a run over a net whose objects are all owned by parts, ripping the net up takes away the
rat lines just drawn and nothing else, and the next run draws them again, under new ids. -/
theorem addRatsForNet_ripUp [OrderedScalar α] {s s₁ : Session α} {name : String} {r₁ : NetResult}
    (hc : s.board.content.Tidy) (hnet : s.board.content.net name = .ok m)
    (howned : ∀ d ∈ s.board.connected settings m.terminals,
      ¬(s.board.content.store.get? d.object).any (·.part.isNone))
    (h₁ : s.addRatsForNet host settings policy name = .ok (r₁, s₁))
    (hroom : s.board.content.store.nextId.toNat + r₁.drawn ≤ UInt64.size) :
    ∃ ls b, ls.length = r₁.drawn ∧ Drew s.board.content ls s₁.board.content ∧
      s₁.board.ripUp settings name = .ok (r₁.drawn, b) ∧
      s₁.board.content.unmarked.Without (freshIds s.board.content.store.nextId r₁.drawn)
        b.content.unmarked ∧
      ∀ host' calls, ∃ s₂,
        (⟨b, calls⟩ : Session α).addRatsForNet host' settings policy name = .ok (r₁, s₂) ∧
          Drew b.content ls s₂.board.content := by
  obtain ⟨r, t, hrun, hdone⟩ := s.addRatsForNet_spec settings policy host hnet
  obtain ⟨rfl, rfl⟩ := Prod.mk.inj (Except.ok.inj (h₁.symm.trans hrun))
  have hdrawn : (s.board.content.linksFor settings policy m).length = r₁.drawn := hdone.drawn.symm
  have howned' : ∀ id ∈ s.board.content.territory settings m,
      ¬(s.board.content.store.get? id).any (·.part.isNone) := by
    intro id hid
    obtain ⟨x, hx, hwired⟩ := hc.mem_territory_iff.1 hid
    have hmem : id ∈ objectsOf (s.board.connected settings m.terminals) :=
      ConnectionIndex.mem_crawlAll_of_wired hx (hc.contains_of_located hx) hwired
        (hc.contains_of_territory hid)
    obtain ⟨d, hd, rfl⟩ := List.mem_map.1 hmem
    exact howned d hd
  obtain ⟨b, hripUp, hwithout, halike⟩ := hdone.drew.exists_ripUp hc
    (.of_below hc.below (hdrawn ▸ hroom)) (hc.within_linksFor settings policy m) hnet howned'
  rw [← linksFor, hdrawn] at hripUp hwithout
  refine ⟨_, b, hdrawn, hdone.drew, hripUp, hwithout, fun host' calls => ?_⟩
  exact addRatsForNet_alike (t := ⟨b, calls⟩) halike hnet h₁ host'

/-- What a run over a net, ripping it up, and another run over it report. -/
def ripUpBetween (s : Session Float) (name : String) :
    Except Error (NetResult × ℕ × NetResult) := do
  let (r₁, s) ← s.addRatsForNet .silent .standard .precise name
  let (n, board) ← s.board.ripUp .standard name
  let (r₂, _) ← { s with board }.addRatsForNet .silent .standard .precise name
  return (r₁, n, r₂)

/-- The net of three pins. -/
def threePinNet : Net := ⟨"N", [⟨"A", "1", ∅⟩, ⟨"B", "1", ∅⟩, ⟨"C", "1", ∅⟩], false, ∅⟩

/-- Three pads in a row are joined, ripped up and joined again. -/
theorem addRatsForNet_ripUp_padsInRow :
    padsInRow.board.content.Tidy ∧ padsInRow.board.content.net "N" = .ok threePinNet ∧
      (∀ d ∈ padsInRow.board.connected .standard threePinNet.terminals,
        ¬(padsInRow.board.content.store.get? d.object).any (·.part.isNone)) ∧
      ∃ r₁ s₁, padsInRow.addRatsForNet .silent .standard .precise "N" = .ok (r₁, s₁) ∧
        r₁ = ⟨2, 0, 0, 3⟩ ∧ padsInRow.board.content.store.nextId.toNat + r₁.drawn ≤ UInt64.size ∧
        ∃ ls b, ls.length = r₁.drawn ∧ Drew padsInRow.board.content ls s₁.board.content ∧
          s₁.board.ripUp .standard "N" = .ok (r₁.drawn, b) ∧
          s₁.board.content.unmarked.Without
            (freshIds padsInRow.board.content.store.nextId r₁.drawn) b.content.unmarked ∧
          ∀ host' calls, ∃ s₂,
            (⟨b, calls⟩ : Session Float).addRatsForNet host' .standard .precise "N" =
                .ok (r₁, s₂) ∧
              Drew b.content ls s₂.board.content := by
  have hc : padsInRow.board.content.Tidy := by decide +kernel
  have hnet : padsInRow.board.content.net "N" = .ok threePinNet := by rfl
  have howned : ∀ d ∈ padsInRow.board.connected .standard threePinNet.terminals,
      ¬(padsInRow.board.content.store.get? d.object).any (·.part.isNone) := by decide +kernel
  have hresult : (padsInRow.addRatsForNet .silent .standard .precise "N").toOption.map (·.1) =
      some ⟨2, 0, 0, 3⟩ := by decide +kernel
  have hnext : padsInRow.board.content.store.nextId.toNat = 3 := by decide +kernel
  refine ⟨hc, hnet, howned, ?_⟩
  cases h₁ : padsInRow.addRatsForNet .silent .standard .precise "N" with
  | error e =>
    rw [h₁] at hresult
    cases hresult
  | ok run =>
    obtain ⟨r₁, s₁⟩ := run
    rw [h₁] at hresult
    obtain rfl := Option.some.inj hresult
    have hroom : padsInRow.board.content.store.nextId.toNat + 2 ≤ UInt64.size := by
      rw [hnext]
      decide
    exact ⟨_, s₁, rfl, rfl, hroom, addRatsForNet_ripUp hc hnet howned h₁ hroom⟩

/-- With one id left, the second rat line takes that of a pad.  The pad goes when the net is ripped
up, and the next run misses its terminal. -/
theorem addRatsForNet_ripUp_wraps :
    lastIds.board.content.Tidy ∧ lastIds.board.content.net "N" = .ok threePinNet ∧
      (∀ d ∈ lastIds.board.connected .standard threePinNet.terminals,
        ¬(lastIds.board.content.store.get? d.object).any (·.part.isNone)) ∧
      (lastIds.ripUpBetween "N").toOption = some (⟨2, 0, 0, 3⟩, 2, ⟨1, 1, 0, 2⟩) := by
  refine ⟨?_, by rfl, ?_, ?_⟩ <;> decide +kernel

end Session

end Ratsnest
