import Ratsnest.Proofs.Manual.Atomic
import Ratsnest.Proofs.Subnet.Partition
import Ratsnest.Proofs.Synthesis.Appended
import Ratsnest.Proofs.Synthesis.Aside
import Ratsnest.Proofs.WellFormed.Manual

/-!
# Manual connections connect

A rat line made by hand puts both terminals in one piece of their net, and a run over this net
draws rat lines between different pieces alone (`Session.connectByHand_connects`).  The user may
have pointed at other objects than those that are found for the terminals: objects that stand for
one pin are joined inside their part, when no other part has its reference designator.
-/

namespace Ratsnest

variable {α : Type}

/-! ## Objects that stand for one pin -/

namespace Store

/-- Whether no two parts have the same reference designator. -/
def DistinctParts (s : Store α) : Prop :=
  ∀ e ∈ s.parts.entries, ∀ f ∈ s.parts.entries, e.2.refdes = f.2.refdes → e.1 = f.1

instance (s : Store α) : Decidable s.DistinctParts :=
  inferInstanceAs (Decidable (∀ e ∈ s.parts.entries, ∀ f ∈ s.parts.entries,
    e.2.refdes = f.2.refdes → e.1 = f.1))

variable {s : Store α} {o q : BoardObject α} {p : Pin}

theorem pinOf?_eq_some_iff : s.pinOf? o = some p ↔ o.pin = some p.pin ∧
    ∃ id part, o.part = some id ∧ s.part? id = some part ∧ part.refdes = p.refdes := by
  obtain ⟨refdes, pin⟩ := p
  simp only [pinOf?, Option.bind_eq_bind, Option.bind_eq_some_iff, Option.some.injEq,
    Pin.mk.injEq]
  constructor
  · rintro ⟨_, hpin, id, hid, part, hpart, hrefdes, rfl⟩
    exact ⟨hpin, id, part, hid, hpart, hrefdes⟩
  · rintro ⟨hpin, id, part, hid, hpart, hrefdes⟩
    exact ⟨pin, hpin, id, hid, part, hpart, hrefdes, rfl⟩

/-- Objects that stand for one pin belong to one part. -/
theorem DistinctParts.eq_part (h : s.DistinctParts) (ho : s.pinOf? o = some p)
    (hq : s.pinOf? q = some p) : ∃ id, o.part = some id ∧ q.part = some id := by
  obtain ⟨-, i, part, hoi, hi, hrefdes⟩ := pinOf?_eq_some_iff.1 ho
  obtain ⟨-, j, part', hqj, hj, hrefdes'⟩ := pinOf?_eq_some_iff.1 hq
  have hij : i = j := h (i, part) (SortedMap.mem_entries_iff.2 hi) (j, part')
    (SortedMap.mem_entries_iff.2 hj) (hrefdes.trans hrefdes'.symm)
  exact ⟨j, hij ▸ hoi, hqj⟩

/-- What an object stands for is found. -/
theorem exists_find? (ho : o ∈ s.toList) (hrat : o.isRat = false) (hp : s.pinOf? o = some p) :
    ∃ id, s.find? p = some id := by
  have hfound : (s.toList.find? fun o => !o.isRat && s.pinOf? o == some p).isSome := by
    refine List.find?_isSome.2 ⟨o, ho, ?_⟩
    rw [hrat, hp, Bool.not_false, Bool.true_and, beq_iff_eq]
  obtain ⟨o', ho'⟩ := Option.isSome_iff_exists.1 hfound
  exact ⟨o'.id, by rw [find?, ho', Option.map_some]⟩

end Store

variable [AngularScalar α] {c d : Content α} {r : JoinRules α}

/-- Joins lead between objects that stand for one pin. -/
theorem Regular.wired_of_pinOf? (hc : Regular c r) (hparts : c.store.DistinctParts)
    {o q : BoardObject α} (ho : o ∈ c.copper) (hq : q ∈ c.copper) {p : Pin}
    (hop : c.store.pinOf? o = some p) (hqp : c.store.pinOf? q = some p) :
    Wired c r o.id q.id := by
  by_cases hid : q.id = o.id
  · exact hid ▸ .refl
  · obtain ⟨part, hopart, hqpart⟩ := hparts.eq_part hop hqp
    have hopin := (Store.pinOf?_eq_some_iff.1 hop).1
    have hqpin := (Store.pinOf?_eq_some_iff.1 hqp).1
    have hrat := Content.not_isRat_of_isCopper (Content.mem_copper_iff.1 ho).2
    exact .single ⟨_, .internal (hc.grounded.get?_of_copper ho) hrat
      ⟨hid, part, p.pin, hopart, hopin, q, hq, rfl, hqpart, hqpin⟩⟩

/-! ## A rat line more -/

namespace Content

/-- Whether one board is another one with a rat line placed under an unused id. -/
structure GainsRat (c : Content α) (id : ObjectId) (l : RatLine α) (d : Content α) : Prop where
  layers : d.layers = c.layers
  parts : d.store.parts = c.store.parts
  unused : c.store.get? id = none
  get?_eq : ∀ i, d.store.get? i = if i = id then some { id, shape := .rat l } else c.store.get? i

namespace GainsRat

variable {id i : ObjectId} {l : RatLine α} {o : BoardObject α}

omit [AngularScalar α] in
theorem get?_of_some (h : c.GainsRat id l d) (ho : c.store.get? i = some o) :
    d.store.get? i = some o := by
  rw [h.get?_eq, if_neg, ho]
  rintro rfl
  rw [h.unused] at ho
  cases ho

omit [AngularScalar α] in
theorem get?_id (h : c.GainsRat id l d) : d.store.get? id = some { id, shape := .rat l } := by
  rw [h.get?_eq, if_pos rfl]

omit [AngularScalar α] in
/-- What is there is the rat line or was there before. -/
theorem eq_or (h : c.GainsRat id l d) (ho : d.store.get? i = some o) :
    (i = id ∧ o = { id, shape := .rat l }) ∨ c.store.get? i = some o := by
  rw [h.get?_eq] at ho
  split at ho
  · rename_i hid
    exact .inl ⟨hid, (Option.some.inj ho).symm⟩
  · exact .inr ho

omit [AngularScalar α] in
theorem pinOf?_eq (h : c.GainsRat id l d) (o : BoardObject α) :
    d.store.pinOf? o = c.store.pinOf? o := by
  simp only [Store.pinOf?, Store.part?, h.parts]

omit [AngularScalar α] in
theorem mem_copper_iff (h : c.GainsRat id l d) : o ∈ d.copper ↔ o ∈ c.copper := by
  rw [Content.mem_copper_iff, Content.mem_copper_iff, isCopper, isCopper, h.layers]
  apply and_congr_left
  intro hcopper
  constructor
  · rintro ⟨i, hi⟩
    rcases h.eq_or hi with ⟨-, rfl⟩ | hi
    · cases hcopper
    · exact ⟨i, hi⟩
  · rintro ⟨i, hi⟩
    exact ⟨i, h.get?_of_some hi⟩

/-- A rat line between copper objects keeps a board regular. -/
theorem regular (h : c.GainsRat id l d) (hc : Regular c r)
    (hsource : ∃ p ∈ c.copper, p.id = l.anchor1) (htarget : ∃ p ∈ c.copper, p.id = l.anchor2) :
    Regular d r where
  keyed e he := by
    obtain ⟨i, o⟩ := e
    rcases h.eq_or (SortedMap.mem_entries_iff.1 he) with ⟨rfl, rfl⟩ | ho
    · rfl
    · exact hc.grounded.id_eq ho
  pads o ho hrat hpin := by
    obtain ⟨i, hi⟩ := Store.mem_toList_iff.1 ho
    rw [h.pinOf?_eq] at hpin
    rcases h.eq_or hi with ⟨-, rfl⟩ | hi
    · cases hrat
    · have hcopper := hc.pads o (Store.mem_toList_iff.2 ⟨i, hi⟩) hrat hpin
      rwa [isCopper, h.layers]
  anchors o ho e he := by
    simp only [h.mem_copper_iff]
    obtain ⟨i, hi⟩ := Store.mem_toList_iff.1 ho
    rcases h.eq_or hi with ⟨-, rfl⟩ | hi
    · rcases (mem_anchorsOf_iff rfl).1 he with rfl | rfl
      · exact hsource
      · exact htarget
    · exact hc.anchors o (Store.mem_toList_iff.2 ⟨i, hi⟩) e he
  touches_symm o ho p hp :=
    hc.touches_symm o (h.mem_copper_iff.1 ho) p (h.mem_copper_iff.1 hp)
  boxes_symm o ho p hp :=
    hc.boxes_symm o (h.mem_copper_iff.1 ho) p (h.mem_copper_iff.1 hp)

/-- Joins lead along the rat line. -/
theorem wired (h : c.GainsRat id l d) (hc : Regular c r) (hr : r.followRats)
    (hsource : ∃ p ∈ c.copper, p.id = l.anchor1) : Wired d r l.anchor1 l.anchor2 := by
  obtain ⟨p, hp, hps⟩ := hsource
  have hget := h.get?_of_some (hps ▸ hc.grounded.get?_of_copper hp)
  have hrat := not_isRat_of_isCopper (Content.mem_copper_iff.1 hp).2
  have hfirst : Adjacent d r d.store l.anchor1 id :=
    ⟨_, .toRat hget hrat hr (Store.mem_toList_iff.2 ⟨id, h.get?_id⟩) rfl (.inl rfl)⟩
  have hsecond : Adjacent d r d.store id l.anchor2 := ⟨_, .toAnchor h.get?_id rfl hr (.inr rfl)⟩
  exact .tail (.single hfirst) hsecond

end GainsRat

end Content

/-! ## What a connection does to the board -/

namespace Session

variable {host : Host} {settings : Settings α} {interactive : Bool} {s t : Session α}
  {a b : Point α} {m : ManualRat}

/-- A connection that is made has been planned on the same board and then carried out. -/
theorem exists_plan (h : s.connectByHand host settings interactive a b = .ok (m, t)) :
    ∃ p s' pinA pinB, s'.board = s.board ∧ Effects.Planned s.board.content a b p pinA pinB ∧
      Effects.carryOut p s' = .ok m t := by
  rw [← Effects.outcome_connectByHand] at h
  cases hrun : Effects.connectByHand host settings interactive a b s with
  | error e u =>
    rw [hrun] at h
    cases h
  | ok m' u =>
    rw [hrun] at h
    obtain ⟨rfl, rfl⟩ := Prod.mk.inj (Except.ok.inj h)
    obtain ⟨p, s', hplan, hcarry⟩ := Effects.exists_of_bind_eq_ok hrun
    obtain ⟨pinA, pinB, hp⟩ := Effects.exists_planned hplan
    have haside : s.Untouched (Effects.left (Effects.plan host settings interactive a b s)) :=
      Effects.aside_plan a b s
    rw [hplan] at haside
    exact ⟨p, s', pinA, pinB, haside.board, hp, hcarry⟩

/-- Whether a session has gained a rat line between the objects under two points, and lists their
pins on one net. -/
structure GainedByHand (s : Session α) (a b : Point α) (m : ManualRat) (l : RatLine α)
    (pinA pinB : Pin) (net : Net) (t : Session α) : Prop where
  anchor1 : s.board.content.terminalAt? a = some l.anchor1
  anchor2 : s.board.content.terminalAt? b = some l.anchor2
  pin1 : s.board.content.store.terminalOf? l.anchor1 = some pinA
  pin2 : s.board.content.store.terminalOf? l.anchor2 = some pinB
  gains : s.board.content.GainsRat m.rat l t.board.content
  found : t.board.content.netlist.get? m.net = some net
  listed : ∀ pin ∈ [pinA, pinB], net.contains (.ofPin pin)

/-- This is what a connection does. -/
theorem exists_gainedByHand
    (hbelow : ∀ e ∈ s.board.content.store.objects.entries, e.1 < s.board.content.store.nextId)
    (h : s.connectByHand host settings interactive a b = .ok (m, t)) :
    ∃ l pinA pinB net, s.GainedByHand a b m l pinA pinB net t := by
  obtain ⟨p, s', pinA, pinB, hboard, hp, hcarry⟩ := exists_plan h
  obtain ⟨board, calls⟩ := s
  subst hboard
  obtain ⟨added, t', hrun, hlisting⟩ :=
    Effects.exists_listing p.net hp.nodup (s'.update (·.begin "Add rat line"))
  obtain ⟨rfl, rfl⟩ := EStateM.Result.ok.inj ((Effects.carryOut_eq_ok hrun).symm.trans hcarry)
  have hcontent := hlisting.content_eq hp
  have hnext : t'.board.allocate.1 = s'.board.content.store.nextId :=
    congrArg Store.nextId hlisting.store_eq
  have hlacking : added = (s'.board.content.netlist.getOrNew p.net).lacking [pinA, pinB] :=
    hp.pins ▸ hlisting.lacking
  refine ⟨p.line, pinA, pinB, (s'.board.content.netlist.getOrNew p.net).append added,
    hp.anchor1, hp.anchor2, hp.pin1, hp.pin2, ?gains, ?found, ?listed⟩
  case gains =>
    refine ⟨(congrArg Content.layers hcontent :), (congrArg (·.store.parts) hcontent :), ?_,
      fun i => ?_⟩
    · rw [hnext]
      exact Store.get?_nextId hbelow
    · refine (congrArg (·.store.get? i) hcontent :).trans ?_
      exact SortedMap.get?_insert ..
  case found =>
    refine (congrArg (·.netlist.get? p.net) hcontent :).trans ?_
    rw [NetList.get?_update, if_pos rfl]
  case listed =>
    intro pin hpin
    rw [hlacking]
    exact Net.contains_append_lacking hpin

end Session

/-! ## One piece -/

/-- Whether one of the pieces of a net holds what is found for two pins, and no other piece holds
any of it. -/
structure Content.HeldTogether (c : Content α) (e : Extraction) (p q : Pin) (n : Subnet) : Prop where
  mem : n ∈ e.subnets
  first : ∃ x ∈ n.objects, c.store.find? p = some x
  second : ∃ y ∈ n.objects, c.store.find? q = some y
  only : ∀ k ∈ e.subnets, ∀ x ∈ k.objects,
    c.store.find? p = some x ∨ c.store.find? q = some x → k = n

/-- What joins lead to from one another is in one piece. -/
theorem Extraction.exists_heldTogether {settings : Settings α} (hc : Regular c (rules settings))
    {ts : List Terminal} {p q : Pin} {x y : ObjectId} (hp : ∃ t ∈ ts, t.key = p)
    (hq : ∃ t ∈ ts, t.key = q) (hx : c.store.find? p = some x) (hy : c.store.find? q = some y)
    (h : Wired c (rules settings) x y) : ∃ n, c.HeldTogether (ofTerminals settings c ts) p q n := by
  have hparts := partitions_ofTerminals hc ts
  have hlocated {p : Pin} {x : ObjectId} (hp : ∃ t ∈ ts, t.key = p)
      (hx : c.store.find? p = some x) : x ∈ c.store.located ts := by
    obtain ⟨t, ht, rfl⟩ := hp
    exact List.mem_filterMap.2 ⟨t, ht, hx⟩
  have honly {z : ObjectId} (hz : z ∈ c.store.located ts) {k n : Subnet}
      (hk : k ∈ (ofTerminals settings c ts).subnets) (hn : n ∈ (ofTerminals settings c ts).subnets)
      (hzk : z ∈ k.objects) (hzn : z ∈ n.objects) : k = n := by
    obtain ⟨i, rfl⟩ := List.get_of_mem hk
    obtain ⟨j, rfl⟩ := List.get_of_mem hn
    rw [(hparts.unique z hz).unique hzk hzn]
  obtain ⟨n, hn, hxn, hyn⟩ := (hparts.share_iff x (hlocated hp hx) y (hlocated hq hy)).2 h
  refine ⟨n, hn, ⟨x, hxn, hx⟩, ⟨y, hyn, hy⟩, fun k hk z hzk hz => ?_⟩
  rcases hz with hz | hz
  · obtain rfl := Option.some.inj (hz.symm.trans hx)
    exact honly (hlocated hp hx) hk hn hzk hxn
  · obtain rfl := Option.some.inj (hz.symm.trans hy)
    exact honly (hlocated hq hy) hk hn hzk hyn

/-- What is found for a pin is joined to every object that stands for it. -/
theorem Regular.exists_find? (hc : Regular c r) (hparts : c.store.DistinctParts)
    {o : BoardObject α} (ho : o ∈ c.copper) {p : Pin} (hp : c.store.pinOf? o = some p) :
    ∃ x, c.store.find? p = some x ∧ Wired c r x o.id := by
  have hrat := Content.not_isRat_of_isCopper (Content.mem_copper_iff.1 ho).2
  obtain ⟨x, hx⟩ := Store.exists_find? (List.mem_of_mem_filter ho) hrat hp
  obtain ⟨q, hq, rfl, hqrat, hqp⟩ := Store.of_find?_eq_some hx
  have hcopper : q ∈ c.copper :=
    List.mem_filter.2 ⟨hq, hc.pads q hq hqrat (Option.isSome_iff_exists.2 ⟨p, hqp⟩)⟩
  exact ⟨q.id, hx, hc.wired_of_pinOf? hparts hcopper ho hqp hp⟩

namespace Session

variable {host : Host} {settings : Settings α} {interactive : Bool} {s t : Session α}
  {a b : Point α} {m : ManualRat} {l : RatLine α} {pinA pinB : Pin} {net : Net}

/-- The board stays regular, and the net has both terminals in one piece. -/
theorem GainedByHand.heldTogether (h : s.GainedByHand a b m l pinA pinB net t)
    (hc : Regular s.board.content (Extraction.rules settings))
    (hparts : s.board.content.store.DistinctParts) :
    Regular t.board.content (Extraction.rules settings) ∧
      ∃ n, t.board.content.HeldTogether
        (Extraction.ofTerminals settings t.board.content net.terminals) pinA pinB n := by
  have hsource := Content.mem_copper_of_terminalAt? h.anchor1
  have htarget := Content.mem_copper_of_terminalAt? h.anchor2
  have ht := h.gains.regular hc hsource htarget
  have hparts' : t.board.content.store.DistinctParts := by
    rw [Store.DistinctParts, h.gains.parts]
    exact hparts
  refine ⟨ht, ?_⟩
  -- On the new board each anchor is joined to what is found for its pin.
  have hend {id : ObjectId} {p : Pin} (hid : ∃ o ∈ s.board.content.copper, o.id = id)
      (hp : s.board.content.store.terminalOf? id = some p) :
      ∃ o ∈ t.board.content.copper, o.id = id ∧ t.board.content.store.pinOf? o = some p := by
    obtain ⟨o, ho, rfl⟩ := hid
    rw [Store.terminalOf?, hc.grounded.get?_of_copper ho, Option.bind_some] at hp
    exact ⟨o, h.gains.mem_copper_iff.2 ho, rfl, (h.gains.pinOf?_eq o).trans hp⟩
  obtain ⟨o, ho, hoid, hop⟩ := hend hsource h.pin1
  obtain ⟨q, hq, hqid, hqp⟩ := hend htarget h.pin2
  obtain ⟨x, hx, hxo⟩ := ht.exists_find? hparts' ho hop
  obtain ⟨y, hy, hyq⟩ := ht.exists_find? hparts' hq hqp
  have hqy := ht.wired_symm (ht.isNode_of_located (List.mem_filterMap.2
    ⟨.ofPin pinB, List.mem_singleton_self _, hy⟩)) hyq
  rw [hoid] at hxo
  rw [hqid] at hqy
  have hwired := (hxo.trans (h.gains.wired hc rfl hsource)).trans hqy
  have hlisted {pin : Pin} (hpin : pin ∈ [pinA, pinB]) : ∃ t ∈ net.terminals, t.key = pin := by
    obtain ⟨t, ht, hsame⟩ := List.any_eq_true.1 (h.listed pin hpin)
    exact ⟨t, ht, (eq_of_beq hsame).symm⟩
  exact Extraction.exists_heldTogether ht (hlisted List.mem_cons_self)
    (hlisted (List.mem_cons_of_mem _ List.mem_cons_self)) hx hy hwired

end Session

/-! ## Rat lines drawn later -/

/-- The rat line under an id. -/
def Content.ratAt? (c : Content α) (id : ObjectId) : Option (RatLine α) :=
  (c.store.get? id).bind (·.shape.ratLine?)

/-- What is there after drawing was there before, or is one of the rat lines drawn. -/
theorem Store.eq_or_of_get?_addRats {s : Store α} {ls : List (Link α)} {id : ObjectId}
    {o : BoardObject α} (h : (s.addRats ls).get? id = some o) :
    s.get? id = some o ∨ ∃ l ∈ ls, o.shape = .rat l.toRat := by
  induction ls generalizing s with
  | nil => exact .inl h
  | cons l ls ih =>
    rcases ih h with h | ⟨k, hk, hko⟩
    · rw [get?_add] at h
      split at h
      · exact .inr ⟨l, List.mem_cons_self, by rw [← Option.some.inj h]⟩
      · exact .inl h
    · exact .inr ⟨k, List.mem_cons_of_mem l hk, hko⟩

theorem Session.Drew.ratAt?_eq_or {ls : List (Link α)} {id : ObjectId} {l : RatLine α}
    (h : Drew c ls d) (hl : d.ratAt? id = some l) :
    c.ratAt? id = some l ∨ ∃ k ∈ ls, l = k.toRat := by
  obtain ⟨o, ho, hol⟩ := Option.bind_eq_some_iff.1 hl
  have hmarks : (d.store.get? id).map (·.unmarked) =
      ((c.withRats ls).store.get? id).map (·.unmarked) := by
    rw [← Store.get?_unmarked, h.marks, Store.get?_unmarked]
  rw [ho, Option.map_some] at hmarks
  obtain ⟨p, hp, hpo⟩ := Option.map_eq_some_iff.1 hmarks.symm
  have hshape : p.shape = o.shape := (congrArg BoardObject.shape hpo :)
  rcases Store.eq_or_of_get?_addRats hp with hp | ⟨k, hk, hpk⟩
  · exact .inl (Option.bind_eq_some_iff.2 ⟨p, hp, hshape ▸ hol⟩)
  · rw [← hshape, hpk] at hol
    exact .inr ⟨k, hk, (Option.some.inj hol).symm⟩

/-- Whether a rat line leads from one piece of a net to another. -/
def Extraction.Bridged (e : Extraction) (l : RatLine α) : Prop :=
  ∃ i j : Fin e.subnets.length, i ≠ j ∧ l.anchor1 ∈ (e.subnets.get i).objects ∧
    l.anchor2 ∈ (e.subnets.get j).objects

/-- No piece holds both ends of a rat line between pieces. -/
theorem Extraction.Bridged.not_mem {settings : Settings α} (hc : Regular c (rules settings))
    {ts : List Terminal} {l : RatLine α} (h : (ofTerminals settings c ts).Bridged l) {n : Subnet}
    (hn : n ∈ (ofTerminals settings c ts).subnets) :
    ¬(l.anchor1 ∈ n.objects ∧ l.anchor2 ∈ n.objects) := by
  rintro ⟨h₁, h₂⟩
  obtain ⟨i, j, hij, hi, hj⟩ := h
  obtain ⟨k, rfl⟩ := List.get_of_mem hn
  have hpieces := piecesOf hc ts
  exact hij ((eq_of_mem_objects hc hpieces hi h₁).trans (eq_of_mem_objects hc hpieces h₂ hj))

namespace Session

variable {host : Host} {settings : Settings α} {interactive : Bool} {s t : Session α}
  {a b : Point α} {m : ManualRat}

/-- What a connection made by hand has to bring about: the net has both pins in its piece `n`. -/
structure ConnectedByHand [ShownScalar α] (settings : Settings α) (m : ManualRat) (pinA pinB : Pin)
    (t : Session α) (net : Net) (n : Subnet) : Prop where
  found : t.board.content.net m.net = .ok net
  listed : ∀ pin ∈ [pinA, pinB], net.contains (.ofPin pin)
  together : t.board.content.HeldTogether
    (Extraction.ofTerminals settings t.board.content net.terminals) pinA pinB n
  /-- A run over the net draws rat lines between its pieces alone, and so none within `n`. -/
  drawn : ∀ (host : Host) (policy : Policy), ∃ r u,
    t.addRatsForNet host settings policy m.net = .ok (r, u) ∧
      ∀ id l, u.board.content.ratAt? id = some l → t.board.content.ratAt? id = some l ∨
        (Extraction.ofTerminals settings t.board.content net.terminals).Bridged l ∧
          ¬(l.anchor1 ∈ n.objects ∧ l.anchor2 ∈ n.objects)

/-- On a regular board whose parts have reference designators of their own, a connection made by
hand between two points puts the pins under them in one piece of their net. -/
theorem connectByHand_connects [OrderedScalar α] [ShownScalar α]
    (hc : Regular s.board.content (Extraction.rules settings))
    (hbelow : ∀ e ∈ s.board.content.store.objects.entries, e.1 < s.board.content.store.nextId)
    (hparts : s.board.content.store.DistinctParts)
    (h : s.connectByHand host settings interactive a b = .ok (m, t)) :
    ∃ idA idB pinA pinB net n,
      (s.board.content.terminalAt? a = some idA ∧
        s.board.content.store.terminalOf? idA = some pinA) ∧
      (s.board.content.terminalAt? b = some idB ∧
        s.board.content.store.terminalOf? idB = some pinB) ∧
      ConnectedByHand settings m pinA pinB t net n := by
  obtain ⟨line, pinA, pinB, net, hgained⟩ := exists_gainedByHand hbelow h
  obtain ⟨ht, n, htogether⟩ := hgained.heldTogether hc hparts
  have hnet : t.board.content.net m.net = .ok net := by
    have hget : t.board.content.netlist.get? m.net = some net := hgained.found
    rw [Content.net, NetList.find?, hget]
    rfl
  refine ⟨line.anchor1, line.anchor2, pinA, pinB, net, n, ⟨hgained.anchor1, hgained.pin1⟩,
    ⟨hgained.anchor2, hgained.pin2⟩, hnet, hgained.listed, htogether, fun host policy => ?_⟩
  obtain ⟨r, u, hrun, hdone⟩ := t.addRatsForNet_spec settings policy host hnet
  refine ⟨r, u, hrun, fun id l hl => (hdone.drew.ratAt?_eq_or hl).imp_right ?_⟩
  rintro ⟨k, hk, rfl⟩
  obtain ⟨i, j, hlinks⟩ := Extraction.exists_links_of_linksOf hk
  have hbridged : (Extraction.ofTerminals settings t.board.content net.terminals).Bridged
      k.toRat := ⟨i, j, hlinks.ne, hlinks.mem_objects⟩
  exact ⟨hbridged, hbridged.not_mem ht htogether.mem⟩

/-- Two parts, the first of which has two pads far apart for its only pin. -/
def twinPads : Session Float :=
  let c := loosePads.board.content
  ⟨.ofContent { c with
    store := c.store.insert { roundPad 2 50 with part := some (0 : Nat), pin := some "1" } }, []⟩

/-- The user points at the second pad of the pin, where the first one is found for it. -/
theorem connectByHand_connects_twinPads :
    Regular twinPads.board.content (Extraction.rules .standard) ∧
      (∀ e ∈ twinPads.board.content.store.objects.entries,
        e.1 < twinPads.board.content.store.nextId) ∧
      twinPads.board.content.store.DistinctParts ∧
      twinPads.board.content.terminalAt? ⟨50, 0⟩ = some 2 ∧
      twinPads.board.content.store.find? ⟨"A", "1"⟩ = some 0 ∧
      ∃ t, twinPads.connectByHand .silent .standard false ⟨50, 0⟩ ⟨100, 0⟩ =
          .ok (⟨"unnamed_net1", 3, [⟨"A", "1"⟩, ⟨"B", "1"⟩]⟩, t) ∧
        ∃ pinA pinB net n, ConnectedByHand .standard
          ⟨"unnamed_net1", 3, [⟨"A", "1"⟩, ⟨"B", "1"⟩]⟩ pinA pinB t net n := by
  have hc : Regular twinPads.board.content (Extraction.rules .standard) := by decide +kernel
  have hbelow : ∀ e ∈ twinPads.board.content.store.objects.entries,
      e.1 < twinPads.board.content.store.nextId := by decide +kernel
  have hparts : twinPads.board.content.store.DistinctParts := by decide +kernel
  have hresult : (twinPads.connectByHand .silent .standard false ⟨50, 0⟩ ⟨100, 0⟩).toOption.map
      (·.1) = some ⟨"unnamed_net1", 3, [⟨"A", "1"⟩, ⟨"B", "1"⟩]⟩ := by decide +kernel
  refine ⟨hc, hbelow, hparts, by decide +kernel, by decide +kernel, ?_⟩
  cases h : twinPads.connectByHand .silent .standard false ⟨50, 0⟩ ⟨100, 0⟩ with
  | error e =>
    rw [h] at hresult
    cases hresult
  | ok run =>
    obtain ⟨m, t⟩ := run
    rw [h] at hresult
    obtain rfl := Option.some.inj hresult
    obtain ⟨-, -, pinA, pinB, net, n, -, -, hconnected⟩ :=
      connectByHand_connects hc hbelow hparts h
    exact ⟨t, rfl, pinA, pinB, net, n, hconnected⟩

end Session

end Ratsnest
