import Ratsnest.Proofs.Crawl.Contact
import Ratsnest.Proofs.Synthesis.Idempotent

/-!
# Routed nets

No rat line is drawn for a net whose copper is joined by contacts, as long as the object found for
each terminal is copper (`Session.addRatsForNet_routed`).  An object of another layer that is found
first is a piece of the net of its own.
-/

namespace Ratsnest

variable {α : Type}

/-- Whether the object under an id is copper that stands for a pin. -/
def Content.Carries (c : Content α) (p : Pin) (x : ObjectId) : Prop :=
  ∃ o, c.store.get? x = some o ∧ c.isCopper o ∧ c.store.pinOf? o = some p

/-- Terminals that are on the board, and whose copper is joined by contacts. -/
structure Content.Routed [AngularScalar α] (c : Content α) (r : JoinRules α)
    (ts : List Terminal) : Prop where
  /-- Copper stands for each of them. -/
  carried : ∀ t ∈ ts, ∃ x, c.Carries t.key x
  /-- Contacts lead from all copper that stands for them to all other. -/
  joined : ∀ t ∈ ts, ∀ u ∈ ts, ∀ x y, c.Carries t.key x → c.Carries u.key y → Contact c r x y

/-- Whether the object found for each terminal is copper. -/
def Content.FindsCopper (c : Content α) (ts : List Terminal) : Prop :=
  ∀ t ∈ ts, ∀ x, c.store.find? t.key = some x → c.Carries t.key x

instance (c : Content α) (p : Pin) (x : ObjectId) : Decidable (c.Carries p x) :=
  decidable_of_iff ((c.store.get? x).any fun o => c.isCopper o && c.store.pinOf? o == some p) <| by
    simp [Content.Carries, Option.any_eq_true]

instance (c : Content α) (ts : List Terminal) : Decidable (c.FindsCopper ts) :=
  decidable_of_iff (∀ t ∈ ts, (c.store.find? t.key).all fun x => c.Carries t.key x) <| by
    simp only [Content.FindsCopper, Option.all_eq_true, decide_eq_true_eq]

variable {c : Content α} {p : Pin} {x : ObjectId} {ts : List Terminal}

theorem Content.Carries.contains (h : c.Carries p x) : c.store.contains x := by
  obtain ⟨o, ho, -⟩ := h
  exact Store.contains_of_get? ho

/-- An object is found for a pin that copper stands for. -/
theorem Content.Carries.exists_find? (h : c.Carries p x) : ∃ y, c.store.find? p = some y := by
  obtain ⟨o, ho, hcopper, hpin⟩ := h
  cases hfind : c.store.find? p with
  | some y => exact ⟨y, rfl⟩
  | none =>
    rw [Store.find?, Option.map_eq_none_iff, List.find?_eq_none] at hfind
    refine absurd ?_ (hfind o (Store.mem_toList_iff.2 ⟨x, ho⟩))
    rw [Content.not_isRat_of_isCopper hcopper, hpin]
    simp

variable [AngularScalar α] {r : JoinRules α} {settings : Settings α}

/-- Terminals are routed if a crawl that does not follow rat lines finds all copper for them from
each piece of it. -/
theorem Content.routed_of_crawls
    (carried : ∀ t ∈ ts, ∃ e ∈ c.store.objects.entries, c.Carries t.key e.1)
    (joined : ∀ t ∈ ts, ∀ u ∈ ts, ∀ e ∈ c.store.objects.entries, ∀ f ∈ c.store.objects.entries,
      c.Carries t.key e.1 → c.Carries u.key f.1 → f.1 ∈ objectsOf
        ((ConnectionIndex.ofContent c).crawl r.withoutRats c.store [] e.1)) : c.Routed r ts := by
  have hentry {p : Pin} {x : ObjectId} (h : c.Carries p x) :
      ∃ e ∈ c.store.objects.entries, e.1 = x := by
    obtain ⟨o, ho, -⟩ := h
    exact ⟨(x, o), SortedMap.mem_entries_iff.2 ho, rfl⟩
  constructor
  · intro t ht
    obtain ⟨e, -, he⟩ := carried t ht
    exact ⟨e.1, he⟩
  · intro t ht u hu x y hx hy
    obtain ⟨e, he, rfl⟩ := hentry hx
    obtain ⟨f, hf, rfl⟩ := hentry hy
    exact wired_of_mem_crawl (joined t ht u hu e he f hf hx hy)

namespace Extraction

/-- Terminals whose objects have been visited add nothing. -/
theorem run_of_visited {i : ConnectionIndex α} {s : Store α} {visited : List ObjectId}
    (h : ∀ t ∈ ts, ∃ x ∈ visited, s.find? t.key = some x) : run i r s visited ts = {} := by
  induction ts with
  | nil => rfl
  | cons t ts ih =>
    obtain ⟨x, hx, ht⟩ := h t List.mem_cons_self
    simp only [run, ht, if_pos (List.contains_iff_mem.2 hx)]
    exact ih fun u hu => h u (List.mem_cons_of_mem t hu)

/-- A routed net is in one piece. -/
theorem ofTerminals_of_routed (hts : ts ≠ []) (h : c.Routed (rules settings) ts)
    (hfinds : c.FindsCopper ts) :
    (ofTerminals settings c ts).subnets.length = 1 ∧ (ofTerminals settings c ts).missing = 0 := by
  cases ts with
  | nil => exact absurd rfl hts
  | cons t ts =>
    have hfind (u : Terminal) (hu : u ∈ t :: ts) :
        ∃ y, c.store.find? u.key = some y ∧ c.Carries u.key y := by
      obtain ⟨x, hx⟩ := h.carried u hu
      obtain ⟨y, hy⟩ := hx.exists_find?
      exact ⟨y, hy, hfinds u hu y hy⟩
    obtain ⟨seed, hseed, hcarries⟩ := hfind t List.mem_cons_self
    -- The first crawl visits the objects of all terminals.
    have hrest : run (.ofContent c) (rules settings) c.store (objectsOf
        ((ConnectionIndex.ofContent c).crawl (rules settings) c.store [] seed)) ts = {} := by
      refine run_of_visited fun u hu => ?_
      obtain ⟨y, hy, hcarries'⟩ := hfind u (List.mem_cons_of_mem t hu)
      have hjoined := h.joined t List.mem_cons_self u (List.mem_cons_of_mem t hu) seed y hcarries
        hcarries'
      exact ⟨y, mem_crawl_of_wired hjoined.wired hcarries.contains hcarries'.contains, hy⟩
    rw [objectsOf] at hrest
    simp [ofTerminals, run, hseed, hrest]

end Extraction

namespace Session

variable [ShownScalar α]

/-- A run over a routed net finds it in one piece, draws nothing and misses nothing. -/
theorem addRatsForNet_routed (host : Host) (policy : Policy) {s : Session α} {name : String}
    {m : Net} (hm : s.board.content.net name = .ok m) (hterminals : m.terminals ≠ [])
    (h : s.board.content.Routed (Extraction.rules settings) m.terminals)
    (hfinds : s.board.content.FindsCopper m.terminals) :
    ∃ r t, s.addRatsForNet host settings policy name = .ok (r, t) ∧
      r.subnets = 1 ∧ r.drawn = 0 ∧ r.missing = 0 ∧
      t.board.content.store.unmarked = s.board.content.store.unmarked := by
  obtain ⟨r, t, hrun, hnet⟩ := s.addRatsForNet_spec settings policy host hm
  obtain ⟨hlength, hmissing⟩ := Extraction.ofTerminals_of_routed hterminals h hfinds
  have hlinks : Extraction.linksOf settings policy s.board.content.store
      (Extraction.ofTerminals settings s.board.content m.terminals).subnets = [] := by
    rw [Extraction.linksOf, if_neg (by omega)]
  have hmarks := hnet.drew.marks
  have hdrawn := hnet.drawn
  have hsubnets := hnet.subnets
  rw [hlinks] at hmarks hdrawn
  refine ⟨r, t, hrun, hsubnets.trans hlength, hdrawn, ?_, hmarks⟩
  rw [hnet.missing, hmissing, hdrawn, hsubnets, hlength]
  rfl

/-- A net with two touching copper pads, one for each of its terminals, and a silk pad for the
second terminal. -/
def silkPad (id : ObjectId) : Session Float :=
  let pad (id : ObjectId) (x : Float) (layer : LayerId) (part : Nat) : BoardObject Float :=
    { id, shape := .padstack ⟨⟨x, 0⟩, .circle 5, [layer], 0, []⟩, part := some part,
      pin := some "1" }
  let parts : Store Float := (Store.empty.addPart ⟨(0 : Nat), "A"⟩).addPart ⟨(1 : Nat), "B"⟩
  ⟨.ofContent { (Content.empty (0 : Nat) "pads" : Content Float) with
    layers := LayerStack.twoLayer.push ⟨7, "silk", .silk⟩
    store := ((parts.insert (pad 0 0 0 0)).insert (pad 2 4 0 1)).insert (pad id 4 7 1)
    netlist := (NetList.empty.addTerminal "N" ⟨"A", "1", ∅⟩).addTerminal "N" ⟨"B", "1", ∅⟩ }, []⟩

/-- With the silk pad after the copper pads, nothing is drawn. -/
theorem addRatsForNet_routed_silkPad :
    ∃ m, (silkPad 3).board.content.net "N" = .ok m ∧ m.terminals ≠ [] ∧
      (silkPad 3).board.content.Routed (Extraction.rules .standard) m.terminals ∧
      (silkPad 3).board.content.FindsCopper m.terminals ∧
      ∃ r t, (silkPad 3).addRatsForNet .silent .standard .precise "N" = .ok (r, t) ∧
        r.subnets = 1 ∧ r.drawn = 0 ∧ r.missing = 0 ∧
        t.board.content.store.unmarked = (silkPad 3).board.content.store.unmarked := by
  have hm : (silkPad 3).board.content.net "N" =
      .ok ⟨"N", [⟨"A", "1", ∅⟩, ⟨"B", "1", ∅⟩], false, ∅⟩ := by decide +kernel
  have hrouted : (silkPad 3).board.content.Routed (Extraction.rules .standard)
      [⟨"A", "1", ∅⟩, ⟨"B", "1", ∅⟩] :=
    Content.routed_of_crawls (by decide +kernel) (by decide +kernel)
  have hfinds : (silkPad 3).board.content.FindsCopper [⟨"A", "1", ∅⟩, ⟨"B", "1", ∅⟩] := by
    decide +kernel
  have hterminals : [(⟨"A", "1", ∅⟩ : Terminal), ⟨"B", "1", ∅⟩] ≠ [] := List.cons_ne_nil _ _
  exact ⟨_, hm, hterminals, hrouted, hfinds,
    addRatsForNet_routed .silent .precise hm hterminals hrouted hfinds⟩

/-- With the silk pad before the copper pad of its terminal, a rat line is drawn to it. -/
theorem addRatsForNet_draws_to_silk :
    (silkPad 1).board.content.net "N" =
        .ok ⟨"N", [⟨"A", "1", ∅⟩, ⟨"B", "1", ∅⟩], false, ∅⟩ ∧
      (silkPad 1).board.content.Routed (Extraction.rules .standard)
        [⟨"A", "1", ∅⟩, ⟨"B", "1", ∅⟩] ∧
      ((silkPad 1).addRatsForNet .silent .standard .precise "N").toOption.map (·.1) =
        some ⟨1, 0, 0, 2⟩ :=
  ⟨by decide +kernel, Content.routed_of_crawls (by decide +kernel) (by decide +kernel),
    by decide +kernel⟩

end Session

end Ratsnest
