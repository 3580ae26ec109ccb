import Mathlib.Data.List.Sort
import Mathlib.Data.String.Basic
import Ratsnest.Proofs.NetList.Owners

/-!
# Looking terminals up

A net list that is built from nothing keeps its nets under their own names, and no net lists a pin
twice (`NetList.Orderly.changeAll`).  In such a list all ways to look a terminal up agree
(`NetList.lookups_agree`): the search through the nets, the table of owners, and the pins listed
more than once.
-/

namespace Ratsnest

namespace NetList

variable {l : NetList} {a b : String} {p : Pin} {n : Net} {t : Terminal}

/-! ## Orderly net lists -/

/-- Whether nets are kept under their own names and list each pin once. -/
structure Orderly (l : NetList) : Prop where
  named : l.Named
  nodup : ∀ n ∈ l.toList, (n.terminals.map (·.key)).Nodup

/-- What is expected of the net under a name in an orderly net list. -/
def FitsUnder (name : String) (n : Net) : Prop :=
  n.name = name ∧ (n.terminals.map (·.key)).Nodup

theorem orderly_iff : l.Orderly ↔ ∀ name n, l.get? name = some n → FitsUnder name n := by
  constructor
  · intro h name n hn
    exact ⟨named_iff.1 h.named name n hn, h.nodup n (mem_toList_iff.2 ⟨name, hn⟩)⟩
  · intro h
    refine ⟨named_iff.2 fun name n hn => (h name n hn).1, fun n hn => ?_⟩
    obtain ⟨name, hget⟩ := mem_toList_iff.1 hn
    exact (h name n hget).2

theorem orderly_empty : empty.Orderly := ⟨nofun, nofun⟩

theorem Orderly.getOrNew (h : l.Orderly) (name : String) : FitsUnder name (l.getOrNew name) := by
  rw [NetList.getOrNew]
  cases hget : l.get? name with
  | none => exact ⟨rfl, List.nodup_nil⟩
  | some n => exact orderly_iff.1 h name n hget

theorem Orderly.update (h : l.Orderly) {name : String} {f : Net → Net}
    (hf : FitsUnder name (f (l.getOrNew name))) : (l.update name f).Orderly := by
  refine orderly_iff.2 fun other n hn => ?_
  rw [get?_update] at hn
  split at hn
  · rename_i hother
    exact hother ▸ Option.some.inj hn ▸ hf
  · exact orderly_iff.1 h other n hn

theorem Orderly.modify (h : l.Orderly) {name : String} {f : Net → Net}
    (hf : ∀ n, FitsUnder name n → FitsUnder name (f n)) : (l.modify name f).Orderly := by
  refine orderly_iff.2 fun other n hn => ?_
  rw [get?_modify] at hn
  split at hn
  · rename_i hother
    obtain ⟨o, ho, rfl⟩ := Option.map_eq_some_iff.1 hn
    exact hother ▸ hf o (hother ▸ orderly_iff.1 h other o ho)
  · exact orderly_iff.1 h other n hn

theorem Orderly.remove (h : l.Orderly) (name : String) : (l.remove name).Orderly := by
  refine orderly_iff.2 fun other n hn => ?_
  rw [get?_remove] at hn
  split at hn
  · cases hn
  · exact orderly_iff.1 h other n hn

theorem FitsUnder.add (h : FitsUnder a n) (t : Terminal) : FitsUnder a (n.add t) := by
  rw [Net.add]
  split
  · exact h
  · rename_i hnew
    refine ⟨h.1, ?_⟩
    rw [List.map_append, List.map_singleton, List.nodup_append]
    refine ⟨h.2, List.nodup_singleton _, fun k hk k' hk' heq => hnew ?_⟩
    obtain ⟨u, hu, rfl⟩ := List.mem_map.1 hk
    exact List.any_eq_true.2 ⟨u, hu, beq_iff_eq.2 (heq.trans (List.mem_singleton.1 hk')).symm⟩

theorem FitsUnder.remove (h : FitsUnder a n) (t : Terminal) : FitsUnder a (n.remove t) :=
  ⟨h.1, h.2.sublist (List.eraseP_sublist.map _)⟩

/-! ## Built net lists -/

/-- What can be done to a net list. -/
inductive Change where
  /-- Create a net, unless it exists. -/
  | create (name : String)
  /-- List a terminal on a net, which is created when it does not exist. -/
  | addTerminal (name : String) (t : Terminal)
  /-- Drop a terminal from a net, if it exists. -/
  | removeTerminal (name : String) (t : Terminal)
  /-- Drop a net. -/
  | remove (name : String)
  /-- Drop all nets. -/
  | clear

/-- The net list after a change. -/
def change (l : NetList) : Change → NetList
  | .create name => l.update name id
  | .addTerminal name t => l.addTerminal name t
  | .removeTerminal name t => l.removeTerminal name t
  | .remove name => l.remove name
  | .clear => .empty

/-- The net list after some changes. -/
def changeAll (l : NetList) (cs : List Change) : NetList := cs.foldl change l

theorem Orderly.change (h : l.Orderly) (c : Change) : (l.change c).Orderly := by
  cases c with
  | create name => exact h.update (h.getOrNew name)
  | addTerminal name t => exact h.update (f := (·.add t)) ((h.getOrNew name).add t)
  | removeTerminal name t => exact h.modify fun _ hn => hn.remove t
  | remove name => exact h.remove name
  | clear => exact orderly_empty

theorem Orderly.changeAll (h : l.Orderly) (cs : List Change) : (l.changeAll cs).Orderly := by
  induction cs generalizing l with
  | nil => exact h
  | cons c cs ih => exact ih (h.change c)

/-! ## The first net -/

/-- In an orderly net list the nets are in the order of their names. -/
theorem Orderly.ascending (h : l.Orderly) : (l.toList.map (·.name)).Pairwise (· < ·) := by
  rw [toList, SortedMap.values, List.map_map]
  refine List.pairwise_map.2 (l.nets.ascending.imp_of_mem fun {e f} he hf hlt => ?_)
  rw [Function.comp_apply, Function.comp_apply, h.named e he, h.named f hf]
  exact compare_lt_iff_lt.1 hlt

theorem contains_iff : n.contains t ↔ ∃ u ∈ n.terminals, u.key = t.key :=
  List.any_eq_true.trans (exists_congr fun _ => and_congr_right' (beq_iff_eq.trans eq_comm))

/-- A terminal is found on the first net, in name order, that lists it. -/
theorem Orderly.netOf?_eq_some_iff (h : l.Orderly) :
    l.netOf? t = some a ↔ l.Lists a t.key ∧ ∀ b, l.Lists b t.key → a ≤ b := by
  have hleast (a : String) (ha : l.netOf? t = some a) (b : String) (hb : l.Lists b t.key) :
      a ≤ b := by
    obtain ⟨n, hn, rfl⟩ := Option.map_eq_some_iff.1 ha
    obtain ⟨-, before, after, hsplit, hbefore⟩ := List.find?_eq_some_iff_append.1 hn
    obtain ⟨m, hm, rfl, hlists⟩ := hb
    have hascending := h.ascending
    rw [hsplit, List.map_append, List.map_cons, List.pairwise_append] at hascending
    rw [hsplit, List.mem_append, List.mem_cons] at hm
    rcases hm with hm | rfl | hm
    · have hnot := hbefore m hm
      rw [Bool.not_eq_true', ← Bool.not_eq_true] at hnot
      exact absurd (contains_iff.2 hlists) hnot
    · exact le_rfl
    · exact (List.rel_of_pairwise_cons hascending.2.1 (List.mem_map_of_mem hm)).le
  constructor
  · intro ha
    exact ⟨lists_of_netOf? ha, hleast a ha⟩
  · rintro ⟨hlists, hle⟩
    obtain ⟨b, hb⟩ := exists_netOf? hlists
    rw [hb, le_antisymm (hleast b hb a hlists) (hle b (lists_of_netOf? hb))]

/-- The table of owners tells the net on which a terminal is found. -/
theorem map_get?_owners (l : NetList) (t : Terminal) :
    (l.owners.get? t.key).map (·.2) = l.netOf? t := by
  rw [get?_owners, listings, netOf?]
  induction l.toList with
  | nil => rfl
  | cons n ns ih =>
    rw [List.flatMap_cons, List.find?_append, List.find?_cons, List.find?_map]
    cases hn : n.contains t with
    | true =>
      obtain ⟨u, hu, hkey⟩ := contains_iff.1 hn
      obtain ⟨v, hv⟩ : ∃ v, n.terminals.find? (fun u => u.key == t.key) = some v :=
        Option.isSome_iff_exists.1 (List.find?_isSome.2 ⟨u, hu, beq_iff_eq.2 hkey⟩)
      rw [Function.comp_def, hv]
      rfl
    | false =>
      have hnone : n.terminals.find? (fun u => u.key == t.key) = none := by
        refine List.find?_eq_none.2 fun u hu hkey => ?_
        rw [← Bool.not_eq_true, contains_iff] at hn
        exact hn ⟨u, hu, beq_iff_eq.1 hkey⟩
      rw [Function.comp_def, hnone]
      exact ih

/-! ## Pins listed more than once -/

/-- Every listed pin with its first listing and the names of the nets that list it. -/
def listed (l : NetList) : SortedMap Pin (Terminal × List String) :=
  l.listings.foldl (fun m e =>
    let (t, names) := (m.get? e.1.key).getD (e.1, [])
    m.insert e.1.key (t, names ++ [e.2])) ∅

theorem duplicates_eq (l : NetList) :
    l.duplicates = l.listed.values.filter fun e => 1 < e.2.length := rfl

/-- What filling the table does to the entry of one pin. -/
def enter (x : Option (Terminal × List String)) (e : Terminal × String) :
    Option (Terminal × List String) :=
  let (t, names) := x.getD (e.1, [])
  some (t, names ++ [e.2])

/-- The entry of a pin depends on the listings of that pin alone. -/
theorem get?_foldl_enter (es : List (Terminal × String))
    (m : SortedMap Pin (Terminal × List String)) (p : Pin) :
    (es.foldl (fun m e =>
      let (t, names) := (m.get? e.1.key).getD (e.1, [])
      m.insert e.1.key (t, names ++ [e.2])) m).get? p =
      (es.filter fun e => e.1.key == p).foldl enter (m.get? p) := by
  induction es generalizing m with
  | nil => rfl
  | cons e es ih =>
    rw [List.foldl_cons, ih, SortedMap.get?_insert, List.filter_cons]
    by_cases hp : e.1.key = p
    · subst hp
      rw [if_pos rfl, if_pos (beq_self_eq_true _), List.foldl_cons]
      rfl
    · rw [if_neg (Ne.symm hp), if_neg (by rwa [beq_iff_eq])]

theorem foldl_enter_some (t : Terminal) (names : List String) (es : List (Terminal × String)) :
    es.foldl enter (some (t, names)) = some (t, names ++ es.map (·.2)) := by
  induction es generalizing names with
  | nil => rw [List.foldl_nil, List.map_nil, List.append_nil]
  | cons e es ih =>
    rw [List.foldl_cons, List.map_cons, List.append_cons]
    exact ih (names ++ [e.2])

/-- The names of the nets that list a pin, one for each listing. -/
def namesOf (l : NetList) (p : Pin) : List String :=
  (l.listings.filter fun e => e.1.key == p).map (·.2)

theorem mem_namesOf_iff : a ∈ l.namesOf p ↔ l.Lists a p := by
  rw [lists_iff, namesOf, List.mem_map]
  simp only [List.mem_filter, beq_iff_eq, and_assoc]

theorem get?_listed (l : NetList) (p : Pin) : l.listed.get? p =
    (l.listings.find? fun e => e.1.key == p).map fun e => (e.1, l.namesOf p) := by
  rw [listed, get?_foldl_enter, ← List.head?_filter, namesOf]
  cases l.listings.filter fun e => e.1.key == p with
  | nil => rfl
  | cons e es => exact foldl_enter_some e.1 [e.2] es

theorem Orderly.namesOf_sublist (h : l.Orderly) (p : Pin) :
    List.Sublist (l.namesOf p) (l.toList.map (·.name)) := by
  have hnets := h.nodup
  rw [namesOf, listings]
  generalize l.toList = ns at hnets
  induction ns with
  | nil => exact .slnil
  | cons n ns ih =>
    rw [List.forall_mem_cons] at hnets
    -- Of the listings of one net one is left at most.
    have hcount : (n.terminals.filter fun t => t.key == p).length ≤ 1 := by
      have hle := List.nodup_iff_count_le_one.1 hnets.1 p
      rwa [List.count, List.countP_map, List.countP_eq_length_filter] at hle
    have hone : List.Sublist (((n.terminals.map (·, n.name)).filter fun e => e.1.key == p).map
        (·.2)) [n.name] := by
      rw [List.filter_map, List.map_map]
      change List.Sublist ((n.terminals.filter fun t => t.key == p).map fun _ => n.name) _
      rw [List.map_const']
      exact (List.replicate_sublist_replicate (n := 1) n.name).2 hcount
    rw [List.flatMap_cons, List.filter_append, List.map_append, List.map_cons]
    exact hone.append (ih hnets.2)

/-- The nets that list a pin come in the order of their names. -/
theorem Orderly.namesOf_ascending (h : l.Orderly) (p : Pin) :
    (l.namesOf p).Pairwise (· < ·) :=
  h.ascending.sublist (h.namesOf_sublist p)

/-- The entry of a pin starts with a listing of that pin. -/
theorem key_of_get?_listed {e : Terminal × List String} (h : l.listed.get? p = some e) :
    e.1.key = p := by
  rw [get?_listed] at h
  obtain ⟨f, hf, rfl⟩ := Option.map_eq_some_iff.1 h
  have hkey := List.find?_some hf
  exact eq_of_beq hkey

theorem mem_duplicates_iff {names : List String} :
    (∃ t, t.key = p ∧ (t, names) ∈ l.duplicates) ↔ names = l.namesOf p ∧ 1 < names.length := by
  simp only [duplicates_eq, List.mem_filter, decide_eq_true_iff, SortedMap.mem_values_iff]
  constructor
  · rintro ⟨t, rfl, ⟨q, hq⟩, hlength⟩
    obtain rfl := key_of_get?_listed hq
    rw [get?_listed] at hq
    obtain ⟨e, -, he⟩ := Option.map_eq_some_iff.1 hq
    exact ⟨(congrArg Prod.snd he).symm, hlength⟩
  · rintro ⟨rfl, hlength⟩
    obtain ⟨e, he⟩ : ∃ e, (l.listings.find? fun e => e.1.key == p) = some e := by
      obtain ⟨a, ha⟩ := List.exists_mem_of_length_pos (Nat.zero_lt_of_lt hlength)
      obtain ⟨e, he, hkey, -⟩ := lists_iff.1 (mem_namesOf_iff.1 ha)
      exact Option.isSome_iff_exists.1 (List.find?_isSome.2 ⟨e, he, beq_iff_eq.2 hkey⟩)
    have hget : l.listed.get? p = some (e.1, l.namesOf p) := by rw [get?_listed, he]; rfl
    exact ⟨e.1, key_of_get?_listed hget, ⟨p, hget⟩, hlength⟩

/-- The duplicates come in the order of their pins. -/
theorem duplicates_ascending (l : NetList) :
    (l.duplicates.map (·.1.key)).Pairwise fun p q => compare p q = .lt := by
  have hkeys : (l.listed.values.map (·.1.key)).Pairwise fun p q => compare p q = .lt := by
    rw [SortedMap.values, List.map_map]
    refine List.pairwise_map.2 (l.listed.ascending.imp_of_mem fun {e f} he hf hlt => ?_)
    rwa [Function.comp_apply, Function.comp_apply,
      key_of_get?_listed (SortedMap.mem_entries_iff.1 he),
      key_of_get?_listed (SortedMap.mem_entries_iff.1 hf)]
  rw [duplicates_eq]
  exact hkeys.sublist (List.filter_sublist.map _)

/-- Without duplicates no two nets list the same pin. -/
theorem unshared_of_duplicates (h : l.duplicates = []) : l.Unshared := by
  refine unshared_iff.2 fun a b p ha hb => ?_
  rw [← mem_namesOf_iff] at ha hb
  by_contra hne
  have hlength : 1 < (l.namesOf p).length := by
    rcases hnames : l.namesOf p with _ | ⟨c, _ | ⟨d, names⟩⟩
    · rw [hnames] at ha
      cases ha
    · rw [hnames, List.mem_singleton] at ha hb
      exact absurd (ha.trans hb.symm) hne
    · exact Nat.one_lt_succ_succ _
  obtain ⟨t, -, ht⟩ := mem_duplicates_iff.2 ⟨rfl, hlength⟩
  rw [h] at ht
  cases ht

/-! ## Terminals dropped -/

theorem key_ne_of_mem_eraseP {u : Terminal} {ts : List Terminal} (h : (ts.map (·.key)).Nodup)
    (hu : u ∈ ts.eraseP t.same) : u.key ≠ t.key := by
  induction ts with
  | nil => cases hu
  | cons v ts ih =>
    rw [List.map_cons, List.nodup_cons] at h
    rw [List.eraseP_cons] at hu
    cases hv : t.same v with
    | true =>
      rw [hv, cond_true] at hu
      have hkey : t.key = v.key := eq_of_beq hv
      exact fun hu' => h.1 (hu'.trans hkey ▸ List.mem_map_of_mem hu)
    | false =>
      rw [hv, cond_false, List.mem_cons] at hu
      rcases hu with rfl | hu
      · exact fun hkey => Bool.false_ne_true (hv.symm.trans (beq_iff_eq.2 hkey.symm))
      · exact ih h.2 hu

/-- A terminal that is listed on one net alone is listed on none when it is dropped from there. -/
theorem Orderly.not_lists_removeTerminal (h : l.Orderly) (hunshared : l.Unshared)
    (ha : l.Lists a t.key) (b : String) : ¬(l.removeTerminal a t).Lists b t.key := by
  rintro ⟨n, hn, -, u, hu, hkey⟩
  obtain ⟨name, hget⟩ := mem_toList_iff.1 hn
  rw [removeTerminal, get?_modify] at hget
  split at hget
  · obtain ⟨o, ho, rfl⟩ := Option.map_eq_some_iff.1 hget
    exact key_ne_of_mem_eraseP (orderly_iff.1 h name o ho).2 hu hkey
  · rename_i hname
    have hlists : l.Lists name t.key :=
      ⟨n, mem_toList_iff.2 ⟨name, hget⟩, (orderly_iff.1 h name n hget).1, u, hu, hkey⟩
    exact hname (hunshared.eq_of_lists hlists ha)

/-! ## All ways to look up -/

/-- How the ways to look terminals up in a net list agree. -/
structure LookupsAgree (l : NetList) : Prop where
  /-- No net lists a pin twice. -/
  nodup : ∀ n ∈ l.toList, (n.terminals.map (·.key)).Nodup
  /-- The table of owners tells the net that is found by searching. -/
  owner : ∀ t : Terminal, (l.owners.get? t.key).map (·.2) = l.netOf? t
  /-- That is the first net, in name order, that lists the terminal. -/
  first : ∀ (t : Terminal) (a : String),
    l.netOf? t = some a ↔ l.Lists a t.key ∧ ∀ b, l.Lists b t.key → a ≤ b
  /-- The duplicates are in the order of their pins. -/
  ascending : (l.duplicates.map (·.1.key)).Pairwise fun p q => compare p q = .lt
  /-- They are the pins listed by at least two nets, with just these nets in name order. -/
  duplicate : ∀ (p : Pin) (names : List String),
    (∃ t, t.key = p ∧ (t, names) ∈ l.duplicates) ↔
      names.Pairwise (· < ·) ∧ (∀ a, a ∈ names ↔ l.Lists a p) ∧ 2 ≤ names.length
  /-- When there are none, a terminal that is dropped from its net is not found in any way. -/
  forgotten : l.duplicates = [] → ∀ (t : Terminal) (a : String), l.netOf? t = some a →
    (l.removeTerminal a t).netOf? t = none ∧
      (l.removeTerminal a t).owners.get? t.key = none ∧
      ∀ e ∈ (l.removeTerminal a t).duplicates, e.1.key ≠ t.key

/-- In a net list that is built from nothing all ways to look a terminal up agree. -/
theorem lookups_agree (cs : List Change) : (empty.changeAll cs).LookupsAgree := by
  have h := orderly_empty.changeAll cs
  generalize empty.changeAll cs = l at h
  refine ⟨h.nodup, l.map_get?_owners, fun _ _ => h.netOf?_eq_some_iff, l.duplicates_ascending,
    fun p names => ?duplicate, fun hnone t a ha => ?forgotten⟩
  case duplicate =>
    rw [mem_duplicates_iff]
    constructor
    · rintro ⟨rfl, hlength⟩
      exact ⟨h.namesOf_ascending p, fun _ => mem_namesOf_iff, hlength⟩
    · rintro ⟨hascending, hmem, hlength⟩
      exact ⟨hascending.eq_of_mem_iff (h.namesOf_ascending p) fun a =>
        (hmem a).trans mem_namesOf_iff.symm, hlength⟩
  case forgotten =>
    have hnot := h.not_lists_removeTerminal (unshared_of_duplicates hnone) (lists_of_netOf? ha)
    have hfound : (l.removeTerminal a t).netOf? t = none :=
      Option.eq_none_iff_forall_ne_some.2 fun b hb => hnot b (lists_of_netOf? hb)
    refine ⟨hfound, ?_, ?_⟩
    · exact Option.map_eq_none_iff.1 ((map_get?_owners _ t).trans hfound)
    · rintro ⟨u, names⟩ hu hkey
      obtain ⟨rfl, hlength⟩ := mem_duplicates_iff.1 ⟨u, hkey, hu⟩
      obtain ⟨b, hb⟩ := List.exists_mem_of_length_pos (Nat.zero_lt_of_lt hlength)
      exact hnot b (mem_namesOf_iff.1 hb)

/-- A pin that two nets list with different attributes. -/
example :
    let l := empty.changeAll [.addTerminal "GND" ⟨"U1", "7", ∅⟩, .create "VCC",
      .addTerminal "AGND" ⟨"U1", "7", .ofList [("note", "x")]⟩]
    l.netOf? ⟨"U1", "7", ∅⟩ = some "AGND" ∧
      l.duplicates.map (·.2) = [["AGND", "GND"]] := by decide +kernel

end NetList

end Ratsnest
