import Ratsnest.NetList.Lookup
import Ratsnest.Proofs.Store

/-!
# Which nets list a pin

The table of owners holds, for every listed pin, its first listing (`NetList.get?_owners`).  Where
no two nets list the same pin it tells the one net that does (`NetList.Unshared.owners_iff`).  That
stays so when a pin is listed on a net that is the only one to list it
(`NetList.Unshared.addTerminal`).
-/

namespace Ratsnest

namespace NetList

variable {l : NetList} {a b : String} {p : Pin}

/-- Whether a net of the given name lists a pin. -/
def Lists (l : NetList) (name : String) (p : Pin) : Prop :=
  ∃ n ∈ l.toList, n.name = name ∧ ∃ t ∈ n.terminals, t.key = p

instance (l : NetList) (name : String) (p : Pin) : Decidable (l.Lists name p) :=
  inferInstanceAs (Decidable (∃ n ∈ l.toList, n.name = name ∧ ∃ t ∈ n.terminals, t.key = p))

theorem lists_iff : l.Lists a p ↔ ∃ e ∈ l.listings, e.1.key = p ∧ e.2 = a := by
  simp only [listings, List.mem_flatMap, List.mem_map]
  constructor
  · rintro ⟨n, hn, rfl, t, ht, rfl⟩
    exact ⟨(t, n.name), ⟨n, hn, t, ht, rfl⟩, rfl, rfl⟩
  · rintro ⟨e, ⟨n, hn, t, ht, rfl⟩, rfl, rfl⟩
    exact ⟨n, hn, rfl, t, ht, rfl⟩

/-- Whether no two nets of different names list the same pin. -/
def Unshared (l : NetList) : Prop :=
  ∀ e ∈ l.listings, ∀ f ∈ l.listings, e.1.key = f.1.key → e.2 = f.2

instance (l : NetList) : Decidable l.Unshared :=
  inferInstanceAs
    (Decidable (∀ e ∈ l.listings, ∀ f ∈ l.listings, e.1.key = f.1.key → e.2 = f.2))

theorem Unshared.eq_of_lists (h : l.Unshared) (ha : l.Lists a p) (hb : l.Lists b p) : a = b := by
  obtain ⟨e, he, rfl, rfl⟩ := lists_iff.1 ha
  obtain ⟨f, hf, hkey, rfl⟩ := lists_iff.1 hb
  exact h e he f hf hkey.symm

/-- Filling a table keeps what is in it and adds the first listing of every other pin. -/
theorem get?_foldl_listings (es : List (Terminal × String))
    (m : SortedMap Pin (Terminal × String)) (p : Pin) :
    (es.foldl (fun m e => if m.contains e.1.key then m else m.insert e.1.key e) m).get? p =
      (m.get? p).or (es.find? fun e => e.1.key == p) := by
  induction es generalizing m with
  | nil => rw [List.foldl_nil, List.find?_nil, Option.or_none]
  | cons e es ih =>
    rw [List.foldl_cons, ih, List.find?_cons]
    by_cases hp : e.1.key = p
    · subst hp
      rw [beq_self_eq_true]
      cases hm : m.get? e.1.key with
      | some first => rw [SortedMap.contains, hm, Option.isSome_some, if_pos rfl, hm]; rfl
      | none =>
        rw [SortedMap.contains, hm, Option.isSome_none, if_neg Bool.false_ne_true,
          SortedMap.get?_insert, if_pos rfl]
        rfl
    · rw [beq_eq_false_iff_ne.2 hp]
      split
      · rfl
      · rw [SortedMap.get?_insert, if_neg (Ne.symm hp)]

/-- The owner of a pin is the net of its first listing. -/
theorem get?_owners (l : NetList) (p : Pin) :
    l.owners.get? p = l.listings.find? fun e => e.1.key == p :=
  (get?_foldl_listings l.listings ∅ p).trans Option.none_or

/-- The owner of a pin is a net that lists it. -/
theorem lists_of_get?_owners {e : Terminal × String} (h : l.owners.get? p = some e) :
    l.Lists e.2 p := by
  rw [get?_owners] at h
  have hkey := List.find?_some h
  exact lists_iff.2 ⟨e, List.mem_of_find?_eq_some h, eq_of_beq hkey, rfl⟩

/-- The one net that lists a pin is its owner. -/
theorem Unshared.owners_iff (h : l.Unshared) :
    (l.owners.get? p).map (·.2) = some a ↔ l.Lists a p := by
  constructor
  · intro ha
    obtain ⟨e, he, rfl⟩ := Option.map_eq_some_iff.1 ha
    exact lists_of_get?_owners he
  · intro ha
    obtain ⟨e, he, hkey, -⟩ := lists_iff.1 ha
    cases hfind : l.owners.get? p with
    | none =>
      rw [get?_owners, List.find?_eq_none] at hfind
      exact absurd (beq_iff_eq.2 hkey) (hfind e he)
    | some first =>
      rw [Option.map_some, h.eq_of_lists (lists_of_get?_owners hfind) ha]

/-- The net found for a terminal lists its pin. -/
theorem lists_of_netOf? {t : Terminal} (h : l.netOf? t = some a) : l.Lists a t.key := by
  obtain ⟨n, hn, rfl⟩ := Option.map_eq_some_iff.1 h
  have hcontains := List.find?_some hn
  obtain ⟨u, hu, hsame⟩ := List.any_eq_true.1 hcontains
  exact ⟨n, List.mem_of_find?_eq_some hn, rfl, u, hu, (eq_of_beq hsame).symm⟩

/-- A net is found for a terminal whose pin is listed. -/
theorem exists_netOf? {t : Terminal} (h : l.Lists a t.key) : ∃ b, l.netOf? t = some b := by
  obtain ⟨n, hn, -, u, hu, hkey⟩ := h
  have hcontains : n.contains t := List.any_eq_true.2 ⟨u, hu, beq_iff_eq.2 hkey.symm⟩
  cases hfind : l.toList.find? (·.contains t) with
  | none => exact absurd hcontains (List.find?_eq_none.1 hfind n hn)
  | some m => exact ⟨m.name, by rw [netOf?, hfind, Option.map_some]⟩

/-- The net found for a terminal is the only one that lists its pin. -/
theorem Unshared.eq_of_netOf? (h : l.Unshared) {t : Terminal}
    (ht : ∀ a, l.netOf? t = some a → a = b) (ha : l.Lists a t.key) : a = b := by
  obtain ⟨m, hm⟩ := exists_netOf? ha
  exact (h.eq_of_lists ha (lists_of_netOf? hm)).trans (ht m hm)

/-! ## More listings -/

/-- Whether nets are kept under their own names. -/
def Named (l : NetList) : Prop := ∀ e ∈ l.nets.entries, e.2.name = e.1

instance (l : NetList) : Decidable l.Named := List.decidableBAll _ _

theorem named_iff : l.Named ↔ ∀ name n, l.get? name = some n → n.name = name :=
  ⟨fun h name n hn => h (name, n) (SortedMap.mem_entries_iff.2 hn),
    fun h e he => h e.1 e.2 (SortedMap.mem_entries_iff.1 he)⟩

theorem mem_toList_iff {n : Net} : n ∈ l.toList ↔ ∃ name, l.get? name = some n :=
  SortedMap.mem_values_iff

theorem Named.getOrNew_name (h : l.Named) (name : String) : (l.getOrNew name).name = name := by
  rw [getOrNew]
  cases hget : l.get? name with
  | none => rfl
  | some n => exact named_iff.1 h name n hget

theorem Named.addTerminal (h : l.Named) (name : String) (t : Terminal) :
    (l.addTerminal name t).Named := by
  refine named_iff.2 fun other n hn => ?_
  rw [NetList.addTerminal, get?_update] at hn
  split at hn
  · rename_i hother
    obtain rfl := Option.some.inj hn
    have hadd (m : Net) : (m.add t).name = m.name := by
      rw [Net.add]
      split <;> rfl
    rw [hadd, h.getOrNew_name, hother]
  · exact named_iff.1 h other n hn

/-- A pin listed after a terminal is added was listed before, or is that of the terminal. -/
theorem Named.lists_of_addTerminal (h : l.Named) {t : Terminal}
    (hl : (l.addTerminal b t).Lists a p) : l.Lists a p ∨ a = b ∧ p = t.key := by
  have hname := h.addTerminal b t
  obtain ⟨n, hn, rfl, u, hu, rfl⟩ := hl
  obtain ⟨name, hget⟩ := mem_toList_iff.1 hn
  obtain rfl := named_iff.1 hname name n hget
  rw [NetList.addTerminal, get?_update] at hget
  split at hget
  · rename_i hb
    have hadd : u ∈ (l.getOrNew b).terminals ∨ u = t := by
      rw [← Option.some.inj hget, Net.add] at hu
      split at hu
      · exact .inl hu
      · simpa using hu
    rcases hadd with hold | rfl
    · refine .inl ?_
      rw [getOrNew] at hold
      cases hm : l.get? b with
      | none =>
        rw [hm] at hold
        cases hold
      | some m =>
        rw [hm] at hold
        exact ⟨m, mem_toList_iff.2 ⟨b, hm⟩, (named_iff.1 h b m hm).trans hb.symm, u, hold, rfl⟩
    · exact .inr ⟨hb, rfl⟩
  · exact .inl ⟨n, mem_toList_iff.2 ⟨_, hget⟩, rfl, u, hu, rfl⟩

theorem unshared_iff : l.Unshared ↔ ∀ a b p, l.Lists a p → l.Lists b p → a = b :=
  ⟨fun h _ _ _ ha hb => h.eq_of_lists ha hb, fun h e he f hf hkey =>
    h e.2 f.2 e.1.key (lists_iff.2 ⟨e, he, rfl, rfl⟩) (lists_iff.2 ⟨f, hf, hkey.symm, rfl⟩)⟩

/-- No pin comes to be shared when it is listed on the only net that lists it, if any does. -/
theorem Unshared.addTerminal (h : l.Unshared) (hn : l.Named) {t : Terminal}
    (ht : ∀ other, l.Lists other t.key → other = b) : (l.addTerminal b t).Unshared := by
  refine unshared_iff.2 fun x y p hx hy => ?_
  rcases hn.lists_of_addTerminal hx with hx' | ⟨hx', rfl⟩
  · rcases hn.lists_of_addTerminal hy with hy' | ⟨hy', rfl⟩
    · exact h.eq_of_lists hx' hy'
    · exact (ht x hx').trans hy'.symm
  · rcases hn.lists_of_addTerminal hy with hy' | ⟨hy', -⟩
    · exact hx'.trans (ht y hy').symm
    · exact hx'.trans hy'.symm

end NetList

end Ratsnest
