import Mathlib.Data.Sym.Sym2
import Ratsnest.Proofs.NetList.Owners
import Ratsnest.Proofs.Short

/-!
# Short circuits that the host hears of

A watch offers a short circuit to the host when the name of the pair of nets is new to it.  So each
name is offered once, for one of the pairs that have it (`ShortWatch.Told`).  Two pairs can have
the same name when nets have dashes in theirs.
-/

namespace Ratsnest

universe u

/-! ## Calls -/

namespace HostCall

/-- The short circuit that a call offers. -/
def notice? : HostCall → Option ShortNotice
  | short n => some n
  | message _ _ | shortsChanged | connected _ _ | askName _ => none

/-- The short circuits that calls offer, in order. -/
def notices (calls : List HostCall) : List ShortNotice := calls.filterMap notice?

@[simp] theorem notices_nil : notices [] = [] := rfl

@[simp] theorem notices_append (calls more : List HostCall) :
    notices (calls ++ more) = notices calls ++ notices more := List.filterMap_append

@[simp] theorem notices_message (level : MessageLevel) (text : String) (calls : List HostCall) :
    notices (.message level text :: calls) = notices calls := rfl

@[simp] theorem notices_short (n : ShortNotice) (calls : List HostCall) :
    notices (.short n :: calls) = n :: notices calls := rfl

@[simp] theorem notices_shortsChanged (calls : List HostCall) :
    notices (.shortsChanged :: calls) = notices calls := rfl

end HostCall

open HostCall

/-! ## Names of pairs -/

theorem pairName_comm (a b : String) : pairName a b = pairName b a := by
  rw [pairName, pairName]
  by_cases hab : a ≤ b
  · rw [if_pos hab]
    by_cases hba : b ≤ a
    · obtain rfl := String.le_antisymm hab hba
      rw [if_pos hba]
    · rw [if_neg hba]
  · rw [if_neg hab, if_pos ((String.le_total a b).resolve_left hab)]

/-- Two pairs of nets can have the same name. -/
example : pairName "a-b" "c" = pairName "a" "b-c" ∧ s("a-b", "c") ≠ s("a", "b-c") := by decide

namespace ShortNotice

/-- The two nets, whichever was crawled. -/
def pair (n : ShortNotice) : Sym2 String := s(n.net, n.offenderNet)

/-- The name of the two nets. -/
def name (n : ShortNotice) : String := pairName n.net n.offenderNet

/-- The name depends on the pair alone. -/
theorem name_eq {n : ShortNotice} {a b : String} (h : n.pair = s(a, b)) :
    n.name = pairName a b := by
  rcases Sym2.eq_iff.1 h with ⟨ha, hb⟩ | ⟨ha, hb⟩
  · rw [name, ha, hb]
  · rw [name, ha, hb, pairName_comm]

end ShortNotice

/-! ## Telling the host -/

namespace ShortWatch

variable {α : Type u}

/-- The notice of a discovered object that stands for a pin of another net. -/
def noticeOf? (w : ShortWatch) (s : Store α) (d : Discovery) : Option ShortNotice :=
  (w.offense? s d).map fun o => ⟨w.net, o.2, d.object, d.arrivedFrom⟩

/-- What a watch has told the host, apart from the notices in `before`: of those in `found` it has
offered one for each name of a pair. -/
structure Told (before : List ShortNotice) (found : ShortNotice → Prop) (w : ShortWatch)
    (calls : List HostCall) : Prop where
  told : ∃ new, notices calls = before ++ new ∧ w.reported = (new.map (·.name)).reverse ∧
    ∀ n ∈ new, found n
  nodup : w.reported.Nodup
  reported : ∀ n, found n → n.name ∈ w.reported

variable {before : List ShortNotice} {found found' : ShortNotice → Prop} {w : ShortWatch}
  {calls calls' : List HostCall} {n : ShortNotice}

/-- A watch that has just been started has told nothing. -/
theorem told_start (net : String) (l : NetList) (calls : List HostCall) :
    Told (notices calls) (fun _ => False) (start net l) calls :=
  ⟨⟨[], (List.append_nil _).symm, rfl, nofun⟩, List.nodup_nil, nofun⟩

theorem Told.congr (h : Told before found w calls) (hfound : ∀ n, found n ↔ found' n) :
    Told before found' w calls := by
  obtain rfl : found = found' := funext fun n => propext (hfound n)
  exact h

theorem Told.setNet (h : Told before found w calls) (net : String) :
    Told before found (w.setNet net) calls := ⟨h.told, h.nodup, h.reported⟩

/-- Only the notices among the calls count. -/
theorem Told.of_notices (h : Told before found w calls) (hcalls : notices calls' = notices calls) :
    Told before found w calls' := by
  obtain ⟨new, hnew, hrest⟩ := h.told
  exact ⟨⟨new, hcalls.trans hnew, hrest⟩, h.nodup, h.reported⟩

/-- A notice of a pair whose name has been reported adds nothing. -/
theorem Told.known (h : Told before found w calls) (hn : n.name ∈ w.reported) :
    Told before (fun m => found m ∨ m = n) w calls := by
  obtain ⟨new, hcalls, hreported, hfound⟩ := h.told
  refine ⟨⟨new, hcalls, hreported, fun m hm => .inl (hfound m hm)⟩, h.nodup, ?_⟩
  rintro m (hm | rfl)
  · exact h.reported m hm
  · exact hn

/-- A notice of a pair whose name is new is told. -/
theorem Told.tell (h : Told before found w calls) (hn : n.name ∉ w.reported) (text : String)
    (pending : List ObjectId) :
    Told before (fun m => found m ∨ m = n) { w with reported := n.name :: w.reported, pending }
      (calls ++ [.message .warning text] ++ [.short n]) := by
  obtain ⟨new, hcalls, hreported, hfound⟩ := h.told
  refine ⟨⟨new ++ [n], ?_, ?_, ?_⟩, List.nodup_cons.2 ⟨hn, h.nodup⟩, ?_⟩
  · simp [hcalls]
  · simp [hreported]
  · intro m hm
    rcases List.mem_append.1 hm with hm | hm
    · exact .inl (hfound m hm)
    · exact .inr (List.mem_singleton.1 hm)
  · rintro m (hm | rfl)
    · exact List.mem_cons_of_mem _ (h.reported m hm)
    · exact List.mem_cons_self

theorem Told.check (h : Told before found w calls) (host : Host) (s : Store α) (d : Discovery) :
    Told before (fun n => found n ∨ w.noticeOf? s d = some n)
      (w.check host s calls d).1 (w.check host s calls d).2 := by
  rw [ShortWatch.check, noticeOf?]
  cases w.offense? s d with
  | none => exact h.congr fun n => by simp
  | some o =>
    obtain ⟨pin, net⟩ := o
    have hfound (n : ShortNotice) : found n ∨ n = ⟨w.net, net, d.object, d.arrivedFrom⟩ ↔
        found n ∨ some (⟨w.net, net, d.object, d.arrivedFrom⟩ : ShortNotice) = some n := by
      rw [Option.some.injEq, eq_comm]
    dsimp only [Option.map_some]
    split
    · rename_i hmem
      exact (h.known (n := ⟨w.net, net, d.object, d.arrivedFrom⟩)
        (List.contains_iff_mem.1 hmem)).congr hfound
    · rename_i hmem
      exact (h.tell (n := ⟨w.net, net, d.object, d.arrivedFrom⟩)
        (fun hn => hmem (List.contains_iff_mem.2 hn)) _ _).congr hfound

/-- Looking at discoveries tells the host of the notices that they give. -/
theorem Told.checkAll (h : Told before found w calls) (host : Host) (s : Store α)
    (ds : List Discovery) :
    Told before (fun n => found n ∨ ∃ d ∈ ds, w.noticeOf? s d = some n)
      (w.checkAll host s calls ds).1 (w.checkAll host s calls ds).2 ∧
      (w.checkAll host s calls ds).1.owners = w.owners := by
  rw [ShortWatch.checkAll]
  induction ds generalizing w calls found with
  | nil => exact ⟨h.congr fun n => by simp, rfl⟩
  | cons d ds ih =>
    obtain ⟨hnet, howners⟩ := w.check_frame host s calls d
    obtain ⟨htold, hrest⟩ := ih (h.check host s d)
    have hnotice (e : Discovery) :
        (w.check host s calls d).1.noticeOf? s e = w.noticeOf? s e := by
      simp only [noticeOf?, offense?, hnet, howners]
    refine ⟨htold.congr fun n => ?_, hrest.trans howners⟩
    simp only [hnotice, List.mem_cons, exists_eq_or_imp]
    exact or_assoc

end ShortWatch

/-! ## Every pair once -/

/-- What the host has to hear of the pairs of nets that are shorted. -/
structure ReportsOnce (shorted : String → String → Prop) (new : List ShortNotice) : Prop where
  /-- No pair is reported twice. -/
  atMostOnce : ∀ a b, (new.map (·.pair)).count s(a, b) ≤ 1
  /-- No other pair is reported. -/
  never : ∀ a b, ¬shorted a b → (new.map (·.pair)).count s(a, b) = 0
  /-- A pair with a name of its own is reported. -/
  once : ∀ a b, shorted a b →
    (∀ c d, shorted c d → pairName c d = pairName a b → s(c, d) = s(a, b)) →
    (new.map (·.pair)).count s(a, b) = 1
  /-- Of the pairs with one name one is reported. -/
  oneOfName : ∀ a b, shorted a b → ∃! n, n ∈ new ∧ n.name = pairName a b

/-- A watch tells the host of every pair once, but for pairs with the same name. -/
theorem ShortWatch.Told.reportsOnce {before : List ShortNotice} {found : ShortNotice → Prop}
    {w : ShortWatch} {calls : List HostCall} (h : Told before found w calls) :
    ∃ new, notices calls = before ++ new ∧
      ReportsOnce (fun a b => ∃ n, found n ∧ n.pair = s(a, b)) new := by
  obtain ⟨new, hcalls, hreported, hfound⟩ := h.told
  have hnames : (new.map (·.name)).Nodup := by
    have hnodup := h.nodup
    rwa [hreported, List.nodup_reverse] at hnodup
  have hpairs : (new.map (·.pair)).Nodup := List.pairwise_map.2 <|
    (List.pairwise_map.1 hnames).imp fun hne heq => hne (ShortNotice.name_eq heq)
  have hmem (a b : String) (hab : ∃ n, found n ∧ n.pair = s(a, b)) :
      ∃ n ∈ new, n.name = pairName a b := by
    obtain ⟨n, hn, hpair⟩ := hab
    have hname := h.reported n hn
    rw [hreported, List.mem_reverse, ShortNotice.name_eq hpair] at hname
    exact List.mem_map.1 hname
  refine ⟨new, hcalls, fun a b => List.nodup_iff_count_le_one.1 hpairs _, fun a b hab => ?_,
    fun a b hab hown => ?_, fun a b hab => ?_⟩
  · refine List.count_eq_zero.2 fun hpair => hab ?_
    obtain ⟨n, hn, hpair⟩ := List.mem_map.1 hpair
    exact ⟨n, hfound n hn, hpair⟩
  · obtain ⟨n, hn, hname⟩ := hmem a b hab
    have hpair : n.pair = s(a, b) := hown n.net n.offenderNet ⟨n, hfound n hn, rfl⟩ hname
    exact List.count_eq_one_of_mem hpairs (List.mem_map.2 ⟨n, hn, hpair⟩)
  · obtain ⟨n, hn, hname⟩ := hmem a b hab
    refine ⟨n, ⟨hn, hname⟩, fun m ⟨hm, hname'⟩ => ?_⟩
    exact List.inj_on_of_nodup_map hnames hm hn (hname'.trans hname.symm)

end Ratsnest
