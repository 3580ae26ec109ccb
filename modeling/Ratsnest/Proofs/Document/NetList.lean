import Ratsnest.Document.NetList
import Ratsnest.Proofs.Json.Record

/-!
# Net lists are read back

A map is read back from its JSON when its keys and its values are.  Every net list is.
-/

namespace Ratsnest

open Json

/-! ## Maps -/

namespace SortedMap

variable {κ ν : Type} [Ord κ]

theorem get?_foldl_insert [Std.TransOrd κ] [Std.LawfulEqOrd κ] [DecidableEq κ] {es : List (κ × ν)}
    (hes : es.Pairwise fun e f => compare e.1 f.1 = .lt) (m : SortedMap κ ν) (k : κ) :
    (es.foldl (fun m e => m.insert e.1 e.2) m).get? k = (lookupEntry k es).or (m.get? k) := by
  induction es generalizing m with
  | nil => rfl
  | cons e es ih =>
    obtain ⟨l, x⟩ := e
    obtain ⟨hl, hes⟩ := List.pairwise_cons.1 hes
    rw [List.foldl_cons, ih hes, get?_insert, lookupEntry]
    obtain rfl | hk := eq_or_ne k l
    · have hnone : lookupEntry k es = none := lookupEntry_eq_none fun e he heq => by
        rw [hl e he] at heq
        cases heq
      simp [hnone]
    · simp [hk]

/-- A map is the map of its entries. -/
theorem ofList_entries [Std.TransOrd κ] [Std.LawfulEqOrd κ] (m : SortedMap κ ν) :
    ofList m.entries = m := by
  classical
  refine ext_get? fun k => ?_
  rw [ofList, get?_foldl_insert m.ascending, get?_empty, Option.or_none, get?]

/-- A map is read back when its keys and values are. -/
theorem reads [Std.TransOrd κ] [Std.LawfulEqOrd κ] {m : SortedMap κ ν}
    {readKey : Quoted → Option κ} {key : κ → String} {read : Json → Option ν} {write : ν → Json}
    (hkey : ∀ k, readKey (.ofString (key k)) = some k)
    (hvalue : ∀ x ∈ m.values, Reads read (write x) x) :
    Reads (SortedMap.ofJson? readKey read) (m.toJson key write) m where
  written := .record fun f hf => by
    obtain ⟨e, he, rfl⟩ := List.mem_map.1 hf
    exact (hvalue e.2 (List.mem_map_of_mem he)).written
  read_eq := by
    rw [SortedMap.ofJson?, SortedMap.toJson, record, toEntries?, List.map_map, List.mapM_map]
    refine (congrArg (Option.map ofList) (mapM_eq_some_map (g := id) fun e he => ?entry)).trans ?map
    case entry => simp [hkey, (hvalue e.2 (List.mem_map_of_mem he)).read_eq]
    case map =>
      rw [List.map_id]
      exact congrArg some m.ofList_entries

theorem eq_empty_of_isEmpty {m : SortedMap κ ν} (h : m.isEmpty) : m = ∅ := by
  obtain ⟨es, hes⟩ := m
  obtain rfl := List.isEmpty_iff.1 h
  rfl

end SortedMap

/-! ## Nets -/

theorem Attributes.reads (a : Attributes) :
    Reads Attributes.ofJson? (a.toJson id ofString) a :=
  SortedMap.reads Quoted.decode?_ofString fun s _ => reads_ofString s

/-- A terminal is read back, whether or not it has attributes. -/
theorem Terminal.reads (t : Terminal) : Reads Terminal.ofJson? t.toJson t := by
  have hrefdes := reads_ofString t.refdes
  have hpin := reads_ofString t.pin
  have hattributes := t.attributes.reads
  cases hempty : t.attributes.isEmpty with
  | true =>
    have hnone := SortedMap.eq_empty_of_isEmpty hempty
    rw [Terminal.toJson, Attributes.toField, if_pos hempty, List.append_nil]
    refine ⟨.record (by simp [hrefdes.written, hpin.written]), ?_⟩
    rw [Terminal.ofJson?, fields?_record (by simp)]
    simp [Fields.required, Fields.defaulted, Fields.get?, List.lookup_cons, hrefdes.read_eq,
      hpin.read_eq, ← hnone]
  | false =>
    rw [Terminal.toJson, Attributes.toField, if_neg (by simp [hempty])]
    refine ⟨.record (by simp [hrefdes.written, hpin.written, hattributes.written]), ?_⟩
    rw [Terminal.ofJson?, fields?_record (by simp)]
    simp [Fields.required, Fields.defaulted, Fields.get?, List.lookup_cons, hrefdes.read_eq,
      hpin.read_eq, hattributes.read_eq]

/-- A net is read back, whether or not it has attributes. -/
theorem Net.reads (n : Net) : Reads Net.ofJson? n.toJson n := by
  have hname := reads_ofString n.name
  have hterminals : Reads (toList? Terminal.ofJson?) (array (n.terminals.map Terminal.toJson))
      n.terminals := reads_list fun t _ => t.reads
  have hattributes := n.attributes.reads
  cases hempty : n.attributes.isEmpty with
  | true =>
    have hnone := SortedMap.eq_empty_of_isEmpty hempty
    rw [Net.toJson, Attributes.toField, if_pos hempty, List.append_nil]
    refine ⟨.record (by simp [hname.written, hterminals.written, Written.bool]), ?_⟩
    rw [Net.ofJson?, fields?_record (by simp)]
    simp [Fields.required, Fields.defaulted, Fields.get?, List.lookup_cons, hname.read_eq,
      hterminals.read_eq, toBool?, ← hnone]
  | false =>
    rw [Net.toJson, Attributes.toField, if_neg (by simp [hempty])]
    refine ⟨.record (by simp [hname.written, hterminals.written, hattributes.written,
      Written.bool]), ?_⟩
    rw [Net.ofJson?, fields?_record (by simp)]
    simp [Fields.required, Fields.defaulted, Fields.get?, List.lookup_cons, hname.read_eq,
      hterminals.read_eq, hattributes.read_eq, toBool?]

/-- A net list is read back. -/
theorem NetList.reads (l : NetList) : Reads NetList.ofJson? l.toJson l := by
  have hnets : Reads (SortedMap.ofJson? Quoted.decode? Net.ofJson?) (l.nets.toJson id Net.toJson)
      l.nets := SortedMap.reads Quoted.decode?_ofString fun n _ => n.reads
  refine ⟨.record (by simpa using hnets.written), ?_⟩
  rw [NetList.ofJson?, NetList.toJson, fields?_record (by simp)]
  simp [Fields.required, Fields.get?, List.lookup_cons, hnets.read_eq]

end Ratsnest
