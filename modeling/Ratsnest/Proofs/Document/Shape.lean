import Ratsnest.Document.Shape
import Ratsnest.Proofs.Json.Record

/-!
# Shapes and settings are read back

A shape is read back from its JSON as soon as each of its numbers is, and so are settings.
-/

namespace Ratsnest

open Json

variable {α : Type}

/-! ## Numbers -/

def Point.numbers (p : Point α) : List α := [p.x, p.y]

def Trace.numbers (t : Trace α) : List α :=
  t.segment.a.numbers ++ t.segment.b.numbers ++ [t.thickness, t.clearance]

def ArcTrace.numbers (t : ArcTrace α) : List α :=
  t.arc.center.numbers ++ [t.arc.radius, t.arc.startAngle, t.arc.sweep, t.thickness, t.clearance]

def Polygon.numbers (p : Polygon α) : List α := p.outline.flatMap Point.numbers

def PadShape.numbers : PadShape α → List α
  | circle r => [r]
  | rect w h => [w, h]

def Padstack.numbers (p : Padstack α) : List α :=
  p.center.numbers ++ p.shape.numbers ++ [p.clearance]

def RatLine.numbers (r : RatLine α) : List α := r.p1.numbers ++ r.p2.numbers

/-- The numbers that a shape is given by. -/
def Shape.numbers : Shape α → List α
  | line t => t.numbers
  | arc t => t.numbers
  | polygon p => p.numbers
  | padstack p => p.numbers
  | rat r => r.numbers

/-! ## Reading back -/

section Reading

variable [JsonScalar α]

/-- A scalar is read back from the value written for it. -/
abbrev Exact (x : α) : Prop := Reads JsonScalar.ofJson? (JsonScalar.toJson x) x

theorem Point.reads {p : Point α} (h : ∀ x ∈ p.numbers, Exact x) :
    Reads Point.ofJson? p.toJson p := by
  simp only [Point.numbers, List.forall_mem_cons] at h
  obtain ⟨hx, hy, -⟩ := h
  refine ⟨.record ?_, ?_⟩
  · simp [hx.written, hy.written]
  · rw [Point.ofJson?, Point.toJson, fields?_record (by simp)]
    simp [Fields.required, Fields.get?, List.lookup_cons, hx.read_eq, hy.read_eq]

theorem Trace.reads {t : Trace α} (h : ∀ x ∈ t.numbers, Exact x) :
    Reads Trace.ofJson? t.toJson t := by
  simp only [Trace.numbers, List.forall_mem_append, List.forall_mem_cons] at h
  obtain ⟨⟨ha, hb⟩, hthickness, hclearance, -⟩ := h
  have ha := Point.reads ha
  have hb := Point.reads hb
  have hlayer := reads_uint32 t.layer
  refine ⟨.record ?_, ?_⟩
  · simp [LayerId.toJson, ha.written, hb.written, hthickness.written, hclearance.written,
      hlayer.written]
  · rw [Trace.ofJson?, Trace.toJson, fields?_record (by simp)]
    simp [Fields.required, Fields.get?, List.lookup_cons, LayerId.toJson, ha.read_eq, hb.read_eq,
      hthickness.read_eq, hclearance.read_eq, hlayer.read_eq]

theorem ArcTrace.reads {t : ArcTrace α} (h : ∀ x ∈ t.numbers, Exact x) :
    Reads ArcTrace.ofJson? t.toJson t := by
  simp only [ArcTrace.numbers, List.forall_mem_append, List.forall_mem_cons] at h
  obtain ⟨hcenter, hradius, hstart, hsweep, hthickness, hclearance, -⟩ := h
  have hcenter := Point.reads hcenter
  have hlayer := reads_uint32 t.layer
  refine ⟨.record ?_, ?_⟩
  · simp [LayerId.toJson, hcenter.written, hradius.written, hstart.written, hsweep.written,
      hthickness.written, hclearance.written, hlayer.written]
  · rw [ArcTrace.ofJson?, ArcTrace.toJson, fields?_record (by simp)]
    simp [Fields.required, Fields.get?, List.lookup_cons, LayerId.toJson, hcenter.read_eq,
      hradius.read_eq, hstart.read_eq, hsweep.read_eq, hthickness.read_eq, hclearance.read_eq,
      hlayer.read_eq]

theorem Polygon.reads {p : Polygon α} (h : ∀ x ∈ p.numbers, Exact x) :
    Reads Polygon.ofJson? p.toJson p := by
  have hlayer := reads_uint32 p.layer
  have hpoints : Reads (toList? Point.ofJson?) (array (p.outline.map Point.toJson)) p.outline :=
    reads_list fun q hq => Point.reads fun x hx => h x (List.mem_flatMap.2 ⟨q, hq, hx⟩)
  refine ⟨.record ?_, ?_⟩
  · simp [LayerId.toJson, hlayer.written, hpoints.written, Written.bool]
  · rw [Polygon.ofJson?, Polygon.toJson, fields?_record (by simp)]
    simp [Fields.required, Fields.get?, List.lookup_cons, LayerId.toJson, hlayer.read_eq,
      hpoints.read_eq, toBool?]

theorem PadShape.reads {p : PadShape α} (h : ∀ x ∈ p.numbers, Exact x) :
    Reads PadShape.ofJson? p.toJson p := by
  cases p with
  | circle r =>
    have hr : Exact r := h r List.mem_cons_self
    refine ⟨.variant _ (.record (by simp [hr.written])), ?_⟩
    rw [PadShape.ofJson?, PadShape.toJson, variant?_variant]
    simp [fields?_record, Fields.required, Fields.get?, hr.read_eq]
  | rect w ht =>
    simp only [PadShape.numbers, List.forall_mem_cons] at h
    obtain ⟨hw, hht, -⟩ := h
    refine ⟨.variant _ (.record (by simp [hw.written, hht.written])), ?_⟩
    rw [PadShape.ofJson?, PadShape.toJson, variant?_variant]
    simp [fields?_record, Fields.required, Fields.get?, List.lookup_cons, hw.read_eq, hht.read_eq]

theorem reads_layers (ls : List LayerId) :
    Reads (toList? toUInt32?) (array (ls.map LayerId.toJson)) ls :=
  reads_list fun l _ => reads_uint32 l

theorem Padstack.reads {p : Padstack α} (h : ∀ x ∈ p.numbers, Exact x) :
    Reads Padstack.ofJson? p.toJson p := by
  simp only [Padstack.numbers, List.forall_mem_append, List.forall_mem_cons] at h
  obtain ⟨⟨hcenter, hshape⟩, hclearance, -⟩ := h
  have hcenter := Point.reads hcenter
  have hshape := PadShape.reads hshape
  have hlayers := reads_layers p.layers
  have hthermals := reads_layers p.thermals
  refine ⟨.record ?_, ?_⟩
  · simp [hcenter.written, hshape.written, hclearance.written, hlayers.written,
      hthermals.written]
  · rw [Padstack.ofJson?, Padstack.toJson, fields?_record (by simp)]
    simp [Fields.required, Fields.get?, List.lookup_cons, hcenter.read_eq, hshape.read_eq,
      hclearance.read_eq, hlayers.read_eq, hthermals.read_eq]

theorem RatLine.reads {r : RatLine α} (h : ∀ x ∈ r.numbers, Exact x) :
    Reads RatLine.ofJson? r.toJson r := by
  simp only [RatLine.numbers, List.forall_mem_append] at h
  have h1 := Point.reads h.1
  have h2 := Point.reads h.2
  have hlayer1 := reads_uint32 r.layer1
  have hlayer2 := reads_uint32 r.layer2
  have hanchor1 := reads_uint64 r.anchor1
  have hanchor2 := reads_uint64 r.anchor2
  refine ⟨.record ?_, ?_⟩
  · simp [LayerId.toJson, ObjectId.toJson, h1.written, h2.written, hlayer1.written,
      hlayer2.written, hanchor1.written, hanchor2.written, Written.bool]
  · rw [RatLine.ofJson?, RatLine.toJson, fields?_record (by simp)]
    simp [Fields.required, Fields.get?, List.lookup_cons, LayerId.toJson, ObjectId.toJson, h1.read_eq,
      h2.read_eq, hlayer1.read_eq, hlayer2.read_eq, hanchor1.read_eq, hanchor2.read_eq, toBool?]

/-- A shape is read back when its numbers are. -/
theorem Shape.reads {s : Shape α} (h : ∀ x ∈ s.numbers, Exact x) :
    Reads Shape.ofJson? s.toJson s := by
  cases s with
  | line t =>
    have ht := Trace.reads h
    exact ⟨.variant _ ht.written, by simp [ofJson?, toJson, variant?_variant, ht.read_eq]⟩
  | arc t =>
    have ht := ArcTrace.reads h
    exact ⟨.variant _ ht.written, by simp [ofJson?, toJson, variant?_variant, ht.read_eq]⟩
  | polygon p =>
    have hp := Polygon.reads h
    exact ⟨.variant _ hp.written, by simp [ofJson?, toJson, variant?_variant, hp.read_eq]⟩
  | padstack p =>
    have hp := Padstack.reads h
    exact ⟨.variant _ hp.written, by simp [ofJson?, toJson, variant?_variant, hp.read_eq]⟩
  | rat r =>
    have hr := RatLine.reads h
    exact ⟨.variant _ hr.written, by simp [ofJson?, toJson, variant?_variant, hr.read_eq]⟩

/-! ## Settings -/

theorem Policy.reads (p : Policy) : Reads Policy.ofJson? p.toJson p := by
  refine ⟨.record (by simp [Written.bool]), ?_⟩
  rw [Policy.ofJson?, Policy.toJson, fields?_record (by simp)]
  simp [Fields.defaulted, Fields.get?, List.lookup_cons, toBool?]

/-- Settings are read back when their one number is. -/
theorem Settings.reads [Scalar α] {s : Settings α} (h : Exact s.bloat) :
    Reads Settings.ofJson? s.toJson s := by
  have hmax := reads_uint64 s.maxSubnets
  have hprefix := reads_ofString s.netPrefix
  have hpolicy := Policy.reads s.policy
  refine ⟨.record ?_, ?_⟩
  · simp [h.written, hmax.written, hprefix.written, hpolicy.written, Written.bool]
  · rw [Settings.ofJson?, Settings.toJson, fields?_record (by simp)]
    simp [Fields.defaulted, Fields.get?, List.lookup_cons, h.read_eq, hmax.read_eq, hprefix.read_eq,
      hpolicy.read_eq, toBool?]

end Reading

end Ratsnest
