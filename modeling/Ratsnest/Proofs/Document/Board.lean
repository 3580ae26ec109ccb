import Ratsnest.Proofs.Document.Key
import Ratsnest.Proofs.Document.NetList
import Ratsnest.Proofs.Document.Shape
import Ratsnest.Scalar.Float

/-!
# Boards and settings are read back from their texts

The text of a board is read back as the same content without history, and the text of settings as
the same settings, when the text of each of their numbers is read back as that number.
-/

namespace Ratsnest

open Json

variable {α : Type}

/-! ## Layers -/

theorem LayerKind.ofJson?_name (k : LayerKind) : ofJson? (ofString k.name) = some k := by
  rw [ofJson?, variant?_ofString]
  cases k <;> rfl

theorem Layer.reads (l : Layer) : Reads Layer.ofJson? l.toJson l := by
  have hid := reads_uint32 l.id
  have hname := reads_ofString l.name
  have hkind := LayerKind.ofJson?_name l.kind
  refine ⟨.record ?_, ?_⟩
  · simp [LayerId.toJson, hid.written, hname.written, Written.ofString]
  · rw [Layer.ofJson?, Layer.toJson, fields?_record (by simp)]
    simp [Fields.required, Fields.get?, List.lookup_cons, LayerId.toJson, hid.read_eq, hname.read_eq,
      hkind]

theorem LayerStack.reads (s : LayerStack) : Reads LayerStack.ofJson? s.toJson s := by
  have hlayers : Reads (toList? Layer.ofJson?) (array (s.layers.map Layer.toJson)) s.layers :=
    reads_list fun l _ => l.reads
  refine ⟨.record (by simpa using hlayers.written), ?_⟩
  rw [LayerStack.ofJson?, LayerStack.toJson, fields?_record (by simp)]
  simp [Fields.required, Fields.get?, List.lookup_cons, hlayers.read_eq]

/-! ## Stores -/

/-- The numbers that the objects of a store are given by. -/
def Store.numbers (s : Store α) : List α := s.toList.flatMap (·.shape.numbers)

section Reading

variable [JsonScalar α]

theorem Flags.reads (f : Flags) : Reads Flags.ofJson? (.ofNat f.bits.toNat) f :=
  ⟨.ofNat _, congrArg (Option.map Flags.mk) (reads_uint32 f.bits).read_eq⟩

theorem Part.reads (p : Part) : Reads Part.ofJson? p.toJson p := by
  have hid := Uuid.reads p.id
  have hrefdes := reads_ofString p.refdes
  refine ⟨.record ?_, ?_⟩
  · simp [hid.written, hrefdes.written]
  · rw [Part.ofJson?, Part.toJson, fields?_record (by simp)]
    simp [Fields.required, Fields.get?, List.lookup_cons, hid.read_eq, hrefdes.read_eq]

/-- An object is read back when the numbers of its shape are. -/
theorem BoardObject.reads {o : BoardObject α} (h : ∀ x ∈ o.shape.numbers, Exact x) :
    Reads BoardObject.ofJson? o.toJson o := by
  have hid := reads_uint64 o.id
  have hshape := Shape.reads h
  have hpart : (ofOption Uuid.toJson o.part).Written := .ofOption fun u _ => (Uuid.reads u).written
  have hpin : (ofOption ofString o.pin).Written := .ofOption fun s _ => .ofString s
  have hflags := Flags.reads o.flags
  refine ⟨.record ?_, ?_⟩
  · simp [ObjectId.toJson, hid.written, hshape.written, hpart, hpin, hflags.written]
  · rw [BoardObject.ofJson?, BoardObject.toJson, fields?_record (by simp)]
    simp only [Option.bind_eq_bind, Option.bind_some]
    rw [Fields.required_of_get? (by rfl) hid, Fields.required_of_get? (by rfl) hshape,
      Fields.nullable_of_get? (by rfl) (by rfl) fun u _ => Uuid.reads u,
      Fields.nullable_of_get? (by rfl) (by rfl) fun s _ => reads_ofString s,
      Fields.defaulted_of_get? (by rfl) hflags]
    rfl

/-- A store is read back when the numbers of its objects are. -/
theorem Store.reads {s : Store α} (h : ∀ x ∈ s.numbers, Exact x) :
    Reads Store.ofJson? s.toJson s := by
  have hobjects : Reads (SortedMap.ofJson? ObjectId.ofKey? BoardObject.ofJson?)
      (s.objects.toJson ObjectId.key BoardObject.toJson) s.objects :=
    SortedMap.reads ObjectId.ofKey?_key fun o ho =>
      BoardObject.reads fun x hx => h x (List.mem_flatMap.2 ⟨o, ho, hx⟩)
  have hparts : Reads (SortedMap.ofJson? (fun q => q.decode?.bind Uuid.ofText?) Part.ofJson?)
      (s.parts.toJson Uuid.text Part.toJson) s.parts :=
    SortedMap.reads (fun u => by rw [Quoted.decode?_ofString]; exact Uuid.ofText?_eq_some u)
      fun p _ => p.reads
  have hnext := reads_uint64 s.nextId
  refine ⟨.record ?_, ?_⟩
  · simp [hobjects.written, hparts.written, hnext.written]
  · rw [Store.ofJson?, Store.toJson, fields?_record (by simp)]
    simp [Fields.required, Fields.get?, List.lookup_cons, hobjects.read_eq, hparts.read_eq,
      hnext.read_eq]

/-- The content of a board is read back when its numbers are. -/
theorem Content.reads {c : Content α} (h : ∀ x ∈ c.store.numbers, Exact x) :
    Reads Content.ofJson? c.toJson c := by
  have hid := Uuid.reads c.id
  have hname := reads_ofString c.name
  have hlayers := c.layers.reads
  have hstore := Store.reads h
  have hnetlist := c.netlist.reads
  refine ⟨.record ?_, ?_⟩
  · simp [hid.written, hname.written, hlayers.written, hstore.written, hnetlist.written,
      Written.bool]
  · rw [Content.ofJson?, Content.toJson, fields?_record (by simp)]
    simp [Fields.required, Fields.defaulted, Fields.get?, List.lookup_cons, hid.read_eq,
      hname.read_eq, hlayers.read_eq, hstore.read_eq, hnetlist.read_eq, toBool?]

/-- A board is read back from its text, without its history, when its numbers are. -/
theorem Board.ofText?_text_of_exact {b : Board α} (h : ∀ x ∈ b.content.store.numbers, Exact x) :
    Board.ofText? b.text = some (.ofContent b.content) := by
  have hc := Content.reads h
  rw [Board.ofText?, Board.text, parse?_pretty hc.written, Option.bind_some, hc.read_eq,
    Option.map_some]

/-- Settings are read back from their text when their one number is. -/
theorem Settings.ofText?_text_of_exact [Scalar α] {s : Settings α} (h : Exact s.bloat) :
    Settings.ofText? s.text = some s := by
  have hs := Settings.reads h
  rw [Settings.ofText?, Settings.text, parse?_pretty hs.written, Option.bind_some, hs.read_eq]

end Reading

/-! ## Floating-point numbers -/

/-- The text printed for a number is read as that number. -/
def Legible (x : Float) : Prop := (parse? (Decimal.exactText x)).bind toFloat? = some x

instance (x : Float) : Decidable (Legible x) := inferInstanceAs (Decidable (_ = _))

/-- A finite number with a legible text is read back from its JSON. -/
theorem Legible.exact {x : Float} (hfinite : x.isFinite) (h : Legible x) : Exact x where
  written := .ofFloat x
  read_eq := by
    have hpretty : Decimal.exactText x = (ofFloat x).pretty := by
      rw [Decimal.exactText, if_pos hfinite, ofFloat, if_pos hfinite]
      rfl
    rwa [Legible, hpretty, parse?_pretty (.ofFloat x)] at h

/-- A board is read back from its text, without its history, when its numbers are legible. -/
theorem Board.ofText?_text_of_legible {b : Board Float}
    (h : ∀ x ∈ b.content.store.numbers, x.isFinite ∧ Legible x) :
    Board.ofText? b.text = some (.ofContent b.content) :=
  Board.ofText?_text_of_exact fun x hx => (h x hx).2.exact (h x hx).1

/-- A board whose numbers are finite and have legible texts is read back from its text without
its history, and settings whose bloat is such are read back from theirs. -/
theorem ofText?_text :
    (∀ b : Board Float, (∀ x ∈ b.content.store.numbers, x.isFinite) →
      (∀ x ∈ b.content.store.numbers, x.isFinite → Legible x) →
        Board.ofText? b.text = some (.ofContent b.content)) ∧
    ∀ s : Settings Float, s.bloat.isFinite → (s.bloat.isFinite → Legible s.bloat) →
      Settings.ofText? s.text = some s := by
  refine ⟨fun b hfinite hlegible => ?_, fun s hfinite hlegible => ?_⟩
  · exact Board.ofText?_text_of_legible fun x hx => ⟨hfinite x hx, hlegible x hx (hfinite x hx)⟩
  · exact Settings.ofText?_text_of_exact ((hlegible hfinite).exact hfinite)

/-- A board with a shape of each kind, an object under a key other than its id, text that has to
be escaped, and a history. -/
def crowdedBoard : Board Float :=
  let content : Content Float :=
    { id := 0x0123456789abcdef0123456789abcdef
      name := "tab\tbell\x07é"
      layers := .twoLayer
      store :=
        { objects := .ofList
            [(7, { id := 3, shape := .line ⟨0, ⟨⟨0, 0⟩, ⟨12.5, -3⟩⟩, 1, 0.25⟩, flags := .found }),
              (8, { id := 8, shape := .arc ⟨1, ⟨⟨5, 5⟩, 2, 90, -270⟩, 0.5, 0⟩ }),
              (9, { id := 9, shape := .polygon ⟨0, [⟨0, 0⟩, ⟨4, 0⟩, ⟨0, 4⟩], true⟩ }),
              (10, { id := 10, shape := .padstack ⟨⟨1, 1⟩, .rect 2 3, [0, 1], 0, [0]⟩
                     part := some 5, pin := some "A" }),
              (18446744073709551615,
                { id := 0, shape := .rat ⟨⟨0, 0⟩, ⟨1e300, 1⟩, 0, 1, 3, 8, true⟩ })]
          parts := .ofList [(5, ⟨5, "U1"⟩)]
          nextId := 0 }
      netlist := .empty
      changed := true }
  (Board.ofContent content).execute (.list "GND" ⟨"U1", "A", .ofList [("pad", "")]⟩)

theorem ofText?_text_crowdedBoard :
    (∀ x ∈ crowdedBoard.content.store.numbers, x.isFinite) ∧
      (∀ x ∈ crowdedBoard.content.store.numbers, Legible x) ∧
      crowdedBoard.journal ≠ .empty ∧
      Board.ofText? crowdedBoard.text = some (.ofContent crowdedBoard.content) ∧
      Settings.ofText? (Settings.standard : Settings Float).text =
        some (.standard : Settings Float) := by
  have hfinite : ∀ x ∈ crowdedBoard.content.store.numbers, x.isFinite := by decide +kernel
  have hlegible : ∀ x ∈ crowdedBoard.content.store.numbers, Legible x := by decide +kernel
  have hbloat : Legible (Settings.standard : Settings Float).bloat := by decide +kernel
  exact ⟨hfinite, hlegible, by decide +kernel,
    ofText?_text.1 crowdedBoard hfinite fun x hx _ => hlegible x hx,
    ofText?_text.2 .standard (by decide +kernel) fun _ => hbloat⟩

end Ratsnest
