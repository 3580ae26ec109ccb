import Ratsnest.Proofs.Json.Text

/-!
# Values that are read back

`Json.Reads read j x` says that `j` can be written as text and that `read` takes it for `x`.  The
leaves are read back, and records, variants and lists of what is read back.
-/

namespace Ratsnest

namespace Json

universe u

/-- The value `j` has a text, and the reader takes it for `x`. -/
structure Reads {β : Type u} (read : Json → Option β) (j : Json) (x : β) : Prop where
  written : j.Written
  read_eq : read j = some x

/-! ## Leaves -/

theorem Written.ofNat (n : ℕ) : (ofNat n).Written := .number (Nat.pow_pos (by decide))

theorem Written.ofFloat (x : Float) : (ofFloat x).Written := by
  unfold Json.ofFloat
  split
  · exact .number (Numeral.fraction_ofDecimal_lt _ _)
  · exact .null

theorem reads_ofString (s : String) : Reads toString? (ofString s) s :=
  ⟨.ofString s, Quoted.decode?_ofString s⟩

theorem toNat?_ofNat {n bound : ℕ} (h : n < bound) : (ofNat n).toNat? bound = some n := by
  simp [ofNat, toNat?, Numeral.toNat?, Numeral.ofNat, h]

theorem reads_uint32 (n : UInt32) : Reads toUInt32? (ofNat n.toNat) n :=
  ⟨.ofNat _, by simp [toUInt32?, toNat?_ofNat n.toNat_lt_size]⟩

theorem reads_uint64 (n : UInt64) : Reads toUInt64? (ofNat n.toNat) n :=
  ⟨.ofNat _, by simp [toUInt64?, toNat?_ofNat n.toNat_lt_size]⟩

theorem Written.ofOption {β : Type u} {write : β → Json} {o : Option β}
    (h : ∀ x ∈ o, (write x).Written) : (ofOption write o).Written := by
  cases o with
  | none => exact .null
  | some x => exact h x rfl

/-! ## Lists -/

theorem mapM_eq_some_map {β γ : Type u} {f : β → Option γ} {g : β → γ} {xs : List β}
    (h : ∀ x ∈ xs, f x = some (g x)) : xs.mapM f = some (xs.map g) := by
  induction xs with
  | nil => rfl
  | cons x xs ih =>
    rw [List.mapM_cons, h x List.mem_cons_self, ih fun y hy => h y (List.mem_cons_of_mem x hy)]
    rfl

/-- A list is read back item by item. -/
theorem reads_list {β : Type} {read : Json → Option β} {write : β → Json} {xs : List β}
    (h : ∀ x ∈ xs, Reads read (write x) x) : Reads (toList? read) (array (xs.map write)) xs where
  written := .array fun j hj => by
    obtain ⟨x, hx, rfl⟩ := List.mem_map.1 hj
    exact (h x hx).written
  read_eq := by
    have hitems : xs.mapM (read ∘ write) = some (xs.map id) :=
      mapM_eq_some_map fun x hx => (h x hx).read_eq
    rw [toList?, List.mapM_map, hitems, List.map_id]

/-! ## Records -/

/-- Of fields with different names, the one with a name is found. -/
theorem field?_eq_lookup {fs : List (String × Json)} (h : (fs.map (·.1)).Nodup) (name : String) :
    field? name fs = some (List.lookup name fs) := by
  induction fs with
  | nil => rfl
  | cons f fs ih =>
    obtain ⟨k, j⟩ := f
    obtain ⟨hk, hfs⟩ := List.nodup_cons.1 h
    obtain rfl | hne := eq_or_ne k name
    · have hrest : fs.filter (·.1 == k) = [] := List.filter_eq_nil_iff.2 fun f hf hfk =>
        hk (List.mem_map.2 ⟨f, hf, beq_iff_eq.1 hfk⟩)
      simp [field?, hrest]
    · rw [List.lookup_cons, beq_false_of_ne hne.symm, ← ih hfs, field?, field?,
        List.filter_cons_of_neg (by simpa using hne)]

/-- The fields of a record are found under their names. -/
theorem fields?_record {fs : List (String × Json)} (h : (fs.map (·.1)).Nodup)
    (names : List String) :
    fields? names (record fs) = some ⟨names.map fun name => List.lookup name fs, false⟩ := by
  have hnames : names.mapM (field? · fs) = some (names.map fun name => List.lookup name fs) :=
    mapM_eq_some_map fun name _ => field?_eq_lookup h name
  rw [record, fields?, List.mapM_map]
  refine (congrArg (· >>= _) (mapM_eq_some_map (g := id) fun f _ => ?decoded)).trans ?found
  case decoded => exact congrArg (Option.map (·, f.2)) (Quoted.decode?_ofString f.1)
  case found =>
    rw [List.map_id, Option.bind_eq_bind, Option.bind_some, hnames]
    rfl

namespace Fields

variable {β : Type u} {read : Json → Option β} {x : β} {f : Fields} {i : ℕ} {j : Json}

theorem required_of_get? (hget : f.get? i = some j) (h : Reads read j x) :
    f.required i read = some x := by
  rw [required, hget]
  exact h.read_eq

theorem defaulted_of_get? {value : β} (hget : f.get? i = some j) (h : Reads read j x) :
    f.defaulted i value read = some x := by
  rw [defaulted, hget]
  exact h.read_eq

theorem nullable_of_get? {write : β → Json} {o : Option β} (hnull : read .null = none)
    (hget : f.get? i = some (ofOption write o)) (h : ∀ x ∈ o, Reads read (write x) x) :
    f.nullable i read = some o := by
  rw [nullable, hget]
  cases o with
  | none => rfl
  | some x =>
    have hx := (h x rfl).read_eq
    have hwrite : write x ≠ .null := fun heq => by
      rw [heq, hnull] at hx
      cases hx
    simp [ofOption, hx]

end Fields

/-! ## Variants -/

theorem Written.variant (name : String) {j : Json} (h : j.Written) : (variant name j).Written :=
  .record (by simp [h])

theorem variant?_variant (name : String) (j : Json) :
    (variant name j).variant? = some (name, some j) :=
  congrArg (Option.map (·, some j)) (Quoted.decode?_ofString name)

theorem variant?_ofString (name : String) : (ofString name).variant? = some (name, none) :=
  congrArg (Option.map (·, none)) (Quoted.decode?_ofString name)

end Json

end Ratsnest
