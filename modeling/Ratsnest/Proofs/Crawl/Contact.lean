import Ratsnest.Proofs.Crawl.Component

/-!
# Contacts

Copper that touches and connections inside parts are contacts; rat lines are not.  A path of joins
is made of contacts up to the first rat line on it (`Wired.contact_or`).
-/

namespace Ratsnest

universe u

variable {α : Type u} [AngularScalar α]

/-- The rules of a crawl that does not follow rat lines. -/
def JoinRules.withoutRats (r : JoinRules α) : JoinRules α := { r with followRats := false }

/-- Whether contacts lead from one object to another, directly or through others. -/
def Contact (c : Content α) (r : JoinRules α) : ObjectId → ObjectId → Prop :=
  Wired c r.withoutRats

/-- Whether a rat line stands under an id or ends on it. -/
def AtRat (c : Content α) (x : ObjectId) : Prop :=
  (∃ o, c.store.get? x = some o ∧ o.isRat) ∨
    ∃ o ∈ c.store.toList, ∃ l, o.shape = .rat l ∧ (l.anchor1 = x ∨ l.anchor2 = x)

variable {c : Content α} {r : JoinRules α} {x y : ObjectId}

/-- A join is a contact, or a rat line is where it begins. -/
theorem contact_or_atRat_of_adjacent (h : Adjacent c r c.store x y) :
    Adjacent c r.withoutRats c.store x y ∨ AtRat c x := by
  obtain ⟨k, h⟩ := h
  cases h with
  | copper ho hrat h => exact .inl ⟨_, .copper ho hrat ⟨h.ne, h.boxes, h.touches⟩⟩
  | internal ho hrat h => exact .inl ⟨_, .internal ho hrat h⟩
  | toRat _ _ _ hp hl hx => exact .inr (.inr ⟨_, hp, _, hl, hx⟩)
  | @toAnchor o l _ ho hl _ _ =>
    refine .inr (.inl ⟨o, ho, ?_⟩)
    rw [BoardObject.isRat, hl]
    rfl

/-- Contacts are joins. -/
theorem adjacent_of_withoutRats (h : Adjacent c r.withoutRats c.store x y) :
    Adjacent c r c.store x y := by
  obtain ⟨k, h⟩ := h
  cases h with
  | copper ho hrat h => exact ⟨_, .copper ho hrat ⟨h.ne, h.boxes, h.touches⟩⟩
  | internal ho hrat h => exact ⟨_, .internal ho hrat h⟩
  | toRat _ _ hr => exact absurd hr Bool.false_ne_true
  | toAnchor _ _ hr => exact absurd hr Bool.false_ne_true

theorem Contact.wired (h : Contact c r x y) : Wired c r x y := by
  induction h with
  | refl => exact .refl
  | tail _ hyz ih => exact ih.tail (adjacent_of_withoutRats hyz)

/-- A path of joins is one of contacts, unless contacts lead to a rat line on it. -/
theorem Wired.contact_or (h : Wired c r x y) :
    Contact c r x y ∨ ∃ z, Contact c r x z ∧ AtRat c z ∧ Wired c r z y := by
  induction h with
  | refl => exact .inl .refl
  | tail _ hyz ih =>
    rcases ih with hxy | ⟨w, hxw, hw, hwy⟩
    · rcases contact_or_atRat_of_adjacent hyz with hcontact | hy
      · exact .inl (hxy.tail hcontact)
      · exact .inr ⟨_, hxy, hy, .single hyz⟩
    · exact .inr ⟨w, hxw, hw, hwy.tail hyz⟩

/-- A crawl that leaves nothing out discovers what joins lead to, if it is there.  What joins lead
through is there anyway. -/
theorem mem_crawl_of_wired (h : Wired c r x y) (hx : c.store.contains x)
    (hy : c.store.contains y) :
    y ∈ objectsOf ((ConnectionIndex.ofContent c).crawl r c.store [] x) := by
  rw [ConnectionIndex.mem_crawl_iff hx List.not_mem_nil]
  induction h with
  | refl => exact .seed
  | tail _ hyz ih =>
    obtain ⟨o, ho⟩ := exists_of_adjacent hyz
    exact .step (ih (Store.contains_of_get? ho)) hyz hy List.not_mem_nil

/-- On a regular board a crawl that does not follow rat lines discovers what contacts lead to. -/
theorem Regular.contact_iff (hc : Regular c r.withoutRats) (hx : IsNode c x) :
    Contact c r x y ↔
      y ∈ objectsOf ((ConnectionIndex.ofContent c).crawl r.withoutRats c.store [] x) :=
  (hc.mem_crawl_iff (fun _ h => absurd h List.not_mem_nil) hx List.not_mem_nil).symm

end Ratsnest
