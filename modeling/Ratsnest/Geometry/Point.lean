import Ratsnest.Scalar

/-!
# Points

Points of the board plane, which are also its vectors.
-/

namespace Ratsnest

universe u

/-- A point, or a vector, of the plane. -/
structure Point (α : Type u) where
  x : α
  y : α
  deriving DecidableEq, Repr

namespace Point

variable {α : Type u} [Scalar α]

instance : BEq (Point α) := ⟨fun p q => p.x == q.x && p.y == q.y⟩

instance : Add (Point α) := ⟨fun p q => ⟨p.x + q.x, p.y + q.y⟩⟩

instance : Sub (Point α) := ⟨fun p q => ⟨p.x - q.x, p.y - q.y⟩⟩

/-- The vector stretched by the factor `k`. -/
def scale (p : Point α) (k : α) : Point α := ⟨p.x * k, p.y * k⟩

/-- The point moved by `dx` and `dy`. -/
def translate (p : Point α) (dx dy : α) : Point α := ⟨p.x + dx, p.y + dy⟩

/-- The scalar product. -/
def dot (p q : Point α) : α := p.x * q.x + p.y * q.y

/-- The cross product: twice the signed area that `p` and `q` span with the origin. -/
def cross (p q : Point α) : α := p.x * q.y - p.y * q.x

/-- The squared distance, which is what comparisons use. -/
def distance2 (p q : Point α) : α :=
  let dx := p.x - q.x
  let dy := p.y - q.y
  dx * dx + dy * dy

end Point

namespace Point

variable {α : Type u} [AngularScalar α]

/-- The distance. -/
def distance (p q : Point α) : α := AngularScalar.sqrt (p.distance2 q)

/-- The length of a vector. -/
def length (p : Point α) : α := AngularScalar.sqrt (p.dot p)

/-- The direction of a vector as an angle in degrees. -/
def angle (p : Point α) : α := AngularScalar.atan2 p.y p.x

end Point

end Ratsnest
