import GossipGate.Scalar.Binary64
import GossipGate.Scalar.Exact
import Mathlib.Algebra.Order.Ring.Rat
import Mathlib.Data.Prod.Lex

namespace GossipGate

/-- A number that equals itself. A NaN does not. -/
def Scalar.IsNumber {α : Type} [Scalar α] (x : α) : Prop := (x == x) = true

/-- Apart from NaN, `<` and `==` compare numbers by their places in a linear order. -/
class OrderedScalar (α : Type) [Scalar α] : Prop where
  exists_place : ∃ (Place : Type) (_ : LinearOrder Place) (place : α → Place), ∀ x y : α,
    Scalar.IsNumber x → Scalar.IsNumber y →
      (x < y ↔ place x < place y) ∧ ((x == y) = true ↔ place x = place y)

theorem orderedScalar_exact (exp : Rat → Rat) : @OrderedScalar Rat (exactScalar exp) := by
  let _ := exactScalar exp
  exact ⟨Rat, inferInstance, id, fun x y _ _ => ⟨Iff.rfl, beq_iff_eq⟩⟩

open Float.Model

/-- The place of an unpacked double: the infinities outermost, finite numbers by sign, exponent and
mantissa. The place of NaN plays no role. -/
def unpackedPlace : UnpackedFloat → Int ×ₗ Int ×ₗ Int
  | .infinity .negative => toLex (-2, toLex (0, 0))
  | .finite .negative mantissa exponent _ => toLex (-1, toLex (-exponent, -mantissa))
  | .zero _ | .notANumber => toLex (0, toLex (0, 0))
  | .finite .positive mantissa exponent _ => toLex (1, toLex (exponent, mantissa))
  | .infinity .positive => toLex (2, toLex (0, 0))

theorem compare_sign_lt : compare UnpackedFloat.Sign.negative .positive = .lt := rfl

theorem compare_sign_self (sign : UnpackedFloat.Sign) : compare sign sign = .eq := by
  cases sign <;> rfl

theorem compare_lt_iff_unpackedPlace {x y : UnpackedFloat} (left : x ≠ .notANumber)
    (right : y ≠ .notANumber) : x.compare y = some .lt ↔ unpackedPlace x < unpackedPlace y := by
  rcases x with (_ | _) | _ | _ | ⟨_ | _, m, e, _⟩ <;>
    rcases y with (_ | _) | _ | _ | ⟨_ | _, n, f, _⟩ <;>
    first
    | exact absurd rfl left
    | exact absurd rfl right
    | dsimp only [UnpackedFloat.compare, unpackedPlace]
      simp [Prod.Lex.toLex_lt_toLex, Ordering.then_eq_lt, Ordering.then_eq_gt, compare_lt_iff_lt,
        compare_gt_iff_gt, compare_sign_lt]

theorem compare_eq_iff_unpackedPlace {x y : UnpackedFloat} (left : x ≠ .notANumber)
    (right : y ≠ .notANumber) : x.compare y = some .eq ↔ unpackedPlace x = unpackedPlace y := by
  rcases x with (_ | _) | _ | _ | ⟨_ | _, m, e, _⟩ <;>
    rcases y with (_ | _) | _ | _ | ⟨_ | _, n, f, _⟩ <;>
    first
    | exact absurd rfl left
    | exact absurd rfl right
    | dsimp only [UnpackedFloat.compare, unpackedPlace]
      simp [Ordering.then_eq_eq, compare_sign_self]

theorem unpack_ne_notANumber {x : Float} (number : Scalar.IsNumber x) :
    x.toModel.unpack ≠ .notANumber := by
  intro absent
  have same : (x.toModel.unpack.compare x.toModel.unpack == some .eq) = true := number
  rw [absent] at same
  cases same

/-- The comparisons of doubles, as the IEEE standard has them. -/
instance : OrderedScalar Float where
  exists_place := by
    refine ⟨Int ×ₗ Int ×ₗ Int, inferInstance, fun x => unpackedPlace x.toModel.unpack, ?_⟩
    intro x y left right
    have x_ne := unpack_ne_notANumber left
    have y_ne := unpack_ne_notANumber right
    have lt_iff : x < y ↔ x.toModel.unpack.compare y.toModel.unpack = some .lt := by
      show (decide ((x.toModel.unpack.compare y.toModel.unpack == some .lt) = true)) = true ↔ _
      simp
    have eq_iff : (x == y) = true ↔ x.toModel.unpack.compare y.toModel.unpack = some .eq := by
      show (x.toModel.unpack.compare y.toModel.unpack == some .eq) = true ↔ _
      simp
    exact ⟨lt_iff.trans (compare_lt_iff_unpackedPlace x_ne y_ne),
      eq_iff.trans (compare_eq_iff_unpackedPlace x_ne y_ne)⟩

end GossipGate
