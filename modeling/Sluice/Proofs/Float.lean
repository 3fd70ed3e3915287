import Mathlib

namespace Sluice

open Float.Model

-- Two numbers can be compared, and the other way round they compare the other way round.
theorem exists_compare {x y : UnpackedFloat} (hx : x.isFinite) (hy : y.isFinite) :
    ∃ o, x.compare y = some o ∧ y.compare x = some o.swap := by
  cases x
  case notANumber => cases hx
  case infinity   => cases hx
  case zero s =>
    cases y
    case notANumber     => cases hy
    case infinity       => cases hy
    case zero           => exact ⟨_, rfl, rfl⟩
    case finite t _ _ _ => cases t <;> exact ⟨_, rfl, rfl⟩
  case finite s m e hm =>
    cases y
    case notANumber => cases hy
    case infinity   => cases hy
    case zero       => cases s <;> exact ⟨_, rfl, rfl⟩
    case finite t n f hn =>
      have hswap : (compare f e).then (compare n m) = ((compare e f).then (compare m n)).swap := by
        rw [Ordering.swap_then, ← Std.OrientedOrd.eq_swap, ← Std.OrientedOrd.eq_swap]
      cases s <;> cases t
      case negative.negative => exact ⟨_, rfl, hswap ▸ rfl⟩
      case positive.positive => exact ⟨_, rfl, hswap ▸ rfl⟩
      case negative.positive => exact ⟨_, rfl, rfl⟩
      case positive.negative => exact ⟨_, rfl, rfl⟩

-- Doubles that are numbers are in order. Others are neither less than a double nor at least as great.
theorem not_lt_iff_le {x y : Float} (hx : x.isFinite) (hy : y.isFinite) : ¬x < y ↔ y ≤ x := by
  have ⟨o, hxy, hyx⟩ := exists_compare hx hy
  have hlt : x < y ↔ o = .lt := by
    have hd : x < y ↔ (x.toModel.unpack.compare y.toModel.unpack == some .lt) = true := decide_eq_true_iff
    rw [hd, hxy, beq_iff_eq, Option.some.injEq]
  have hle : y ≤ x ↔ o.swap.isLE := by
    have hd : y ≤ x ↔ (y.toModel.unpack.compare x.toModel.unpack).any Ordering.isLE = true := decide_eq_true_iff
    rw [hd, hyx]
    rfl
  rw [hlt, hle]
  cases o <;> decide

theorem unpack_pack_zero (s : UnpackedFloat.Sign) : (Float.Model.pack (.zero s)).unpack = .zero s := by
  cases s <;> rfl

-- A zero times a number is zero, of either sign.
theorem zero_mul_of_isFinite {x y : Float} {s : UnpackedFloat.Sign} (hx : x.toModel.unpack = .zero s)
    (hy : y.isFinite) : ∃ t, (x * y).toModel.unpack = .zero t := by
  have hu : (x * y).toModel.unpack = (Float.Model.pack (.mul .binary64 x.toModel.unpack y.toModel.unpack)).unpack := rfl
  have hf : y.isFinite = y.toModel.unpack.isFinite := rfl
  rw [hf] at hy
  rw [hu, hx]
  cases h : y.toModel.unpack <;> rw [h] at hy
  case notANumber => cases hy
  case infinity   => cases hy
  case zero       => exact ⟨_, unpack_pack_zero _⟩
  case finite     => exact ⟨_, unpack_pack_zero _⟩

-- A zero times what is no number is no number either, and in particular it is not zero.
theorem isFinite_zero_mul {x y : Float} {s : UnpackedFloat.Sign} (hx : x.toModel.unpack = .zero s)
    (hy : y.isFinite = false) : (x * y).isFinite = false := by
  have hu : (x * y).isFinite =
      (Float.Model.pack (.mul .binary64 x.toModel.unpack y.toModel.unpack)).unpack.isFinite := rfl
  have hf : y.isFinite = y.toModel.unpack.isFinite := rfl
  have hn : (Float.Model.pack .notANumber).unpack.isFinite = false := rfl
  rw [hf] at hy
  rw [hu, hx]
  cases h : y.toModel.unpack <;> rw [h] at hy
  case notANumber => exact hn
  case infinity   => exact hn
  case zero       => cases hy
  case finite     => cases hy

end Sluice
