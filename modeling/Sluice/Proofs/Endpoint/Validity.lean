import Mathlib
import Sluice.Endpoint

namespace Sluice.Endpoint

variable {a : String} {w : Int} {e : Endpoint}

theorem locate_eq_ok (l : Location a) : locate a = .ok l := by
  cases l
  case mk scheme authority target hl =>
    have ha : ¬a.isEmpty := by
      rw [String.isEmpty_iff]
      rintro rfl
      cases hl
    rw [locate, if_neg ha]
    split
    case h_1 he    => cases he.symm.trans hl
    case h_2 hl'   =>
      cases hl.symm.trans hl'
      rfl
    case h_3 hn hu =>
      cases hu.symm.trans hl
      exact (hn _ _ _ rfl).elim

instance : Decidable (Nonempty (Location a)) :=
  match h : locate a with
  | .ok l    => .isTrue ⟨l⟩
  | .error _ => .isFalse fun ⟨l⟩ => nomatch h.symm.trans (locate_eq_ok l)

-- An endpoint can be made of exactly the addresses that name a scheme and an authority, and of the weights
-- that are positive and fit into 32 bits.
theorem make_isSome : (make a w).toOption.isSome ↔ (0 < w ∧ w < UInt32.size) ∧ Nonempty (Location a) := by
  rw [make]
  split
  case isTrue h => exact ⟨nofun, fun ⟨hw, _⟩ => absurd h hw.left.not_ge⟩
  case isFalse h =>
    split
    case isTrue h' => exact ⟨nofun, fun ⟨hw, _⟩ => absurd h' hw.right.not_ge⟩
    case isFalse h' =>
      cases hl : locate a
      case error => exact ⟨nofun, fun ⟨_, ⟨l⟩⟩ => nomatch hl.symm.trans (locate_eq_ok l)⟩
      case ok l  => exact ⟨fun _ => ⟨⟨not_le.mp h, not_le.mp h'⟩, ⟨l⟩⟩, fun _ => rfl⟩

theorem make_keeps (h : make a w = .ok e) : e.address = a ∧ (e.weight : Int) = w := by
  rw [make] at h
  split at h
  case isTrue => cases h
  case isFalse hw =>
    split at h
    case isTrue => cases h
    case isFalse =>
      cases hl : locate a
      case error => rw [hl] at h; cases h
      case ok =>
        rw [hl] at h
        cases h
        exact ⟨rfl, Int.toNat_of_nonneg (not_le.mp hw).le⟩

theorem make_address (h : make a w = .ok e) : e.address = a := (make_keeps h).left

end Sluice.Endpoint
