import Sluice.Duration
import Sluice.Proofs.Float.Rounding

namespace Sluice

namespace Duration

variable {d : Duration}

theorem billion_spans : Spans 29 29 (1e9 : Float).toModel.unpack := by
  have hu : (1e9 : Float).toModel.unpack = .finite .positive 8388608000000000 (-23) (by decide) := rfl
  rw [hu]
  exact .intro _ _ _ (by decide) (by decide) (by decide) (by decide)

theorem toUInt64_ne_zero {n : Nat} (hn : n ≠ 0) (h : n < UInt64.size) : n.toUInt64 ≠ 0 := by
  intro hz
  have ht := UInt64.toNat_ofNat_of_lt' h
  rw [show UInt64.ofNat n = 0 from hz] at ht
  exact hn ht.symm

theorem subsecNanos_lt (d : Duration) : d.subsecNanos < UInt64.size :=
  (Nat.mod_lt d.nanos (by decide)).trans (by decide)

-- The part of a second, in seconds.
theorem fraction_spans (h : d.subsecNanos ≠ 0) : Spans (-30) 36 (d.subsecNanos.toUInt64.toFloat / 1e9).toModel.unpack :=
  (toFloat_spans (toUInt64_ne_zero h d.subsecNanos_lt)).div_toModel billion_spans (by decide) (by decide)

-- A span of time that is not zero does not become zero as a number of seconds, however short it is. Whole
-- seconds are counted in 64 bits.
theorem toSeconds_spans (hd : d ≠ zero) (h : d.secs < UInt64.size) : Spans (-30) 66 d.toSeconds.toModel.unpack := by
  rw [toSeconds]
  by_cases hs : d.secs = 0
  case pos =>
    have hn : d.subsecNanos ≠ 0 := by
      intro hn
      refine hd (congrArg mk (Nat.eq_zero_of_dvd_of_lt (Nat.dvd_of_mod_eq_zero hn) ?_))
      exact Nat.lt_of_div_eq_zero (by decide) hs
    have h0 : d.secs.toUInt64.toFloat.toModel.unpack = .zero .positive := by rw [hs]; rfl
    exact (Spans.zero_add_toModel h0 (fraction_spans hn) (by decide) (by decide)).mono (by decide) (by decide)
  case neg =>
    have hw := toFloat_spans (toUInt64_ne_zero hs h)
    by_cases hn : d.subsecNanos = 0
    case pos =>
      have h0 : (d.subsecNanos.toUInt64.toFloat / 1e9).toModel.unpack = .zero .positive := by rw [hn]; rfl
      exact (hw.add_zero_toModel h0 (by decide) (by decide)).mono (by decide) (by decide)
    case neg =>
      exact (hw.add_toModel (fraction_spans hn) (by decide) (by decide)).mono (by decide) (by decide)

end Duration

end Sluice
