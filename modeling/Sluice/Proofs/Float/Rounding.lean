import Mathlib

namespace Sluice

open Float.Model Float.Model.UnpackedFloat

-- A positive double that has all the digits that there is room for, from `2 ^ lo` up to `2 ^ (hi + 1)`.
inductive Spans (lo hi : Int) : UnpackedFloat → Prop
  | intro (m : Nat) (e : Int) (hm : 0 < m) :
    2 ^ 52 ≤ m → m < 2 ^ 53 → lo ≤ e + 52 → e + 52 ≤ hi → Spans lo hi (.finite .positive m e hm)

variable {lo hi lo' hi' e : Int} {m n : Nat} {u v : UnpackedFloat}

theorem Spans.mono (h : Spans lo hi u) (hl : lo' ≤ lo) (hh : hi ≤ hi') : Spans lo' hi' u := by
  cases h
  case intro m e hm h₁ h₂ h₃ h₄ => exact .intro m e hm h₁ h₂ (hl.trans h₃) (h₄.trans hh)

theorem Spans.le (h : Spans lo hi u) : lo ≤ hi := by
  cases h
  case intro h₃ h₄ => exact h₃.trans h₄

theorem shift_mantissa (em : ExtendedMantissa) (n : Nat) : (em >>> n).mantissa = em.mantissa / 2 ^ n := by
  induction n
  case zero => rw [pow_zero, Nat.div_one]; rfl
  case succ n hi =>
    have hs : (em >>> (n + 1)).mantissa = (em >>> n).mantissa / 2 := rfl
    rw [hs, hi, Nat.div_div_eq_div_mul, pow_succ]

theorem ofMantissaAndAccuracy_mantissa (m : Nat) (acc : Accuracy) :
    (ExtendedMantissa.ofMantissaAndAccuracy m acc).mantissa = m := by
  cases acc
  case exact     => rfl
  case inexact o => cases o <;> rfl

theorem roundedMantissa_mem (em : ExtendedMantissa) :
    em.mantissa ≤ em.roundedMantissa ∧ em.roundedMantissa ≤ em.mantissa + 1 := by
  rw [ExtendedMantissa.roundedMantissa]
  cases em.accuracy
  case exact     => exact ⟨le_rfl, Nat.le_succ _⟩
  case inexact o => cases o <;> simp only [Accuracy.roundToNearestEven] <;> omega

-- The exponent with which a number has all the digits that there is room for, unless it is very small.
theorem targetExponent_eq (h : -1022 ≤ m.log2 + e) :
    Format.binary64.targetExponent (totalExponent m e) = m.log2 + e - 52 := by
  simp only [Format.targetExponent, totalExponent, Format.mantissaBits, Format.minExponent]
  omega

theorem shiftToTargetExponent_eq (h : -1022 ≤ m.log2 + e) (hm : 52 ≤ m.log2) (acc : Accuracy) :
    shiftToTargetExponent Format.binary64 m e acc =
      (ExtendedMantissa.ofMantissaAndAccuracy m acc >>> (m.log2 - 52), e + (m.log2 - 52 : Nat)) := by
  have hs : ((m.log2 : Int) + e - 52 - e).toNat = m.log2 - 52 := by omega
  rw [shiftToTargetExponent, targetExponent_eq h, shiftToExponent, hs]

theorem le_log2 (hm : 2 ^ 52 ≤ m) : 52 ≤ m.log2 :=
  (Nat.le_log2 (by omega)).mpr hm

theorem log2_eq (hm : 2 ^ 52 ≤ m) (hm' : m < 2 ^ 53) : m.log2 = 52 :=
  (Nat.log2_eq_iff (by omega)).mpr ⟨hm, hm'⟩

-- The first digits of a number, as many as there is room for.
theorem leading_mem (hm : 2 ^ 52 ≤ m) : 2 ^ 52 ≤ m / 2 ^ (m.log2 - 52) ∧ m / 2 ^ (m.log2 - 52) < 2 ^ 53 := by
  have hl := le_log2 hm
  have ⟨hle, hlt⟩ := (Nat.log2_eq_iff (by omega : m ≠ 0)).mp rfl
  rw [Nat.le_div_iff_mul_le (Nat.two_pow_pos _), Nat.div_lt_iff_lt_mul (Nat.two_pow_pos _), ← pow_add, ← pow_add]
  rw [show 52 + (m.log2 - 52) = m.log2 by omega, show 53 + (m.log2 - 52) = m.log2 + 1 by omega]
  exact ⟨hle, hlt⟩

-- The digits are cut and rounded, and if that makes one digit too many, they are cut again.
theorem roundWithAccuracy_eq {acc : Accuracy} {cut again : ExtendedMantissa × Int}
    (hc : shiftToTargetExponent Format.binary64 m e acc = cut)
    (ha : shiftToTargetExponent Format.binary64 cut.1.roundedMantissa cut.2 .exact = again) (hp : 0 < again.1.mantissa) :
    roundWithAccuracy Format.binary64 .positive m e acc = .finite .positive again.1.mantissa again.2 hp := by
  subst hc ha
  exact dif_neg hp.ne'

-- Of digits for which there is no room, rounding may make a one, but it does not take any digit away.
theorem roundWithAccuracy_spans (hm : 2 ^ 52 ≤ m) (h : -1022 ≤ m.log2 + e) (acc : Accuracy) :
    Spans (m.log2 + e) (m.log2 + e + 1) (roundWithAccuracy Format.binary64 .positive m e acc) := by
  have hl := le_log2 hm
  have ⟨hle, hlt⟩ := leading_mem hm
  let cut := ExtendedMantissa.ofMantissaAndAccuracy m acc >>> (m.log2 - 52)
  have ⟨hr, hr'⟩ : m / 2 ^ (m.log2 - 52) ≤ cut.roundedMantissa ∧ cut.roundedMantissa ≤ m / 2 ^ (m.log2 - 52) + 1 := by
    have := roundedMantissa_mem cut
    rwa [shift_mantissa, ofMantissaAndAccuracy_mantissa] at this
  have hr52 : 2 ^ 52 ≤ cut.roundedMantissa := hle.trans hr
  have hr54 : cut.roundedMantissa.log2 < 54 := (Nat.log2_lt (by omega)).mpr (by omega)
  have hrl := le_log2 hr52
  let again := ExtendedMantissa.ofMantissaAndAccuracy cut.roundedMantissa .exact >>> (cut.roundedMantissa.log2 - 52)
  have ⟨ha, ha'⟩ : 2 ^ 52 ≤ again.mantissa ∧ again.mantissa < 2 ^ 53 := by
    rw [shift_mantissa, ofMantissaAndAccuracy_mantissa]
    exact leading_mem hr52
  have hp : 0 < again.mantissa := by omega
  rw [roundWithAccuracy_eq (shiftToTargetExponent_eq h hl acc) (shiftToTargetExponent_eq (by omega) hrl .exact) hp]
  exact .intro _ _ _ ha ha' (by omega) (by omega)

theorem log2_shiftLeft (hm : 0 < m) (n : Nat) : (m <<< n).log2 = m.log2 + n := by
  have ⟨hle, hlt⟩ := (Nat.log2_eq_iff hm.ne').mp rfl
  rw [Nat.shiftLeft_eq, Nat.log2_eq_iff (Nat.mul_pos hm (Nat.two_pow_pos n)).ne', pow_add, Nat.add_right_comm, pow_add]
  exact ⟨Nat.mul_le_mul_right _ hle, Nat.mul_lt_mul_of_pos_right hlt (Nat.two_pow_pos n)⟩

theorem round_spans (hm : 0 < m) (h : -1022 ≤ m.log2 + e) :
    Spans (m.log2 + e) (m.log2 + e + 1) (round Format.binary64 .positive m e) := by
  have hs : (e - (m.log2 + e - 52)).toNat = 52 - m.log2 := by omega
  have hl := log2_shiftLeft hm (52 - m.log2)
  have hm52 : 2 ^ 52 ≤ m <<< (52 - m.log2) := by
    rw [← Nat.le_log2 (Nat.shiftLeft_pos_iff.mpr hm).ne', hl]
    omega
  have hr := roundWithAccuracy_spans (e := e - (52 - m.log2 : Nat)) hm52 (by omega) .exact
  rw [UnpackedFloat.round, targetExponent_eq h, decreaseExponent, hs]
  exact hr.mono (by omega) (by omega)

theorem normalize_spans {z : Int} (hz : 0 < z) (h : -1022 ≤ z.toNat.log2 + e) :
    Spans (z.toNat.log2 + e) (z.toNat.log2 + e + 1) (normalize Format.binary64 z e .positive) := by
  have hc : compare z 0 = .gt := compare_gt_iff_gt.mpr hz
  rw [UnpackedFloat.normalize, hc]
  exact round_spans (by omega) h

variable {a b c d : Int}

theorem ofUInt64_spans {w : UInt64} (hw : w ≠ 0) : Spans 0 64 (ofUInt64 Format.binary64 w) := by
  have hpos : 0 < w.toNat := Nat.pos_of_ne_zero fun h => hw (UInt64.toNat_inj.mp h)
  have hlog : w.toNat.log2 < 64 := (Nat.log2_lt hpos.ne').mpr w.toNat_lt
  have hs : Spans _ _ (ofUInt64 Format.binary64 w) :=
    normalize_spans (z := w.toNat) (e := 0) (by omega) (by rw [Int.toNat_natCast]; omega)
  rw [Int.toNat_natCast] at hs
  exact hs.mono (by omega) (by omega)

theorem quotient_mem (hm : 2 ^ 52 ≤ m) (hm' : m < 2 ^ 53) (hn : 2 ^ 52 ≤ n) (hn' : n < 2 ^ 53) :
    2 ^ 52 ≤ m <<< 53 / n ∧ m <<< 53 / n < 2 ^ 54 := by
  rw [Nat.shiftLeft_eq, Nat.le_div_iff_mul_le (by omega), Nat.div_lt_iff_lt_mul (by omega)]
  omega

theorem div_spans (hu : Spans a b u) (hv : Spans c d v) (h : -1021 ≤ a - d) :
    Spans (a - d - 1) (b - c + 1) (div Format.binary64 u v) := by
  cases hu
  case intro m e hm0 hm hm' ha hb =>
  cases hv
  case intro n f hn0 hn hn' hc hd =>
    have hml := log2_eq hm hm'
    have hnl := log2_eq hn hn'
    have ht : min (e - f) (Format.binary64.targetExponent (totalExponent m e - totalExponent n f)) = e - f - 53 := by
      simp only [Format.targetExponent, totalExponent, Format.mantissaBits, Format.minExponent, hml, hnl]
      omega
    have hs : (e - f - (e - f - 53)).toNat = 53 := by omega
    have ⟨hq, hq'⟩ := quotient_mem hm hm' hn hn'
    have hl := le_log2 hq
    have hl' : (m <<< 53 / n).log2 < 54 := (Nat.log2_lt (by omega)).mpr hq'
    have hr := roundWithAccuracy_spans (e := e - f - 53) hq (by omega) (accuracyOfFraction (m <<< 53 % n) n)
    have he : div Format.binary64 (.finite .positive m e hm0) (.finite .positive n f hn0) =
        roundWithAccuracy Format.binary64 .positive (m <<< 53 / n) (e - f - 53) (accuracyOfFraction (m <<< 53 % n) n) := by
      simp only [UnpackedFloat.div, divCore, ht, hs]
      rfl
    rw [he]
    exact hr.mono (by omega) (by omega)

theorem product_mem (hm : 2 ^ 52 ≤ m) (hm' : m < 2 ^ 53) (hn : 2 ^ 52 ≤ n) (hn' : n < 2 ^ 53) :
    2 ^ 104 ≤ m * n ∧ m * n < 2 ^ 106 := by
  constructor
  case left  => exact (Nat.pow_add 2 52 52).trans_le (Nat.mul_le_mul hm hn)
  case right => exact (Nat.mul_lt_mul'' hm' hn').trans_eq (Nat.pow_add 2 53 53).symm

theorem mul_spans (hu : Spans a b u) (hv : Spans c d v) (h : -1022 ≤ a + c) :
    Spans (a + c) (b + d + 2) (mul Format.binary64 u v) := by
  cases hu
  case intro m e hm0 hm hm' ha hb =>
  cases hv
  case intro n f hn0 hn hn' hc hd =>
    have ⟨hp, hp'⟩ := product_mem hm hm' hn hn'
    have hl : 104 ≤ (m * n).log2 := (Nat.le_log2 (by omega)).mpr hp
    have hl' : (m * n).log2 < 106 := (Nat.log2_lt (by omega)).mpr hp'
    have hr := roundWithAccuracy_spans (m := m * n) (e := e + f) (by omega) (by omega) .exact
    exact hr.mono (by omega) (by omega)

theorem log2_add_mem (hm : 0 < m) (hn : 0 < n) :
    m.log2 ≤ (m + n).log2 ∧ (m + n).log2 ≤ max m.log2 n.log2 + 1 := by
  have hm' := Nat.lt_log2_self.trans_le <|
    Nat.pow_le_pow_right Nat.two_pos (by omega : m.log2 + 1 ≤ max m.log2 n.log2 + 1)
  have hn' := Nat.lt_log2_self.trans_le <|
    Nat.pow_le_pow_right Nat.two_pos (by omega : n.log2 + 1 ≤ max m.log2 n.log2 + 1)
  constructor
  case left  => exact (Nat.le_log2 (by omega)).mpr ((Nat.log2_self_le hm.ne').trans (Nat.le_add_right m n))
  case right =>
    refine Nat.le_of_lt_succ ((Nat.log2_lt (by omega)).mpr ?_)
    rw [pow_succ]
    omega

theorem add_spans (hu : Spans a b u) (hv : Spans c d v) (h : -1022 ≤ a) :
    Spans a (max b d + 2) (add Format.binary64 u v) := by
  cases hu
  case intro m e hm0 hm hm' ha hb =>
  cases hv
  case intro n f hn0 hn hn' hc hd =>
    let x := m <<< (e - min e f).toNat
    let y := n <<< (f - min e f).toNat
    have hx0 : 0 < x := Nat.shiftLeft_pos_iff.mpr hm0
    have hy0 : 0 < y := Nat.shiftLeft_pos_iff.mpr hn0
    have hx : x.log2 = 52 + (e - min e f).toNat := by rw [log2_shiftLeft hm0, log2_eq hm hm']
    have hy : y.log2 = 52 + (f - min e f).toNat := by rw [log2_shiftLeft hn0, log2_eq hn hn']
    have ⟨hl, hl'⟩ := log2_add_mem hx0 hy0
    have hz : ((x : Int) + y).toNat = x + y := by omega
    have hs := normalize_spans (z := (x : Int) + y) (e := min e f) (by omega) (by rw [hz]; omega)
    rw [hz] at hs
    have he : add Format.binary64 (.finite .positive m e hm0) (.finite .positive n f hn0) =
        normalize Format.binary64 ((x : Int) + y) (min e f) .positive := rfl
    rw [he]
    exact hs.mono (by omega) (by omega)

variable {s : Sign}

theorem Spans.add_zero (hu : Spans a b u) : add Format.binary64 u (.zero s) = u := by
  cases hu; rfl

theorem Spans.zero_add (hu : Spans a b u) : add Format.binary64 (.zero s) u = u := by
  cases hu; rfl

theorem Spans.compare_zero (hu : Spans a b u) : u.compare (.zero s) = some .gt := by
  cases hu; rfl

theorem Spans.isFinite (hu : Spans a b u) : u.isFinite := by
  cases hu; rfl

theorem ofBitVec_unpackSign {f : Format} (s : Sign) (x : BitVec f.exponentBits)
    (y : BitVec f.mantissaBitsWithoutImplicit) : Sign.ofBitVec (unpackSign (packComponents f s x y)) = s := by
  have hs : unpackSign (packComponents f s x y) = s.toBitVec := by
    refine BitVec.eq_of_getLsbD_eq fun i hi => ?_
    obtain rfl : i = 0 := by omega
    simp [unpackSign, packComponents, BitVec.getLsbD_append, BitVec.getElem_append]
  rw [hs]
  cases s <;> rfl

theorem one_append_toNat (hm : 2 ^ 52 ≤ m) (hm' : m < 2 ^ 53) : (1#1 ++ BitVec.ofNat 52 m).toNat = m := by
  have hr : (BitVec.ofNat 52 m).toNat = m - 2 ^ 52 := by rw [BitVec.toNat_ofNat]; omega
  rw [BitVec.toNat_append, ← Nat.shiftLeft_add_eq_or_of_lt (BitVec.ofNat 52 m).isLt, hr]
  simp only [BitVec.toNat_ofNat, Nat.shiftLeft_eq]
  omega

-- A double that has all its digits, and is neither too large nor too small to be one, is stored without loss.
theorem unpack_pack (h : Spans lo hi u) (hl : -1022 ≤ lo) (hh : hi ≤ 1023) : (Float.Model.pack u).unpack = u := by
  cases h
  case intro m e hm0 hm hm' hlo hhi =>
    let b := (e + 1023 + 52).toNat
    have hlog : m.log2 + 1 = 53 := by rw [log2_eq hm hm']
    have hp : UnpackedFloat.pack Format.binary64 (.finite .positive m e hm0) =
        packComponents Format.binary64 .positive (.ofNat 11 b) (.ofNat 52 m) :=
      (if_neg (by omega : ¬2 ^ 11 ≤ b + 1)).trans (if_pos hlog)
    have hb : (BitVec.ofNat 11 b).toNat = b := by rw [BitVec.toNat_ofNat]; omega
    have hne {c : BitVec 11} (hc : c.toNat ≠ b) : BitVec.ofNat 11 b ≠ c := fun he => hc (he ▸ hb)
    have hb₁ : BitVec.ofNat 11 b ≠ -1#11 := hne (show 2047 ≠ b by omega)
    have hb₀ : BitVec.ofNat 11 b ≠ 0#11 := hne (show 0 ≠ b by omega)
    have hu : (Float.Model.pack (.finite .positive m e hm0)).unpack =
        UnpackedFloat.unpack Format.binary64 (UnpackedFloat.pack Format.binary64 (.finite .positive m e hm0)) := rfl
    rw [hu, hp, UnpackedFloat.unpack]
    simp only [unpackMantissa_packComponents, unpackExponent_packComponents, ofBitVec_unpackSign]
    rw [if_neg hb₁, if_neg hb₀]
    simp only [one_append_toNat hm hm', hb]
    congr 1
    show (b : Int) - (1023 + 52) = e
    omega

theorem Spans.stored (h : Spans lo hi u) (hl : -1022 ≤ lo) (hh : hi ≤ 1023) :
    Spans lo hi (Float.Model.pack u).unpack := by
  rwa [unpack_pack h hl hh]

variable {x y : Float}

theorem toFloat_spans {w : UInt64} (hw : w ≠ 0) : Spans 0 64 w.toFloat.toModel.unpack :=
  (ofUInt64_spans hw).stored (by decide) (by decide)

theorem Spans.div_toModel (hx : Spans a b x.toModel.unpack) (hy : Spans c d y.toModel.unpack) (hl : -1021 ≤ a - d)
    (hh : b - c ≤ 1022) : Spans (a - d - 1) (b - c + 1) (x / y).toModel.unpack :=
  (div_spans hx hy hl).stored (by omega) (by omega)

theorem Spans.mul_toModel (hx : Spans a b x.toModel.unpack) (hy : Spans c d y.toModel.unpack) (hl : -1022 ≤ a + c)
    (hh : b + d ≤ 1021) : Spans (a + c) (b + d + 2) (x * y).toModel.unpack :=
  (mul_spans hx hy hl).stored hl (by omega)

theorem Spans.add_toModel (hx : Spans a b x.toModel.unpack) (hy : Spans c d y.toModel.unpack) (hl : -1022 ≤ a)
    (hh : max b d ≤ 1021) : Spans a (max b d + 2) (x + y).toModel.unpack :=
  (add_spans hx hy hl).stored hl (by omega)

theorem Spans.add_zero_toModel (hx : Spans a b x.toModel.unpack) (hy : y.toModel.unpack = .zero s) (hl : -1022 ≤ a)
    (hh : b ≤ 1023) : Spans a b (x + y).toModel.unpack := by
  have hs : Spans a b (add Format.binary64 x.toModel.unpack y.toModel.unpack) := by rwa [hy, hx.add_zero]
  exact hs.stored hl hh

theorem Spans.zero_add_toModel (hx : x.toModel.unpack = .zero s) (hy : Spans a b y.toModel.unpack) (hl : -1022 ≤ a)
    (hh : b ≤ 1023) : Spans a b (x + y).toModel.unpack := by
  have hs : Spans a b (add Format.binary64 x.toModel.unpack y.toModel.unpack) := by rwa [hx, hy.zero_add]
  exact hs.stored hl hh

-- Such a double is more than zero.
theorem Spans.not_le_zero (hx : Spans a b x.toModel.unpack) (hy : y.toModel.unpack = .zero s) : ¬x ≤ y := by
  have hd : x ≤ y ↔ (x.toModel.unpack.compare y.toModel.unpack).any Ordering.isLE = true := decide_eq_true_iff
  rw [hd, hy, hx.compare_zero]
  decide

end Sluice
