import Mathlib
import XrLayer.Compositor.Layer
/-!
The whole texture with and without bounds.

Without bounds a layer shows the whole texture, its size read as a signed 32-bit integer. With
the bounds `(0, 0)`–`(1, 1)` the size goes through a 32-bit float first: the extent is
`(1 - 0) · size` and the origin `0 · size`, truncated back to an integer. The two agree exactly
when the float holds the size exactly, that is when the size's binary digits below its leading
24 are zero (`ExactSingle`); every size up to `2 ^ 24` is one. So for such sizes below `2 ^ 31`
both give the same layer (`viewport_none_eq_default_bounds`), while `2 ^ 24 + 1` already comes
back one pixel short (`viewport_default_bounds_rounds`).

The proof follows one positive integer `n` through the float model. It is rounded to the pattern
with exponent field `log₂ n + 127` and significand `significand n` (`roundFraction_exact`); that
pattern unpacks to the normal float `significand n · 2 ^ (log₂ n - 23)` and packs back to itself
(`unpack_normal`, `pack_normal`). Multiplying by `1` rounds a product that is already exact
(`roundWithAccuracy_normal`), multiplying by `0` gives `+0`, and truncation reads the value back.
-/
namespace XrLayer.Scalar

open XrLayer.Decimal

/-- The 24-bit significand of a positive integer: the integer shifted until its leading digit is
bit 23. -/
def significand (n : Nat) : Nat :=
  if n.log2 ≤ 23 then n * 2 ^ (23 - n.log2) else n / 2 ^ (n.log2 - 23)

/-- A 32-bit float holds `n` exactly: the binary digits of `n` below its leading 24 are zero. -/
def ExactSingle (n : Nat) : Prop := n % 2 ^ (n.log2 - 23) = 0

instance (n : Nat) : Decidable (ExactSingle n) := inferInstanceAs (Decidable (_ = _))

theorem exactSingle_of_le {n : Nat} (h : n ≤ 2 ^ 24) : ExactSingle n := by
  rcases Nat.eq_zero_or_pos n with rfl | hn
  · rfl
  rcases Nat.lt_or_ge n (2 ^ 24) with hlt | heq
  · have hL : n.log2 < 24 := (Nat.log2_lt (by omega)).2 hlt
    simp [ExactSingle, show n.log2 - 23 = 0 by omega, Nat.mod_one]
  · rw [show n = 2 ^ 24 by omega]
    decide

section Rounding

theorem floorLog2_one {n : Nat} (hn : n ≠ 0) : floorLog2 n 1 = n.log2 := by
  have h1 : Nat.log2 1 = 0 := by rw [Nat.log2_def]; rfl
  have hle : 2 ^ n.log2 ≤ n := Nat.log2_self_le hn
  simp [floorLog2, lePow2, h1, hle]

theorem roundHalfEven_of_dvd {num den : Nat} (hden : 0 < den) (h : num % den = 0) :
    roundHalfEven num den = num / den := by
  simp [roundHalfEven, h, hden]

theorem significand_bounds {n : Nat} (hn : n ≠ 0) :
    2 ^ 23 ≤ significand n ∧ significand n < 2 ^ 24 := by
  have h1 := Nat.log2_self_le hn
  have h2 : n < 2 ^ (n.log2 + 1) := Nat.lt_log2_self
  unfold significand
  split
  · -- shifted left: both bounds are those of `n` scaled by the same power
    have e1 : 2 ^ 23 = 2 ^ n.log2 * 2 ^ (23 - n.log2) := by
      rw [← Nat.pow_add]; congr 1; omega
    have e2 : 2 ^ 24 = 2 ^ (n.log2 + 1) * 2 ^ (23 - n.log2) := by
      rw [← Nat.pow_add]; congr 1; omega
    constructor
    · rw [e1]; exact Nat.mul_le_mul_right _ h1
    · rw [e2]; exact Nat.mul_lt_mul_of_pos_right h2 (by positivity)
  · have e1 : 2 ^ n.log2 = 2 ^ 23 * 2 ^ (n.log2 - 23) := by
      rw [← Nat.pow_add]; congr 1; omega
    have e2 : 2 ^ (n.log2 + 1) = 2 ^ 24 * 2 ^ (n.log2 - 23) := by
      rw [← Nat.pow_add]; congr 1; omega
    constructor
    · rw [Nat.le_div_iff_mul_le (by positivity), ← e1]; exact h1
    · rw [Nat.div_lt_iff_lt_mul (by positivity), ← e2]; exact h2

theorem roundScaled_exact {n : Nat} (hx : ExactSingle n) :
    roundScaled n 1 ((n.log2 : Int) - 23) = significand n := by
  unfold roundScaled significand
  by_cases he : 0 ≤ (n.log2 : Int) - 23
  · have hpow : 1 * Nat.pow 2 ((n.log2 : Int) - 23).toNat = 2 ^ (n.log2 - 23) := by
      rw [Nat.one_mul, Nat.pow_eq]; congr 1; omega
    rw [if_pos he, hpow, roundHalfEven_of_dvd (by positivity) hx]
    split
    · have h0 : n.log2 - 23 = 0 := by omega
      have h0' : 23 - n.log2 = 0 := by omega
      simp [h0, h0']
    · rfl
  · have hpow : Nat.pow 2 (-((n.log2 : Int) - 23)).toNat = 2 ^ (23 - n.log2) := by
      rw [Nat.pow_eq]; congr 1; omega
    rw [if_neg he, hpow, roundHalfEven_of_dvd Nat.one_pos (Nat.mod_one _), Nat.div_one,
      if_pos (by omega)]

/-- A positive integer that a 32-bit float holds exactly is rounded to the normal pattern with
exponent field `log₂ n + 127` and stored fraction `significand n - 2 ^ 23`. -/
theorem roundFraction_exact {n : Nat} (hn : n ≠ 0) (hL : n.log2 < 128) (hx : ExactSingle n) :
    Format.binary32.roundFraction false n 1 =
      2 ^ 23 * (n.log2 + 127) + (significand n - 2 ^ 23) := by
  have hb := significand_bounds hn
  have hm := roundScaled_exact hx
  have hmax : max (floorLog2 n 1 - ((23 : Nat) : Int)) (-149) = (n.log2 : Int) - 23 := by
    rw [floorLog2_one hn]
    omega
  have hf : Format.binary32.fracBits = 23 := rfl
  have hq : Format.binary32.qMin = -149 := rfl
  have hmx : Format.binary32.expMax = 255 := rfl
  have hne : significand n ≠ 2 ^ (23 + 1) := by omega
  have hge : ¬ significand n < 2 ^ 23 := by omega
  have hfield : ((n.log2 : Int) - 23 - -149 + 1).toNat = n.log2 + 127 := by omega
  have hfin : ¬ ((255 : Nat) : Int) ≤ (n.log2 : Int) - 23 - -149 + 1 := by omega
  simp only [Format.roundFraction, hf, hq, hmx, hn, or_false, one_ne_zero, if_false,
    Bool.false_eq_true, zero_add, Nat.pow_eq]
  simp only [hmax, hm, hne, hge, hfield, hfin, if_false, Nat.mul_comm _ (2 ^ 23)]

theorem significand_scaled {n : Nat} (hx : ExactSingle n) :
    (if (0 : Int) ≤ (n.log2 : Int) - 23 then significand n * 2 ^ ((n.log2 : Int) - 23).toNat
      else significand n / 2 ^ (-((n.log2 : Int) - 23)).toNat) = n := by
  unfold significand
  by_cases he : (0 : Int) ≤ (n.log2 : Int) - 23
  · rw [if_pos he, show ((n.log2 : Int) - 23).toNat = n.log2 - 23 by omega]
    split
    · simp [show n.log2 - 23 = 0 by omega, show 23 - n.log2 = 0 by omega]
    · exact Nat.div_mul_cancel (Nat.dvd_of_mod_eq_zero hx)
  · rw [if_neg he, show (-((n.log2 : Int) - 23)).toNat = 23 - n.log2 by omega,
      if_pos (by omega)]
    exact Nat.mul_div_cancel _ (by positivity)

end Rounding

section Model

open Float.Model UnpackedFloat

theorem shiftRight_exact (k M : Nat) :
    (⟨2 ^ k * M, false, false⟩ : ExtendedMantissa) >>> k = ⟨M, false, false⟩ := by
  induction k generalizing M with
  | zero => simp; rfl
  | succ k ih =>
    show Nat.repeat ExtendedMantissa.shiftRightOne (k + 1) _ = _
    rw [Nat.repeat, show 2 ^ (k + 1) * M = 2 ^ k * (2 * M) by ring]
    have h := ih (2 * M)
    change Nat.repeat ExtendedMantissa.shiftRightOne k _ = _ at h
    rw [h]
    simp [ExtendedMantissa.shiftRightOne]

theorem log2_normal {k M : Nat} (h1 : 2 ^ 23 ≤ M) (h2 : M < 2 ^ 24) :
    (2 ^ k * M).log2 = k + 23 := by
  rw [Nat.log2_eq_iff (Nat.mul_ne_zero (by positivity) (by omega))]
  constructor
  · rw [Nat.pow_add]; exact Nat.mul_le_mul_left _ h1
  · rw [show k + 23 + 1 = k + 24 by omega, Nat.pow_add]
    exact Nat.mul_lt_mul_of_pos_left h2 (by positivity)

theorem targetExponent_normal {k M : Nat} {E : Int} (h1 : 2 ^ 23 ≤ M) (h2 : M < 2 ^ 24)
    (hE : -149 ≤ E) :
    Format.binary32.targetExponent (totalExponent (2 ^ k * M) (E - k)) = E := by
  simp only [Format.targetExponent, totalExponent, log2_normal h1 h2, Format.mantissaBits,
    Format.minExponent]
  norm_num
  omega

theorem roundWithAccuracy_normal (s : Sign) (k M : Nat) (E : Int) (h1 : 2 ^ 23 ≤ M)
    (h2 : M < 2 ^ 24) (hE : -149 ≤ E) :
    roundWithAccuracy Format.binary32 s (2 ^ k * M) (E - k) .exact =
      .finite s M E (by omega) := by
  have t1 := targetExponent_normal (k := k) h1 h2 hE
  have t2 := targetExponent_normal (k := 0) h1 h2 hE
  simp only [pow_zero, one_mul, Nat.cast_zero, sub_zero] at t2
  simp only [roundWithAccuracy, shiftToTargetExponent, shiftToExponent, t1,
    ExtendedMantissa.ofMantissaAndAccuracy]
  -- the first shift drops the `k` zero bits, so nothing is rounded and the second shift is empty
  have hk : (E - (E - k)).toNat = k := by omega
  have hE' : E - ↑k + ↑k = E := by omega
  simp only [hk, shiftRight_exact, ExtendedMantissa.roundedMantissa, ExtendedMantissa.accuracy,
    Accuracy.roundToNearestEven, hE', t2]
  have h0 : (⟨M, false, false⟩ : ExtendedMantissa) >>> (0 : Nat) = ⟨M, false, false⟩ := rfl
  simp only [sub_self, Int.toNat_zero, h0, Nat.cast_zero, add_zero]
  exact dif_neg (by omega)

/-- A positive normal pattern, exponent field `F` and stored fraction `r`, unpacks to
`(2 ^ 23 + r) · 2 ^ (F - 150)`. -/
theorem unpack_normal {F r : Nat} (hF1 : 1 ≤ F) (hF2 : F ≤ 254) (hr : r < 2 ^ 23) :
    UnpackedFloat.unpack Format.binary32 (BitVec.ofNat 32 (2 ^ 23 * F + r)) =
      .finite .positive (2 ^ 23 + r) ((F : Int) - 150) (by omega) := by
  -- read the fraction, exponent and sign fields off the pattern, each by its value
  have hb : (BitVec.ofNat 32 (2 ^ 23 * F + r)).toNat = 2 ^ 23 * F + r := by
    simp only [BitVec.toNat_ofNat]
    omega
  have hm : @unpackMantissa Format.binary32 (BitVec.ofNat 32 (2 ^ 23 * F + r)) =
      BitVec.ofNat 23 r := by
    apply BitVec.eq_of_toNat_eq
    simp only [unpackMantissa, BitVec.toNat_cast, BitVec.extractLsb_toNat, hb,
      BitVec.toNat_ofNat, Nat.shiftRight_zero]
    omega
  have he : @unpackExponent Format.binary32 (BitVec.ofNat 32 (2 ^ 23 * F + r)) =
      BitVec.ofNat 8 F := by
    apply BitVec.eq_of_toNat_eq
    simp only [unpackExponent, BitVec.toNat_cast, BitVec.extractLsb_toNat, hb,
      BitVec.toNat_ofNat, Nat.shiftRight_eq_div_pow]
    omega
  have hs : @unpackSign Format.binary32 (BitVec.ofNat 32 (2 ^ 23 * F + r)) = 0#1 := by
    apply BitVec.eq_of_toNat_eq
    simp only [unpackSign, BitVec.toNat_cast, BitVec.extractLsb_toNat, hb,
      BitVec.toNat_ofNat, Nat.shiftRight_eq_div_pow]
    omega
  -- the exponent field is neither all ones nor zero, so the pattern is normal
  have hne1 : BitVec.ofNat 8 F ≠ -1#8 := by
    intro h
    have := congrArg BitVec.toNat h
    rw [show (-1#8).toNat = 255 from rfl, BitVec.toNat_ofNat] at this
    omega
  have hne0 : BitVec.ofNat 8 F ≠ 0#8 := by
    intro h
    have := congrArg BitVec.toNat h
    simp only [BitVec.toNat_ofNat] at this
    omega
  have hsign : Sign.ofBitVec 0#1 = .positive := rfl
  have hmant : (1#1 ++ BitVec.ofNat 23 r).toNat = 2 ^ 23 + r := by
    simp only [BitVec.toNat_append, BitVec.toNat_ofNat, Nat.mod_eq_of_lt hr]
    rw [← Nat.shiftLeft_add_eq_or_of_lt hr]
    rfl
  simp only [UnpackedFloat.unpack, hm, he, hs, if_neg hne1, if_neg hne0, hsign, hmant]
  congr 1
  rw [BitVec.toNat_ofNat, Nat.mod_eq_of_lt (by omega)]
  simp only [Format.exponentBias]
  omega

/-- A positive normal value packs to the pattern with exponent field `E + 150`. -/
theorem pack_normal {M : Nat} {E : Int} (h1 : 2 ^ 23 ≤ M) (h2 : M < 2 ^ 24) (hE1 : -149 ≤ E)
    (hE2 : E ≤ 104) (hpos : 0 < M) :
    UnpackedFloat.pack Format.binary32 (.finite .positive M E hpos) =
      BitVec.ofNat 32 (2 ^ 23 * (E + 150).toNat + (M - 2 ^ 23)) := by
  have hlog : M.log2 = 23 := by simpa using log2_normal (k := 0) h1 h2
  have hbias : (E + (Format.binary32.exponentBias : Int) + ((23 : Nat) : Int)).toNat =
      (E + 150).toNat := by
    simp only [Format.exponentBias]
    omega
  have hinf : ¬ 2 ^ 8 ≤ (E + 150).toNat + 1 := by omega
  have hbits : 23 + 1 = Format.binary32.mantissaBits := rfl
  simp only [UnpackedFloat.pack, hlog, hbias, if_neg hinf, if_pos hbits]
  apply BitVec.eq_of_toNat_eq
  simp only [packComponents, BitVec.toNat_append, BitVec.toNat_ofNat, Sign.toBitVec]
  generalize (E + 150).toNat = F at hinf ⊢
  have hF : F < 2 ^ 8 := by omega
  have hr : M % 2 ^ 23 < 2 ^ 23 := Nat.mod_lt _ (by positivity)
  rw [Nat.mod_eq_of_lt hF, Nat.zero_mod, Nat.zero_shiftLeft, Nat.zero_or,
    ← Nat.shiftLeft_add_eq_or_of_lt hr, Nat.shiftLeft_eq]
  -- the right side's width is `32` spelled as the format's, so its value is read by the lemma
  have hw : (BitVec.ofNat 32 (2 ^ 23 * F + (M - 2 ^ 23)) : BitVec Format.binary32.numBits).toNat =
      (2 ^ 23 * F + (M - 2 ^ 23)) % 2 ^ 32 := BitVec.toNat_ofNat _ _
  rw [hw, Nat.mul_comm F]
  omega

theorem ofBits_normal {F r : Nat} (hF1 : 1 ≤ F) (hF2 : F ≤ 254) (hr : r < 2 ^ 23) :
    (Float32.ofBits (UInt32.ofNat (2 ^ 23 * F + r))).toModel =
        Float32.Model.pack (.finite .positive (2 ^ 23 + r) ((F : Int) - 150) (by omega)) ∧
      (Float32.ofBits (UInt32.ofNat (2 ^ 23 * F + r))).toModel.unpack =
        .finite .positive (2 ^ 23 + r) ((F : Int) - 150) (by omega) ∧
      (Float32.ofBits (UInt32.ofNat (2 ^ 23 * F + r))).toBits = UInt32.ofNat (2 ^ 23 * F + r) := by
  -- the pattern unpacks to the normal value, and packing that value writes the pattern back
  have hu := unpack_normal hF1 hF2 hr
  have hp : UnpackedFloat.pack Format.binary32
      (.finite .positive (2 ^ 23 + r) ((F : Int) - 150) (by omega)) =
      BitVec.ofNat 32 (2 ^ 23 * F + r) := by
    rw [pack_normal (by omega) (by omega) (by omega) (by omega)]
    have hb : 2 ^ 23 * ((F : Int) - 150 + 150).toNat + (2 ^ 23 + r - 2 ^ 23) = 2 ^ 23 * F + r := by
      omega
    rw [hb]
  have hm : (Float32.ofBits (UInt32.ofNat (2 ^ 23 * F + r))).toModel =
      Float32.Model.pack (.finite .positive (2 ^ 23 + r) ((F : Int) - 150) (by omega)) := by
    show Float32.Model.pack
      (UnpackedFloat.unpack Format.binary32 (UInt32.ofNat (2 ^ 23 * F + r)).toBitVec) = _
    rw [UInt32.toBitVec_ofNat', hu]
  refine ⟨hm, ?_, ?_⟩
  · rw [hm]
    show UnpackedFloat.unpack Format.binary32 (UInt32.ofBitVec (UnpackedFloat.pack Format.binary32
      (.finite .positive (2 ^ 23 + r) ((F : Int) - 150) (by omega)))).toBitVec = _
    rw [hp, UInt32.toBitVec_ofBitVec, hu]
  · show (Float32.ofBits (UInt32.ofNat (2 ^ 23 * F + r))).toModel.toBits = _
    rw [hm]
    show UInt32.ofBitVec (UnpackedFloat.pack Format.binary32
      (.finite .positive (2 ^ 23 + r) ((F : Int) - 150) (by omega))) = _
    rw [hp]
    rfl

theorem one_mul_normal {F r : Nat} (hF1 : 1 ≤ F) (hF2 : F ≤ 254) (hr : r < 2 ^ 23) :
    (1 : Float32) * Float32.ofBits (UInt32.ofNat (2 ^ 23 * F + r)) =
      Float32.ofBits (UInt32.ofNat (2 ^ 23 * F + r)) := by
  have hone : (1 : Float32) = Float32.ofBits (UInt32.ofNat (2 ^ 23 * 127 + 0)) := by decide
  obtain ⟨-, h1u, -⟩ :=
    ofBits_normal (F := 127) (r := 0) (by norm_num) (by norm_num) (by norm_num)
  obtain ⟨hxm, hxu, -⟩ := ofBits_normal hF1 hF2 hr
  rw [hone]
  show Float32.ofModel (Float32.Model.pack (UnpackedFloat.mul Float.Model.Format.binary32
    (Float32.ofBits (UInt32.ofNat (2 ^ 23 * 127 + 0))).toModel.unpack
    (Float32.ofBits (UInt32.ofNat (2 ^ 23 * F + r))).toModel.unpack)) = _
  rw [h1u, hxu]
  -- the product of the two mantissas is the value's own mantissa with 23 more zero bits
  show Float32.ofModel (Float32.Model.pack (roundWithAccuracy Float.Model.Format.binary32
    (Sign.positive * Sign.positive) ((2 ^ 23 + 0) * (2 ^ 23 + r))
    (((127 : Nat) : Int) - 150 + ((F : Int) - 150)) .exact)) = _
  have hs : Sign.positive * Sign.positive = Sign.positive := rfl
  have hmul : ((2 : Nat) ^ 23 + 0) * (2 ^ 23 + r) = 2 ^ 23 * (2 ^ 23 + r) := by ring
  have hexp : ((127 : Nat) : Int) - 150 + ((F : Int) - 150) =
      ((F : Int) - 150) - ((23 : Nat) : Int) := by
    omega
  rw [hs, hmul, hexp,
    roundWithAccuracy_normal .positive 23 (2 ^ 23 + r) ((F : Int) - 150) (by omega) (by omega)
      (by omega)]
  show _ = Float32.ofModel (Float32.ofBits (UInt32.ofNat (2 ^ 23 * F + r))).toModel
  rw [hxm]

theorem zero_mul_normal {F r : Nat} (hF1 : 1 ≤ F) (hF2 : F ≤ 254) (hr : r < 2 ^ 23) :
    (0 : Float32) * Float32.ofBits (UInt32.ofNat (2 ^ 23 * F + r)) = 0 := by
  obtain ⟨-, hxu, -⟩ := ofBits_normal hF1 hF2 hr
  have hz : (0 : Float32).toModel.unpack = .zero .positive := rfl
  show Float32.ofModel (Float32.Model.pack (UnpackedFloat.mul Float.Model.Format.binary32
    (0 : Float32).toModel.unpack
    (Float32.ofBits (UInt32.ofNat (2 ^ 23 * F + r))).toModel.unpack)) = _
  rw [hz, hxu]
  show Float32.ofModel (Float32.Model.pack (.zero (Sign.positive * Sign.positive))) = 0
  decide

end Model

/-- A positive normal pattern is read as the finite value `(2 ^ 23 + r) · 2 ^ (F - 150)`. -/
theorem classify_normal {F r : Nat} (hF1 : 1 ≤ F) (hF2 : F ≤ 254) (hr : r < 2 ^ 23) :
    Decimal.Format.binary32.classify (2 ^ 23 * F + r) =
      .finite false ⟨2 ^ 23 + r, (F : Int) - 150, r == 0 && decide (F > 1)⟩ := by
  have hfrac : (2 ^ 23 * F + r) % Nat.pow 2 23 = r := by rw [Nat.pow_eq]; omega
  have hexp : (2 ^ 23 * F + r) / Nat.pow 2 23 % Nat.pow 2 8 = F := by
    rw [Nat.pow_eq, Nat.pow_eq]; omega
  have hsign : (2 ^ 23 * F + r) / Decimal.Format.binary32.signBit % 2 = 0 := by
    show (2 ^ 23 * F + r) / Nat.pow 2 (23 + 8) % 2 = 0
    rw [Nat.pow_eq]
    omega
  have hmax : Decimal.Format.binary32.expMax = 255 := rfl
  have hq : Decimal.Format.binary32.qMin = -149 := rfl
  have hf : Decimal.Format.binary32.fracBits = 23 := rfl
  have he : Decimal.Format.binary32.expBits = 8 := rfl
  have h255 : (F == 255) = false := by simp only [beq_eq_false_iff_ne]; omega
  have h0 : (F == 0) = false := by simp only [beq_eq_false_iff_ne]; omega
  simp only [Decimal.Format.classify, hf, he, hfrac, hexp, hsign, hmax, hq, h255, h0,
    Bool.false_eq_true, if_false, Nat.pow_eq]
  congr 2
  omega

section Single

variable {n : Nat}

/-- A positive integer below `2 ^ 31` that a float holds exactly is the normal float with exponent
field `log₂ n + 127` and significand `significand n`. -/
theorem single_eq_normal (hn : n ≠ 0) (hlt : n < 2 ^ 31) (hx : ExactSingle n) :
    single n =
      Float32.ofBits (UInt32.ofNat (2 ^ 23 * (n.log2 + 127) + (significand n - 2 ^ 23))) := by
  have hL : n.log2 < 31 := (Nat.log2_lt hn).2 hlt
  have hneg : decide ((n : Int) < 0) = false := by simp
  rw [single, hneg, Int.natAbs_natCast, roundFraction_exact hn (by omega) hx]

theorem single_fields (hn : n ≠ 0) (hlt : n < 2 ^ 31) :
    1 ≤ n.log2 + 127 ∧ n.log2 + 127 ≤ 254 ∧ significand n - 2 ^ 23 < 2 ^ 23 := by
  have hL : n.log2 < 31 := (Nat.log2_lt hn).2 hlt
  have hb := significand_bounds hn
  omega

theorem one_mul_single (hlt : n < 2 ^ 31) (hx : ExactSingle n) :
    (1 : Float32) * single n = single n := by
  rcases Nat.eq_zero_or_pos n with rfl | hn
  · decide
  obtain ⟨h1, h2, h3⟩ := single_fields (by omega) hlt
  rw [single_eq_normal (by omega) hlt hx]
  exact one_mul_normal h1 h2 h3

theorem zero_mul_single (hlt : n < 2 ^ 31) (hx : ExactSingle n) :
    (0 : Float32) * single n = 0 := by
  rcases Nat.eq_zero_or_pos n with rfl | hn
  · decide
  obtain ⟨h1, h2, h3⟩ := single_fields (by omega) hlt
  rw [single_eq_normal (by omega) hlt hx]
  exact zero_mul_normal h1 h2 h3

/-- Truncating the float of an integer it holds exactly gives the integer back. -/
theorem truncInt32_single (hlt : n < 2 ^ 31) (hx : ExactSingle n) :
    truncInt32 (single n) = n := by
  rcases Nat.eq_zero_or_pos n with rfl | hn
  · decide
  have hb := significand_bounds (n := n) (by omega)
  obtain ⟨h1, h2, h3⟩ := single_fields (by omega) hlt
  obtain ⟨-, -, hbits⟩ := ofBits_normal h1 h2 h3
  have hnat : (UInt32.ofNat (2 ^ 23 * (n.log2 + 127) + (significand n - 2 ^ 23))).toNat =
      2 ^ 23 * (n.log2 + 127) + (significand n - 2 ^ 23) := by
    rw [UInt32.toNat_ofNat']
    omega
  have hq : ((n.log2 + 127 : Nat) : Int) - 150 = (n.log2 : Int) - 23 := by omega
  have hm : 2 ^ 23 + (significand n - 2 ^ 23) = significand n := by omega
  -- the float is the normal one with significand `significand n`; truncation scales it back
  rw [single_eq_normal (by omega) hlt hx, truncInt32, hbits, hnat,
    classify_normal h1 h2 h3]
  simp only [Bool.false_eq_true, if_false, hq, hm, Binary.trunc, Nat.pow_eq]
  rw [significand_scaled hx]
  simp only [int32Min, int32Max]
  omega

end Single

theorem wrapInt32_of_lt {n : Nat} (h : n < 2 ^ 31) : wrapInt32 n = n := by
  simp only [wrapInt32]
  rw [if_pos (by omega)]
  omega

end XrLayer.Scalar

namespace XrLayer.Compositor

open XrLayer.Scalar

/-- On the bounds `(0, 0)`–`(1, 1)` the viewport is the size through a 32-bit float, truncated:
the origin `0 · size` and the extent `(1 - 0) · size`. -/
theorem viewport_default_bounds (w h : Nat) :
    viewport (some {}) w h =
      (⟨truncInt32 (0 * single w), truncInt32 (0 * single h), truncInt32 ((1 - 0) * single w),
        truncInt32 ((1 - 0) * single h)⟩, false) := rfl

/-- A layer without bounds and one with the bounds `(0, 0)`–`(1, 1)` show the same rectangle with
the same flip flag, for every texture size below `2 ^ 31` that a 32-bit float holds exactly
(every size up to `2 ^ 24` among them). -/
theorem viewport_none_eq_default_bounds {w h : Nat} (hw : w < 2 ^ 31) (hh : h < 2 ^ 31)
    (ew : ExactSingle w) (eh : ExactSingle h) :
    viewport none w h = viewport (some {}) w h := by
  have h10 : (1 : Float32) - 0 = 1 := by decide
  have ht0 : truncInt32 0 = 0 := by decide
  rw [viewport_default_bounds, h10, one_mul_single hw ew, one_mul_single hh eh,
    zero_mul_single hw ew, zero_mul_single hh eh, truncInt32_single hw ew, truncInt32_single hh eh,
    ht0]
  simp only [viewport, wrapInt32_of_lt hw, wrapInt32_of_lt hh]

theorem viewport_bounds_agree_at_2_25 :
    ExactSingle 33554432 ∧ viewport none 33554432 1080 = viewport (some {}) 33554432 1080 :=
  ⟨by decide, viewport_none_eq_default_bounds (by norm_num) (by norm_num) (by decide) (by decide)⟩

/-- `2 ^ 24 + 1` is the least size a 32-bit float does not hold: with bounds it is rounded to
`2 ^ 24`, without bounds it is kept. -/
theorem viewport_default_bounds_rounds :
    viewport none 16777217 1 ≠ viewport (some {}) 16777217 1 := by
  decide

end XrLayer.Compositor
