import Mathlib
import XrLayer.Scalar
import XrLayer.Linear.Vec
/-!
Exact widening of 32-bit floats, and the sign of a length.

Packing keeps a zero or a normal value exactly (`unpack_pack_of_normal`). A finite 32-bit value,
its mantissa shifted up to 53 bits, is a normal 64-bit value, so `widen` keeps it as it is
(`widen_unpack`). Signs follow the operations: a square, a sum of nonnegative values and a square
root are never negative, so neither is a Euclidean length (`nonneg_length`). Multiplying `+0` by
a finite value of positive sign gives `+0`; hence `0 · |widen x| = 0` for every finite `x`
(`zero_mul_abs_widen`) and `0 · widen ‖v‖ = 0` for every finite length (`zero_mul_widen_length`).
-/
namespace XrLayer.Scalar

open Float.Model (Format UnpackedFloat)
open Float.Model.UnpackedFloat

def signOf : UnpackedFloat → Sign
  | .infinity s => s
  | .notANumber => .positive
  | .zero s => s
  | .finite s .. => s

@[simp] theorem signOf_abs (u : UnpackedFloat) : signOf u.abs = .positive := by
  cases u <;> rfl

@[simp] theorem signOf_widenUnpacked (u : UnpackedFloat) : signOf (widenUnpacked u) = signOf u := by
  cases u <;> rfl

@[simp] theorem isFinite_widenUnpacked (u : UnpackedFloat) :
    (widenUnpacked u).isFinite = u.isFinite := by
  cases u <;> rfl

section Packing

variable {spec : Format}

@[simp] theorem unpackSign_packComponents {s : Sign} {e : BitVec spec.exponentBits}
    {m : BitVec spec.mantissaBitsWithoutImplicit} :
    unpackSign (packComponents spec s e m) = s.toBitVec := by
  ext i hi
  obtain rfl : i = 0 := by omega
  simp [unpackSign, packComponents, BitVec.getLsbD_append, BitVec.getElem_append]

@[simp] theorem ofBitVec_toBitVec (s : Sign) : Sign.ofBitVec s.toBitVec = s := by
  cases s <;> rfl

theorem unpackSign_pack (u : UnpackedFloat) : unpackSign (pack spec u) = (signOf u).toBitVec := by
  cases u with
  | infinity s => simp [pack, packedInfinity, signOf]
  | notANumber => simp [pack, packedNaN, signOf]
  | zero s => simp [pack, packedZero, signOf]
  | finite s m e h =>
    simp only [pack]
    split
    · simp [packedInfinity, signOf]
    · split <;> simp [signOf]

theorem signOf_unpack {b : BitVec spec.numBits} (h : unpackSign b = 0#1) :
    signOf (unpack spec b) = .positive := by
  unfold unpack
  simp only [h]
  split
  · split <;> rfl
  · split
    · split <;> rfl
    · rfl

theorem signOf_unpack_pack {u : UnpackedFloat} (h : signOf u = .positive) :
    signOf (unpack spec (pack spec u)) = .positive :=
  signOf_unpack (by rw [unpackSign_pack, h]; rfl)

/-- A zero, or a finite value with a full mantissa whose biased exponent lies strictly between
zero and all ones: the values that `pack` writes and `unpack` reads back unchanged. -/
def Normal (spec : Format) : UnpackedFloat → Prop
  | .zero _ => True
  | .finite _ m e _ =>
    2 ^ spec.mantissaBitsWithoutImplicit ≤ m ∧ m < 2 ^ (spec.mantissaBitsWithoutImplicit + 1) ∧
      0 < e + spec.exponentBias + spec.mantissaBitsWithoutImplicit ∧
      (e + spec.exponentBias + spec.mantissaBitsWithoutImplicit).toNat + 2 ≤ 2 ^ spec.exponentBits
  | _ => False

theorem Normal.isFinite {u : UnpackedFloat} (h : Normal spec u) : u.isFinite = true := by
  cases u with
  | zero s => rfl
  | finite s m e hm => rfl
  | infinity s => exact h.elim
  | notANumber => exact h.elim

theorem Normal.abs {u : UnpackedFloat} (h : Normal spec u) : Normal spec u.abs := by
  cases u with
  | zero s => trivial
  | finite s m e hm => exact h
  | infinity s => exact h.elim
  | notANumber => exact h.elim

theorem zero_ne_neg_one {n : Nat} (hn : 0 < n) : 0#n ≠ -1#n := by
  rw [BitVec.neg_one_eq_allOnes, ne_eq, ← BitVec.toNat_inj, BitVec.toNat_zero,
    BitVec.toNat_allOnes]
  have : 2 ^ 1 ≤ 2 ^ n := Nat.pow_le_pow_right (by decide) hn
  omega

theorem toNat_one_append {n m : Nat} (h1 : 2 ^ n ≤ m) (h2 : m < 2 ^ (n + 1)) :
    (1#1 ++ BitVec.ofNat n m).toNat = m := by
  have hr : m % 2 ^ n < 2 ^ n := Nat.mod_lt _ (Nat.two_pow_pos n)
  have hlt : m - 2 ^ n < 2 ^ n := by rw [Nat.pow_succ] at h2; omega
  rw [BitVec.toNat_append, show (1#1).toNat = 1 from rfl, BitVec.toNat_ofNat,
    ← Nat.shiftLeft_add_eq_or_of_lt hr, Nat.shiftLeft_eq, Nat.one_mul, Nat.mod_eq_sub_mod h1,
    Nat.mod_eq_of_lt hlt]
  omega

theorem unpack_pack_zero (s : Sign) : unpack spec (pack spec (.zero s)) = .zero s := by
  simp [pack, packedZero, unpack, zero_ne_neg_one spec.he]

theorem unpack_pack_finite {s : Sign} {m : Nat} {e : Int} {hm : 0 < m}
    (h : Normal spec (.finite s m e hm)) :
    unpack spec (pack spec (.finite s m e hm)) = .finite s m e hm := by
  obtain ⟨h1, h2, h3, h4⟩ := h
  have hlog : m.log2 = spec.mantissaBitsWithoutImplicit := by
    rw [Nat.log2_eq_iff (by omega)]
    exact ⟨h1, h2⟩
  -- the biased exponent is the field `pack` writes; it is neither zero nor all ones
  generalize hb : (e + spec.exponentBias + spec.mantissaBitsWithoutImplicit).toNat = b at h4
  have hfield : (BitVec.ofNat spec.exponentBits b).toNat = b := by
    rw [BitVec.toNat_ofNat, Nat.mod_eq_of_lt (by omega)]
  have hne1 : BitVec.ofNat spec.exponentBits b ≠ -1#_ := by
    rw [BitVec.neg_one_eq_allOnes, ne_eq, ← BitVec.toNat_inj, hfield, BitVec.toNat_allOnes]
    omega
  have hne0 : BitVec.ofNat spec.exponentBits b ≠ 0#_ := by
    rw [ne_eq, ← BitVec.toNat_inj, hfield, BitVec.toNat_zero]
    omega
  have hexp : ((BitVec.ofNat spec.exponentBits b).toNat : Int) -
      (spec.exponentBias + spec.mantissaBitsWithoutImplicit) = e := by
    rw [hfield]
    omega
  simp only [pack, hlog, hb]
  rw [if_neg (by omega), if_pos (by simp [Format.mantissaBits]; omega)]
  simp only [unpack, unpackMantissa_packComponents, unpackExponent_packComponents,
    unpackSign_packComponents, ofBitVec_toBitVec, if_neg hne1, if_neg hne0,
    toNat_one_append h1 h2, hexp]

/-- Packing keeps a zero or a normal value exactly. -/
theorem unpack_pack_of_normal {u : UnpackedFloat} (h : Normal spec u) :
    unpack spec (pack spec u) = u := by
  cases u with
  | zero s => exact unpack_pack_zero s
  | finite s m e hm => exact unpack_pack_finite h
  | infinity s => exact h.elim
  | notANumber => exact h.elim

/-- A finite value read from a pattern has a mantissa of at most `mb + 1` bits, and an exponent
whose biased value lies strictly between zero and all ones; a subnormal counts with the biased
value one, the exponent it shares with the least normal binade. -/
theorem unpack_finite_bounds (heb : 2 ≤ spec.exponentBits) {b : BitVec spec.numBits} {s : Sign}
    {m : Nat} {e : Int} {hm : 0 < m} (hu : unpack spec b = .finite s m e hm) :
    m < 2 ^ (spec.mantissaBitsWithoutImplicit + 1) ∧
      0 < e + spec.exponentBias + spec.mantissaBitsWithoutImplicit ∧
      (e + spec.exponentBias + spec.mantissaBitsWithoutImplicit).toNat + 2 ≤
        2 ^ spec.exponentBits := by
  have hpow : 2 ^ 2 ≤ 2 ^ spec.exponentBits := Nat.pow_le_pow_right (by decide) heb
  have hmant : (unpackMantissa b).toNat < 2 ^ spec.mantissaBitsWithoutImplicit :=
    (unpackMantissa b).isLt
  have hexp : (unpackExponent b).toNat < 2 ^ spec.exponentBits := (unpackExponent b).isLt
  simp only [unpack] at hu
  split at hu
  · -- all ones: an infinity or NaN
    split at hu <;> cases hu
  · rename_i hne1
    split at hu
    · -- zero exponent field: a zero, or a subnormal
      rename_i h0
      split at hu
      · cases hu
      · cases hu
        rw [h0, BitVec.toNat_zero]
        refine ⟨?_, by omega, by omega⟩
        rw [Nat.pow_succ]
        omega
    · -- a normal value
      rename_i h0
      cases hu
      have hne1' : (unpackExponent b).toNat ≠ 2 ^ spec.exponentBits - 1 := fun h => hne1 (by
        rw [BitVec.neg_one_eq_allOnes, ← BitVec.toNat_inj, BitVec.toNat_allOnes]
        exact h)
      have h0' : (unpackExponent b).toNat ≠ 0 := fun h => h0 (by
        rw [← BitVec.toNat_inj, BitVec.toNat_zero]
        exact h)
      refine ⟨?_, by omega, by omega⟩
      exact (1#1 ++ unpackMantissa b).isLt.trans_eq (by rw [Nat.add_comm])

end Packing

section Widening

/-- A finite 32-bit value, its mantissa shifted up to 53 bits, is a normal 64-bit value: the
64-bit exponent range holds every 32-bit exponent, subnormals included. -/
theorem normal_widenUnpacked {x : Float32} (hx : x.isFinite = true) :
    Normal Format.binary64 (widenUnpacked x.toModel.unpack) := by
  have hfin : x.toModel.unpack.isFinite = true := hx
  cases hu : x.toModel.unpack with
  | zero s => trivial
  | finite s m e hm =>
    obtain ⟨hm2, he1, he2⟩ := unpack_finite_bounds (by decide) hu
    have h32 : (Format.binary32.exponentBias : Int) + Format.binary32.mantissaBitsWithoutImplicit =
        150 := rfl
    have h64 : (Format.binary64.exponentBias : Int) + Format.binary64.mantissaBitsWithoutImplicit =
        1075 := rfl
    have hw32 : 2 ^ Format.binary32.exponentBits = 256 := rfl
    have hw64 : 2 ^ Format.binary64.exponentBits = 2048 := rfl
    have hm24 : m < 2 ^ 24 := hm2
    have hlog : m.log2 < 24 := (Nat.log2_lt (by omega)).2 hm24
    have hlo : 2 ^ m.log2 ≤ m := Nat.log2_self_le (by omega)
    have hhi : m < 2 ^ (m.log2 + 1) := Nat.lt_log2_self
    simp only [add_assoc, h32, hw32] at he1 he2
    -- the shifted mantissa has its leading one at bit 52, and a 32-bit exponent, biased by
    -- 1075 in place of 150, lands strictly inside the 64-bit exponent field
    refine ⟨?_, ?_, ?_, ?_⟩
    · show 2 ^ 52 ≤ m <<< (52 - m.log2)
      rw [Nat.shiftLeft_eq]
      calc 2 ^ 52 = 2 ^ m.log2 * 2 ^ (52 - m.log2) := by rw [← Nat.pow_add]; congr 1; omega
        _ ≤ m * 2 ^ (52 - m.log2) := Nat.mul_le_mul_right _ hlo
    · show m <<< (52 - m.log2) < 2 ^ 53
      rw [Nat.shiftLeft_eq]
      calc m * 2 ^ (52 - m.log2) < 2 ^ (m.log2 + 1) * 2 ^ (52 - m.log2) :=
            Nat.mul_lt_mul_of_pos_right hhi (Nat.two_pow_pos _)
        _ = 2 ^ 53 := by rw [← Nat.pow_add]; congr 1; omega
    · rw [add_assoc, h64]
      omega
    · rw [add_assoc, h64, hw64]
      omega
  | infinity s =>
    rw [hu] at hfin
    cases hfin
  | notANumber =>
    rw [hu] at hfin
    cases hfin

/-- Widening keeps every finite 32-bit value exactly. -/
theorem widen_unpack {x : Float32} (hx : x.isFinite = true) :
    (widen x).toModel.unpack = widenUnpacked x.toModel.unpack :=
  unpack_pack_of_normal (normal_widenUnpacked hx)

end Widening

section Signs

variable {spec : Format}

theorem signOf_roundWithAccuracy (s : Sign) (m : Nat) (e : Int) (a : Accuracy) :
    signOf (roundWithAccuracy spec s m e a) = s := by
  -- after the two shifts only the test of the final mantissa against zero is left
  dsimp only [roundWithAccuracy]
  split <;> rfl

theorem signOf_normalize {n : Int} (hn : 0 ≤ n) (e : Int) :
    signOf (UnpackedFloat.normalize spec n e .positive) = .positive := by
  unfold UnpackedFloat.normalize
  split
  · rename_i hlt
    exact absurd (Int.compare_eq_lt.1 hlt) (by omega)
  · rfl
  · exact signOf_roundWithAccuracy _ _ _ _

theorem signOf_mul_self (u : UnpackedFloat) : signOf (mul spec u u) = .positive := by
  cases u with
  | notANumber => rfl
  | infinity s => cases s <;> rfl
  | zero s => cases s <;> rfl
  | finite s m e hm =>
    show signOf (roundWithAccuracy spec (s * s) (m * m) (e + e) .exact) = _
    rw [signOf_roundWithAccuracy]
    cases s <;> rfl

theorem signOf_add {u v : UnpackedFloat} (hu : signOf u = .positive)
    (hv : signOf v = .positive) : signOf (add spec u v) = .positive := by
  cases u with
  | notANumber => cases v <;> rfl
  | infinity s =>
    cases v with
    | infinity s' =>
      show signOf (if s == s' then .infinity s else .notANumber) = _
      split
      · exact hu
      · rfl
    | notANumber => rfl
    | zero s' => exact hu
    | finite s' m' e' hm' => exact hu
  | zero s =>
    cases v with
    | zero s' =>
      show signOf (if s == s' then .zero s else .zero .positive) = _
      split
      · exact hu
      · rfl
    | notANumber => rfl
    | infinity s' => exact hv
    | finite s' m' e' hm' => exact hv
  | finite s m e hm =>
    cases v with
    | finite s' m' e' hm' =>
      -- both signs are positive, so the aligned mantissas add up to a nonnegative integer
      simp only [signOf] at hu hv
      subst hu hv
      exact signOf_normalize (by simp only [Sign.apply]; positivity) _
    | notANumber => rfl
    | infinity s' => exact hv
    | zero s' => exact hu

/-- A square root is never negative: `√-0` is `-0`, and the root of a negative value is NaN. -/
theorem signOf_sqrt {u : UnpackedFloat} (hu : signOf u = .positive) :
    signOf (sqrt spec u) = .positive := by
  cases u with
  | notANumber => rfl
  | infinity s => cases s <;> rfl
  | zero s => exact hu
  | finite s m e hm =>
    cases s with
    | negative => rfl
    | positive => exact signOf_roundWithAccuracy _ _ _ _

theorem mul_zero_left {u : UnpackedFloat} (hu : u.isFinite = true) (s : Sign) :
    mul spec (.zero s) u = .zero (s * signOf u) := by
  cases u with
  | zero s' => rfl
  | finite s' m e hm => rfl
  | infinity s' => cases hu
  | notANumber => cases hu

end Signs

/-- A 32-bit float that is not negative: its sign bit is clear, or it is NaN. -/
def NonNeg (x : Float32) : Prop := signOf x.toModel.unpack = .positive

theorem nonneg_mul_self (x : Float32) : NonNeg (x * x) :=
  signOf_unpack_pack (signOf_mul_self _)

theorem NonNeg.add {a b : Float32} (ha : NonNeg a) (hb : NonNeg b) : NonNeg (a + b) :=
  signOf_unpack_pack (signOf_add ha hb)

theorem NonNeg.sqrt {a : Float32} (ha : NonNeg a) : NonNeg a.sqrt :=
  signOf_unpack_pack (signOf_sqrt ha)

/-- A Euclidean length is never negative. -/
theorem nonneg_length (v : Linear.Vec3) : NonNeg v.length :=
  (((nonneg_mul_self v.x).add (nonneg_mul_self v.y)).add (nonneg_mul_self v.z)).sqrt

theorem zero_mul_of_signOf {y : Float} (hf : y.toModel.unpack.isFinite = true)
    (hs : signOf y.toModel.unpack = .positive) : (0 : Float) * y = 0 := by
  have h0 : (0 : Float).toModel.unpack = .zero .positive := rfl
  show Float.ofModel (Float.Model.pack
    (mul Format.binary64 (0 : Float).toModel.unpack y.toModel.unpack)) = 0
  rw [h0, mul_zero_left hf, hs]
  decide

/-- With a zero weight a finite 32-bit speed adds nothing: `0 · |widen x|` is `+0`. -/
theorem zero_mul_abs_widen {x : Float32} (hx : x.isFinite = true) :
    (0 : Float) * (widen x).abs = 0 := by
  have hn := normal_widenUnpacked hx
  -- `abs` packs the widened value once more, and a normal value survives that too
  have habs : (widen x).abs.toModel.unpack = (widenUnpacked x.toModel.unpack).abs := by
    show unpack Format.binary64 (pack Format.binary64 (widen x).toModel.unpack.abs) = _
    rw [widen_unpack hx]
    exact unpack_pack_of_normal hn.abs
  apply zero_mul_of_signOf
  · rw [habs]
    exact hn.abs.isFinite
  · rw [habs]
    exact signOf_abs _

/-- With a zero weight a finite length adds nothing: `0 · widen ‖v‖` is `+0`, a length being
never negative. -/
theorem zero_mul_widen_length {v : Linear.Vec3} (hv : v.length.isFinite = true) :
    (0 : Float) * widen v.length = 0 := by
  apply zero_mul_of_signOf
  · rw [widen_unpack hv, isFinite_widenUnpacked]
    exact hv
  · rw [widen_unpack hv, signOf_widenUnpacked]
    exact nonneg_length v

end XrLayer.Scalar
