/-!
Binary floating-point values as exact numbers.

A finite IEEE value of either width stands for `m · 2^q`. This module decodes the bit
patterns of both widths into that form and rounds an exact positive fraction to the
nearest pattern, ties to an even mantissa. Everything is `Nat` and `Int` arithmetic, so
the rounding rule can be reasoned about without the hardware operations.
-/
namespace XrLayer.Decimal

/-- The layout of an IEEE binary interchange format: stored fraction bits and exponent bits. -/
structure Format where
  fracBits : Nat
  expBits : Nat

def Format.binary64 : Format := ⟨52, 11⟩

def Format.binary32 : Format := ⟨23, 8⟩

def Format.bias (f : Format) : Nat := Nat.pow 2 (f.expBits - 1) - 1

def Format.expMax (f : Format) : Nat := Nat.pow 2 f.expBits - 1

/-- The binary exponent of the least subnormal: its value is `2 ^ qMin`. -/
def Format.qMin (f : Format) : Int := 1 - (f.bias : Int) - f.fracBits

def Format.signBit (f : Format) : Nat := Nat.pow 2 (f.fracBits + f.expBits)

/-- The magnitude `m · 2^q` of a finite value. `narrowBelow` is set for a power of two
above the least normal value: there the gap to the value below is half the gap above. -/
structure Binary where
  m : Nat
  q : Int
  narrowBelow : Bool

inductive Class where
  | finite (negative : Bool) (x : Binary)
  | infinite (negative : Bool)
  | nan

def Format.classify (f : Format) (bits : Nat) : Class :=
  let frac := bits % Nat.pow 2 f.fracBits
  let e := (bits / Nat.pow 2 f.fracBits) % Nat.pow 2 f.expBits
  let neg := (bits / f.signBit) % 2 == 1
  if e == f.expMax then
    if frac == 0 then .infinite neg else .nan
  else if e == 0 then
    .finite neg ⟨frac, f.qMin, false⟩
  else
    .finite neg ⟨Nat.pow 2 f.fracBits + frac, (e : Int) + f.qMin - 1, frac == 0 && e > 1⟩

/-- The integer nearest to `num / den`; of two at equal distance, the even one. -/
def roundHalfEven (num den : Nat) : Nat :=
  let q := num / den
  let r := num % den
  if 2 * r < den then q
  else if 2 * r > den then q + 1
  else if q % 2 == 0 then q else q + 1

def lePow2 (den : Nat) (t : Int) (num : Nat) : Bool :=
  if 0 ≤ t then den * Nat.pow 2 t.toNat ≤ num else den ≤ num * Nat.pow 2 (-t).toNat

/-- `⌊log₂ (num / den)⌋` for positive `num` and `den`. The difference of the two binary
logarithms is the answer or one more than it. -/
def floorLog2 (num den : Nat) : Int :=
  let t : Int := (Nat.log2 num : Int) - Nat.log2 den
  if lePow2 den t num then t else t - 1

def roundScaled (num den : Nat) (e : Int) : Nat :=
  if 0 ≤ e then roundHalfEven num (den * Nat.pow 2 e.toNat)
  else roundHalfEven (num * Nat.pow 2 (-e).toNat) den

/-- The bit pattern of the value nearest to `num / den`, ties to an even mantissa, with
the sign bit set when `negative`. A magnitude past the largest finite value rounds to
infinity, one below half the least subnormal to zero. -/
def Format.roundFraction (f : Format) (negative : Bool) (num den : Nat) : Nat :=
  let sign := if negative then f.signBit else 0
  if num = 0 ∨ den = 0 then sign else
  let e := max (floorLog2 num den - f.fracBits) f.qMin
  let m := roundScaled num den e
  let (m, e) := if m = Nat.pow 2 (f.fracBits + 1) then (Nat.pow 2 f.fracBits, e + 1) else (m, e)
  if m < Nat.pow 2 f.fracBits then sign + m
  else
    let field := e - f.qMin + 1
    if (f.expMax : Int) ≤ field then sign + f.expMax * Nat.pow 2 f.fracBits
    else sign + field.toNat * Nat.pow 2 f.fracBits + (m - Nat.pow 2 f.fracBits)

def Binary.trunc (x : Binary) : Nat :=
  if 0 ≤ x.q then x.m * Nat.pow 2 x.q.toNat else x.m / Nat.pow 2 (-x.q).toNat

end XrLayer.Decimal
