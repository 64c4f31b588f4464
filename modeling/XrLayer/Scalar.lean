import XrLayer.Decimal.Binary
/-!
Conversions of 32-bit floats that the hardware operations do not give directly.

Integers are rounded to the nearest value (ties to even) through the exact rounding of
`Format.roundFraction`; a float goes to a 32-bit integer toward zero, clamped to the
integer range, with NaN going to zero.
-/
namespace XrLayer.Scalar

open XrLayer.Decimal

def single (i : Int) : Float32 :=
  Float32.ofBits (UInt32.ofNat (Format.binary32.roundFraction (i < 0) i.natAbs 1))

def double (i : Int) : Float :=
  Float.ofBits (UInt64.ofNat (Format.binary64.roundFraction (i < 0) i.natAbs 1))

open Float.Model in
/-- An unpacked 32-bit value as a normal 64-bit one: its mantissa, of at most 24 bits, shifted
up to 53 bits with the exponent lowered to match. Zeros, infinities and NaN stay as they are. -/
def widenUnpacked : UnpackedFloat → UnpackedFloat
  | .finite s m e h =>
    .finite s (m <<< (52 - m.log2)) (e - (52 - m.log2 : Nat))
      (by rw [Nat.shiftLeft_eq]; exact Nat.mul_pos h (Nat.two_pow_pos _))
  | u => u

def widen (x : Float32) : Float :=
  .ofModel (Float.Model.pack (widenUnpacked x.toModel.unpack))

open Float.Model in
/-- The 32-bit float nearest to a 64-bit one, ties to even: a finite value is rounded as the
32-bit operations round their exact results, overflowing to an infinity and underflowing through
the subnormals. Zeros, infinities and NaN stay as they are. -/
def narrow (x : Float) : Float32 :=
  .ofModel <| Float32.Model.pack <| match x.toModel.unpack with
    | .finite s m e _ => UnpackedFloat.round Float.Model.Format.binary32 s m e
    | u => u

def int32Min : Int := -2147483648
def int32Max : Int := 2147483647

/-- A 32-bit float toward zero as a 32-bit signed integer: clamped at the ends of the
range, infinities to the nearer end, NaN to zero. -/
def truncInt32 (x : Float32) : Int :=
  match Format.binary32.classify x.toBits.toNat with
  | .nan => 0
  | .infinite neg => if neg then int32Min else int32Max
  | .finite neg b =>
    let t : Int := if neg then -(b.trunc : Int) else b.trunc
    max int32Min (min int32Max t)

/-- A 32-bit unsigned integer read as a signed one: values from `2^31` wrap to negatives. -/
def wrapInt32 (n : Nat) : Int :=
  let n := n % 4294967296
  if n < 2147483648 then n else (n : Int) - 4294967296

/-- π rounded to 32 bits, divided by 180 in 32-bit arithmetic. -/
def radiansPerDegree : Float32 := Float32.ofBits 0x40490FDB / 180

def toRadians (deg : Float32) : Float32 := deg * radiansPerDegree

/-- `1` with the sign of `x`, or NaN for NaN; `-0` gives `-1`. -/
def signum (x : Float32) : Float32 :=
  if x.isNaN then x
  else if x.toBits ≥ 0x80000000 then -1 else 1

def sinCos (a : Float32) : Float32 × Float32 := (a.sin, a.cos)

end XrLayer.Scalar
