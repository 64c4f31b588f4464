import XrLayer.Linear.Quat
import XrLayer.Scalar
/-!
Velocity-adaptive one-pole filters.

A one-pole filter moves its estimate toward each sample by the fraction
`alpha cutoff rate = 1 / (1 + τ/Tₑ)`, with time constant `τ = 1 / (2π·cutoff)` and
sampling period `Tₑ = 1 / rate`. Here the cutoff rises with the measured speed,
`minCutoff + beta·|v|`, so fast motion lags less than slow drift. Positions are filtered
per axis in 64-bit arithmetic; rotations per quaternion component in 32-bit arithmetic,
following whichever of `q` and `-q` is nearer the running estimate.
-/
namespace XrLayer.Smoothing

open Linear

def pi : Float := Float.ofBits 0x400921FB54442D18

/-- The smoothing fraction `1 / (1 + τ/Tₑ)` for a cutoff frequency and a sampling rate. -/
def alpha (cutoff rate : Float) : Float :=
  let tau := 1 / (2 * pi * cutoff)
  let te := 1 / rate
  1 / (1 + tau / te)

/-- The cutoff at rest and how fast it rises with speed. -/
structure Params where
  minCutoff : Float
  beta : Float

/-- The sampling rate filters start with, in hertz. -/
def defaultRate : Float := 90

/-- A scalar filter whose cutoff follows a supplied velocity. -/
structure VelocityFilter where
  params : Params
  rate : Float := defaultRate
  prev : Option Float := none

/-- Filter one sample `x` moving at `v`: the first sample passes unchanged. -/
def VelocityFilter.step (f : VelocityFilter) (x v : Float) : Float × VelocityFilter :=
  let prev := f.prev.getD x
  let cutoff := f.params.minCutoff + f.params.beta * v.abs
  let xHat := prev + alpha cutoff f.rate * (x - prev)
  (xHat, { f with prev := some xHat })

structure PositionFilter where
  x : VelocityFilter
  y : VelocityFilter
  z : VelocityFilter

def PositionFilter.new (params : Params) (rate : Float := defaultRate) : PositionFilter :=
  let axis : VelocityFilter := { params, rate }
  ⟨axis, axis, axis⟩

def PositionFilter.setRate (f : PositionFilter) (rate : Float) : PositionFilter :=
  ⟨{ f.x with rate }, { f.y with rate }, { f.z with rate }⟩

/-- Filter a position moving at `v`, each axis in 64 bits and rounded back to 32. -/
def PositionFilter.step (f : PositionFilter) (p v : Vec3) : Vec3 × PositionFilter :=
  let (x, fx) := f.x.step (Scalar.widen p.x) (Scalar.widen v.x)
  let (y, fy) := f.y.step (Scalar.widen p.y) (Scalar.widen v.y)
  let (z, fz) := f.z.step (Scalar.widen p.z) (Scalar.widen v.z)
  (⟨Scalar.narrow x, Scalar.narrow y, Scalar.narrow z⟩, ⟨fx, fy, fz⟩)

def lowPass (state : Option Float32) (value a : Float32) : Float32 :=
  match state with
  | some s => a * value + (1 - a) * s
  | none => value

/-- A quaternion filter: one low-pass state per component, and the last blend before
normalisation. -/
structure RotationFilter where
  params : Params
  rate : Float := defaultRate
  started : Bool := false
  current : Quat := Quat.identity

def sqrt2 : Float32 := Float32.ofBits 0x3FB504F3

/-- Filter an orientation turning at `ω`. The sample is negated when it lies farther
than √2 from the running estimate, which starts at the identity. -/
def RotationFilter.step (f : RotationFilter) (q : Quat) (omega : Vec3) :
    Quat × RotationFilter :=
  let q := if (f.current.sub q).length > sqrt2 then q.neg else q
  -- the cutoff and the fraction are computed in 64 bits; the blend runs in 32
  let cutoff := f.params.minCutoff + f.params.beta * Scalar.widen omega.length
  let a := Scalar.narrow (alpha cutoff f.rate)
  let state (c : Float32) : Option Float32 := if f.started then some c else none
  let current : Quat :=
    ⟨lowPass (state f.current.x) q.x a, lowPass (state f.current.y) q.y a,
     lowPass (state f.current.z) q.z a, lowPass (state f.current.w) q.w a⟩
  (current.normalize, { f with started := true, current })

/-- The sign test measures distance to the estimate kept before normalisation, against `√2`,
the threshold for unit quaternions. After the identity and a half turn about `x`, the estimate
is a blend of length about 0.91; the sample `q` below lies within `√2` of it, so it is kept,
although `-q` lies nearer. The filter then turns toward `q`: the output's `y` is positive, as
`q`'s, where `-q`'s is negative. -/
theorem far_antipode_followed :
    let f₂ := (({ params := ⟨1.5, 0.2⟩ } : RotationFilter).step Quat.identity Vec3.zero).2.step
      ⟨1, 0, 0, 0⟩ Vec3.zero |>.2
    let q : Quat := ⟨0, 0.99874922, 0, -0.05⟩
    ¬ (f₂.current.sub q).length > sqrt2 ∧
      (f₂.current.sub q.neg).length < (f₂.current.sub q).length ∧
      0 < (f₂.step q Vec3.zero).1.y := by
  decide +kernel

end XrLayer.Smoothing
