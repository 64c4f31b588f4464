import XrLayer.Linear.Quat
import XrLayer.Scalar
/-!
4×4 matrices of 32-bit floats, stored by columns.

A rigid transform keeps its rotation in the first three columns and its shift in the
last. The product, inverse and determinant are evaluated lane-wise in a fixed
order: the product sums the four scaled columns left to right; the inverse builds the
cofactors from the 2×2 minors of the last two columns and scales them by the reciprocal
of the determinant taken along the first column.
-/
namespace XrLayer.Linear

/-- A matrix by its four columns. -/
structure Mat4 where
  c0 : Vec4
  c1 : Vec4
  c2 : Vec4
  c3 : Vec4

namespace Mat4

def identity : Mat4 := ⟨⟨1, 0, 0, 0⟩, ⟨0, 1, 0, 0⟩, ⟨0, 0, 1, 0⟩, ⟨0, 0, 0, 1⟩⟩

def col (m : Mat4) : Nat → Vec4
  | 0 => m.c0
  | 1 => m.c1
  | 2 => m.c2
  | _ => m.c3

/-- Row `r`: lane `r` of each column. -/
def row (m : Mat4) (r : Nat) : Vec4 :=
  ⟨m.c0.get r, m.c1.get r, m.c2.get r, m.c3.get r⟩

def rows (m : Mat4) : List Vec4 := [m.row 0, m.row 1, m.row 2, m.row 3]

def ofRows (r0 r1 r2 r3 : Vec4) : Mat4 :=
  ⟨⟨r0.x, r1.x, r2.x, r3.x⟩, ⟨r0.y, r1.y, r2.y, r3.y⟩,
   ⟨r0.z, r1.z, r2.z, r3.z⟩, ⟨r0.w, r1.w, r2.w, r3.w⟩⟩

/-- The image of a vector: the columns scaled by its lanes, summed left to right. -/
def mulVec (m : Mat4) (v : Vec4) : Vec4 :=
  (((m.c0.scale v.x).add (m.c1.scale v.y)).add (m.c2.scale v.z)).add (m.c3.scale v.w)

def mul (a b : Mat4) : Mat4 :=
  ⟨a.mulVec b.c0, a.mulVec b.c1, a.mulVec b.c2, a.mulVec b.c3⟩

instance : Mul Mat4 := ⟨mul⟩

/-- The determinant, expanded along the first column after the minors of the last two
columns; only its sign is used by the decomposition. -/
def determinant (m : Mat4) : Float32 :=
  let y := m.c1
  let z := m.c2
  let w := m.c3
  let sube0 := z.z * w.w - z.w * w.z
  let sube1 := z.y * w.w - z.w * w.y
  let sube2 := z.y * w.z - z.z * w.y
  let sube3 := z.x * w.w - z.w * w.x
  let subf0 := z.x * w.z - z.z * w.x
  let subf1 := z.x * w.y - z.y * w.x
  let d0 := (y.y * sube0 - y.z * sube1) + y.w * sube2
  let d1 := (y.x * sube0 - y.z * sube3) + y.w * subf0
  let d2 := (y.x * sube1 - y.y * sube3) + y.w * subf1
  let d3 := (y.x * sube2 - y.y * subf0) + y.z * subf1
  Vec4.dot m.c0 ⟨d0 * 1, d1 * -1, d2 * 1, d3 * -1⟩

/-- The inverse. The cofactor columns come from six vectors of 2×2 minors of the last
two columns; the determinant is the first column dotted with the first lanes of the
cofactors, and every cofactor is scaled by its reciprocal. A singular matrix gives
infinities or NaN, as the arithmetic does. -/
def inverse (m : Mat4) : Mat4 :=
  let x := m.c0
  let y := m.c1
  let z := m.c2
  let w := m.c3
  let fac0 : Vec4 :=
    let p := z.z * w.w - w.z * z.w
    ⟨p, p, y.z * w.w - w.z * y.w, y.z * z.w - z.z * y.w⟩
  let fac1 : Vec4 :=
    let p := z.y * w.w - w.y * z.w
    ⟨p, p, y.y * w.w - w.y * y.w, y.y * z.w - z.y * y.w⟩
  let fac2 : Vec4 :=
    let p := z.y * w.z - w.y * z.z
    ⟨p, p, y.y * w.z - w.y * y.z, y.y * z.z - z.y * y.z⟩
  let fac3 : Vec4 :=
    let p := z.x * w.w - w.x * z.w
    ⟨p, p, y.x * w.w - w.x * y.w, y.x * z.w - z.x * y.w⟩
  let fac4 : Vec4 :=
    let p := z.x * w.z - w.x * z.z
    ⟨p, p, y.x * w.z - w.x * y.z, y.x * z.z - z.x * y.z⟩
  let fac5 : Vec4 :=
    let p := z.x * w.y - w.x * z.y
    ⟨p, p, y.x * w.y - w.x * y.y, y.x * z.y - z.x * y.y⟩
  let vec0 : Vec4 := ⟨y.x, x.x, x.x, x.x⟩
  let vec1 : Vec4 := ⟨y.y, x.y, x.y, x.y⟩
  let vec2 : Vec4 := ⟨y.z, x.z, x.z, x.z⟩
  let vec3 : Vec4 := ⟨y.w, x.w, x.w, x.w⟩
  let signA : Vec4 := ⟨-1, 1, -1, 1⟩
  let signB : Vec4 := ⟨1, -1, 1, -1⟩
  let inv0 := signB.mul (((vec1.mul fac0).sub (vec2.mul fac1)).add (vec3.mul fac2))
  let inv1 := signA.mul (((vec0.mul fac0).sub (vec2.mul fac3)).add (vec3.mul fac4))
  let inv2 := signB.mul (((vec0.mul fac1).sub (vec1.mul fac3)).add (vec3.mul fac5))
  let inv3 := signA.mul (((vec0.mul fac2).sub (vec1.mul fac4)).add (vec2.mul fac5))
  let det := Vec4.dot x ⟨inv0.x, inv1.x, inv2.x, inv3.x⟩
  let rcp := 1 / det
  ⟨inv0.scale rcp, inv1.scale rcp, inv2.scale rcp, inv3.scale rcp⟩

def ofAxisAngle (axis : Vec3) (angle : Float32) : Mat4 :=
  let (sin, cos) := Scalar.sinCos angle
  let axisSin := axis.scale sin
  let axisSq := axis.mul axis
  let omc := 1 - cos
  let xyomc := axis.x * axis.y * omc
  let xzomc := axis.x * axis.z * omc
  let yzomc := axis.y * axis.z * omc
  ⟨⟨axisSq.x * omc + cos, xyomc + axisSin.z, xzomc - axisSin.y, 0⟩,
   ⟨xyomc - axisSin.z, axisSq.y * omc + cos, yzomc + axisSin.x, 0⟩,
   ⟨xzomc + axisSin.y, yzomc - axisSin.x, axisSq.z * omc + cos, 0⟩,
   ⟨0, 0, 0, 1⟩⟩

/-- The rigid transform that rotates by `q` (taken as given, not normalised) and then
shifts by `t`. -/
def rigid (q : Quat) (t : Vec3) : Mat4 :=
  let x2 := q.x + q.x
  let y2 := q.y + q.y
  let z2 := q.z + q.z
  let xx := q.x * x2
  let xy := q.x * y2
  let xz := q.x * z2
  let yy := q.y * y2
  let yz := q.y * z2
  let zz := q.z * z2
  let wx := q.w * x2
  let wy := q.w * y2
  let wz := q.w * z2
  ⟨⟨1 - (yy + zz), xy + wz, xz - wy, 0⟩,
   ⟨xy - wz, 1 - (xx + zz), yz + wx, 0⟩,
   ⟨xz + wy, yz - wx, 1 - (xx + yy), 0⟩,
   t.extend 1⟩

/-- Scale, rotation and shift of an affine matrix. The scale is the length of each
of the first three columns, the first one signed by the determinant; the rotation is read
from the columns divided by their scales. -/
def decompose (m : Mat4) : Vec3 × Quat × Vec3 :=
  let det := m.determinant
  let scale : Vec3 := ⟨m.c0.length * Scalar.signum det, m.c1.length, m.c2.length⟩
  let inv := scale.recip
  let rot := Quat.ofAxes (m.c0.scale inv.x).xyz (m.c1.scale inv.y).xyz (m.c2.scale inv.z).xyz
  (scale, rot, m.c3.xyz)

end Mat4

end XrLayer.Linear
