import XrLayer.Linear.Vec
/-!
Rotation quaternions of 32-bit floats.

A quaternion is stored as `(x, y, z, w)` with `w` the scalar part. Its length and
normalisation are those of the four-lane vector, and `ofAxes` recovers a rotation from
the columns of an orthonormal matrix by the branch on the largest diagonal term.
-/
namespace XrLayer.Linear

/-- A quaternion `x·i + y·j + z·k + w`. -/
structure Quat where
  x : Float32
  y : Float32
  z : Float32
  w : Float32

namespace Quat

def identity : Quat := ⟨0, 0, 0, 1⟩

def toVec4 (q : Quat) : Vec4 := ⟨q.x, q.y, q.z, q.w⟩

def ofVec4 (v : Vec4) : Quat := ⟨v.x, v.y, v.z, v.w⟩

def ofList (xs : List Float32) : Quat := ofVec4 (Vec4.ofList xs)

def toList (q : Quat) : List Float32 := [q.x, q.y, q.z, q.w]

def sub (a b : Quat) : Quat := ofVec4 (a.toVec4.sub b.toVec4)

def neg (q : Quat) : Quat := ⟨-q.x, -q.y, -q.z, -q.w⟩

def length (q : Quat) : Float32 := q.toVec4.length

def normalize (q : Quat) : Quat := ofVec4 q.toVec4.normalize

/-- The rotation whose matrix has the columns `a`, `b`, `c`. The branch picks the
largest of `x², y², z², w²` from the diagonal, so the square root is taken of a
quantity of at least one. -/
def ofAxes (a b c : Vec3) : Quat :=
  let (m00, m01, m02) := (a.x, a.y, a.z)
  let (m10, m11, m12) := (b.x, b.y, b.z)
  let (m20, m21, m22) := (c.x, c.y, c.z)
  if m22 ≤ 0 then
    let dif10 := m11 - m00
    let omm22 := 1 - m22
    if dif10 ≤ 0 then
      let fourXsq := omm22 - dif10
      let inv := 0.5 / fourXsq.sqrt
      ⟨fourXsq * inv, (m01 + m10) * inv, (m02 + m20) * inv, (m12 - m21) * inv⟩
    else
      let fourYsq := omm22 + dif10
      let inv := 0.5 / fourYsq.sqrt
      ⟨(m01 + m10) * inv, fourYsq * inv, (m12 + m21) * inv, (m20 - m02) * inv⟩
  else
    let sum10 := m11 + m00
    let opm22 := 1 + m22
    if sum10 ≤ 0 then
      let fourZsq := opm22 - sum10
      let inv := 0.5 / fourZsq.sqrt
      ⟨(m02 + m20) * inv, (m12 + m21) * inv, fourZsq * inv, (m01 - m10) * inv⟩
    else
      let fourWsq := opm22 + sum10
      let inv := 0.5 / fourWsq.sqrt
      ⟨(m12 - m21) * inv, (m20 - m02) * inv, (m01 - m10) * inv, fourWsq * inv⟩

end Quat

end XrLayer.Linear
