import XrLayer.Linear.Mat4
/-!
Poses and the legacy 3×4 matrix.

A pose is a position and an orientation quaternion. The legacy API passes a rigid
transform as the top three rows of its 4×4 matrix, row-major, so the shift is the
last element of each row.
-/
namespace XrLayer

open Linear

/-- A position in metres and an orientation. -/
structure Pose where
  position : Vec3 := Vec3.zero
  orientation : Quat := Quat.identity

structure Velocity where
  linear : Vec3 := Vec3.zero
  angular : Vec3 := Vec3.zero

inductive TrackingOrigin where
  | seated
  | standing
  | rawAndUncalibrated
deriving DecidableEq, Repr

/-- The top three rows of a rigid transform. -/
structure Hmd34 where
  r0 : Vec4
  r1 : Vec4
  r2 : Vec4

def Pose.toMat4 (p : Pose) : Mat4 := Mat4.rigid p.orientation p.position

def Hmd34.ofMat4 (m : Mat4) : Hmd34 := ⟨m.row 0, m.row 1, m.row 2⟩

def Hmd34.rows (h : Hmd34) : List Vec4 := [h.r0, h.r1, h.r2]

def Hmd34.toMat4 (h : Hmd34) : Mat4 := Mat4.ofRows h.r0 h.r1 h.r2 ⟨0, 0, 0, 1⟩

end XrLayer
